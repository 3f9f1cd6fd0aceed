import MegaEvm.BlockLimits
import MegaEvm.Library.Run
import Mathlib.Algebra.BigOperators.Group.List.Basic

/-!
# The block executor

Transactions are run against the block's database and their outcomes kept;
an outcome is committed later, in any order, more than once or never. A commit
checks the limits again, counts what the transaction used and pushes a receipt
with the gas of the block so far.
-/

set_option autoImplicit false

namespace MegaEvm

structure BlockTx (T : Type) where
  txHash : ℕ
  gasLimit : UInt64
  encode2718Len : UInt64
  estimatedDaSize : UInt64
  isDeposit : Bool
  signer : ℕ
  txEnv : T

structure MegaTransactionOutcome (S L : Type) where
  success : Bool
  gasUsed : UInt64
  logs : List L
  state : S
  dataSize : UInt64
  kvUpdates : UInt64
  computeGasUsed : UInt64
  stateGrowthUsed : UInt64

structure BlockMegaTransactionOutcome (T S L : Type) where
  tx : BlockTx T
  txSize : UInt64
  daSize : UInt64
  /-- The nonce of the depositor's account before a deposit. -/
  depositor : Option UInt64
  inner : MegaTransactionOutcome S L

inductive BlockExecutionError (E : Type) where
  | validation (error : BlockValidationError)
  | evm (error : E) (hash : ℕ)
  | other (error : E)

/-- The EVM over the block's database. Running a transaction commits nothing,
but it may fill the caches of the database. -/
structure BlockEvm (W T S L E : Type) where
  loadCacheAccount : W → ℕ → W × Except E UInt64
  executeTransaction : W → BlockTx T → W × Except E (MegaTransactionOutcome S L)
  commit : W → S → W

structure ReceiptBuilderCtx (W T S L : Type) where
  tx : BlockTx T
  success : Bool
  gasUsed : UInt64
  logs : List L
  cumulativeGasUsed : UInt64
  evm : W
  state : S

structure OpDepositReceipt (L : Type) where
  status : Bool
  cumulativeGasUsed : UInt64
  logs : List L
  depositReceiptVersion : Option ℕ
  depositNonce : Option UInt64

/-- A receipt builder records the cumulative gas it is given. It leaves the
receipt of a deposit to the executor. -/
structure OpReceiptBuilder (W T S L R : Type) where
  buildReceipt : ReceiptBuilderCtx W T S L → Option R
  buildDepositReceipt : OpDepositReceipt L → R
  cumulativeGasUsed : R → UInt64
  buildReceipt_gas : ∀ ctx r, buildReceipt ctx = some r →
    cumulativeGasUsed r = ctx.cumulativeGasUsed
  buildDepositReceipt_gas : ∀ d, cumulativeGasUsed (buildDepositReceipt d) = d.cumulativeGasUsed

structure MegaBlockExecutor (W S R : Type) where
  evm : W
  blockLimiter : BlockLimiter
  receipts : List R
  /-- What the system caller was told, by the index of the transaction. -/
  onState : List (ℕ × S)

section
variable {W T S L E R : Type}

namespace BlockMegaTransactionOutcome

def request (o : BlockMegaTransactionOutcome T S L) : BlockTxRequest where
  txHash := o.tx.txHash
  gasLimit := o.tx.gasLimit
  txSize := o.txSize
  daSize := o.daSize
  isDeposit := o.tx.isDeposit

def usage (o : BlockMegaTransactionOutcome T S L) : BlockTxUsage where
  gasUsed := o.inner.gasUsed
  txSize := o.txSize
  daSize := o.daSize
  txData := o.inner.dataSize
  kvUpdates := o.inner.kvUpdates
  computeGasUsed := o.inner.computeGasUsed
  stateGrowthUsed := o.inner.stateGrowthUsed
  isDeposit := o.tx.isDeposit

end BlockMegaTransactionOutcome

def BlockTx.request (tx : BlockTx T) : BlockTxRequest where
  txHash := tx.txHash
  gasLimit := tx.gasLimit
  txSize := tx.encode2718Len
  daSize := tx.estimatedDaSize
  isDeposit := tx.isDeposit

def BlockLimiter.postExecutionCheck (l : BlockLimiter) (o : BlockMegaTransactionOutcome T S L) :
    BlockLimiter :=
  l.postExecutionUpdateRaw o.usage

namespace MegaBlockExecutor

variable (evm : BlockEvm W T S L E) (builder : OpReceiptBuilder W T S L R)

def loadDepositor (w : W) (tx : BlockTx T) : W × Except E (Option UInt64) :=
  if tx.isDeposit then
    let (w, account) := evm.loadCacheAccount w tx.signer
    (w, account.map some)
  else (w, .ok none)

def runTransaction (x : MegaBlockExecutor W S R) (tx : BlockTx T) :
    MegaBlockExecutor W S R ×
      Except (BlockExecutionError E) (BlockMegaTransactionOutcome T S L) :=
  match x.blockLimiter.preExecutionCheck tx.request with
  | .error e => (x, .error (.validation e))
  | .ok () =>
    match loadDepositor evm x.evm tx with
    | (w, .error e) => ({ x with evm := w }, .error (.other e))
    | (w, .ok depositor) =>
      match evm.executeTransaction w tx with
      | (w, .error e) => ({ x with evm := w }, .error (.evm e tx.txHash))
      | (w, .ok inner) =>
        ({ x with evm := w },
          .ok { tx, txSize := tx.encode2718Len, daSize := tx.estimatedDaSize, depositor, inner })

def receipt (x : MegaBlockExecutor W S R) (blockGasUsed : UInt64)
    (o : BlockMegaTransactionOutcome T S L) : R :=
  match builder.buildReceipt
      { tx := o.tx, success := o.inner.success, gasUsed := o.inner.gasUsed, logs := o.inner.logs,
        cumulativeGasUsed := blockGasUsed, evm := x.evm, state := o.inner.state } with
  | some r => r
  | none =>
    builder.buildDepositReceipt
      { status := o.inner.success
        cumulativeGasUsed := blockGasUsed
        logs := o.inner.logs
        depositReceiptVersion := o.depositor.map fun _ => 1
        depositNonce := o.depositor }

def commitTransactionOutcome (x : MegaBlockExecutor W S R)
    (o : BlockMegaTransactionOutcome T S L) :
    MegaBlockExecutor W S R × Except (BlockExecutionError E) UInt64 :=
  match x.blockLimiter.preExecutionCheck o.request with
  | .error e => (x, .error (.validation e))
  | .ok () =>
    let blockLimiter := x.blockLimiter.postExecutionCheck o
    ({ evm := evm.commit x.evm o.inner.state
       blockLimiter
       receipts := x.receipts ++ [x.receipt builder blockLimiter.blockGasUsed o]
       onState := x.onState ++ [(x.receipts.length, o.inner.state)] },
      .ok o.inner.gasUsed)

theorem receipt_gas (x : MegaBlockExecutor W S R) (g : UInt64)
    (o : BlockMegaTransactionOutcome T S L) :
    builder.cumulativeGasUsed (x.receipt builder g o) = g := by
  rw [receipt]
  split
  next r hr => exact builder.buildReceipt_gas _ r hr
  next => exact builder.buildDepositReceipt_gas _

end MegaBlockExecutor

/-! ## Runs of a block -/

structure BlockRun (W T S L R : Type) where
  executor : MegaBlockExecutor W S R
  outcomes : List (BlockMegaTransactionOutcome T S L)
  committed : List (BlockMegaTransactionOutcome T S L)

inductive BlockOp (T : Type) where
  | runTransaction (tx : BlockTx T)
  | commitTransactionOutcome (index : ℕ)

namespace BlockRun

variable (evm : BlockEvm W T S L E) (builder : OpReceiptBuilder W T S L R)

def new (limits : BlockLimits) (w : W) : BlockRun W T S L R where
  executor := { evm := w, blockLimiter := .new limits, receipts := [], onState := [] }
  outcomes := []
  committed := []

def step (s : BlockRun W T S L R) : BlockOp T → Option (BlockRun W T S L R)
  | .runTransaction tx =>
    match s.executor.runTransaction evm tx with
    | (executor, .ok o) => some { s with executor, outcomes := s.outcomes ++ [o] }
    | (executor, .error _) => some { s with executor }
  | .commitTransactionOutcome index =>
    s.outcomes[index]?.map fun o =>
      match s.executor.commitTransactionOutcome evm builder o with
      | (executor, .ok _) => { s with executor, committed := s.committed ++ [o] }
      | (executor, .error _) => { s with executor }

end BlockRun

def usedBy (amount : BlockTxUsage → UInt64) (os : List (BlockMegaTransactionOutcome T S L)) : ℕ :=
  (os.map fun o => (amount o.usage).toNat).sum

def BlockTxUsage.countedDaSize (u : BlockTxUsage) : UInt64 :=
  if u.isDeposit then 0 else u.daSize

structure BlockLimiter.Counts (l : BlockLimiter) (os : List (BlockMegaTransactionOutcome T S L)) :
    Prop where
  gas : l.blockGasUsed.toNat = usedBy BlockTxUsage.gasUsed os
  txSize : l.blockTxSizeUsed.toNat = usedBy BlockTxUsage.txSize os
  daSize : l.blockDaSizeUsed.toNat = usedBy BlockTxUsage.countedDaSize os
  data : l.blockDataUsed.toNat = usedBy BlockTxUsage.txData os
  kvUpdates : l.blockKvUpdatesUsed.toNat = usedBy BlockTxUsage.kvUpdates os
  computeGas : l.blockComputeGasUsed.toNat = usedBy BlockTxUsage.computeGasUsed os
  stateGrowth : l.blockStateGrowthUsed.toNat = usedBy BlockTxUsage.stateGrowthUsed os

structure BlockLimits.Holds (limits : BlockLimits)
    (os : List (BlockMegaTransactionOutcome T S L)) : Prop where
  gas : usedBy BlockTxUsage.gasUsed os ≤ limits.blockGasLimit.toNat
  txSize : usedBy BlockTxUsage.txSize os ≤ limits.blockTxsEncodeSizeLimit.toNat
  daSize : usedBy BlockTxUsage.countedDaSize os ≤ limits.blockDaSizeLimit.toNat

structure BlockLimits.Open (limits : BlockLimits)
    (os : List (BlockMegaTransactionOutcome T S L)) : Prop where
  data : usedBy BlockTxUsage.txData os < limits.blockTxsDataLimit.toNat
  kvUpdates : usedBy BlockTxUsage.kvUpdates os < limits.blockKvUpdateLimit.toNat
  computeGas : usedBy BlockTxUsage.computeGasUsed os < limits.blockComputeGasLimit.toNat
  stateGrowth : usedBy BlockTxUsage.stateGrowthUsed os < limits.blockStateGrowthLimit.toNat

/-- A commit that the words admit makes no total reach `2 ^ 64`. -/
def BlockLimiter.Fits (l : BlockLimiter) (o : BlockMegaTransactionOutcome T S L) : Prop :=
  AdmitsBy wrappingSum l o.request →
    ¬ l.Overflows o.request ∧
    naturalSum l.blockDataUsed o.inner.dataSize < 2 ^ 64 ∧
    naturalSum l.blockKvUpdatesUsed o.inner.kvUpdates < 2 ^ 64 ∧
    naturalSum l.blockComputeGasUsed o.inner.computeGasUsed < 2 ^ 64 ∧
    naturalSum l.blockStateGrowthUsed o.inner.stateGrowthUsed < 2 ^ 64

@[simp] theorem usedBy_nil (amount : BlockTxUsage → UInt64) :
    usedBy amount ([] : List (BlockMegaTransactionOutcome T S L)) = 0 := rfl

@[simp] theorem usedBy_concat (amount : BlockTxUsage → UInt64)
    (os : List (BlockMegaTransactionOutcome T S L)) (o : BlockMegaTransactionOutcome T S L) :
    usedBy amount (os ++ [o]) = usedBy amount os + (amount o.usage).toNat := by
  simp [usedBy]

namespace BlockLimiter

variable {l : BlockLimiter} {os : List (BlockMegaTransactionOutcome T S L)}
  {o : BlockMegaTransactionOutcome T S L}

@[simp] theorem postExecutionCheck_limits : (l.postExecutionCheck o).limits = l.limits := rfl

theorem Counts.new (limits : BlockLimits) :
    (BlockLimiter.new limits).Counts ([] : List (BlockMegaTransactionOutcome T S L)) :=
  ⟨rfl, rfl, rfl, rfl, rfl, rfl, rfl⟩

theorem count_add {a b : UInt64} {n m : ℕ} (ha : a.toNat = n) (hb : b.toNat = m)
    (h : naturalSum a b < 2 ^ 64) : (a + b).toNat = n + m := by
  rw [toNat_add_eq, wrappingSum_of_lt h, ← ha, ← hb]
  rfl

theorem Counts.commit (hc : l.Counts os) (hok : AdmitsBy wrappingSum l o.request)
    (hf : l.Fits o) (hgas : o.inner.gasUsed.toNat ≤ o.tx.gasLimit.toNat) :
    (l.postExecutionCheck o).Counts (os ++ [o]) := by
  obtain ⟨hover, hdata, hkv, hcompute, hgrowth⟩ := hf hok
  obtain ⟨hg, hs, hd⟩ := sums_fit hover
  constructor <;> rw [usedBy_concat]
  case gas =>
    apply count_add hc.gas rfl
    exact Nat.lt_of_le_of_lt (Nat.add_le_add_left hgas _) hg
  case txSize =>
    apply count_add hc.txSize rfl
    rw [naturalSum_comm]
    exact hs
  case daSize =>
    by_cases hdep : o.tx.isDeposit = true
    · simpa [postExecutionCheck, postExecutionUpdateRaw, BlockTxUsage.countedDaSize,
        BlockMegaTransactionOutcome.usage, hdep] using hc.daSize
    · have hda := hd (by simpa [BlockMegaTransactionOutcome.request] using hdep)
      have hsum : naturalSum l.blockDaSizeUsed o.daSize < 2 ^ 64 := by
        rw [naturalSum_comm]
        exact hda
      simpa [postExecutionCheck, postExecutionUpdateRaw, BlockTxUsage.countedDaSize,
        BlockMegaTransactionOutcome.usage, hdep] using count_add hc.daSize rfl hsum
  case data => exact count_add hc.data rfl hdata
  case kvUpdates => exact count_add hc.kvUpdates rfl hkv
  case computeGas => exact count_add hc.computeGas rfl hcompute
  case stateGrowth => exact count_add hc.stateGrowth rfl hgrowth

theorem Counts.holds_commit (hc : l.Counts os) (hh : l.limits.Holds os)
    (hok : AdmitsBy naturalSum l o.request) (hgas : o.inner.gasUsed.toNat ≤ o.tx.gasLimit.toNat) :
    l.limits.Holds (os ++ [o]) := by
  obtain ⟨-, hg, -, hs, -, hd, -⟩ := hok
  constructor <;> rw [usedBy_concat]
  case gas =>
    rw [← hc.gas]
    exact Nat.le_trans (Nat.add_le_add_left hgas _) hg
  case txSize =>
    rw [← hc.txSize, Nat.add_comm]
    exact hs
  case daSize =>
    by_cases hdep : o.tx.isDeposit = true
    · simpa [BlockTxUsage.countedDaSize, BlockMegaTransactionOutcome.usage, hdep] using hh.daSize
    · rw [← hc.daSize, Nat.add_comm]
      have hda : naturalSum o.daSize l.blockDaSizeUsed ≤ l.limits.blockDaSizeLimit.toNat :=
        hd (by simpa [BlockMegaTransactionOutcome.request] using hdep)
      simpa [BlockTxUsage.countedDaSize, BlockMegaTransactionOutcome.usage, hdep, naturalSum]
        using hda

theorem Counts.isOpen (hc : l.Counts os) {tx : BlockTxRequest} (hok : AdmitsBy naturalSum l tx) :
    l.limits.Open os := by
  obtain ⟨-, -, -, -, -, -, hdata, hkv, hcompute, hgrowth⟩ := hok
  constructor
  · exact hc.data ▸ hdata
  · exact hc.kvUpdates ▸ hkv
  · exact hc.computeGas ▸ hcompute
  · exact hc.stateGrowth ▸ hgrowth

end BlockLimiter

namespace MegaBlockExecutor

variable {evm : BlockEvm W T S L E} {builder : OpReceiptBuilder W T S L R}

theorem commit_cases (evm : BlockEvm W T S L E) (builder : OpReceiptBuilder W T S L R)
    (x : MegaBlockExecutor W S R) (o : BlockMegaTransactionOutcome T S L) :
    (∃ e, x.commitTransactionOutcome evm builder o = (x, .error (.validation e))) ∨
    (BlockLimiter.AdmitsBy BlockLimiter.wrappingSum x.blockLimiter o.request ∧
      ∃ r y, x.commitTransactionOutcome evm builder o = (y, .ok o.inner.gasUsed) ∧
        y.blockLimiter = x.blockLimiter.postExecutionCheck o ∧
        y.receipts = x.receipts ++ [r] ∧
        builder.cumulativeGasUsed r = y.blockLimiter.blockGasUsed) := by
  rw [commitTransactionOutcome]
  cases h : x.blockLimiter.preExecutionCheck o.request with
  | error e => exact .inl ⟨e, rfl⟩
  | ok u =>
    right
    refine ⟨BlockLimiter.pre_execution_check_ok.1 h, _, _, rfl, rfl, rfl, ?_⟩
    exact receipt_gas builder x _ o

theorem run_transaction_frame (evm : BlockEvm W T S L E) (x : MegaBlockExecutor W S R)
    (tx : BlockTx T) :
    (x.runTransaction evm tx).1.blockLimiter = x.blockLimiter ∧
    (x.runTransaction evm tx).1.receipts = x.receipts := by
  rw [runTransaction]
  split
  next => exact ⟨rfl, rfl⟩
  next =>
    split
    next => exact ⟨rfl, rfl⟩
    next => split <;> exact ⟨rfl, rfl⟩

theorem run_transaction_outcome {x y : MegaBlockExecutor W S R} {tx : BlockTx T}
    {o : BlockMegaTransactionOutcome T S L} (h : x.runTransaction evm tx = (y, .ok o)) :
    o.tx = tx ∧ ∃ w w', evm.executeTransaction w tx = (w', .ok o.inner) := by
  rw [runTransaction] at h
  split at h
  next => simp at h
  next =>
    split at h
    next => simp at h
    next w depositor _ =>
      split at h
      next => simp at h
      next w' inner hexec =>
        obtain ⟨-, rfl⟩ : _ ∧ _ = o := by simpa using h
        exact ⟨rfl, w, w', hexec⟩

end MegaBlockExecutor

def cumulativeReceipt (ctx : ReceiptBuilderCtx W T S L) : Option UInt64 :=
  if ctx.tx.isDeposit then none else some ctx.cumulativeGasUsed

def cumulativeDeposit (d : OpDepositReceipt L) : UInt64 := d.cumulativeGasUsed

theorem cumulativeReceipt_gas (ctx : ReceiptBuilderCtx W T S L) (r : UInt64)
    (h : cumulativeReceipt ctx = some r) : r = ctx.cumulativeGasUsed := by
  unfold cumulativeReceipt at h
  split at h
  · cases h
  · exact (Option.some.inj h).symm

theorem cumulativeDeposit_gas (d : OpDepositReceipt L) :
    cumulativeDeposit d = d.cumulativeGasUsed := rfl

def cumulativeReceipts : OpReceiptBuilder W T S L UInt64 where
  buildReceipt := cumulativeReceipt
  buildDepositReceipt := cumulativeDeposit
  cumulativeGasUsed r := r
  buildReceipt_gas := cumulativeReceipt_gas
  buildDepositReceipt_gas := cumulativeDeposit_gas

namespace BlockRun

variable {evm : BlockEvm W T S L E} {builder : OpReceiptBuilder W T S L R}

/-- What the counters, the receipts and the committed transactions of a run
have to do with each other. -/
structure Tallied (builder : OpReceiptBuilder W T S L R) (limits : BlockLimits)
    (s : BlockRun W T S L R) : Prop where
  limits_eq : s.executor.blockLimiter.limits = limits
  counts : s.executor.blockLimiter.Counts s.committed
  length : s.executor.receipts.length = s.committed.length
  cumulative : ∀ i r, s.executor.receipts[i]? = some r →
    (builder.cumulativeGasUsed r).toNat = usedBy BlockTxUsage.gasUsed (s.committed.take (i + 1))
  holds : limits.Holds s.committed
  wasOpen : ∀ earlier last, s.committed = earlier ++ [last] → limits.Open earlier

def Bounded (s : BlockRun W T S L R) : Prop :=
  ∀ o ∈ s.outcomes, o.inner.gasUsed.toNat ≤ o.tx.gasLimit.toNat

def CommitFits (s : BlockRun W T S L R) : BlockOp T → Prop
  | .runTransaction _ => True
  | .commitTransactionOutcome index =>
    ∀ o ∈ s.outcomes[index]?, s.executor.blockLimiter.Fits o

theorem Bounded.new (limits : BlockLimits) (w : W) :
    (BlockRun.new limits w : BlockRun W T S L R).Bounded := by
  intro o ho
  cases ho

theorem Tallied.new (limits : BlockLimits) (w : W) :
    (BlockRun.new limits w : BlockRun W T S L R).Tallied builder limits where
  limits_eq := rfl
  counts := .new limits
  length := rfl
  cumulative := by simp [BlockRun.new]
  holds := ⟨Nat.zero_le _, Nat.zero_le _, Nat.zero_le _⟩
  wasOpen := by simp [BlockRun.new]

theorem Tallied.of_frame {limits : BlockLimits} {s s' : BlockRun W T S L R}
    (h : s.Tallied builder limits) (hl : s'.executor.blockLimiter = s.executor.blockLimiter)
    (hr : s'.executor.receipts = s.executor.receipts) (hc : s'.committed = s.committed) :
    s'.Tallied builder limits where
  limits_eq := by rw [hl, h.limits_eq]
  counts := by rw [hl, hc]; exact h.counts
  length := by rw [hr, hc, h.length]
  cumulative := by rw [hr, hc]; exact h.cumulative
  holds := by rw [hc]; exact h.holds
  wasOpen := by rw [hc]; exact h.wasOpen

theorem cumulative_concat {rs : List R} {r : R} {os : List (BlockMegaTransactionOutcome T S L)}
    {o : BlockMegaTransactionOutcome T S L} (hlen : rs.length = os.length)
    (hrs : ∀ i r, rs[i]? = some r →
      (builder.cumulativeGasUsed r).toNat = usedBy BlockTxUsage.gasUsed (os.take (i + 1)))
    (hr : (builder.cumulativeGasUsed r).toNat = usedBy BlockTxUsage.gasUsed (os ++ [o])) :
    ∀ i r', (rs ++ [r])[i]? = some r' → (builder.cumulativeGasUsed r').toNat =
      usedBy BlockTxUsage.gasUsed ((os ++ [o]).take (i + 1)) := by
  intro i r' hi
  by_cases hlt : i < rs.length
  · rw [List.getElem?_append_left hlt] at hi
    rw [List.take_append_of_le_length (by omega)]
    exact hrs i r' hi
  · rw [List.getElem?_append_right (by omega)] at hi
    obtain ⟨hz, rfl⟩ : i - rs.length = 0 ∧ r = r' := by
      simpa [List.getElem?_singleton] using hi
    rw [hr, List.take_of_length_le (by simp; omega)]

theorem Tallied.commit {limits : BlockLimits} {s : BlockRun W T S L R}
    {o : BlockMegaTransactionOutcome T S L} {x : MegaBlockExecutor W S R} {r : R}
    (h : s.Tallied builder limits)
    (hgas : o.inner.gasUsed.toNat ≤ o.tx.gasLimit.toNat)
    (hok : BlockLimiter.AdmitsBy BlockLimiter.wrappingSum s.executor.blockLimiter o.request)
    (hf : s.executor.blockLimiter.Fits o)
    (hl : x.blockLimiter = s.executor.blockLimiter.postExecutionCheck o)
    (hrs : x.receipts = s.executor.receipts ++ [r])
    (hr : builder.cumulativeGasUsed r = x.blockLimiter.blockGasUsed) :
    Tallied builder limits { s with executor := x, committed := s.committed ++ [o] } := by
  have hcounts := h.counts.commit hok hf hgas
  have hnat := (BlockLimiter.admits_of_fit (hf hok).1).1 hok
  constructor
  case limits_eq => rw [hl, BlockLimiter.postExecutionCheck_limits, h.limits_eq]
  case counts => rw [hl]; exact hcounts
  case length => simp [hrs, h.length]
  case cumulative =>
    rw [hrs]
    apply cumulative_concat h.length h.cumulative
    rw [hr, hl, hcounts.gas]
  case holds =>
    have hh := h.counts.holds_commit (by rw [h.limits_eq]; exact h.holds) hnat hgas
    rwa [h.limits_eq] at hh
  case wasOpen =>
    intro earlier last he
    obtain ⟨rfl, -⟩ := List.append_inj' he rfl
    have hopen := h.counts.isOpen hnat
    rwa [h.limits_eq] at hopen

theorem step_bounded {s s' : BlockRun W T S L R} {op : BlockOp T}
    (hgas : ∀ w w' tx inner, evm.executeTransaction w tx = (w', .ok inner) →
      inner.gasUsed.toNat ≤ tx.gasLimit.toNat)
    (h : s.Bounded) (hs : step evm builder s op = some s') : s'.Bounded := by
  cases op with
  | runTransaction tx =>
    simp only [step] at hs
    split at hs
    next y o hrun =>
      obtain rfl : _ = s' := by simpa using hs
      obtain ⟨htx, w, w', hexec⟩ := MegaBlockExecutor.run_transaction_outcome hrun
      intro o' ho'
      rcases List.mem_append.1 ho' with hold | hnew
      · exact h o' hold
      · obtain rfl : o' = o := by simpa using hnew
        rw [htx]
        exact hgas w w' tx _ hexec
    next =>
      obtain rfl : _ = s' := by simpa using hs
      exact h
  | commitTransactionOutcome index =>
    obtain ⟨o, -, rfl⟩ := Option.map_eq_some_iff.1 hs
    split <;> exact h

theorem step_tallied {limits : BlockLimits} {s s' : BlockRun W T S L R} {op : BlockOp T}
    (hb : s.Bounded) (h : s.Tallied builder limits) (hfit : s.CommitFits op)
    (hs : step evm builder s op = some s') : s'.Tallied builder limits := by
  cases op with
  | runTransaction tx =>
    have hframe := MegaBlockExecutor.run_transaction_frame evm s.executor tx
    simp only [step] at hs
    split at hs
    next y o hrun =>
      obtain rfl : _ = s' := by simpa using hs
      rw [hrun] at hframe
      exact h.of_frame hframe.1 hframe.2 rfl
    next y e hrun =>
      obtain rfl : _ = s' := by simpa using hs
      rw [hrun] at hframe
      exact h.of_frame hframe.1 hframe.2 rfl
  | commitTransactionOutcome index =>
    obtain ⟨o, ho, rfl⟩ := Option.map_eq_some_iff.1 hs
    rcases MegaBlockExecutor.commit_cases evm builder s.executor o with
      ⟨e, hrejected⟩ | ⟨hok, r, y, haccepted, hl, hrs, hr⟩
    · rw [hrejected]
      exact h
    · rw [haccepted]
      have hgas := hb o (List.mem_of_getElem? ho)
      exact h.commit hgas hok (hfit o ho) hl hrs hr

/-- Whatever is run and committed in whatever order, as long as no commit that
is admitted makes a total reach `2 ^ 64`, the block is tallied; and a commit
that is rejected changes nothing. -/
theorem block_run_tallied
    (hgas : ∀ w w' tx inner, evm.executeTransaction w tx = (w', .ok inner) →
      inner.gasUsed.toNat ≤ tx.gasLimit.toNat)
    (limits : BlockLimits) (w : W) (ops : List (BlockOp T)) (s : BlockRun W T S L R)
    (hfit : Run.Guarded (step evm builder) CommitFits (new limits w) ops)
    (hrun : Run.run (step evm builder) (new limits w) ops = some s) :
    s.Tallied builder limits ∧
    ∀ o x e, s.executor.commitTransactionOutcome evm builder o = (x, .error e) →
      x = s.executor := by
  constructor
  · have hstart : (new limits w : BlockRun W T S L R).Bounded ∧
        (new limits w : BlockRun W T S L R).Tallied builder limits :=
      ⟨Bounded.new limits w, Tallied.new limits w⟩
    exact (Run.invariant (I := fun t => t.Bounded ∧ t.Tallied builder limits)
      (fun t op t' ht hok hs => ⟨step_bounded hgas ht.1 hs, step_tallied ht.1 ht.2 hok hs⟩)
      hstart hfit hrun).2
  · intro o x e hcommit
    rcases MegaBlockExecutor.commit_cases evm builder s.executor o with
      ⟨e', hrejected⟩ | ⟨-, r, y, haccepted, -⟩
    · exact (Prod.mk.inj (hrejected.symm.trans hcommit)).1.symm
    · simp [haccepted] at hcommit

def meteredEvm : BlockEvm ℕ UInt64 ℕ ℕ ℕ where
  loadCacheAccount w _ := (w, .ok 0)
  executeTransaction w tx :=
    (w, .ok { success := true, gasUsed := if tx.txEnv ≤ tx.gasLimit then tx.txEnv else tx.gasLimit,
              logs := [], state := 1, dataSize := 300, kvUpdates := 2, computeGasUsed := tx.txEnv,
              stateGrowthUsed := 1 })
  commit w state := w + state

theorem metered_gas (w w' : ℕ) (tx : BlockTx UInt64) (inner : MegaTransactionOutcome ℕ ℕ)
    (h : meteredEvm.executeTransaction w tx = (w', .ok inner)) :
    inner.gasUsed.toNat ≤ tx.gasLimit.toNat := by
  obtain ⟨-, rfl⟩ : _ ∧ _ = inner := by simpa [meteredEvm] using h
  by_cases hle : tx.txEnv ≤ tx.gasLimit
  · simpa [hle] using UInt64.le_iff_toNat_le.1 hle
  · simp [hle]

def transfer (gasLimit gasUsed : UInt64) (isDeposit : Bool) : BlockTx UInt64 where
  txHash := 1
  gasLimit := gasLimit
  encode2718Len := 110
  estimatedDaSize := 100
  isDeposit := isDeposit
  signer := 5
  txEnv := gasUsed

def commitFits (s : BlockRun W T S L R) : BlockOp T → Bool
  | .runTransaction _ => true
  | .commitTransactionOutcome index =>
    let l := s.executor.blockLimiter
    (s.outcomes[index]?).all fun o =>
      decide (¬ l.Overflows o.request ∧
        BlockLimiter.naturalSum l.blockDataUsed o.inner.dataSize < 2 ^ 64 ∧
        BlockLimiter.naturalSum l.blockKvUpdatesUsed o.inner.kvUpdates < 2 ^ 64 ∧
        BlockLimiter.naturalSum l.blockComputeGasUsed o.inner.computeGasUsed < 2 ^ 64 ∧
        BlockLimiter.naturalSum l.blockStateGrowthUsed o.inner.stateGrowthUsed < 2 ^ 64)

theorem commitFits_sound (s : BlockRun W T S L R) (op : BlockOp T) (h : s.commitFits op = true) :
    s.CommitFits op := by
  cases op with
  | runTransaction tx => trivial
  | commitTransactionOutcome index =>
    intro o ho _
    simp only [commitFits, Option.mem_def.1 ho, Option.all_some, decide_eq_true_eq] at h
    exact h

def exchanged : List (BlockOp UInt64) :=
  [.runTransaction (transfer 50000 21000 false), .runTransaction (transfer 900000 40000 true),
   .commitTransactionOutcome 1, .commitTransactionOutcome 0]

def rex4Limits : BlockLimits := .fromHardforkAndBlockGasLimit .rex4 30000000

theorem block_run_tallied_exchanged :
    ∃ s, Run.run (step meteredEvm cumulativeReceipts) (new rex4Limits 0) exchanged = some s ∧
      s.Tallied cumulativeReceipts rex4Limits := by
  have hfit : Run.checks (step meteredEvm cumulativeReceipts) commitFits (new rex4Limits 0) exchanged
      = true := by decide
  have hguard := Run.Guarded.mono commitFits_sound (Run.guarded_of_checks hfit)
  exact ⟨_, rfl, (block_run_tallied metered_gas rex4Limits 0 exchanged _ hguard rfl).1⟩

/-- A deposit whose gas limit wraps to within the block uses more than the block has. -/
theorem deposit_over_block_gas :
    ¬ ∀ (limits : BlockLimits) (ops : List (BlockOp UInt64)) (s : BlockRun ℕ UInt64 ℕ ℕ UInt64),
      Run.run (step meteredEvm cumulativeReceipts) (new limits 0) ops = some s →
        s.Tallied cumulativeReceipts limits := by
  intro h
  have ht := h rex4Limits
    [.runTransaction (transfer 50000 21000 false), .commitTransactionOutcome 0,
     .runTransaction (transfer BlockLimits.u64MAX 40000000 true), .commitTransactionOutcome 1]
    _ rfl
  exact absurd ht.holds.gas (by decide)

end BlockRun

end

end MegaEvm
