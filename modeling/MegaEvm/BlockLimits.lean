import Mathlib.Algebra.Group.Nat.Defs
import Mathlib.Data.Nat.Basic

/-!
# Block limits

The limits of a block, the counters a block keeps of what its committed
transactions used, and the check a transaction has to pass before it runs and
again before it is committed. The counters are machine words whose sums wrap,
as in a build without overflow checks.
-/

set_option autoImplicit false

namespace MegaEvm

inductive MegaHardfork where
  | miniRex
  | miniRex1
  | miniRex2
  | rex
  | rex1
  | rex2
  | rex3
  | rex4
  deriving DecidableEq, Repr

structure BlockLimits where
  txGasLimit : UInt64
  blockGasLimit : UInt64
  txEncodeSizeLimit : UInt64
  blockTxsEncodeSizeLimit : UInt64
  txDaSizeLimit : UInt64
  blockDaSizeLimit : UInt64
  blockTxsDataLimit : UInt64
  blockKvUpdateLimit : UInt64
  blockComputeGasLimit : UInt64
  blockStateGrowthLimit : UInt64
  deriving DecidableEq, Repr

namespace BlockLimits

def u64MAX : UInt64 := 18446744073709551615

def BLOCK_DATA_LIMIT : UInt64 := 12 * 1024 * 1024 + 512 * 1024
def BLOCK_KV_UPDATE_LIMIT : UInt64 := 500000
def BLOCK_STATE_GROWTH_LIMIT : UInt64 := 1000

def noLimits : BlockLimits where
  txGasLimit := u64MAX
  blockGasLimit := u64MAX
  txEncodeSizeLimit := u64MAX
  blockTxsEncodeSizeLimit := u64MAX
  txDaSizeLimit := u64MAX
  blockDaSizeLimit := u64MAX
  blockTxsDataLimit := u64MAX
  blockKvUpdateLimit := u64MAX
  blockComputeGasLimit := u64MAX
  blockStateGrowthLimit := u64MAX

-- The runtime limits of a single transaction, set here too, are not part of the record.
def fromHardforkAndBlockGasLimit (hardfork : MegaHardfork) (blockGasLimit : UInt64) :
    BlockLimits :=
  let limits := { noLimits with blockGasLimit }
  match hardfork with
  | .rex | .rex1 | .rex2 | .rex3 | .rex4 =>
    { limits with
      blockTxsDataLimit := BLOCK_DATA_LIMIT
      blockKvUpdateLimit := BLOCK_KV_UPDATE_LIMIT
      blockStateGrowthLimit := BLOCK_STATE_GROWTH_LIMIT }
  | .miniRex | .miniRex2 =>
    { limits with
      blockTxsDataLimit := BLOCK_DATA_LIMIT
      blockKvUpdateLimit := BLOCK_KV_UPDATE_LIMIT }
  | .miniRex1 => limits

end BlockLimits

inductive MegaTxLimitExceededError where
  | transactionGasLimit (txGasLimit limit : UInt64)
  | transactionEncodeSizeLimit (txSize limit : UInt64)
  | dataAvailabilitySizeLimit (daSize limit : UInt64)
  deriving DecidableEq, Repr

inductive MegaBlockLimitExceededError where
  | transactionDataLimit (blockUsed limit : UInt64)
  | kvUpdateLimit (blockUsed limit : UInt64)
  | computeGasLimit (blockUsed limit : UInt64)
  | transactionEncodeSizeLimit (blockUsed txUsed limit : UInt64)
  | dataAvailabilitySizeLimit (blockUsed txUsed limit : UInt64)
  | stateGrowthLimit (blockUsed limit : UInt64)
  deriving DecidableEq, Repr

inductive InvalidTxCause where
  | tx (error : MegaTxLimitExceededError)
  | block (error : MegaBlockLimitExceededError)
  deriving DecidableEq, Repr

inductive BlockValidationError where
  | invalidTx (hash : ℕ) (error : InvalidTxCause)
  | transactionGasLimitMoreThanAvailableBlockGas
      (transactionGasLimit blockAvailableGas : UInt64)
  deriving DecidableEq, Repr

structure BlockTxRequest where
  txHash : ℕ
  gasLimit : UInt64
  txSize : UInt64
  daSize : UInt64
  isDeposit : Bool
  deriving DecidableEq, Repr

structure BlockTxUsage where
  gasUsed : UInt64
  txSize : UInt64
  daSize : UInt64
  txData : UInt64
  kvUpdates : UInt64
  computeGasUsed : UInt64
  stateGrowthUsed : UInt64
  isDeposit : Bool
  deriving DecidableEq, Repr

structure BlockLimiter where
  limits : BlockLimits
  blockGasUsed : UInt64
  blockTxSizeUsed : UInt64
  blockDaSizeUsed : UInt64
  blockDataUsed : UInt64
  blockKvUpdatesUsed : UInt64
  blockComputeGasUsed : UInt64
  blockStateGrowthUsed : UInt64
  deriving DecidableEq, Repr

namespace BlockLimiter

def new (limits : BlockLimits) : BlockLimiter where
  limits := limits
  blockGasUsed := 0
  blockTxSizeUsed := 0
  blockDaSizeUsed := 0
  blockDataUsed := 0
  blockKvUpdatesUsed := 0
  blockComputeGasUsed := 0
  blockStateGrowthUsed := 0

def preExecutionCheck (l : BlockLimiter) (tx : BlockTxRequest) :
    Except BlockValidationError Unit :=
  if tx.gasLimit > l.limits.txGasLimit then
    .error (.invalidTx tx.txHash
      (.tx (.transactionGasLimit tx.gasLimit l.limits.txGasLimit)))
  else if l.blockGasUsed + tx.gasLimit > l.limits.blockGasLimit then
    .error (.transactionGasLimitMoreThanAvailableBlockGas tx.gasLimit
      (l.limits.blockGasLimit - l.blockGasUsed))
  else if tx.txSize > l.limits.txEncodeSizeLimit then
    .error (.invalidTx tx.txHash
      (.tx (.transactionEncodeSizeLimit tx.txSize l.limits.txEncodeSizeLimit)))
  else if tx.txSize + l.blockTxSizeUsed > l.limits.blockTxsEncodeSizeLimit then
    .error (.invalidTx tx.txHash (.block (.transactionEncodeSizeLimit l.blockTxSizeUsed tx.txSize
      l.limits.blockTxsEncodeSizeLimit)))
  else if tx.isDeposit = false ∧ tx.daSize > l.limits.txDaSizeLimit then
    .error (.invalidTx tx.txHash
      (.tx (.dataAvailabilitySizeLimit tx.daSize l.limits.txDaSizeLimit)))
  else if tx.isDeposit = false ∧ tx.daSize + l.blockDaSizeUsed > l.limits.blockDaSizeLimit then
    .error (.invalidTx tx.txHash (.block (.dataAvailabilitySizeLimit l.blockDaSizeUsed tx.daSize
      l.limits.blockDaSizeLimit)))
  else if l.blockDataUsed ≥ l.limits.blockTxsDataLimit then
    .error (.invalidTx tx.txHash
      (.block (.transactionDataLimit l.blockDataUsed l.limits.blockTxsDataLimit)))
  else if l.blockKvUpdatesUsed ≥ l.limits.blockKvUpdateLimit then
    .error (.invalidTx tx.txHash
      (.block (.kvUpdateLimit l.blockKvUpdatesUsed l.limits.blockKvUpdateLimit)))
  else if l.blockComputeGasUsed ≥ l.limits.blockComputeGasLimit then
    .error (.invalidTx tx.txHash
      (.block (.computeGasLimit l.blockComputeGasUsed l.limits.blockComputeGasLimit)))
  else if l.blockStateGrowthUsed ≥ l.limits.blockStateGrowthLimit then
    .error (.invalidTx tx.txHash
      (.block (.stateGrowthLimit l.blockStateGrowthUsed l.limits.blockStateGrowthLimit)))
  else .ok ()

def postExecutionUpdateRaw (l : BlockLimiter) (u : BlockTxUsage) : BlockLimiter :=
  { l with
    blockGasUsed := l.blockGasUsed + u.gasUsed
    blockTxSizeUsed := l.blockTxSizeUsed + u.txSize
    blockDaSizeUsed := if u.isDeposit then l.blockDaSizeUsed else l.blockDaSizeUsed + u.daSize
    blockDataUsed := l.blockDataUsed + u.txData
    blockKvUpdatesUsed := l.blockKvUpdatesUsed + u.kvUpdates
    blockComputeGasUsed := l.blockComputeGasUsed + u.computeGasUsed
    blockStateGrowthUsed := l.blockStateGrowthUsed + u.stateGrowthUsed }

/-! ## What the check decides -/

def wrappingSum (a b : UInt64) : ℕ := (a.toNat + b.toNat) % 2 ^ 64

def naturalSum (a b : UInt64) : ℕ := a.toNat + b.toNat

/-- Every check passes, the predicted totals being added by `sum`. -/
def AdmitsBy (sum : UInt64 → UInt64 → ℕ) (l : BlockLimiter) (tx : BlockTxRequest) : Prop :=
  tx.gasLimit.toNat ≤ l.limits.txGasLimit.toNat ∧
  sum l.blockGasUsed tx.gasLimit ≤ l.limits.blockGasLimit.toNat ∧
  tx.txSize.toNat ≤ l.limits.txEncodeSizeLimit.toNat ∧
  sum tx.txSize l.blockTxSizeUsed ≤ l.limits.blockTxsEncodeSizeLimit.toNat ∧
  (tx.isDeposit = false → tx.daSize.toNat ≤ l.limits.txDaSizeLimit.toNat) ∧
  (tx.isDeposit = false → sum tx.daSize l.blockDaSizeUsed ≤ l.limits.blockDaSizeLimit.toNat) ∧
  l.blockDataUsed.toNat < l.limits.blockTxsDataLimit.toNat ∧
  l.blockKvUpdatesUsed.toNat < l.limits.blockKvUpdateLimit.toNat ∧
  l.blockComputeGasUsed.toNat < l.limits.blockComputeGasLimit.toNat ∧
  l.blockStateGrowthUsed.toNat < l.limits.blockStateGrowthLimit.toNat

def Overflows (l : BlockLimiter) (tx : BlockTxRequest) : Prop :=
  2 ^ 64 ≤ naturalSum l.blockGasUsed tx.gasLimit ∨
  2 ^ 64 ≤ naturalSum tx.txSize l.blockTxSizeUsed ∨
  (tx.isDeposit = false ∧ 2 ^ 64 ≤ naturalSum tx.daSize l.blockDaSizeUsed)

instance (l : BlockLimiter) (tx : BlockTxRequest) : Decidable (l.Overflows tx) :=
  inferInstanceAs (Decidable (
    2 ^ 64 ≤ naturalSum l.blockGasUsed tx.gasLimit ∨
    2 ^ 64 ≤ naturalSum tx.txSize l.blockTxSizeUsed ∨
    (tx.isDeposit = false ∧ 2 ^ 64 ≤ naturalSum tx.daSize l.blockDaSizeUsed)))

/-- A total reaches `2 ^ 64` and no check notices. -/
def Slips (l : BlockLimiter) (tx : BlockTxRequest) : Prop :=
  l.Overflows tx ∧ AdmitsBy wrappingSum l tx

/-- The block is refused for its gas when it has used more than its limit already. -/
def Overdrawn (l : BlockLimiter) (tx : BlockTxRequest) : Prop :=
  tx.gasLimit.toNat ≤ l.limits.txGasLimit.toNat ∧
  l.limits.blockGasLimit.toNat < l.blockGasUsed.toNat ∧
  l.limits.blockGasLimit.toNat < wrappingSum l.blockGasUsed tx.gasLimit

/-- The check accepts what fits in natural numbers, and the gas it reports as
available is what the block has left. -/
def ChecksExactly (l : BlockLimiter) (tx : BlockTxRequest) : Prop :=
  (l.preExecutionCheck tx = .ok () ↔ AdmitsBy naturalSum l tx) ∧
  ∀ gas available,
    l.preExecutionCheck tx = .error (.transactionGasLimitMoreThanAvailableBlockGas gas available) →
      available.toNat + l.blockGasUsed.toNat = l.limits.blockGasLimit.toNat

theorem toNat_add_eq (a b : UInt64) : (a + b).toNat = wrappingSum a b := by
  simp [wrappingSum, UInt64.toNat_add]

theorem wrappingSum_of_lt {a b : UInt64} (h : naturalSum a b < 2 ^ 64) :
    wrappingSum a b = naturalSum a b := Nat.mod_eq_of_lt h

theorem naturalSum_comm (a b : UInt64) : naturalSum a b = naturalSum b a := Nat.add_comm _ _

variable {l : BlockLimiter} {tx : BlockTxRequest}

theorem refuse_ok {c : Prop} [Decidable c] {e : BlockValidationError}
    {next : Except BlockValidationError Unit} :
    (if c then .error e else next) = .ok () ↔ ¬ c ∧ next = .ok () := by
  by_cases h : c <;> simp [h]

theorem refuse_error {c : Prop} [Decidable c] {e e' : BlockValidationError}
    {next : Except BlockValidationError Unit} :
    (if c then .error e else next) = .error e' ↔ c ∧ e = e' ∨ ¬ c ∧ next = .error e' := by
  by_cases h : c <;> simp [h]

theorem pre_execution_check_ok :
    l.preExecutionCheck tx = .ok () ↔ AdmitsBy wrappingSum l tx := by
  simp only [preExecutionCheck, refuse_ok, AdmitsBy, gt_iff_lt, ge_iff_le,
    UInt64.lt_iff_toNat_lt, UInt64.le_iff_toNat_le, toNat_add_eq, not_lt, not_le, not_and,
    and_true]

theorem pre_execution_check_gas {gas available : UInt64} :
    l.preExecutionCheck tx =
        .error (.transactionGasLimitMoreThanAvailableBlockGas gas available) ↔
      tx.gasLimit.toNat ≤ l.limits.txGasLimit.toNat ∧
      l.limits.blockGasLimit.toNat < wrappingSum l.blockGasUsed tx.gasLimit ∧
      tx.gasLimit = gas ∧ l.limits.blockGasLimit - l.blockGasUsed = available := by
  simp [preExecutionCheck, refuse_error, UInt64.lt_iff_toNat_lt, UInt64.le_iff_toNat_le,
    wrappingSum]

theorem sums_fit (h : ¬ l.Overflows tx) :
    naturalSum l.blockGasUsed tx.gasLimit < 2 ^ 64 ∧
    naturalSum tx.txSize l.blockTxSizeUsed < 2 ^ 64 ∧
    (tx.isDeposit = false → naturalSum tx.daSize l.blockDaSizeUsed < 2 ^ 64) := by
  simpa only [Overflows, not_or, not_and, not_le] using h

theorem admits_of_fit (h : ¬ l.Overflows tx) :
    AdmitsBy wrappingSum l tx ↔ AdmitsBy naturalSum l tx := by
  obtain ⟨hgas, hsize, hda⟩ := sums_fit h
  simp only [AdmitsBy, wrappingSum_of_lt hgas, wrappingSum_of_lt hsize]
  by_cases hd : tx.isDeposit = false
  · simp only [wrappingSum_of_lt (hda hd)]
  · simp [hd]

theorem not_admits_of_overflows (h : l.Overflows tx) : ¬ AdmitsBy naturalSum l tx := by
  intro ha
  obtain ⟨-, hgas, -, hsize, -, hda, -⟩ := ha
  have hg := l.limits.blockGasLimit.toNat_lt
  have hs := l.limits.blockTxsEncodeSizeLimit.toNat_lt
  have hl := l.limits.blockDaSizeLimit.toNat_lt
  rcases h with h | h | ⟨hd, h⟩
  · omega
  · omega
  · have := hda hd
    omega

theorem accepts_exactly_iff :
    (l.preExecutionCheck tx = .ok () ↔ AdmitsBy naturalSum l tx) ↔ ¬ l.Slips tx := by
  rw [pre_execution_check_ok, Slips, not_and]
  by_cases ho : l.Overflows tx
  · have hn := not_admits_of_overflows ho
    simp [ho, hn]
  · simp [ho, admits_of_fit ho]

theorem available_iff (limit used : UInt64) :
    (limit - used).toNat + used.toNat = limit.toNat ↔ used.toNat ≤ limit.toNat := by
  have hl := limit.toNat_lt
  have hu := used.toNat_lt
  rw [UInt64.toNat_sub]
  omega

theorem reports_exactly_iff :
    (∀ gas available, l.preExecutionCheck tx =
        .error (.transactionGasLimitMoreThanAvailableBlockGas gas available) →
      available.toNat + l.blockGasUsed.toNat = l.limits.blockGasLimit.toNat) ↔
      ¬ l.Overdrawn tx := by
  constructor
  · intro h ho
    have hr := pre_execution_check_gas.2 ⟨ho.1, ho.2.2, rfl, rfl⟩
    have hle := (available_iff _ _).1 (h _ _ hr)
    have hlt := ho.2.1
    omega
  · intro ho gas available hr
    obtain ⟨htx, hover, -, rfl⟩ := pre_execution_check_gas.1 hr
    apply (available_iff _ _).2
    by_contra hused
    exact ho ⟨htx, by omega, hover⟩

/-- After any committed usages, the check is exact on the transactions that
neither slip by nor find the block overdrawn, and on no others. -/
theorem pre_execution_check_exact_iff (limits : BlockLimits) (updates : List BlockTxUsage)
    (tx : BlockTxRequest) :
    (updates.foldl postExecutionUpdateRaw (new limits)).ChecksExactly tx ↔
      ¬ (updates.foldl postExecutionUpdateRaw (new limits)).Slips tx ∧
      ¬ (updates.foldl postExecutionUpdateRaw (new limits)).Overdrawn tx := by
  rw [ChecksExactly, accepts_exactly_iff, reports_exactly_iff]

/-- A gas limit of `2 ^ 64 - 1` wraps to less than the block has used. -/
theorem unlimited_gas_accepted :
    ¬ ∀ (limits : BlockLimits) (updates : List BlockTxUsage) (tx : BlockTxRequest),
      (updates.foldl postExecutionUpdateRaw (new limits)).ChecksExactly tx := by
  intro h
  have hx := (h (BlockLimits.fromHardforkAndBlockGasLimit .rex4 30000000)
    [{ gasUsed := 21000, txSize := 110, daSize := 100, txData := 300, kvUpdates := 2,
       computeGasUsed := 21000, stateGrowthUsed := 0, isDeposit := false }]
    { txHash := 1, gasLimit := BlockLimits.u64MAX, txSize := 110, daSize := 100,
      isDeposit := false }).1.1 (by decide)
  exact absurd hx.2.1 (by decide)

/-! ## When a block is full -/

def isBlockLimitReached (l : BlockLimiter) : Bool :=
  decide (l.blockGasUsed ≥ l.limits.blockGasLimit) ||
  decide (l.blockTxSizeUsed ≥ l.limits.blockTxsEncodeSizeLimit) ||
  decide (l.blockDaSizeUsed ≥ l.limits.blockDaSizeLimit) ||
  decide (l.blockDataUsed ≥ l.limits.blockTxsDataLimit) ||
  decide (l.blockKvUpdatesUsed ≥ l.limits.blockKvUpdateLimit) ||
  decide (l.blockComputeGasUsed ≥ l.limits.blockComputeGasLimit) ||
  decide (l.blockStateGrowthUsed ≥ l.limits.blockStateGrowthLimit)

def UpdateFits (l : BlockLimiter) (u : BlockTxUsage) : Prop :=
  naturalSum l.blockGasUsed u.gasUsed < 2 ^ 64 ∧
  naturalSum l.blockTxSizeUsed u.txSize < 2 ^ 64 ∧
  (u.isDeposit = false → naturalSum l.blockDaSizeUsed u.daSize < 2 ^ 64) ∧
  naturalSum l.blockDataUsed u.txData < 2 ^ 64 ∧
  naturalSum l.blockKvUpdatesUsed u.kvUpdates < 2 ^ 64 ∧
  naturalSum l.blockComputeGasUsed u.computeGasUsed < 2 ^ 64 ∧
  naturalSum l.blockStateGrowthUsed u.stateGrowthUsed < 2 ^ 64

def UpdatesFit : BlockLimiter → List BlockTxUsage → Prop
  | _, [] => True
  | l, u :: us => l.UpdateFits u ∧ UpdatesFit (l.postExecutionUpdateRaw u) us

theorem is_block_limit_reached_iff :
    l.isBlockLimitReached = true ↔
      l.limits.blockGasLimit.toNat ≤ l.blockGasUsed.toNat ∨
      l.limits.blockTxsEncodeSizeLimit.toNat ≤ l.blockTxSizeUsed.toNat ∨
      l.limits.blockDaSizeLimit.toNat ≤ l.blockDaSizeUsed.toNat ∨
      l.limits.blockTxsDataLimit.toNat ≤ l.blockDataUsed.toNat ∨
      l.limits.blockKvUpdateLimit.toNat ≤ l.blockKvUpdatesUsed.toNat ∨
      l.limits.blockComputeGasLimit.toNat ≤ l.blockComputeGasUsed.toNat ∨
      l.limits.blockStateGrowthLimit.toNat ≤ l.blockStateGrowthUsed.toNat := by
  simp only [isBlockLimitReached, Bool.or_eq_true, decide_eq_true_eq, ge_iff_le,
    UInt64.le_iff_toNat_le, or_assoc]

theorem le_add_of_fit {a b : UInt64} (h : naturalSum a b < 2 ^ 64) : a.toNat ≤ (a + b).toNat := by
  rw [toNat_add_eq, wrappingSum_of_lt h]
  exact Nat.le_add_right _ _

theorem reached_update {u : BlockTxUsage} (hfit : l.UpdateFits u)
    (h : l.isBlockLimitReached = true) :
    (l.postExecutionUpdateRaw u).isBlockLimitReached = true := by
  obtain ⟨hgas, hsize, hda, hdata, hkv, hcompute, hgrowth⟩ := hfit
  have hdaLe : l.blockDaSizeUsed.toNat ≤ (l.postExecutionUpdateRaw u).blockDaSizeUsed.toNat := by
    unfold postExecutionUpdateRaw
    cases hd : u.isDeposit with
    | true => exact le_rfl
    | false => exact le_add_of_fit (hda hd)
  rw [is_block_limit_reached_iff] at h ⊢
  rcases h with h | h | h | h | h | h | h
  · exact .inl (Nat.le_trans h (le_add_of_fit hgas))
  · exact .inr (.inl (Nat.le_trans h (le_add_of_fit hsize)))
  · exact .inr (.inr (.inl (Nat.le_trans h hdaLe)))
  · exact .inr (.inr (.inr (.inl (Nat.le_trans h (le_add_of_fit hdata)))))
  · exact .inr (.inr (.inr (.inr (.inl (Nat.le_trans h (le_add_of_fit hkv))))))
  · exact .inr (.inr (.inr (.inr (.inr (.inl (Nat.le_trans h (le_add_of_fit hcompute)))))))
  · exact .inr (.inr (.inr (.inr (.inr (.inr (Nat.le_trans h (le_add_of_fit hgrowth)))))))

theorem reached_updates {us : List BlockTxUsage} (hfit : l.UpdatesFit us)
    (h : l.isBlockLimitReached = true) :
    (us.foldl postExecutionUpdateRaw l).isBlockLimitReached = true := by
  induction us generalizing l with
  | nil => exact h
  | cons u us ih => exact ih hfit.2 (reached_update hfit.1 h)

theorem not_admits_of_reached (h : l.isBlockLimitReached = true) (hd : tx.isDeposit = false)
    (hgas : 0 < tx.gasLimit.toNat) (hsize : 0 < tx.txSize.toNat) (hda : 0 < tx.daSize.toNat) :
    ¬ AdmitsBy naturalSum l tx := by
  rintro ⟨-, hg, -, hs, -, ha, hdata, hkv, hcompute, hgrowth⟩
  have hda' := ha hd
  simp only [naturalSum] at hg hs hda'
  rcases is_block_limit_reached_iff.1 h with h | h | h | h | h | h | h <;> omega

/-- Once the limits of a block are reached they stay reached, and the check
refuses every transaction that is not a deposit. -/
theorem block_limit_reached_for_good (limits : BlockLimits) (updates later : List BlockTxUsage)
    (hreached : (updates.foldl postExecutionUpdateRaw (new limits)).isBlockLimitReached = true)
    (hfit : (updates.foldl postExecutionUpdateRaw (new limits)).UpdatesFit later) :
    ((updates ++ later).foldl postExecutionUpdateRaw (new limits)).isBlockLimitReached = true ∧
    ∀ tx : BlockTxRequest, tx.isDeposit = false → 0 < tx.gasLimit → 0 < tx.txSize →
      0 < tx.daSize →
      ¬ ((updates ++ later).foldl postExecutionUpdateRaw (new limits)).Overflows tx →
      ∃ error, ((updates ++ later).foldl postExecutionUpdateRaw (new limits)).preExecutionCheck tx =
        .error error := by
  rw [List.foldl_append]
  have hstays := reached_updates hfit hreached
  refine ⟨hstays, fun tx hd hgas hsize hda hsums => ?_⟩
  cases hcheck : (later.foldl postExecutionUpdateRaw
      (updates.foldl postExecutionUpdateRaw (new limits))).preExecutionCheck tx with
  | error error => exact ⟨error, rfl⟩
  | ok value =>
    exfalso
    have hok := (admits_of_fit hsums).1 (pre_execution_check_ok.1 hcheck)
    exact not_admits_of_reached hstays hd (UInt64.lt_iff_toNat_lt.1 hgas)
      (UInt64.lt_iff_toNat_lt.1 hsize) (UInt64.lt_iff_toNat_lt.1 hda) hok

/-- A block of 1000 new slots, and a transaction after it. -/
theorem state_growth_reached_for_good :
    let full : BlockTxUsage :=
      { gasUsed := 21000000, txSize := 110, daSize := 100, txData := 40000, kvUpdates := 1000,
        computeGasUsed := 3000000, stateGrowthUsed := 1000, isDeposit := false }
    let late : BlockTxUsage :=
      { gasUsed := 21000, txSize := 110, daSize := 100, txData := 300, kvUpdates := 2,
        computeGasUsed := 21000, stateGrowthUsed := 0, isDeposit := true }
    let l := [full, late].foldl postExecutionUpdateRaw
      (new (BlockLimits.fromHardforkAndBlockGasLimit .rex4 30000000))
    l.isBlockLimitReached = true ∧ ∃ error, l.preExecutionCheck
      { txHash := 1, gasLimit := 21000, txSize := 110, daSize := 100, isDeposit := false } =
        .error error := by
  intro full late l
  have h := block_limit_reached_for_good
    (BlockLimits.fromHardforkAndBlockGasLimit .rex4 30000000) [full] [late] (by decide)
    ⟨by unfold UpdateFits naturalSum; decide, trivial⟩
  exact ⟨h.1, h.2 _ rfl (by decide) (by decide) (by decide) (by decide)⟩

end BlockLimiter

end MegaEvm
