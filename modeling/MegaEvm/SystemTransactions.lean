import MegaEvm.BlockExecutor
import MegaEvm.TxArgs

/-!
# Transactions of the sequencer

The sequencer holds an address from which only whitelisted contracts can be called. A legacy
transaction from there that calls one becomes a deposit in the context of the EVM, before it
is validated; any other transaction from there is refused. The EVM keeps the transaction of
its last call and can replay it.
-/

set_option autoImplicit false

namespace MegaEvm

def DEPOSIT_TRANSACTION_TYPE : ℕ := 126

def MEGA_SYSTEM_TX_WHITELIST : List Address := [ORACLE_CONTRACT_ADDRESS]

def MEGA_SYSTEM_TRANSACTION_SOURCE_HASH : ℕ :=
  0x852c082c0faff590c6300c2c34815d1f79882552fa95ba413cd5aeb1dba84957

/-- A transaction with a source hash is a deposit. -/
def OpTransaction.txType (tx : OpTransaction) : ℕ :=
  if tx.deposit.sourceHash = 0 then tx.base.txType else DEPOSIT_TRANSACTION_TYPE

def sentFromMegaSystemAddress (tx : OpTransaction) : Bool := tx.base.caller == MEGA_SYSTEM_ADDRESS

def checkIfMegaSystemTransaction (txSigner : Address) (txType : ℕ) (txKind : TxKind) : Bool :=
  if txType = 0 ∧ txSigner = MEGA_SYSTEM_ADDRESS then
    match txKind with
    | .create => false
    | .call address => MEGA_SYSTEM_TX_WHITELIST.contains address
  else false

def isMegaSystemTransaction (tx : OpTransaction) : Bool :=
  checkIfMegaSystemTransaction tx.base.caller tx.txType tx.base.kind

/-- The transaction as a deposit, which pays no gas. -/
def OpTransaction.asDeposit (tx : OpTransaction) : OpTransaction :=
  { tx with
    deposit := { tx.deposit with sourceHash := MEGA_SYSTEM_TRANSACTION_SOURCE_HASH }
    base := { tx.base with gasPrice := 0 } }

def NOT_WHITELISTED : String := "Mega system transaction callee is not in the whitelist"

def beforeRun (spec : MegaSpecId) (tx : OpTransaction) : Except String OpTransaction :=
  if spec.isEnabled .miniRex && sentFromMegaSystemAddress tx then
    if isMegaSystemTransaction tx then .ok tx.asDeposit else .error NOT_WHITELISTED
  else .ok tx

section Before

variable {spec : MegaSpecId} {tx : OpTransaction}

theorem isMegaSystemTransaction_iff : isMegaSystemTransaction tx = true ↔
    tx.base.caller = MEGA_SYSTEM_ADDRESS ∧ tx.base.txType = 0 ∧ tx.deposit.sourceHash = 0 ∧
      ∃ address ∈ MEGA_SYSTEM_TX_WHITELIST, tx.base.kind = .call address := by
  unfold isMegaSystemTransaction checkIfMegaSystemTransaction OpTransaction.txType
  by_cases hsource : tx.deposit.sourceHash = 0
  · cases hkind : tx.base.kind with
    | create => simp
    | call address =>
      by_cases htype : tx.base.txType = 0 <;>
        by_cases hcaller : tx.base.caller = MEGA_SYSTEM_ADDRESS <;>
        simp [hsource, htype, hcaller]
  · simp [hsource, DEPOSIT_TRANSACTION_TYPE]

theorem sent_of_isMegaSystemTransaction (h : isMegaSystemTransaction tx = true) :
    sentFromMegaSystemAddress tx = true := by
  obtain ⟨hcaller, -⟩ := isMegaSystemTransaction_iff.1 h
  simp [sentFromMegaSystemAddress, hcaller]

@[simp] theorem sentFromMegaSystemAddress_asDeposit :
    sentFromMegaSystemAddress tx.asDeposit = sentFromMegaSystemAddress tx := rfl

@[simp] theorem isMegaSystemTransaction_asDeposit :
    isMegaSystemTransaction tx.asDeposit = false := by
  rw [← Bool.not_eq_true, isMegaSystemTransaction_iff]
  rintro ⟨-, -, hsource, -⟩
  have hzero : MEGA_SYSTEM_TRANSACTION_SOURCE_HASH = 0 := hsource
  exact absurd hzero (by decide)

theorem beforeRun_other (h : (spec.isEnabled .miniRex && sentFromMegaSystemAddress tx) = false) :
    beforeRun spec tx = .ok tx := by
  simp [beforeRun, h]

theorem beforeRun_system (h : (spec.isEnabled .miniRex && sentFromMegaSystemAddress tx) = true) :
    beforeRun spec tx =
      if isMegaSystemTransaction tx then .ok tx.asDeposit else .error NOT_WHITELISTED := by
  simp only [beforeRun, h, if_true]

end Before

/-! ## Calls of one EVM -/

/-- The context's transaction, and the rest of the EVM with its database. -/
structure TxContext (W : Type) where
  tx : OpTransaction
  world : W

/-- The parts of the handler around `before_run`: what runs a transaction, as its own or as a
system call; what the rollup's handler makes of an error; and what is read off the EVM at the
end, which also takes the state out. -/
structure MegaHandler (W S L E R : Type) where
  runTx : W → OpTransaction → W × Except E R
  runSystemCall : W → OpTransaction → W × Except E R
  catchError : W → OpTransaction → E → W × Except E R
  fromString : String → E
  finalize : W → R → W × MegaTransactionOutcome S L

inductive EvmCall where
  | transact (tx : OpTransaction)
  | replay
  | transactSystemCall (tx : OpTransaction)

namespace MegaHandler

variable {W S L E R : Type} (h : MegaHandler W S L E R) (spec : MegaSpecId)

/-- A run of the transaction from where it has passed `before_run`. -/
def execute (w : W) (tx : OpTransaction) : W × Except E R :=
  match h.runTx w tx with
  | (w, .ok result) => (w, .ok result)
  | (w, .error e) => h.catchError w tx e

def run (x : TxContext W) : TxContext W × Except E R :=
  match beforeRun spec x.tx with
  | .error text =>
    let (world, result) := h.catchError x.world x.tx (h.fromString text)
    ({ x with world }, result)
  | .ok tx =>
    let (world, result) := h.execute x.world tx
    (⟨tx, world⟩, result)

def finish (x : TxContext W) : Except E R → TxContext W × Except E (MegaTransactionOutcome S L)
  | .error e => (x, .error e)
  | .ok result =>
    let (world, outcome) := h.finalize x.world result
    ({ x with world }, .ok outcome)

def call (x : TxContext W) : EvmCall → TxContext W × Except E (MegaTransactionOutcome S L)
  | .transact tx =>
    let (x, result) := h.run spec { x with tx }
    h.finish x result
  | .replay =>
    let (x, result) := h.run spec x
    h.finish x result
  | .transactSystemCall tx =>
    let (world, result) := h.runSystemCall x.world tx
    h.finish ⟨tx, world⟩ result

def calls (x : TxContext W) (cs : List EvmCall) : TxContext W :=
  cs.foldl (fun x c => (h.call spec x c).1) x

variable {h spec}

theorem finish_tx (x : TxContext W) (result : Except E R) : (h.finish x result).1.tx = x.tx := by
  cases result <;> rfl

theorem run_tx (x : TxContext W) :
    (h.run spec x).1.tx = (beforeRun spec x.tx).toOption.getD x.tx := by
  unfold run
  cases beforeRun spec x.tx <;> rfl

theorem call_replay_tx (x : TxContext W) :
    (h.call spec x .replay).1.tx = (beforeRun spec x.tx).toOption.getD x.tx := by
  rw [← run_tx]
  exact finish_tx _ _

theorem call_transact_tx (x : TxContext W) (tx : OpTransaction) :
    (h.call spec x (.transact tx)).1.tx = (beforeRun spec tx).toOption.getD tx := by
  rw [← run_tx (h := h) { x with tx }]
  exact finish_tx _ _

theorem beforeRun_again (tx : OpTransaction) :
    beforeRun spec ((beforeRun spec tx).toOption.getD tx) =
      if spec.isEnabled .miniRex && sentFromMegaSystemAddress tx then .error NOT_WHITELISTED
      else .ok tx := by
  cases hsystem : spec.isEnabled .miniRex && sentFromMegaSystemAddress tx with
  | false =>
    rw [beforeRun_other hsystem]
    simpa [Except.toOption] using beforeRun_other hsystem
  | true =>
    rw [beforeRun_system hsystem]
    cases hlisted : isMegaSystemTransaction tx with
    | true =>
      have hdeposit : (spec.isEnabled .miniRex && sentFromMegaSystemAddress tx.asDeposit) = true :=
        hsystem
      simpa [Except.toOption] using beforeRun_system hdeposit
    | false => simpa [Except.toOption, hlisted] using beforeRun_system hsystem

end MegaHandler

/-- What a call hands to the run, where `before_run` lets it. -/
def submitted {W : Type} (spec : MegaSpecId) (x : TxContext W) :
    EvmCall → Except String OpTransaction
  | .transact tx => beforeRun spec tx
  | .replay => beforeRun spec x.tx
  | .transactSystemCall tx => .ok tx

namespace MegaHandler

variable {W S L E R : Type} {h : MegaHandler W S L E R} {spec : MegaSpecId}

@[simp] theorem calls_append (x : TxContext W) (cs ds : List EvmCall) :
    h.calls spec x (cs ++ ds) = h.calls spec (h.calls spec x cs) ds :=
  List.foldl_append

theorem calls_replay_tx (x : TxContext W) (before : List EvmCall) (tx : OpTransaction) (n : ℕ) :
    (h.calls spec x (before ++ .transact tx :: List.replicate n .replay)).tx =
      (beforeRun spec tx).toOption.getD tx := by
  induction n with
  | zero =>
    rw [List.replicate_zero, calls_append]
    exact call_transact_tx _ tx
  | succ n ih =>
    rw [List.replicate_succ', ← List.cons_append, ← List.append_assoc, calls_append]
    show (h.call spec _ .replay).1.tx = _
    rw [call_replay_tx, ih, beforeRun_again]
    cases hsystem : spec.isEnabled .miniRex && sentFromMegaSystemAddress tx with
    | false =>
      rw [beforeRun_other hsystem]
      rfl
    | true => rfl

/-- After any calls, a transaction that is replayed any number of times is handed to the
run as it was given, unless the sequencer sent it: then it is refused. -/
theorem submitted_replay (x : TxContext W) (before : List EvmCall) (tx : OpTransaction) (n : ℕ) :
    submitted spec (h.calls spec x (before ++ .transact tx :: List.replicate n .replay)) .replay =
      if spec.isEnabled .miniRex && sentFromMegaSystemAddress tx then .error NOT_WHITELISTED
      else .ok tx := by
  rw [submitted, calls_replay_tx, beforeRun_again]

/-- A replay hands the run what the transaction itself handed it, whatever was called before
and however often it has been replayed, exactly if it is no transaction of the sequencer or
the spec does not know these. One of those is a deposit by then, and is refused. -/
theorem replay_repeats_iff (h : MegaHandler W S L E R) (spec : MegaSpecId) (x : TxContext W)
    (before : List EvmCall) (tx : OpTransaction) (n : ℕ) :
    (submitted spec (h.calls spec x (before ++ .transact tx :: List.replicate n .replay)) .replay =
        submitted spec (h.calls spec x before) (.transact tx) ↔
      ¬ (spec.isEnabled .miniRex = true ∧ isMegaSystemTransaction tx = true)) ∧
    (spec.isEnabled .miniRex = true → isMegaSystemTransaction tx = true →
      (h.calls spec x (before ++ .transact tx :: List.replicate n .replay)).tx = tx.asDeposit ∧
      submitted spec (h.calls spec x (before ++ .transact tx :: List.replicate n .replay))
        .replay = .error NOT_WHITELISTED) := by
  rw [submitted_replay]
  constructor
  · show _ = beforeRun spec tx ↔ _
    cases hsystem : spec.isEnabled .miniRex && sentFromMegaSystemAddress tx with
    | false =>
      simp only [beforeRun_other hsystem, Bool.false_eq_true, if_false, true_iff]
      rintro ⟨hspec, hlisted⟩
      simp [hspec, sent_of_isMegaSystemTransaction hlisted] at hsystem
    | true =>
      rw [beforeRun_system hsystem]
      obtain ⟨hspec, -⟩ := Bool.and_eq_true_iff.1 hsystem
      cases hlisted : isMegaSystemTransaction tx <;> simp [hspec]
  · intro hspec hlisted
    have hsystem : (spec.isEnabled .miniRex && sentFromMegaSystemAddress tx) = true := by
      simp [hspec, sent_of_isMegaSystemTransaction hlisted]
    rw [calls_replay_tx, beforeRun_system hsystem, if_pos hlisted]
    exact ⟨rfl, if_pos hsystem⟩

/-! ## Blocks -/

/-- The EVM of a block executor, whose transactions come with their environments. -/
def blockEvm (h : MegaHandler W S L E R) (spec : MegaSpecId)
    (loadCacheAccount : W → ℕ → W × Except E UInt64) (commit : W → S → W) :
    BlockEvm (TxContext W) OpTransaction S L E where
  loadCacheAccount x address :=
    let (world, nonce) := loadCacheAccount x.world address
    ({ x with world }, nonce)
  executeTransaction x tx := h.call spec x (.transact tx.txEnv)
  commit x state := { x with world := commit x.world state }

/-- The rollup's handler catches only errors of a transaction, and a text is none. -/
def TextUncaught (h : MegaHandler W S L E R) : Prop :=
  ∀ w tx text, (h.catchError w tx (h.fromString text)).2 = .error (h.fromString text)

def RanAs (h : MegaHandler W S L E R) (tx : OpTransaction)
    (outcome : MegaTransactionOutcome S L) : Prop :=
  ∃ w w' result, h.execute w tx = (w', .ok result) ∧ (h.finalize w' result).2 = outcome

/-- What became of a transaction that was run: from the sequencer it called a whitelisted
contract, and was run as a deposit that pays no gas. -/
structure Whitelisted (h : MegaHandler W S L E R) (tx : OpTransaction)
    (outcome : MegaTransactionOutcome S L) : Prop where
  legacy : tx.base.txType = 0
  noDeposit : tx.deposit.sourceHash = 0
  callee : ∃ address ∈ MEGA_SYSTEM_TX_WHITELIST, tx.base.kind = .call address
  ranAs : h.RanAs tx.asDeposit outcome

theorem transact_ranAs (hcatch : h.TextUncaught) {x y : TxContext W} {tx : OpTransaction}
    {outcome : MegaTransactionOutcome S L}
    (hcall : h.call spec x (.transact tx) = (y, .ok outcome)) :
    ∃ tx', beforeRun spec tx = .ok tx' ∧ h.RanAs tx' outcome := by
  unfold call run at hcall
  cases hbefore : beforeRun spec tx with
  | error text =>
    have hcaught := hcatch x.world tx text
    simp only [hbefore] at hcall
    rw [hcaught] at hcall
    cases hcall
  | ok tx' =>
    simp only [hbefore] at hcall
    cases hrun : h.execute x.world tx' with
    | mk w r =>
      rw [hrun] at hcall
      cases r with
      | error e => cases hcall
      | ok result =>
        cases hcall
        exact ⟨tx', rfl, x.world, w, result, hrun, rfl⟩

theorem transact_whitelisted (hcatch : h.TextUncaught) {x y : TxContext W} {tx : OpTransaction}
    {outcome : MegaTransactionOutcome S L}
    (hcall : h.call spec x (.transact tx) = (y, .ok outcome)) :
    if spec.isEnabled .miniRex && sentFromMegaSystemAddress tx then h.Whitelisted tx outcome
    else h.RanAs tx outcome := by
  obtain ⟨tx', hbefore, hran⟩ := transact_ranAs hcatch hcall
  cases hsystem : spec.isEnabled .miniRex && sentFromMegaSystemAddress tx with
  | false =>
    rw [beforeRun_other hsystem] at hbefore
    cases hbefore
    exact hran
  | true =>
    rw [beforeRun_system hsystem] at hbefore
    cases hlisted : isMegaSystemTransaction tx with
    | false => simp [hlisted] at hbefore
    | true =>
      obtain ⟨-, hlegacy, hsource, hcallee⟩ := isMegaSystemTransaction_iff.1 hlisted
      simp only [hlisted, if_true, Except.ok.injEq] at hbefore
      subst hbefore
      exact ⟨hlegacy, hsource, hcallee, hran⟩

end MegaHandler

theorem BlockRun.all_committed {W T S L E R : Type} {evm : BlockEvm W T S L E}
    {builder : OpReceiptBuilder W T S L R} {P : BlockMegaTransactionOutcome T S L → Prop}
    (hrun : ∀ (x y : MegaBlockExecutor W S R) tx o, x.runTransaction evm tx = (y, .ok o) → P o)
    {limits : BlockLimits} {w : W} {ops : List (BlockOp T)} {s : BlockRun W T S L R}
    (hs : Run.run (BlockRun.step evm builder) (BlockRun.new limits w) ops = some s) :
    ∀ o ∈ s.committed, P o := by
  have hstart : (∀ o ∈ (BlockRun.new limits w : BlockRun W T S L R).outcomes, P o) ∧
      ∀ o ∈ (BlockRun.new limits w : BlockRun W T S L R).committed, P o := by
    constructor <;> (intro o ho; cases ho)
  refine (Run.invariant' (I := fun t : BlockRun W T S L R =>
    (∀ o ∈ t.outcomes, P o) ∧ ∀ o ∈ t.committed, P o) ?_ hstart hs).2
  rintro t op t' ⟨houtcomes, hcommitted⟩ hstep
  cases op with
  | runTransaction tx =>
    simp only [step] at hstep
    split at hstep
    next y o ho =>
      obtain rfl : _ = t' := by simpa using hstep
      refine ⟨fun o' ho' => ?_, hcommitted⟩
      rcases List.mem_append.1 ho' with hold | hnew
      · exact houtcomes o' hold
      · obtain rfl : o' = o := by simpa using hnew
        exact hrun _ _ tx o' ho
    next =>
      obtain rfl : _ = t' := by simpa using hstep
      exact ⟨houtcomes, hcommitted⟩
  | commitTransactionOutcome index =>
    obtain ⟨o, ho, rfl⟩ := Option.map_eq_some_iff.1 hstep
    split
    next =>
      refine ⟨houtcomes, fun o' ho' => ?_⟩
      rcases List.mem_append.1 ho' with hold | hnew
      · exact hcommitted o' hold
      · obtain rfl : o' = o := by simpa using hnew
        exact houtcomes o' (List.mem_of_getElem? ho)
    next => exact ⟨houtcomes, hcommitted⟩

def legacyCall (caller target : Address) : OpTransaction :=
  .new { caller, gasPrice := 5, gasPriorityFee := none, blobHashes := [], maxFeePerBlobGas := 0,
         txType := 0, gasLimit := 50000, data := [], nonce := 0, value := 0, accessList := [],
         authorizationList := [], kind := .call target, chainId := none }

def legacyBlockTx (caller target : Address) : BlockTx OpTransaction where
  txHash := 1
  gasLimit := 50000
  encode2718Len := 110
  estimatedDaSize := 100
  isDeposit := false
  signer := caller
  txEnv := legacyCall caller target

namespace MegaHandler

variable {W S L E R Rc : Type}

/-- However a block is run and committed, every transaction of the sequencer in it is a legacy
transaction that called a whitelisted contract and was run as a deposit that pays no gas; any
other was run as it was given. -/
theorem committed_whitelisted (h : MegaHandler W S L E R) (hcatch : h.TextUncaught)
    (spec : MegaSpecId) (load : W → ℕ → W × Except E UInt64) (commit : W → S → W)
    (builder : OpReceiptBuilder (TxContext W) OpTransaction S L Rc) (limits : BlockLimits)
    (x : TxContext W) (ops : List (BlockOp OpTransaction))
    (s : BlockRun (TxContext W) OpTransaction S L Rc)
    (hs : Run.run (BlockRun.step (h.blockEvm spec load commit) builder) (BlockRun.new limits x)
      ops = some s) :
    ∀ o ∈ s.committed,
      if spec.isEnabled .miniRex && sentFromMegaSystemAddress o.tx.txEnv then
        h.Whitelisted o.tx.txEnv o.inner
      else h.RanAs o.tx.txEnv o.inner := by
  refine BlockRun.all_committed (fun y y' tx o ho => ?_) hs
  obtain ⟨rfl, w, w', hexecute⟩ := MegaBlockExecutor.run_transaction_outcome ho
  exact transact_whitelisted hcatch hexecute

def pricingHandler : MegaHandler ℕ ℕ ℕ String ℕ where
  runTx w tx :=
    if tx.base.gasLimit < 21000 then (w, .error "CallGasCostMoreThanGasLimit")
    else (w + 1, .ok tx.base.gasPrice)
  runSystemCall w _ := (w, .ok 0)
  catchError w _ e := (w, .error e)
  fromString text := text
  finalize w result :=
    (w, { success := true, gasUsed := 21000, logs := [], state := result, dataSize := 110,
          kvUpdates := 2, computeGasUsed := 21000, stateGrowthUsed := 0 })

/-- The sequencer calls the oracle and, in vain, another contract; someone calls the oracle. -/
def sequencerBlock : List (BlockOp OpTransaction) :=
  [.runTransaction (legacyBlockTx MEGA_SYSTEM_ADDRESS ORACLE_CONTRACT_ADDRESS),
   .runTransaction (legacyBlockTx MEGA_SYSTEM_ADDRESS 7),
   .runTransaction (legacyBlockTx 8 ORACLE_CONTRACT_ADDRESS),
   .commitTransactionOutcome 1, .commitTransactionOutcome 0]

theorem pricingHandler_textUncaught : pricingHandler.TextUncaught := fun _ _ _ => rfl

theorem committed_whitelisted_sample :
    ∃ s, Run.run (BlockRun.step (pricingHandler.blockEvm .rex4 (fun w _ => (w, .ok 0)) (· + ·))
        cumulativeReceipts) (BlockRun.new BlockRun.rex4Limits ⟨legacyCall 0 0, 0⟩) sequencerBlock =
          some s ∧
      s.committed.map (·.inner.state) = [5, 0] ∧
      ∀ o ∈ s.committed,
        if MegaSpecId.rex4.isEnabled .miniRex && sentFromMegaSystemAddress o.tx.txEnv then
          pricingHandler.Whitelisted o.tx.txEnv o.inner
        else pricingHandler.RanAs o.tx.txEnv o.inner := by
  have hrun : Run.run (BlockRun.step (pricingHandler.blockEvm .rex4 (fun w _ => (w, .ok 0))
      (· + ·)) cumulativeReceipts) (BlockRun.new BlockRun.rex4Limits ⟨legacyCall 0 0, 0⟩)
      sequencerBlock = some _ := rfl
  refine ⟨_, hrun, rfl, ?_⟩
  exact committed_whitelisted pricingHandler pricingHandler_textUncaught .rex4 _ _ cumulativeReceipts
    BlockRun.rex4Limits ⟨legacyCall 0 0, 0⟩ sequencerBlock _ hrun

end MegaHandler

end MegaEvm
