import MegaEvm.BeneficiaryDetection
import MegaEvm.ExceededStart
import MegaEvm.HookClosed
import MegaEvm.SandboxContext

/-!
# One context for many transactions

An EVM keeps its context from one transaction to the next. Whatever a transaction did to
the limits and to the volatile access tracker, and wherever it was given up, the next one
starts as it would in a new context, but for the detained limit: before the second Rex spec
that one is never raised again.
-/

set_option autoImplicit false

namespace MegaEvm

/-! ## What no transaction changes -/

/-- The limits a transaction is given, as the trackers hold them. -/
structure Configuration where
  spec : MegaSpecId
  limits : EvmTxRuntimeLimits
  stateGrowth : ℕ
  dataSize : ℕ
  kvUpdate : ℕ
  computeGas : ℕ
  deriving DecidableEq, Repr

namespace AdditionalLimit

def configuration (l : AdditionalLimit) : Configuration where
  spec := l.spec
  limits := l.limits
  stateGrowth := l.stateGrowth.txLimit
  dataSize := l.dataSize.txLimit
  kvUpdate := l.kvUpdate.txLimit
  computeGas := l.computeGas.frameTracker.txLimit

section Hooks

variable (l : AdditionalLimit)

@[simp] theorem configuration_checkLimit : l.checkLimit.configuration = l.configuration := by
  unfold checkLimit
  split <;> rfl

@[simp] theorem configuration_tryRescueGas (g : Gas) :
    (l.tryRescueGas g).configuration = l.configuration := by
  unfold tryRescueGas
  split
  · exact l.configuration_checkLimit
  · exact l.configuration_checkLimit

theorem configuration_recordComputeGas (g : ℕ) :
    (l.recordComputeGas g).configuration = l.configuration := by
  unfold recordComputeGas
  rw [configuration_checkLimit]
  unfold configuration ComputeGasTracker.recordGasUsed
  split
  · simp
  · rfl

theorem txLimit_recordIf (b : Bool) (n : ℕ) (t : AccountTracker) :
    (AccountTracker.recordIf b n t).txLimit = t.txLimit := by
  unfold AccountTracker.recordIf FrameLimitTracker.recordDiscardable
  split
  · simp
  · rfl

theorem txLimit_afterSstoreBy (unit : ℕ) (t : AccountTracker) (r : SStoreResult) :
    (AccountTracker.afterSstoreBy unit t r).txLimit = t.txLimit := by
  unfold AccountTracker.afterSstoreBy FrameLimitTracker.recordDiscardable
    FrameLimitTracker.recordRefund
  split
  · split
    · simp
    · rfl
  · split
    · simp
    · rfl

theorem txLimit_beforeFrameInitBy (unit : ℕ) (rex4 : Bool) (t : AccountTracker)
    (input : FrameInput) :
    (AccountTracker.beforeFrameInitBy unit rex4 t input).txLimit = t.txLimit := by
  cases input with
  | call i =>
    unfold AccountTracker.beforeFrameInitBy
    simp only
    split
    · rw [FrameLimitTracker.recordDiscardable, FrameLimitTracker.txLimit_modifyFrame,
        txLimit_recordIf, FrameLimitTracker.txLimit_pushFrameBy]
    · exact FrameLimitTracker.txLimit_pushFrameBy _
  | create i =>
    show (AccountTracker.recordIf _ unit _).txLimit = _
    rw [txLimit_recordIf, FrameLimitTracker.txLimit_pushFrameBy]

theorem txLimit_stateGrowth_afterSstore (t : StateGrowthTracker) (r : SStoreResult) :
    (StateGrowthTracker.afterSstore t r).txLimit = t.txLimit := by
  unfold StateGrowthTracker.afterSstore FrameLimitTracker.recordDiscardable
    FrameLimitTracker.recordRefund
  split
  · simp
  · simp
  · rfl

theorem txLimit_stateGrowth_beforeFrameInit (rex4 : Bool) (t : StateGrowthTracker)
    (input : FrameInput) (targetEmpty : Bool) :
    (StateGrowthTracker.beforeFrameInit rex4 t input targetEmpty).txLimit = t.txLimit := by
  cases input with
  | call i =>
    unfold StateGrowthTracker.beforeFrameInit FrameLimitTracker.recordDiscardable
    simp only
    split
    · simp
    · simp
  | create i =>
    unfold StateGrowthTracker.beforeFrameInit FrameLimitTracker.recordDiscardable
    simp

theorem txLimit_afterFrameInitOnFrameBy (unit : ℕ) (t : AccountTracker)
    (created : Option Address) :
    (AccountTracker.afterFrameInitOnFrameBy unit t created).txLimit = t.txLimit := by
  cases created with
  | none => rfl
  | some a => exact FrameLimitTracker.txLimit_modifyFrame _ _

theorem configuration_closed (k : Configuration) : HookClosed fun l => l.configuration = k where
  recordComputeGas l g h := (l.configuration_recordComputeGas g).trans h
  setComputeGasLimit l cap h := h
  onSstore l r h := by
    rw [onSstore, configuration_checkLimit, ← h]
    simp only [configuration, DataSizeTracker.afterSstore, KVUpdateTracker.afterSstore,
      txLimit_afterSstoreBy, txLimit_stateGrowth_afterSstore]
  onLog l topics size h := by
    rw [onLog, configuration_checkLimit, ← h]
    simp only [configuration, DataSizeTracker.afterLog, FrameLimitTracker.recordDiscardable,
      FrameLimitTracker.txLimit_modifyFrame]
  checkLimit l h := l.configuration_checkLimit.trans h
  openFrame l input te h := by
    rw [openFrame, configuration_checkLimit, ← h]
    simp only [configuration, DataSizeTracker.beforeFrameInit, KVUpdateTracker.beforeFrameInit,
      txLimit_beforeFrameInitBy, txLimit_stateGrowth_beforeFrameInit, ComputeGasTracker.pushFrame,
      FrameLimitTracker.txLimit_pushFrameBy]
  pushEmptyFrame l h := by
    rw [← h]
    simp only [configuration, pushEmptyFrame, StateGrowthTracker.pushEmptyFrame,
      AccountTracker.pushEmptyFrame, ComputeGasTracker.pushFrame,
      FrameLimitTracker.txLimit_pushFrameBy]
  afterFrameInitItem l created h := by
    rw [← h]
    simp only [configuration, afterFrameInitItem, DataSizeTracker.afterFrameInitOnFrame,
      KVUpdateTracker.afterFrameInitOnFrame, txLimit_afterFrameInitOnFrameBy]
  returnLimit l isCreate r h := by
    unfold returnLimit
    split
    · rw [configuration_checkLimit, ← h]
      simp only [configuration, countOutput, DataSizeTracker.afterFrameRun, if_true,
        FrameLimitTracker.recordDiscardable, FrameLimitTracker.txLimit_modifyFrame]
    · exact h
  tryRescueGas l g h := (l.configuration_tryRescueGas g).trans h
  beforeFrameReturnResult l last r h := by
    have hclose : (l.closeFrame r.instructionResult.isOk).configuration = k := by
      rw [closeFrame, configuration_checkLimit, ← h]
      simp only [configuration, ComputeGasTracker.popFrame, FrameLimitTracker.txLimit_popFrame]
    unfold beforeFrameReturnResult
    simp only
    split
    · split
      · exact hclose
      · exact hclose
    · exact hclose

end Hooks

end AdditionalLimit

namespace VolatileDataAccessTracker

def caps (t : VolatileDataAccessTracker) : ℕ × ℕ := (t.blockEnvAccessLimit, t.oracleAccessLimit)

theorem caps_checkAndMarkOracleAccess (t : VolatileDataAccessTracker) (a : Address) :
    (t.checkAndMarkOracleAccess a).caps = t.caps := by
  unfold checkAndMarkOracleAccess
  split <;> rfl

theorem caps_markOption (t : VolatileDataAccessTracker) (a : Option VolatileAccess) :
    (t.markOption a).caps = t.caps := by
  cases a with
  | none => rfl
  | some a =>
    cases a with
    | blockEnv ty => rfl
    | beneficiary => rfl
    | oracle => exact t.caps_checkAndMarkOracleAccess _

theorem caps_disableAccess (t : VolatileDataAccessTracker) (depth : ℕ) :
    (t.disableAccess depth).caps = t.caps := by
  unfold disableAccess
  split
  · split <;> rfl
  · rfl

theorem caps_enableAccess (t : VolatileDataAccessTracker) (depth : ℕ) :
    (t.enableAccess depth).1.caps = t.caps := by
  unfold enableAccess
  split
  · rfl
  · split <;> rfl

theorem caps_enableAccessIfReturning (t : VolatileDataAccessTracker) (depth : ℕ) :
    (t.enableAccessIfReturning depth).caps = t.caps := by
  unfold enableAccessIfReturning
  split
  · split <;> rfl
  · rfl

theorem caps_checkTxBeneficiaryAccess (env : Env) (t : VolatileDataAccessTracker) :
    (checkTxBeneficiaryAccess env t).caps = t.caps := by
  have hcaller : ∀ b : Prop, ∀ _ : Decidable b, ∀ t : VolatileDataAccessTracker,
      (if b then t.markBeneficiaryBalanceAccessed else t).caps = t.caps := by
    intro b _ t
    split <;> rfl
  unfold checkTxBeneficiaryAccess
  simp only
  split
  · rw [hcaller, hcaller]
  · rw [hcaller]

/-- A tracker that is reset is new but for its caps. -/
theorem reset_eq (t : VolatileDataAccessTracker) : t.reset = .new t.caps.1 t.caps.2 := rfl

end VolatileDataAccessTracker

section Volatile

open VolatileDataAccessTracker

variable {env : Env} {s s' : State}

theorem caps_detected (env : Env) (s : State) (input : FrameInput) :
    (detected env s input).volatile.caps = s.volatile.caps := by
  cases input with
  | create i => rfl
  | call i =>
    show (detectOracle env s i).volatile.caps = _
    rw [detectOracle_eq]
    split
    · exact s.volatile.caps_checkAndMarkOracleAccess _
    · rfl

theorem caps_dispatch {i : CallInputs} {outcome : KeylessOutcome} {s₁ : State} {r : FrameResult}
    (h : dispatchSystemContractInterceptors env s i outcome = .answered s₁ r) :
    s₁.volatile.caps = s.volatile.caps := by
  unfold dispatchSystemContractInterceptors at h
  split at h
  · cases executeKeylessDeployCall_answered h <;> rfl
  · split at h
    · unfold accessControlIntercept at h
      cases hn : rejectNonZeroTransfer i with
      | some r' =>
        simp only [hn] at h
        split at h <;> cases h <;> rfl
      | none =>
        simp only [hn] at h
        split at h
        case h_1 =>
          cases h
          exact caps_disableAccess _ _
        case h_2 =>
          cases h
          exact caps_enableAccess _ _
        case h_3 =>
          cases h
          rfl
        case h_4 => cases h
    · split at h
      · rw [(limitControlIntercept_answered h).1]
      · cases h

theorem caps_frameInit {input : FrameInput} {ev : InitEvent}
    (h : frameInit env s input ev = some s') : s'.volatile.caps = s.volatile.caps := by
  rw [← caps_detected env s input]
  rw [frameInit_eq] at h
  cases hi : interceptedBy env (detected env s input) input ev with
  | panicked =>
    rw [hi] at h
    cases h
  | answered s₁ fr =>
    rw [hi] at h
    cases input with
    | create i => cases hi
    | call i =>
      have hcaps := caps_dispatch hi
      cases h
      exact hcaps
  | no =>
    simp only [hi] at h
    split at h
    · cases h
      rfl
    · cases input with
      | call i =>
        have hv := makeCallFrame_volatile h
        exact congrArg caps hv
      | create i =>
        have hv := makeCreateFrame_volatile h
        exact congrArg caps hv

theorem caps_step {e : Event} (h : step env s e = some s') :
    s'.volatile.caps = s.volatile.caps := by
  cases step_spec h with
  | @init input ev _ hp _ =>
    unfold step at h
    simp only [hp] at h
    exact caps_frameInit h
  | stopped | resumed | opened | returned | hand | finish => rfl
  | @op f rest ev hp hf =>
    show (instruction env ev (s.ctx f)).volatile.caps = _
    rw [instruction_volatile]
    exact caps_markOption _ _
  | @insert p hp hn =>
    have hafter : (volatileAfter env s).caps = s.volatile.caps := by
      unfold volatileAfter
      split
      · exact caps_enableAccessIfReturning _ _
      · rfl
    cases hf : s.frames with
    | nil =>
      rw [insertResult_nil env p hf]
      exact hafter
    | cons f rest =>
      rw [insertResult_cons env p hf]
      exact hafter

end Volatile

/-! ## The life of a context -/

/-- The start of a transaction under the limits of a context. -/
def StartEvent.under (given : StartEvent) (limits : EvmTxRuntimeLimits)
    (h : limits.txComputeGasLimit ≤ u64Max) (detainedLimit : ℕ) : StartEvent :=
  { given with
    limits := limits
    detainedLimit := detainedLimit
    computeGasLimit_u64 := h }

/-- What is done to a context. `invalid` is a transaction that is rejected before its initial
gas is known. Of a start event only what it says of the transaction is used. -/
inductive ContextOp where
  | withBlock (block : BlockEnv)
  | invalid (tx : MegaTransaction)
  | transaction (tx : MegaTransaction) (isDeposit : Bool) (given : StartEvent)
      (events : List Event)
  | systemCall (tx : MegaTransaction) (given : StartEvent) (events : List Event)

namespace MegaContext

variable {L1BlockInfo : Type}

def txEnv (c : MegaContext L1BlockInfo) (tx : MegaTransaction) (isDeposit : Bool) : Env where
  spec := c.spec
  beneficiary := c.block.beneficiary
  tx := tx
  isDeposit := isDeposit
  maxCodeSize := c.cfg.limitContractCodeSize.getD 0x6000
  sandboxDisabled := c.disableSandbox

def resetVolatileDataAccess (c : MegaContext L1BlockInfo) : MegaContext L1BlockInfo :=
  { c with volatileDataTracker := c.volatileDataTracker.reset }

def checkTxBeneficiaryAccess (c : MegaContext L1BlockInfo) (tx : MegaTransaction) :
    MegaContext L1BlockInfo :=
  { c with volatileDataTracker :=
      MegaEvm.checkTxBeneficiaryAccess (c.txEnv tx false) c.volatileDataTracker }

def onNewTx (c : MegaContext L1BlockInfo) (tx : MegaTransaction) : MegaContext L1BlockInfo :=
  let c := c.resetVolatileDataAccess.checkTxBeneficiaryAccess tx
  if c.spec.isEnabled .miniRex then
    { c with additionalLimit := c.additionalLimit.reset.beforeTxStart tx }
  else c

/-- `validate` counts the initial gas before it looks at it. -/
def recordInitialGas (c : MegaContext L1BlockInfo) (gas : ℕ) : MegaContext L1BlockInfo :=
  if c.spec.isEnabled .miniRex then
    { c with additionalLimit := c.additionalLimit.recordComputeGas gas }
  else c

/-- The first state of a transaction, or `none` for one that is not valid. -/
def start (c : MegaContext L1BlockInfo) (tx : MegaTransaction) (isDeposit : Bool)
    (given : StartEvent) : Option State :=
  let env := c.txEnv tx isDeposit
  let c := (c.onNewTx tx).recordInitialGas given.intrinsicGas
  if initialGas env given > tx.gasLimit then none
  else (creationStorageGas env given).map fun storageGas =>
    let s : State :=
      { limit := c.additionalLimit
        volatile := c.volatileDataTracker
        frames := []
        journal := given.journal
        senderNonce := match tx.kind with
          | .call _ => given.nonce + 1
          | .create => given.nonce
        phase := .run }
    if tx.gasLimit < initialGas env given + storageGas then
      { s with phase := .done ⟨⟨decide (tx.kind = .create),
        ⟨.outOfGas, [], .newSpent tx.gasLimit⟩⟩, given.journal⟩ }
    else
      let gasLimit := tx.gasLimit - (initialGas env given + storageGas)
      { s with phase := .init (firstFrameInput env gasLimit) }

/-- `run_system_call`: nothing is validated or charged. -/
def systemStart (c : MegaContext L1BlockInfo) (tx : MegaTransaction) (given : StartEvent) :
    State :=
  let env := c.txEnv tx false
  let c := c.onNewTx tx
  { limit := c.additionalLimit
    volatile := c.volatileDataTracker
    frames := []
    journal := given.journal
    senderNonce := given.nonce
    phase := .init (firstFrameInput env tx.gasLimit) }

def leave (c : MegaContext L1BlockInfo) (s : State) : MegaContext L1BlockInfo :=
  { c with
    additionalLimit := s.limit
    volatileDataTracker := s.volatile }

def step (c : MegaContext L1BlockInfo) : ContextOp → Option (MegaContext L1BlockInfo)
  | .withBlock block => some (c.withBlock block)
  | .invalid tx => some (c.onNewTx tx)
  | .transaction tx isDeposit given events =>
    match c.start tx isDeposit given with
    | none => some ((c.onNewTx tx).recordInitialGas given.intrinsicGas)
    | some s => (Run.run (MegaEvm.step (c.txEnv tx isDeposit)) s events).map c.leave
  | .systemCall tx given events =>
    (Run.run (MegaEvm.step (c.txEnv tx false)) (c.systemStart tx given) events).map c.leave

def detained (c : MegaContext L1BlockInfo) : ℕ := c.additionalLimit.computeGas.detainedLimit

structure Carries (c : MegaContext L1BlockInfo) (spec : MegaSpecId)
    (limits : EvmTxRuntimeLimits) : Prop where
  spec_eq : c.spec = spec
  configuration : c.additionalLimit.configuration = (AdditionalLimit.new spec limits).configuration
  caps : c.volatileDataTracker.caps =
    (limits.blockEnvAccessComputeGasLimit, limits.oracleAccessComputeGasLimit)
  detained_le : c.detained ≤ limits.txComputeGasLimit

variable {c c' : MegaContext L1BlockInfo} {spec : MegaSpecId} {limits : EvmTxRuntimeLimits}
  {tx : MegaTransaction} {isDeposit : Bool} {given : StartEvent}

theorem carries_withTxRuntimeLimits (c : MegaContext L1BlockInfo) (limits : EvmTxRuntimeLimits) :
    (c.withTxRuntimeLimits limits).Carries c.spec limits :=
  ⟨rfl, rfl, rfl, le_rfl⟩

theorem onNewTx_spec : (c.onNewTx tx).spec = c.spec := by
  unfold onNewTx
  simp only
  split <;> rfl

theorem reset_eq {l : AdditionalLimit}
    (h : l.configuration = (AdditionalLimit.new spec limits).configuration) :
    l.reset = { AdditionalLimit.new spec limits with
      computeGas := ComputeGasTracker.reset (spec.isEnabled .rex1)
        ⟨l.computeGas.detainedLimit, .new limits.txComputeGasLimit⟩ } := by
  obtain ⟨hspec, hlimits, hgrowth, hdata, hkv, hcompute⟩ := Configuration.mk.inj h
  simp only [AdditionalLimit.new, FrameLimitTracker.txLimit, ComputeGasTracker.new,
    FrameLimitTracker.new, FrameLimitEntry.new] at hspec hlimits hgrowth hdata hkv hcompute
  simp only [AdditionalLimit.reset, AdditionalLimit.new, ComputeGasTracker.reset,
    FrameLimitTracker.reset, FrameLimitTracker.new, FrameLimitTracker.txLimit,
    FrameLimitEntry.new, hspec, hlimits, hgrowth, hdata, hkv, hcompute]

theorem onNewTx_limit (tx : MegaTransaction) (isDeposit : Bool) (given : StartEvent)
    (h : c.Carries spec limits) (hmini : spec.isEnabled .miniRex = true)
    (hu : limits.txComputeGasLimit ≤ u64Max) : (c.onNewTx tx).additionalLimit =
      MegaEvm.onNewTx (c.txEnv tx isDeposit) (given.under limits hu c.detained) := by
  have hspec := h.spec_eq
  have hreset := reset_eq h.configuration
  unfold onNewTx
  simp only [resetVolatileDataAccess, checkTxBeneficiaryAccess, hspec, hmini, if_true, hreset]
  rw [MegaEvm.onNewTx_eq, AdditionalLimit.beforeTxStart]
  simp only [newTxTrackers, txEnv, StartEvent.under, hspec]
  rfl

theorem onNewTx_volatile (tx : MegaTransaction) (isDeposit : Bool)
    (h : c.Carries spec limits) : (c.onNewTx tx).volatileDataTracker =
    MegaEvm.checkTxBeneficiaryAccess (c.txEnv tx isDeposit)
      (.new limits.blockEnvAccessComputeGasLimit limits.oracleAccessComputeGasLimit) := by
  have hreset : c.volatileDataTracker.reset =
      .new limits.blockEnvAccessComputeGasLimit limits.oracleAccessComputeGasLimit := by
    rw [VolatileDataAccessTracker.reset_eq, h.caps]
  unfold onNewTx
  simp only [resetVolatileDataAccess, checkTxBeneficiaryAccess, hreset]
  split <;> rfl

/-- A context starts a transaction under the limits it was given and the detained limit it
has come down to. -/
theorem start_eq (h : c.Carries spec limits) (hmini : spec.isEnabled .miniRex = true)
    (hu : limits.txComputeGasLimit ≤ u64Max) : c.start tx isDeposit given =
      MegaEvm.start (c.txEnv tx isDeposit) (given.under limits hu c.detained) := by
  have hlimit := onNewTx_limit tx isDeposit given h hmini hu
  have hvolatile := onNewTx_volatile tx isDeposit h
  have hon : (c.onNewTx tx).spec.isEnabled .miniRex = true := by
    rw [onNewTx_spec, h.spec_eq]
    exact hmini
  unfold start MegaEvm.start
  simp only [recordInitialGas, hon, if_true, hlimit, hvolatile]
  rfl

theorem start_withTxRuntimeLimits (hmini : c.spec.isEnabled .miniRex = true)
    (hu : limits.txComputeGasLimit ≤ u64Max) :
    (c.withTxRuntimeLimits limits).start tx isDeposit given =
      MegaEvm.start (c.txEnv tx isDeposit)
        (given.under limits hu limits.txComputeGasLimit) :=
  start_eq (carries_withTxRuntimeLimits c limits) hmini hu

theorem start_detainedLimit {env : Env} {ev : StartEvent} {s : State}
    (h : MegaEvm.start env ev = some s) : s.limit.computeGas.detainedLimit =
      if env.spec.isEnabled .rex1 then ev.limits.txComputeGasLimit else ev.detainedLimit := by
  rw [start_limit h, onNewTx_eq, AdditionalLimit.recordComputeGas_computeGas,
    recordGasUsed_detainedLimit, AdditionalLimit.checkLimit_computeGas]
  rfl

/-- Two starts of one transaction differ in the detained limit alone, and from the second Rex
spec on not even in that. -/
theorem start_under_eq_iff {env : Env} {hu : limits.txComputeGasLimit ≤ u64Max} {d d' : ℕ} :
    MegaEvm.start env (given.under limits hu d) = MegaEvm.start env (given.under limits hu d') ↔
      MegaEvm.start env (given.under limits hu d) = none ∨ env.spec.isEnabled .rex1 = true ∨
        d = d' := by
  constructor
  · intro heq
    cases hd : MegaEvm.start env (given.under limits hu d) with
    | none => exact .inl rfl
    | some s =>
      right
      have hd' := heq.symm.trans hd
      have hlimit := start_detainedLimit hd
      rw [start_detainedLimit hd'] at hlimit
      cases h1 : env.spec.isEnabled .rex1 with
      | true => exact .inl rfl
      | false => exact .inr (by simpa [h1, StartEvent.under] using hlimit.symm)
  · rintro (hnone | h1 | rfl)
    · have hnone' : MegaEvm.start env (given.under limits hu d') = none := by
        unfold MegaEvm.start at hnone ⊢
        split at hnone
        · next hgas => exact if_pos hgas
        · next hgas =>
          rw [Option.map_eq_none_iff] at hnone
          rw [if_neg (show ¬ initialGas env (given.under limits hu d') > env.tx.gasLimit from hgas),
            Option.map_eq_none_iff]
          exact hnone
      rw [hnone, hnone']
    · have hlimit : MegaEvm.onNewTx env (given.under limits hu d) =
          MegaEvm.onNewTx env (given.under limits hu d') := by
        rw [onNewTx_eq, onNewTx_eq]
        simp only [newTxTrackers, StartEvent.under, ComputeGasTracker.reset, h1, if_true]
      unfold MegaEvm.start
      rw [hlimit]
      rfl
    · rfl

theorem systemStart_eq_iff (h : c.Carries spec limits) (hmini : spec.isEnabled .miniRex = true)
    (hu : limits.txComputeGasLimit ≤ u64Max) :
    c.systemStart tx given = (c.withTxRuntimeLimits limits).systemStart tx given ↔
      c.spec.isEnabled .rex1 = true ∨ c.detained = limits.txComputeGasLimit := by
  have hspec := h.spec_eq
  have hnew : (c.withTxRuntimeLimits limits).Carries spec limits :=
    hspec ▸ carries_withTxRuntimeLimits c limits
  have hlimit := onNewTx_limit tx false given h hmini hu
  have hlimit' := onNewTx_limit tx false given hnew hmini hu
  have hvolatile := onNewTx_volatile tx false h
  have hvolatile' := onNewTx_volatile tx false hnew
  have hdetained : ∀ d, (MegaEvm.onNewTx (c.txEnv tx false)
      (given.under limits hu d)).computeGas.detainedLimit =
        if c.spec.isEnabled .rex1 then limits.txComputeGasLimit else d := by
    intro d
    rw [onNewTx_eq, AdditionalLimit.checkLimit_computeGas]
    rfl
  constructor
  · intro heq
    have hsame := congrArg (fun s : State => s.limit.computeGas.detainedLimit) heq
    simp only [systemStart, hlimit, hlimit'] at hsame
    have hsame' := (hdetained _).symm.trans (hsame.trans (hdetained _))
    cases h1 : c.spec.isEnabled .rex1 with
    | true => exact .inl rfl
    | false =>
      right
      rw [h1] at hsame'
      exact hsame'
  · intro hor
    have hstart : MegaEvm.onNewTx (c.txEnv tx false) (given.under limits hu c.detained) =
        MegaEvm.onNewTx (c.txEnv tx false)
          (given.under limits hu (c.withTxRuntimeLimits limits).detained) := by
      rcases hor with h1 | hd
      · rw [onNewTx_eq, onNewTx_eq]
        simp only [newTxTrackers, StartEvent.under, ComputeGasTracker.reset, txEnv, h1, if_true]
      · rw [hd]
        rfl
    simp only [systemStart, hlimit, hlimit', hvolatile, hvolatile', hstart]
    rfl

/-! ### What the context keeps -/

theorem carries_onNewTx (tx : MegaTransaction) (h : c.Carries spec limits) :
    (c.onNewTx tx).Carries spec limits := by
  have hvolatile := onNewTx_volatile tx false h
  refine ⟨onNewTx_spec.trans h.spec_eq, ?_, ?_, ?_⟩
  · unfold onNewTx
    simp only
    split
    · simp only [resetVolatileDataAccess, checkTxBeneficiaryAccess, reset_eq h.configuration,
        AdditionalLimit.beforeTxStart, AdditionalLimit.configuration_checkLimit]
      rfl
    · exact h.configuration
  · rw [hvolatile, VolatileDataAccessTracker.caps_checkTxBeneficiaryAccess]
    rfl
  · unfold onNewTx detained
    simp only
    split
    · simp only [resetVolatileDataAccess, checkTxBeneficiaryAccess, reset_eq h.configuration,
        AdditionalLimit.beforeTxStart, AdditionalLimit.checkLimit_computeGas,
        ComputeGasTracker.reset]
      split
      · exact le_rfl
      · exact h.detained_le
    · exact h.detained_le

theorem carries_recordInitialGas (h : c.Carries spec limits) (gas : ℕ) :
    (c.recordInitialGas gas).Carries spec limits := by
  unfold recordInitialGas
  split
  · refine ⟨h.spec_eq, ?_, h.caps, ?_⟩
    · exact (c.additionalLimit.configuration_recordComputeGas gas).trans h.configuration
    · show (c.additionalLimit.recordComputeGas gas).computeGas.detainedLimit ≤ _
      rw [AdditionalLimit.recordComputeGas_computeGas, recordGasUsed_detainedLimit]
      exact h.detained_le
  · exact h

theorem carries_leave {env : Env} {s s' : State} {events : List Event}
    (h : (c.leave s).Carries spec limits) (hr : Run.run (MegaEvm.step env) s events = some s') :
    (c.leave s').Carries spec limits := by
  refine Run.invariant' (I := fun s => (c.leave s).Carries spec limits) ?_ h hr
  intro s e s' hs hstep
  refine ⟨hs.spec_eq, ?_, (caps_step hstep).trans hs.caps, ?_⟩
  · exact (AdditionalLimit.configuration_closed _).step hs.configuration hstep
  · exact (step_detainedLimit_le hstep).trans hs.detained_le

theorem carries_start (h : c.Carries spec limits) {s : State}
    (hs : c.start tx isDeposit given = some s) : (c.leave s).Carries spec limits := by
  have hnew := carries_recordInitialGas (carries_onNewTx tx h) given.intrinsicGas
  unfold start at hs
  simp only at hs
  split at hs
  · cases hs
  · obtain ⟨storageGas, -, rfl⟩ := Option.map_eq_some_iff.1 hs
    split
    · exact ⟨h.spec_eq, hnew.configuration, hnew.caps, hnew.detained_le⟩
    · exact ⟨h.spec_eq, hnew.configuration, hnew.caps, hnew.detained_le⟩

theorem carries_step {op : ContextOp} (h : c.Carries spec limits) (hs : c.step op = some c') :
    c'.Carries spec limits := by
  cases op with
  | withBlock block =>
    cases hs
    exact ⟨h.spec_eq, h.configuration, h.caps, h.detained_le⟩
  | invalid tx =>
    cases hs
    exact carries_onNewTx tx h
  | transaction tx isDeposit given events =>
    unfold step at hs
    simp only at hs
    cases hstart : c.start tx isDeposit given with
    | none =>
      simp only [hstart, Option.some.injEq] at hs
      subst hs
      exact carries_recordInitialGas (carries_onNewTx tx h) _
    | some s =>
      simp only [hstart] at hs
      obtain ⟨s', hr, rfl⟩ := Option.map_eq_some_iff.1 hs
      exact carries_leave (carries_start h hstart) hr
  | systemCall tx given events =>
    obtain ⟨s', hr, rfl⟩ := Option.map_eq_some_iff.1 hs
    have hnew := carries_onNewTx tx h
    have hfirst : (c.leave (c.systemStart tx given)).Carries spec limits :=
      ⟨h.spec_eq, hnew.configuration, hnew.caps, hnew.detained_le⟩
    exact carries_leave hfirst hr

theorem detained_step {op : ContextOp} (h : c.Carries spec limits)
    (h1 : spec.isEnabled .rex1 = false) (hs : c.step op = some c') :
    c'.detained ≤ c.detained := by
  have hnew : ∀ tx, (c.onNewTx tx).detained = c.detained := by
    intro tx
    unfold onNewTx detained
    simp only
    split
    · simp [resetVolatileDataAccess, checkTxBeneficiaryAccess, reset_eq h.configuration,
        AdditionalLimit.beforeTxStart, ComputeGasTracker.reset, h1]
    · rfl
  have hrecord : ∀ (c : MegaContext L1BlockInfo) gas, (c.recordInitialGas gas).detained =
      c.detained := by
    intro c gas
    unfold recordInitialGas
    split
    · show (c.additionalLimit.recordComputeGas gas).computeGas.detainedLimit = _
      rw [AdditionalLimit.recordComputeGas_computeGas, recordGasUsed_detainedLimit]
      rfl
    · rfl
  have hrun : ∀ {env : Env} {s s' : State} {events : List Event},
      Run.run (MegaEvm.step env) s events = some s' →
        s'.limit.computeGas.detainedLimit ≤ s.limit.computeGas.detainedLimit := by
    intro env s s' events hr
    exact Run.invariant' (I := fun m => m.limit.computeGas.detainedLimit ≤
      s.limit.computeGas.detainedLimit) (fun m e m' hm hstep =>
        (step_detainedLimit_le hstep).trans hm) le_rfl hr
  cases op with
  | withBlock block =>
    cases hs
    exact le_rfl
  | invalid tx =>
    cases hs
    exact (hnew tx).le
  | transaction tx isDeposit given events =>
    unfold step at hs
    simp only at hs
    cases hstart : c.start tx isDeposit given with
    | none =>
      simp only [hstart, Option.some.injEq] at hs
      subst hs
      rw [hrecord, hnew]
    | some s =>
      simp only [hstart] at hs
      obtain ⟨s', hr, rfl⟩ := Option.map_eq_some_iff.1 hs
      refine (hrun hr).trans ?_
      have hfirst : s.limit.computeGas.detainedLimit = c.detained := by
        rw [← hnew tx, ← hrecord _ given.intrinsicGas]
        unfold start at hstart
        simp only at hstart
        split at hstart
        · cases hstart
        · obtain ⟨storageGas, -, rfl⟩ := Option.map_eq_some_iff.1 hstart
          split <;> rfl
      exact hfirst.le
  | systemCall tx given events =>
    obtain ⟨s', hr, rfl⟩ := Option.map_eq_some_iff.1 hs
    exact (hrun hr).trans (hnew tx).le

/-- However a context was used, a transaction that is valid and a system call start in it as
in one that is given the limits anew, exactly from the second Rex spec on or as long as no
access has lowered the detained limit; before that spec no later operation raises it. -/
theorem context_reused (c₀ : MegaContext L1BlockInfo) (limits : EvmTxRuntimeLimits)
    (hmini : c₀.spec.isEnabled .miniRex = true) (hu : limits.txComputeGasLimit ≤ u64Max)
    {ops ops' : List ContextOp} (hr : Run.run step (c₀.withTxRuntimeLimits limits) ops = some c)
    (hr' : Run.run step c ops' = some c') :
    (∀ tx isDeposit given, c.start tx isDeposit given =
        (c.withTxRuntimeLimits limits).start tx isDeposit given ↔
      c.start tx isDeposit given = none ∨ c.spec.isEnabled .rex1 = true ∨
        c.detained = limits.txComputeGasLimit) ∧
    (∀ tx given, c.systemStart tx given = (c.withTxRuntimeLimits limits).systemStart tx given ↔
      c.spec.isEnabled .rex1 = true ∨ c.detained = limits.txComputeGasLimit) ∧
    (c.spec.isEnabled .rex1 = false → c'.detained ≤ c.detained) := by
  have hcarries : c.Carries c₀.spec limits :=
    Run.invariant' (fun _ _ _ h hs => carries_step h hs)
      (carries_withTxRuntimeLimits c₀ limits) hr
  have hmini' : c.spec.isEnabled .miniRex = true := by rwa [hcarries.spec_eq]
  refine ⟨fun tx isDeposit given => ?_, fun tx given => systemStart_eq_iff hcarries hmini hu,
    fun h1 => ?_⟩
  · rw [start_eq hcarries hmini hu, start_withTxRuntimeLimits hmini' hu]
    exact start_under_eq_iff
  · rw [hcarries.spec_eq] at h1
    have hkept := Run.invariant' (I := fun m : MegaContext L1BlockInfo =>
      m.Carries c₀.spec limits ∧ m.detained ≤ c.detained)
      (fun m op m' hm hs => ⟨carries_step hm.1 hs, (detained_step hm.1 h1 hs).trans hm.2⟩)
      ⟨hcarries, le_rfl⟩ hr'
    exact hkept.2

def firstContext : MegaContext Unit :=
  (newWithSharedExtEnvs sampleDefaults richDb .miniRex EmptyExternalEnv).withBlock
    ⟨12, 1, 1000, 10000000000, 0, 5, 1⟩

theorem miniRex_computeGas_fits : EvmTxRuntimeLimits.miniRex.txComputeGasLimit ≤ u64Max := by
  decide

def firstStart : StartEvent := sampleStart .miniRex miniRex_computeGas_fits

def timestampRead : List ContextOp :=
  [.transaction timestampEnv.tx false firstStart timestampEvents]

/-- After a transaction that has read TIMESTAMP, the next one does not get the compute gas it
would get in a new context. -/
theorem context_reused_timestamp : ∃ c : MegaContext Unit,
    Run.run step (firstContext.withTxRuntimeLimits .miniRex) timestampRead = some c ∧
    c.detained = 20000000 ∧
    c.start timestampEnv.tx false firstStart ≠
      (c.withTxRuntimeLimits .miniRex).start timestampEnv.tx false firstStart := by
  have hrun : (Run.run step (firstContext.withTxRuntimeLimits .miniRex) timestampRead).map
      (fun c => (c.detained, c.spec.isEnabled .rex1,
        (c.start timestampEnv.tx false firstStart).isSome)) = some (20000000, false, true) := by
    decide
  obtain ⟨c, hc, hfields⟩ := Option.map_eq_some_iff.1 hrun
  obtain ⟨hdetained, hrest⟩ := Prod.ext_iff.1 hfields
  obtain ⟨h1, hvalid⟩ := Prod.ext_iff.1 hrest
  refine ⟨c, hc, hdetained, fun heq => ?_⟩
  have hstay : Run.run step c [] = some c := rfl
  have hreused := (context_reused firstContext .miniRex (by decide) (by decide) hc hstay).1
    timestampEnv.tx false firstStart
  rcases hreused.1 heq with hnone | hrex1 | hfull
  · rw [hnone] at hvalid
    cases hvalid
  · exact absurd (hrex1.symm.trans h1) (by decide)
  · exact absurd (hfull.symm.trans hdetained) (by decide)

end MegaContext

end MegaEvm
