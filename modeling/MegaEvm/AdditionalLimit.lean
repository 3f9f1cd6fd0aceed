import MegaEvm.TrackerInvariants
import Mathlib.Tactic.MkIffOfInductiveProp

/-!
# The additional limits and their hooks

The four trackers share one exceed flag. `checkLimit` examines them in a fixed
order unless the flag is already set; every hook of the frame loop records
usage, checks, and turns the frame's result into a revert or a halt when the
flag is set.
-/

set_option autoImplicit false

namespace MegaEvm

structure AdditionalLimit where
  spec : MegaSpecId
  hasExceededLimit : LimitCheck
  rescuedGas : ℕ
  limits : EvmTxRuntimeLimits
  stateGrowth : StateGrowthTracker
  dataSize : AccountTracker
  kvUpdate : AccountTracker
  computeGas : ComputeGasTracker
  deriving DecidableEq, Repr

namespace AdditionalLimit

open FrameLimitTracker

def rex4 (l : AdditionalLimit) : Bool := l.spec.isEnabled .rex4

def new (spec : MegaSpecId) (limits : EvmTxRuntimeLimits) : AdditionalLimit where
  spec := spec
  hasExceededLimit := .withinLimit
  rescuedGas := 0
  limits := limits
  stateGrowth := .new limits.txStateGrowthLimit
  dataSize := .new limits.txDataSizeLimit
  kvUpdate := .new limits.txKvUpdatesLimit
  computeGas := .new limits.txComputeGasLimit

def EXCEEDING_LIMIT_INSTRUCTION_RESULT : InstructionResult := .outOfGas

def exceedingInstructionResult (l : AdditionalLimit) : InstructionResult :=
  if l.hasExceededLimit.isFrameLocal then .revert else EXCEEDING_LIMIT_INSTRUCTION_RESULT

@[simp] theorem exceedingInstructionResult_isOk (l : AdditionalLimit) :
    l.exceedingInstructionResult.isOk = false := by
  unfold exceedingInstructionResult
  split <;> rfl

theorem exceedingInstructionResult_ne_fatal (l : AdditionalLimit) :
    l.exceedingInstructionResult ≠ .fatalExternalError := by
  unfold exceedingInstructionResult
  split <;> simp [EXCEEDING_LIMIT_INSTRUCTION_RESULT]

def reset (l : AdditionalLimit) : AdditionalLimit :=
  { l with
    hasExceededLimit := .withinLimit
    rescuedGas := 0
    computeGas := l.computeGas.reset (l.spec.isEnabled .rex1)
    stateGrowth := l.stateGrowth.reset
    dataSize := l.dataSize.reset
    kvUpdate := l.kvUpdate.reset }

def pushEmptyFrame (l : AdditionalLimit) : AdditionalLimit :=
  { l with
    stateGrowth := StateGrowthTracker.pushEmptyFrame l.rex4 l.stateGrowth
    dataSize := AccountTracker.pushEmptyFrame l.rex4 l.dataSize
    kvUpdate := AccountTracker.pushEmptyFrame l.rex4 l.kvUpdate
    computeGas := l.computeGas.pushFrame l.rex4 }

def currentCallRemainingComputeGas (l : AdditionalLimit) : ℕ :=
  l.computeGas.currentCallRemaining l.rex4

def setComputeGasLimit (l : AdditionalLimit) (newLimit : ℕ) : AdditionalLimit :=
  { l with computeGas := l.computeGas.setDetainedLimit l.rex4 newLimit }

/-- The first exceed in the order the source looks for one. -/
def examine (l : AdditionalLimit) : LimitCheck :=
  if (DataSizeTracker.checkLimit l.rex4 l.dataSize).exceededLimit then
    DataSizeTracker.checkLimit l.rex4 l.dataSize
  else if (KVUpdateTracker.checkLimit l.rex4 l.kvUpdate).exceededLimit then
    KVUpdateTracker.checkLimit l.rex4 l.kvUpdate
  else if (l.computeGas.checkLimit l.rex4).exceededLimit then l.computeGas.checkLimit l.rex4
  else if (StateGrowthTracker.checkLimit l.rex4 l.stateGrowth).exceededLimit then
    StateGrowthTracker.checkLimit l.rex4 l.stateGrowth
  else .withinLimit

/-- The check is sticky: once the flag is set no tracker is looked at. -/
def checkLimit (l : AdditionalLimit) : AdditionalLimit :=
  if l.hasExceededLimit.exceededLimit then l else { l with hasExceededLimit := l.examine }

def exceeded (l : AdditionalLimit) : Bool := l.hasExceededLimit.exceededLimit

def recordComputeGas (l : AdditionalLimit) (computeGasUsed : ℕ) : AdditionalLimit :=
  { l with computeGas := l.computeGas.recordGasUsed computeGasUsed }.checkLimit

def rescueGas (l : AdditionalLimit) (gas : Gas) : AdditionalLimit :=
  { l with rescuedGas := l.rescuedGas + gas.remaining }

def tryRescueGas (l : AdditionalLimit) (gas : Gas) : AdditionalLimit :=
  if l.checkLimit.exceeded && !l.checkLimit.hasExceededLimit.isFrameLocal then
    l.checkLimit.rescueGas gas
  else l.checkLimit

def beforeTxStart (l : AdditionalLimit) (tx : MegaTransaction) : AdditionalLimit :=
  { l with
    dataSize := DataSizeTracker.beforeTxStart l.dataSize tx
    kvUpdate := KVUpdateTracker.beforeTxStart l.kvUpdate tx }.checkLimit

/-- The tracker part of `before_frame_init`: four entries are pushed, then the
limits are checked. -/
def openFrame (l : AdditionalLimit) (input : FrameInput) (targetEmpty : Bool) :
    AdditionalLimit :=
  { l with
    stateGrowth := StateGrowthTracker.beforeFrameInit l.rex4 l.stateGrowth input targetEmpty
    dataSize := DataSizeTracker.beforeFrameInit l.rex4 l.dataSize input
    kvUpdate := KVUpdateTracker.beforeFrameInit l.rex4 l.kvUpdate input
    computeGas := l.computeGas.pushFrame l.rex4 }.checkLimit

def exceedingFrameResult (l : AdditionalLimit) (input : FrameInput) : FrameResult where
  isCreate := input.isCreate
  result :=
    { result := l.exceedingInstructionResult
      output := l.hasExceededLimit.revertData
      gas := .new input.gasLimit }

def beforeFrameInit (l : AdditionalLimit) (input : FrameInput) (targetEmpty : Bool) :
    AdditionalLimit × Option FrameResult :=
  let l := l.openFrame input targetEmpty
  if l.exceeded then
    (l.tryRescueGas (l.exceedingFrameResult input).gas, some (l.exceedingFrameResult input))
  else (l, none)

/-- `after_frame_init` for a frame that will run. -/
def afterFrameInitItem (l : AdditionalLimit) (createdAddress : Option Address) :
    AdditionalLimit :=
  { l with
    dataSize := DataSizeTracker.afterFrameInitOnFrame l.dataSize createdAddress
    kvUpdate := KVUpdateTracker.afterFrameInitOnFrame l.kvUpdate createdAddress }

/-- `after_frame_init` for a frame that was answered at once. -/
def afterFrameInitResult (l : AdditionalLimit) (result : FrameResult) : AdditionalLimit :=
  l.tryRescueGas result.gas

def beforeFrameRun (l : AdditionalLimit) (gas : Gas) :
    AdditionalLimit × Option InterpreterResult :=
  let l := l.checkLimit
  if l.exceeded then
    (l, some ⟨l.exceedingInstructionResult, l.hasExceededLimit.revertData, gas⟩)
  else (l, none)

/-- The tracker part of `after_frame_run_instructions`. -/
def countOutput (l : AdditionalLimit) (isCreate : Bool) (action : InterpreterAction) :
    AdditionalLimit :=
  { l with dataSize := DataSizeTracker.afterFrameRun l.dataSize isCreate action }

def afterFrameRunInstructions (l : AdditionalLimit) (isCreate : Bool)
    (action : InterpreterAction) : AdditionalLimit × InterpreterAction :=
  match action with
  | .return r =>
    if isCreate then
      let l := (l.countOutput isCreate action).checkLimit
      if l.exceeded then
        (l, .return { r with
          result := l.exceedingInstructionResult, output := l.hasExceededLimit.revertData })
      else (l, .return r)
    else (l.countOutput isCreate action, .return r)
  | .newFrame i => (l.countOutput isCreate action, .newFrame i)

/-- The compute gas that processing the frame's action used, code deposit that
is, is recorded after the action was processed. -/
def afterFrameRun (l : AdditionalLimit) (result : FrameResult)
    (gasRemainingBeforeProcessAction : ℕ) : AdditionalLimit × FrameResult :=
  let l := l.recordComputeGas (gasRemainingBeforeProcessAction - result.gas.remaining)
  let result :=
    if l.exceeded then result.markAsExceedingLimit l.exceedingInstructionResult [] else result
  (l.tryRescueGas result.gas, result)

/-- The tracker part of `before_frame_return_result`. -/
def closeFrame (l : AdditionalLimit) (success : Bool) : AdditionalLimit :=
  { l with
    stateGrowth := l.stateGrowth.popFrame success
    dataSize := l.dataSize.popFrame success
    kvUpdate := l.kvUpdate.popFrame success
    computeGas := l.computeGas.popFrame success }.checkLimit

def beforeFrameReturnResult (lastFrame : Bool) (l : AdditionalLimit) (result : FrameResult) :
    AdditionalLimit × FrameResult :=
  let duplicateReturnFrameResult := lastFrame && !l.dataSize.hasActiveFrame
  let l := l.closeFrame result.instructionResult.isOk
  if l.exceeded && !duplicateReturnFrameResult then
    if l.hasExceededLimit.isFrameLocal then
      ({ l with hasExceededLimit := .withinLimit },
        result.markAsExceedingLimit .revert l.hasExceededLimit.revertData)
    else (l, result.markAsExceedingLimit EXCEEDING_LIMIT_INSTRUCTION_RESULT [])
  else (l, result)

def onSstore (l : AdditionalLimit) (r : SStoreResult) : AdditionalLimit :=
  { l with
    stateGrowth := StateGrowthTracker.afterSstore l.stateGrowth r
    dataSize := DataSizeTracker.afterSstore l.dataSize r
    kvUpdate := KVUpdateTracker.afterSstore l.kvUpdate r }.checkLimit

def onLog (l : AdditionalLimit) (numTopics dataSize : ℕ) : AdditionalLimit :=
  { l with dataSize := DataSizeTracker.afterLog l.dataSize numTopics dataSize }.checkLimit

section Invariants

@[mk_iff]
structure Restorable (l : AdditionalLimit) : Prop where
  stateGrowth : l.stateGrowth.Restorable l.rex4
  dataSize : l.dataSize.Restorable l.rex4
  kvUpdate : l.kvUpdate.Restorable l.rex4
  computeGas : l.computeGas.Restorable l.rex4

@[mk_iff]
structure Settled (l : AdditionalLimit) : Prop where
  stateGrowth : l.stateGrowth.Settled l.rex4
  dataSize : l.dataSize.Settled l.rex4
  kvUpdate : l.kvUpdate.Settled l.rex4
  computeGas : l.computeGas.Settled l.rex4

def budgets (l : AdditionalLimit) : LimitKind → List ℕ
  | .dataSize => l.dataSize.budgets
  | .kvUpdate => l.kvUpdate.budgets
  | .computeGas => l.computeGas.frameTracker.budgets
  | .stateGrowth => l.stateGrowth.budgets

def forwardLimit (l : AdditionalLimit) : LimitKind → ℕ
  | .dataSize => l.dataSize.forwardLimit l.rex4
  | .kvUpdate => l.kvUpdate.forwardLimit l.rex4
  | .computeGas => l.computeGas.frameTracker.forwardLimit l.rex4
  | .stateGrowth => l.stateGrowth.forwardLimit l.rex4

def Aligned (l : AdditionalLimit) (n : ℕ) : Prop := ∀ k, (l.budgets k).length = n

def openBudget (l : AdditionalLimit) : LimitKind → Option (ℕ × ℕ)
  | .dataSize => l.dataSize.frameStack.head?.map fun e => (e.limit, e.net)
  | .kvUpdate => l.kvUpdate.frameStack.head?.map fun e => (e.limit, e.net)
  | .computeGas => l.computeGas.frameTracker.frameStack.head?.map fun e => (e.limit, e.net)
  | .stateGrowth => l.stateGrowth.frameStack.head?.map fun e => (e.limit, e.net)

/-- A frame-local flag names a budget of the open frame that is exceeded now. -/
def Owned (l : AdditionalLimit) : Prop :=
  ∀ kind limit used, l.hasExceededLimit = .exceedsLimit kind limit used true →
    l.rex4 = true ∧ ∃ net, l.openBudget kind = some (limit, net) ∧ limit < net

end Invariants

section Budgets

variable {l l' : AdditionalLimit} {n : ℕ}

theorem Aligned.stateGrowth (h : l.Aligned n) : l.stateGrowth.height = n := by
  rw [← length_budgets]
  exact h .stateGrowth

theorem Aligned.dataSize (h : l.Aligned n) : l.dataSize.height = n := by
  rw [← length_budgets]
  exact h .dataSize

theorem Aligned.kvUpdate (h : l.Aligned n) : l.kvUpdate.height = n := by
  rw [← length_budgets]
  exact h .kvUpdate

theorem Aligned.computeGas (h : l.Aligned n) : l.computeGas.frameTracker.height = n := by
  rw [← length_budgets]
  exact h .computeGas

theorem Aligned.of_eq (h : l.Aligned n) (hb : l'.budgets = l.budgets) : l'.Aligned n := by
  intro k
  rw [hb]
  exact h k

theorem Aligned.of_pushed (h : l.Aligned n) {x : LimitKind → ℕ}
    (hb : ∀ k, l'.budgets k = x k :: l.budgets k) : l'.Aligned (n + 1) := by
  intro k
  rw [hb, List.length_cons, h k]

theorem Aligned.of_popped (h : l.Aligned n) (hb : ∀ k, l'.budgets k = (l.budgets k).tail) :
    l'.Aligned (n - 1) := by
  intro k
  rw [hb, List.length_tail, h k]

end Budgets

section Check

variable (l : AdditionalLimit)

@[simp] theorem checkLimit_spec : l.checkLimit.spec = l.spec := by
  unfold checkLimit; split <;> rfl
@[simp] theorem checkLimit_rex4 : l.checkLimit.rex4 = l.rex4 := by
  simp [rex4]
@[simp] theorem checkLimit_rescuedGas : l.checkLimit.rescuedGas = l.rescuedGas := by
  unfold checkLimit; split <;> rfl
@[simp] theorem checkLimit_stateGrowth : l.checkLimit.stateGrowth = l.stateGrowth := by
  unfold checkLimit; split <;> rfl
@[simp] theorem checkLimit_dataSize : l.checkLimit.dataSize = l.dataSize := by
  unfold checkLimit; split <;> rfl
@[simp] theorem checkLimit_kvUpdate : l.checkLimit.kvUpdate = l.kvUpdate := by
  unfold checkLimit; split <;> rfl
@[simp] theorem checkLimit_computeGas : l.checkLimit.computeGas = l.computeGas := by
  unfold checkLimit; split <;> rfl
@[simp] theorem checkLimit_budgets : l.checkLimit.budgets = l.budgets := by
  funext k
  cases k <;> simp [budgets]
@[simp] theorem checkLimit_openBudget (k : LimitKind) :
    l.checkLimit.openBudget k = l.openBudget k := by
  cases k <;> simp [openBudget]

variable {l}

theorem checkLimit_of_exceeded (h : l.exceeded = true) : l.checkLimit = l := by
  unfold checkLimit
  exact if_pos h

theorem exceeded_eq_false : l.exceeded = false ↔ l.hasExceededLimit = .withinLimit :=
  LimitCheck.exceededLimit_eq_false

theorem checkLimit_of_within (h : l.hasExceededLimit = .withinLimit) :
    l.checkLimit = { l with hasExceededLimit := l.examine } := by
  unfold checkLimit
  simp [h]

theorem checkLimit_idem : l.checkLimit.checkLimit = l.checkLimit := by
  by_cases h : l.checkLimit.exceeded = true
  · exact checkLimit_of_exceeded h
  · have hw : l.hasExceededLimit = .withinLimit := by
      by_contra hne
      have hx : l.exceeded = true := by
        rw [← Bool.not_eq_false, exceeded_eq_false]
        exact hne
      exact h (by rw [checkLimit_of_exceeded hx]; exact hx)
    rw [checkLimit_of_within (exceeded_eq_false.1 (by simpa using h)), checkLimit_of_within hw]
    rfl

theorem examine_exceededLimit : l.examine.exceededLimit = false ↔
    (DataSizeTracker.checkLimit l.rex4 l.dataSize).exceededLimit = false ∧
    (KVUpdateTracker.checkLimit l.rex4 l.kvUpdate).exceededLimit = false ∧
    (l.computeGas.checkLimit l.rex4).exceededLimit = false ∧
    (StateGrowthTracker.checkLimit l.rex4 l.stateGrowth).exceededLimit = false := by
  unfold examine
  split_ifs <;> simp_all

theorem examine_eq_within : l.examine = .withinLimit ↔ l.Settled := by
  rw [← LimitCheck.exceededLimit_eq_false, examine_exceededLimit]
  simp only [LimitCheck.exceededLimit_eq_false, DataSizeTracker.checkLimit,
    KVUpdateTracker.checkLimit, StateGrowthTracker.checkLimit, checkLimitBy_eq_within,
    ComputeGasTracker.checkLimit_eq_within]
  constructor
  · rintro ⟨hd, hk, hc, hs⟩
    exact ⟨hs, hd, hk, hc⟩
  · intro h
    exact ⟨h.dataSize, h.kvUpdate, h.computeGas, h.stateGrowth⟩

theorem checkLimit_within_iff :
    l.checkLimit.hasExceededLimit = .withinLimit ↔ l.hasExceededLimit = .withinLimit ∧ l.Settled := by
  by_cases h : l.hasExceededLimit = .withinLimit
  · rw [checkLimit_of_within h]
    simp only [h, true_and]
    exact examine_eq_within
  · have hx : l.exceeded = true := by
      by_contra hf
      exact h (exceeded_eq_false.1 (by simpa using hf))
    rw [checkLimit_of_exceeded hx]
    simp [h]

end Check

end AdditionalLimit

end MegaEvm
