import MegaEvm.LimitHooks

/-!
# The hooks around a frame

A frame is opened on settled trackers. It is closed by popping every tracker
and checking again; what was settled, or failed, is settled afterwards, so a
check that finds something new at that point finds nothing of the frame that
returns.
-/

set_option autoImplicit false

namespace MegaEvm

namespace AdditionalLimit

open FrameLimitTracker

variable {l : AdditionalLimit} {n : ℕ}

section Open

/-- What a frame is opened on. A detained limit may have dropped below the usage
only before frame budgets were enabled. -/
structure Openable (l : AdditionalLimit) : Prop where
  stateGrowth : l.stateGrowth.Settled l.rex4
  dataSize : l.dataSize.Settled l.rex4
  kvUpdate : l.kvUpdate.Settled l.rex4
  computeGas : l.rex4 = true → l.computeGas.Settled l.rex4

theorem Settled.openable (hs : l.Settled) : l.Openable :=
  ⟨hs.stateGrowth, hs.dataSize, hs.kvUpdate, fun _ => hs.computeGas⟩

theorem Openable.setComputeGasLimit (h : l.Openable) (hr : l.rex4 = false) (cap : ℕ) :
    (l.setComputeGasLimit cap).Openable :=
  ⟨h.stateGrowth, h.dataSize, h.kvUpdate, fun h4 => absurd (hr.symm.trans h4) (by simp)⟩

variable (input : FrameInput) (te : Bool)

@[simp] theorem openFrame_spec : (l.openFrame input te).spec = l.spec := by
  simp [openFrame]
@[simp] theorem openFrame_rex4 : (l.openFrame input te).rex4 = l.rex4 := by
  simp [rex4]
@[simp] theorem openFrame_rescuedGas : (l.openFrame input te).rescuedGas = l.rescuedGas := by
  simp [openFrame]
@[simp] theorem openFrame_computeGas :
    (l.openFrame input te).computeGas = l.computeGas.pushFrame l.rex4 := by
  simp [openFrame]

variable {input te}

theorem budgets_openFrame (k : LimitKind) :
    (l.openFrame input te).budgets k = l.forwardLimit k :: l.budgets k := by
  cases k with
  | dataSize =>
    simp [budgets, AdditionalLimit.forwardLimit, AdditionalLimit.openFrame,
      DataSizeTracker.beforeFrameInit]
  | kvUpdate =>
    simp [budgets, AdditionalLimit.forwardLimit, AdditionalLimit.openFrame,
      KVUpdateTracker.beforeFrameInit]
  | computeGas => simp [budgets, AdditionalLimit.forwardLimit]
  | stateGrowth => simp [budgets, AdditionalLimit.forwardLimit, AdditionalLimit.openFrame]

theorem Aligned.openFrame (h : l.Aligned n) : (l.openFrame input te).Aligned (n + 1) :=
  h.of_pushed budgets_openFrame

theorem Restorable.openFrame (h : l.Restorable) (hs : l.Openable) :
    (l.openFrame input te).Restorable :=
  restorable_checkLimit.2
    ⟨StateGrowthTracker.restorable_beforeFrameInit h.stateGrowth hs.stateGrowth input te,
      AccountTracker.restorable_beforeFrameInitBy h.dataSize hs.dataSize input,
      AccountTracker.restorable_beforeFrameInitBy h.kvUpdate hs.kvUpdate input,
      h.computeGas.pushFrame fun hr => (hs.computeGas hr).frame hr⟩

theorem openFrame_sticky (h : l.exceeded = true) :
    (l.openFrame input te).hasExceededLimit = l.hasExceededLimit :=
  checkLimit_sticky (l := { l with
    stateGrowth := StateGrowthTracker.beforeFrameInit l.rex4 l.stateGrowth input te
    dataSize := DataSizeTracker.beforeFrameInit l.rex4 l.dataSize input
    kvUpdate := KVUpdateTracker.beforeFrameInit l.rex4 l.kvUpdate input
    computeGas := l.computeGas.pushFrame l.rex4 }) h

theorem owned_openFrame (h : l.exceeded = false) : (l.openFrame input te).Owned :=
  Owned.checkLimit (owned_of_within (exceeded_eq_false.1 h))

theorem unmasked_openFrame (h : l.exceeded = false) (hs : l.Openable) :
    (l.openFrame input te).Unmasked :=
  unmasked_checkLimit (unmasked_of_within (exceeded_eq_false.1 h))
    fun _ hr => ((hs.computeGas hr).pushFrame).tx

@[simp] theorem pushEmptyFrame_exceeded : l.pushEmptyFrame.exceeded = l.exceeded := rfl
@[simp] theorem pushEmptyFrame_hasExceededLimit :
    l.pushEmptyFrame.hasExceededLimit = l.hasExceededLimit := rfl
@[simp] theorem pushEmptyFrame_spec : l.pushEmptyFrame.spec = l.spec := rfl
@[simp] theorem pushEmptyFrame_rescuedGas : l.pushEmptyFrame.rescuedGas = l.rescuedGas := rfl

theorem budgets_pushEmptyFrame (k : LimitKind) :
    l.pushEmptyFrame.budgets k = l.forwardLimit k :: l.budgets k := by
  cases k <;> simp [budgets, AdditionalLimit.forwardLimit, AdditionalLimit.pushEmptyFrame,
    AccountTracker.pushEmptyFrame, StateGrowthTracker.pushEmptyFrame]

theorem Aligned.pushEmptyFrame (h : l.Aligned n) : l.pushEmptyFrame.Aligned (n + 1) :=
  h.of_pushed budgets_pushEmptyFrame

theorem Restorable.pushEmptyFrame (h : l.Restorable) (hs : l.Settled) :
    l.pushEmptyFrame.Restorable :=
  ⟨h.stateGrowth.pushFrameBy hs.stateGrowth (), h.dataSize.pushFrameBy hs.dataSize _,
    h.kvUpdate.pushFrameBy hs.kvUpdate _, h.computeGas.pushFrame hs.computeGas.frame⟩

theorem Settled.pushEmptyFrame (hs : l.Settled) : l.pushEmptyFrame.Settled :=
  ⟨hs.stateGrowth.pushFrameBy (), hs.dataSize.pushFrameBy _, hs.kvUpdate.pushFrameBy _,
    hs.computeGas.pushFrame⟩

@[simp] theorem afterFrameInitItem_exceeded (a : Option Address) :
    (l.afterFrameInitItem a).exceeded = l.exceeded := rfl

theorem budgets_afterFrameInitItem (a : Option Address) :
    (l.afterFrameInitItem a).budgets = l.budgets := by
  funext k
  cases k <;> simp [budgets, AdditionalLimit.afterFrameInitItem,
    DataSizeTracker.afterFrameInitOnFrame, KVUpdateTracker.afterFrameInitOnFrame]

theorem Aligned.afterFrameInitItem (h : l.Aligned n) (a : Option Address) :
    (l.afterFrameInitItem a).Aligned n := h.of_eq (budgets_afterFrameInitItem a)

theorem Restorable.afterFrameInitItem (h : l.Restorable) (a : Option Address) :
    (l.afterFrameInitItem a).Restorable :=
  ⟨h.stateGrowth, AccountTracker.restorable_afterFrameInitOnFrameBy h.dataSize a,
    AccountTracker.restorable_afterFrameInitOnFrameBy h.kvUpdate a, h.computeGas⟩

end Open

section Run

theorem beforeFrameRun_cases (g : Gas) :
    (l.checkLimit.exceeded = true ∧ l.beforeFrameRun g =
      (l.checkLimit, some ⟨l.checkLimit.exceedingInstructionResult,
        l.checkLimit.hasExceededLimit.revertData, g⟩)) ∨
    (l.checkLimit.exceeded = false ∧ l.checkLimit.Settled ∧
      l.beforeFrameRun g = (l.checkLimit, none)) := by
  by_cases h : l.checkLimit.exceeded = true
  · exact .inl ⟨h, by simp [beforeFrameRun, h]⟩
  · have hf : l.checkLimit.exceeded = false := by simpa using h
    exact .inr ⟨hf, settled_of_unflagged hf, by simp [beforeFrameRun, hf]⟩

theorem afterFrameRunInstructions_call (r : InterpreterResult) :
    l.afterFrameRunInstructions false (.return r) = (l, .return r) := rfl

theorem afterFrameRunInstructions_create (r : InterpreterResult) :
    l.afterFrameRunInstructions true (.return r) =
      ((l.countOutput true (.return r)).checkLimit,
        if (l.countOutput true (.return r)).checkLimit.exceeded then
          .return { r with
            result := (l.countOutput true (.return r)).checkLimit.exceedingInstructionResult
            output := (l.countOutput true (.return r)).checkLimit.hasExceededLimit.revertData }
        else .return r) := by
  simp only [afterFrameRunInstructions, if_true]
  split <;> rfl

theorem budgets_countOutput (c : Bool) (a : InterpreterAction) :
    (l.countOutput c a).budgets = l.budgets := by
  funext k
  cases k <;> simp [budgets, AdditionalLimit.countOutput]

theorem Aligned.countOutput (h : l.Aligned n) (c : Bool) (a : InterpreterAction) :
    (l.countOutput c a).Aligned n := h.of_eq (budgets_countOutput c a)

theorem Restorable.countOutput (h : l.Restorable) (c : Bool) (a : InterpreterAction) :
    (l.countOutput c a).Restorable :=
  ⟨h.stateGrowth, DataSizeTracker.restorable_afterFrameRun h.dataSize c a, h.kvUpdate,
    h.computeGas⟩

theorem Owned.countOutput (h : l.Owned) (c : Bool) (a : InterpreterAction) :
    (l.countOutput c a).Owned := by
  refine h.grow rfl rfl fun k lim net hopen _ => ?_
  cases k with
  | dataSize =>
    cases a with
    | newFrame i => exact ⟨net, hopen, le_rfl⟩
    | «return» r =>
      cases c with
      | true => exact head?_recordDiscardable _ hopen
      | false => exact ⟨net, hopen, le_rfl⟩
  | kvUpdate => exact ⟨net, hopen, le_rfl⟩
  | computeGas => exact ⟨net, hopen, le_rfl⟩
  | stateGrowth => exact ⟨net, hopen, le_rfl⟩

theorem afterFrameRun_eq (r : FrameResult) (before : ℕ) :
    l.afterFrameRun r before =
      ((l.recordComputeGas (before - r.gas.remaining)).tryRescueGas r.gas,
        if (l.recordComputeGas (before - r.gas.remaining)).exceeded then
          r.markAsExceedingLimit
            (l.recordComputeGas (before - r.gas.remaining)).exceedingInstructionResult []
        else r) := by
  simp only [afterFrameRun]
  split
  case isTrue h => rfl
  case isFalse h => rfl

theorem recordComputeGas_checkLimit (g : ℕ) :
    (l.recordComputeGas g).checkLimit = l.recordComputeGas g := checkLimit_idem

end Run

section Close

theorem closeFrame_spec (b : Bool) : (l.closeFrame b).spec = l.spec := by
  simp [closeFrame]

@[simp] theorem closeFrame_rex4 (b : Bool) : (l.closeFrame b).rex4 = l.rex4 := by
  simp [rex4, closeFrame]

@[simp] theorem closeFrame_rescuedGas (b : Bool) :
    (l.closeFrame b).rescuedGas = l.rescuedGas := by
  simp [closeFrame]

@[simp] theorem closeFrame_computeGas (b : Bool) :
    (l.closeFrame b).computeGas = l.computeGas.popFrame b := by
  simp [closeFrame]

theorem closeFrame_sticky (b : Bool) (h : l.exceeded = true) :
    (l.closeFrame b).hasExceededLimit = l.hasExceededLimit :=
  checkLimit_sticky (l := { l with
    stateGrowth := l.stateGrowth.popFrame b
    dataSize := l.dataSize.popFrame b
    kvUpdate := l.kvUpdate.popFrame b
    computeGas := l.computeGas.popFrame b }) h

theorem budgets_closeFrame (b : Bool) (k : LimitKind) :
    (l.closeFrame b).budgets k = (l.budgets k).tail := by
  cases k <;> simp [budgets, AdditionalLimit.closeFrame]

theorem Aligned.closeFrame (h : l.Aligned n) (b : Bool) : (l.closeFrame b).Aligned (n - 1) :=
  h.of_popped (budgets_closeFrame b)

theorem Restorable.closeFrame (h : l.Restorable) (b : Bool) : (l.closeFrame b).Restorable :=
  restorable_checkLimit.2 ⟨h.stateGrowth.popFrame b, h.dataSize.popFrame b, h.kvUpdate.popFrame b,
    h.computeGas.popFrame b⟩

theorem closeFrame_within (hr : l.Restorable) (hs : l.Settled) (ha : l.Aligned (n + 1))
    (hw : l.exceeded = false) (b : Bool) : (l.closeFrame b).exceeded = false := by
  refine exceeded_eq_false.2 (checkLimit_of_settled (exceeded_eq_false.1 hw) ⟨?_, ?_, ?_, ?_⟩)
  · exact hr.stateGrowth.settled_popFrame (fun _ => hs.stateGrowth) (by rw [ha.stateGrowth]; omega)
  · exact hr.dataSize.settled_popFrame (fun _ => hs.dataSize) (by rw [ha.dataSize]; omega)
  · exact hr.kvUpdate.settled_popFrame (fun _ => hs.kvUpdate) (by rw [ha.kvUpdate]; omega)
  · exact hr.computeGas.settled_popFrame hs.computeGas b

theorem closeFrame_settled_accounts (hr : l.Restorable) (ha : l.Aligned (n + 1)) {b : Bool}
    (hb : b = true → l.dataSize.Settled l.rex4 ∧ l.kvUpdate.Settled l.rex4) :
    (l.closeFrame b).dataSize.Settled l.rex4 ∧ (l.closeFrame b).kvUpdate.Settled l.rex4 := by
  simp only [AdditionalLimit.closeFrame, checkLimit_dataSize, checkLimit_kvUpdate]
  exact ⟨hr.dataSize.settled_popFrame (fun h => (hb h).1) (by rw [ha.dataSize]; omega),
    hr.kvUpdate.settled_popFrame (fun h => (hb h).2) (by rw [ha.kvUpdate]; omega)⟩

theorem computeClear_closeFrame (hr : l.Restorable) (b : Bool) :
    (l.closeFrame b).ComputeClear ↔ l.ComputeClear := by
  simp only [ComputeClear, closeFrame_computeGas, ComputeGasTracker.txLimit_popFrame,
    hr.computeGas.persistent.txUsage_popFrame b]

/-- `before_frame_return_result` leaves the result alone, absorbs a frame-local
exceed as a revert, or marks a transaction-level one as a halt. -/
theorem beforeFrameReturnResult_cases (last : Bool) (r : FrameResult) :
    ((l.closeFrame r.instructionResult.isOk).exceeded = false ∧
      l.beforeFrameReturnResult last r = (l.closeFrame r.instructionResult.isOk, r)) ∨
    ((last && !l.dataSize.hasActiveFrame) = true ∧
      (l.closeFrame r.instructionResult.isOk).exceeded = true ∧
      l.beforeFrameReturnResult last r = (l.closeFrame r.instructionResult.isOk, r)) ∨
    ((last && !l.dataSize.hasActiveFrame) = false ∧
      (l.closeFrame r.instructionResult.isOk).hasExceededLimit.isFrameLocal = true ∧
      l.beforeFrameReturnResult last r =
        ({ l.closeFrame r.instructionResult.isOk with hasExceededLimit := .withinLimit },
          r.markAsExceedingLimit .revert
            (l.closeFrame r.instructionResult.isOk).hasExceededLimit.revertData)) ∨
    ((last && !l.dataSize.hasActiveFrame) = false ∧
      (l.closeFrame r.instructionResult.isOk).TxExceeded ∧
      l.beforeFrameReturnResult last r =
        (l.closeFrame r.instructionResult.isOk, r.markAsExceedingLimit .outOfGas [])) := by
  simp only [beforeFrameReturnResult, EXCEEDING_LIMIT_INSTRUCTION_RESULT]
  cases hx : (l.closeFrame r.instructionResult.isOk).exceeded with
  | false => simp
  | true =>
    cases hd : last && !l.dataSize.hasActiveFrame with
    | true => simp
    | false =>
      cases hf : (l.closeFrame r.instructionResult.isOk).hasExceededLimit.isFrameLocal with
      | true => simp
      | false => simp [TxExceeded, hx, hf]

theorem beforeFrameReturnResult_computeGas (l : AdditionalLimit) (b : Bool) (r : FrameResult) :
    (l.beforeFrameReturnResult b r).1.computeGas =
      (l.closeFrame r.instructionResult.isOk).computeGas := by
  rcases beforeFrameReturnResult_cases (l := l) b r with
    ⟨-, hb⟩ | ⟨-, -, hb⟩ | ⟨-, -, hb⟩ | ⟨-, -, hb⟩
  all_goals rw [hb]

end Close

end AdditionalLimit

end MegaEvm
