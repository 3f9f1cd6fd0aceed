import MegaEvm.FrameInvariant
import MegaEvm.InstructionHooks

/-!
# What every hook keeps, every step keeps

A step of the machine reaches the limits through a few hooks. A property of the
limits that each of them keeps is kept by the step, and for one of the compute gas
tracker alone there are only four operations to look at.
-/

set_option autoImplicit false

namespace MegaEvm

open AdditionalLimit

/-- `Q` is kept by every hook through which a step reaches the limits. -/
structure HookClosed (Q : AdditionalLimit → Prop) : Prop where
  recordComputeGas : ∀ l g, Q l → Q (l.recordComputeGas g)
  setComputeGasLimit : ∀ l cap, Q l → Q (l.setComputeGasLimit cap)
  onSstore : ∀ l r, Q l → Q (l.onSstore r)
  onLog : ∀ l topics size, Q l → Q (l.onLog topics size)
  checkLimit : ∀ l, Q l → Q l.checkLimit
  openFrame : ∀ l input te, Q l → Q (l.openFrame input te)
  pushEmptyFrame : ∀ l, Q l → Q l.pushEmptyFrame
  afterFrameInitItem : ∀ l created, Q l → Q (l.afterFrameInitItem created)
  returnLimit : ∀ l isCreate r, Q l → Q (returnLimit l isCreate r)
  tryRescueGas : ∀ l g, Q l → Q (l.tryRescueGas g)
  beforeFrameReturnResult : ∀ l last r, Q l → Q (l.beforeFrameReturnResult last r).1

namespace HookClosed

variable {env : Env} {s s' : State} {l : AdditionalLimit} {Q : AdditionalLimit → Prop}

theorem keylessLimit (hQ : HookClosed Q) (h : Q l) : Q (keylessLimit env l) := by
  unfold MegaEvm.keylessLimit
  split
  · exact hQ.recordComputeGas _ _ h
  · exact h

theorem init {input : FrameInput} {e : InitEvent} (hQ : HookClosed Q) (h : Q s.limit)
    (hi : InitStep env s input e s') : Q s'.limit := by
  have hdetected : ∀ {l : AdditionalLimit}, Detected env s input l → Q l := by
    intro l hd
    rcases hd.detained with rfl | ⟨-, cap, rfl⟩
    · exact h
    · exact hQ.setComputeGasLimit _ _ h
  have hopened : ∀ {l : AdditionalLimit}, Detected env s input l →
      Q (l.openFrame input e.targetEmpty) :=
    fun hd => hQ.openFrame _ _ _ (hdetected hd)
  cases hi with
  | keyless hi hf h2 hk =>
    cases hk with
    | outOfGas => exact hQ.pushEmptyFrame _ h
    | halted | insufficient | rejected | completed =>
      exact hQ.pushEmptyFrame _ (hQ.keylessLimit h)
  | control => exact hQ.pushEmptyFrame _ h
  | refused hd => exact hQ.tryRescueGas _ _ (hopened hd)
  | answered hd => exact hQ.tryRescueGas _ _ (hQ.recordComputeGas _ _ (hopened hd))
  | entered hd => exact hQ.afterFrameInitItem _ _ (hopened hd)

theorem instruction {e : OpEvent} {c : Ctx} (hQ : HookClosed Q) (h : Q c.limit) :
    Q (instruction env e c).limit := by
  have hclosed : InstructionClosed env e fun c => Q c.limit :=
    .of_limit hQ.recordComputeGas hQ.onSstore hQ.onLog hQ.setComputeGasLimit
  exact hclosed.instruction h

theorem step {e : Event} (hQ : HookClosed Q) (h : Q s.limit)
    (hs : MegaEvm.step env s e = some s') : Q s'.limit := by
  cases step_spec hs with
  | init hp hi => exact hQ.init h hi
  | stopped | resumed => exact hQ.checkLimit _ h
  | op => exact hQ.instruction h
  | opened => exact h
  | returned =>
    exact hQ.tryRescueGas _ _ (hQ.recordComputeGas _ _ (hQ.returnLimit _ _ _ h))
  | hand | finish => exact hQ.beforeFrameReturnResult _ _ _ h
  | @insert p hp hn =>
    cases hf : s.frames with
    | nil =>
      rw [insertResult_nil env p hf]
      exact h
    | cons f rest =>
      rw [insertResult_cons env p hf]
      exact h

end HookClosed

namespace ComputeGasTracker

/-- `Q` is kept by everything that is done to the tracker while a transaction runs. -/
structure Closed (Q : ComputeGasTracker → Prop) : Prop where
  recordGasUsed : ∀ t g, Q t → Q (t.recordGasUsed g)
  setDetainedLimit : ∀ t rex4 cap, Q t → Q (t.setDetainedLimit rex4 cap)
  pushFrame : ∀ t rex4, Q t → Q (t.pushFrame rex4)
  popFrame : ∀ t success, Q t → Q (t.popFrame success)

variable {Q : ComputeGasTracker → Prop}

theorem Closed.hooks (hQ : Closed Q) : HookClosed fun l => Q l.computeGas where
  recordComputeGas l g h := by
    rw [recordComputeGas_computeGas]
    exact hQ.recordGasUsed _ _ h
  setComputeGasLimit l cap h := hQ.setDetainedLimit _ _ _ h
  onSstore l r h := by rwa [onSstore_computeGas]
  onLog l topics size h := by rwa [onLog_computeGas]
  checkLimit l h := by rwa [checkLimit_computeGas]
  openFrame l input te h := by
    rw [openFrame_computeGas]
    exact hQ.pushFrame _ _ h
  pushEmptyFrame l h := hQ.pushFrame _ _ h
  afterFrameInitItem l created h := h
  returnLimit l isCreate r h := by rwa [returnLimit_computeGas]
  tryRescueGas l g h := by rwa [tryRescueGas_computeGas]
  beforeFrameReturnResult l last r h := by
    rw [beforeFrameReturnResult_computeGas, closeFrame_computeGas]
    exact hQ.popFrame _ _ h

end ComputeGasTracker

end MegaEvm
