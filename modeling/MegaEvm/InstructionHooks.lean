import MegaEvm.InstructionSpec

/-!
# What an instruction cannot change

Whatever state an instruction finds, around the interpreter's own instruction it
reaches the limits through four hooks only: it records compute gas, a slot write
or a log, and it applies a volatile access. What these and the interpreter's own
instruction keep, every instruction of every spec's table keeps.
-/

set_option autoImplicit false

namespace MegaEvm

open AdditionalLimit

variable {env : Env} {ev : OpEvent} {c : Ctx}

/-- What the wrappers of an instruction that detains nothing, and the instruction
itself, keep. -/
structure WrapperClosed (env : Env) (ev : OpEvent) (P : Ctx → Prop) : Prop where
  action : ∀ c a, P c → P { c with action := a }
  gas : ∀ c g, P c → P { c with gas := g }
  inner : ∀ c, P c → P (runInner env ev c)
  compute : ∀ c g, P c → P { c with limit := c.limit.recordComputeGas g }
  sstore : ∀ c r, P c → P { c with limit := c.limit.onSstore r }
  log : ∀ c n d, P c → P { c with limit := c.limit.onLog n d }

structure InstructionClosed (env : Env) (ev : OpEvent) (P : Ctx → Prop) : Prop
    extends WrapperClosed env ev P where
  detain : ∀ c cap, P c → P { c with limit := c.limit.setComputeGasLimit cap }

/-- The opcodes whose wrapper applies the recorded cap. -/
def Opcode.detains (spec : MegaSpecId) : Opcode → Bool
  | .blockEnv _ | .account => true
  | .sload => spec.isEnabled .rex3
  | .selfdestruct => spec.isEnabled .rex4
  | _ => false

namespace WrapperClosed

variable {P : Ctx → Prop}

theorem abort {inner rest : Ctx → Ctx} (hi : P (inner c)) (hr : ∀ c', P c' → P (rest c')) :
    P (runInnerOrAbort inner rest c) := by
  unfold runInnerOrAbort
  split
  · exact hi
  · exact hr _ hi

theorem halt (h : WrapperClosed env ev P) (r : InstructionResult) (hP : P c) :
    P (c.halt r) := h.action _ _ hP

theorem computeGas (h : WrapperClosed env ev P) (g : ℕ) (hP : P c) :
    P (MegaEvm.computeGas g c) := by
  unfold MegaEvm.computeGas
  simp only
  split
  · exact h.halt _ (h.compute _ g hP)
  · exact h.compute _ g hP

theorem wrap (h : WrapperClosed env ev P) (hP : P c) : P (ComputeGasExt.wrap env ev c) :=
  abort (h.inner _ hP) fun _ hc' => h.computeGas _ hc'

theorem chargeThen (h : WrapperClosed env ev P) (cost : ℕ) (hP : P c) :
    P (chargeThen cost (ComputeGasExt.wrap env ev) c) := by
  unfold MegaEvm.chargeThen
  cases c.gas.recordCost cost with
  | none => exact h.halt _ hP
  | some g => exact h.wrap (h.gas _ g hP)

theorem storageCall (h : WrapperClosed env ev P) (b : Bool) (hP : P c) :
    P (StorageGasExt.call env ev b c) := by
  unfold StorageGasExt.call
  repeat' split
  all_goals first | exact h.halt _ hP | exact h.chargeThen _ hP | exact h.wrap hP

theorem storageCreate (h : WrapperClosed env ev P) (b : Bool) (hP : P c) :
    P (StorageGasExt.create env ev b c) := by
  unfold StorageGasExt.create
  simp only
  repeat' split
  all_goals first | exact h.halt _ hP | exact h.chargeThen _ hP

theorem storageLog (h : WrapperClosed env ev P) (n : ℕ) (hP : P c) :
    P (StorageGasExt.log env ev n c) := by
  unfold StorageGasExt.log
  repeat' split
  all_goals first | exact h.halt _ hP | exact h.chargeThen _ hP

theorem storageSstore (h : WrapperClosed env ev P) (hP : P c) :
    P (StorageGasExt.sstore env ev c) := by
  unfold StorageGasExt.sstore
  repeat' split
  all_goals first | exact h.halt _ hP | exact h.chargeThen _ hP | exact h.wrap hP

theorem enforce (h : WrapperClosed env ev P) (hP : P c) :
    P (AdditionalLimitExt.enforce c) := by
  unfold AdditionalLimitExt.enforce
  split
  · exact h.halt _ hP
  · exact hP

theorem limitSstore (h : WrapperClosed env ev P) (hP : P c) :
    P (AdditionalLimitExt.sstore env ev c) := by
  unfold AdditionalLimitExt.sstore
  split
  · exact h.halt _ hP
  · exact h.halt _ hP
  · exact h.halt _ hP
  · apply abort (h.storageSstore hP)
    exact fun c' hc' => h.enforce (h.sstore _ _ hc')

theorem limitLog (h : WrapperClosed env ev P) (n : ℕ) (hP : P c) :
    P (AdditionalLimitExt.log env ev n c) := by
  unfold AdditionalLimitExt.log
  split
  · exact h.halt _ hP
  · split
    · exact h.halt _ hP
    · apply abort (h.storageLog n hP)
      exact fun c' hc' => h.enforce (h.log _ _ _ hc')

theorem forward (h : WrapperClosed env ev P) {inner : Ctx → Ctx} (hi : P (inner c)) :
    P (ForwardGasExt.wrap ev inner c) := by
  apply abort hi
  intro c' hc'
  unfold ForwardGasExt.cap
  split
  · next input _ =>
    have hgas := h.gas c' (c'.gas.eraseCost
      (ForwardGasExt.gasToReturn c'.gas.remaining (input.gasLimit - stipend ev))) hc'
    exact h.action _ _ hgas
  · exact hc'

theorem callCheck (h : WrapperClosed env ev P) {inner : Ctx → Ctx} (hP : P c)
    (hi : P (inner c)) : P (VolatileDataExt.callCheck env ev inner c) := by
  unfold VolatileDataExt.callCheck
  split
  · exact h.action _ _ hP
  · exact hi

theorem callLike (h : WrapperClosed env ev P) (b : Bool) (hP : P c) :
    P (callLike env ev b c) := by
  have hforward : P (ForwardGasExt.wrap ev (StorageGasExt.call env ev b) c) :=
    h.forward (h.storageCall b hP)
  unfold MegaEvm.callLike
  split
  · exact h.callCheck hP hforward
  · split
    · exact hforward
    · exact h.wrap hP

theorem instruction (h : WrapperClosed env ev P) (hn : ev.opcode.detains env.spec = false)
    (hP : P c) : P (instruction env ev c) := by
  unfold MegaEvm.instruction
  cases hop : ev.opcode with
  | plain | selfbalance => exact h.wrap hP
  | blockEnv ty =>
    rw [hop] at hn
    cases hn
  | account =>
    rw [hop] at hn
    cases hn
  | sload =>
    rw [hop, Opcode.detains] at hn
    simp only [hn, Bool.false_eq_true, if_false]
    exact h.wrap hP
  | sstore => exact h.limitSstore hP
  | log n => exact h.limitLog n hP
  | create => exact h.forward (h.storageCreate false hP)
  | create2 => exact h.forward (h.storageCreate true hP)
  | call =>
    have hforward : P (ForwardGasExt.wrap ev (StorageGasExt.call env ev true) c) :=
      h.forward (h.storageCall true hP)
    simp only
    split
    · exact h.callCheck hP hforward
    · exact hforward
  | callCode => exact h.callLike true hP
  | delegateCall | staticCall => exact h.callLike false hP
  | selfdestruct =>
    rw [hop, Opcode.detains] at hn
    simp only [hn, Bool.false_eq_true, if_false]
    split
    · exact h.wrap hP
    · exact h.halt _ hP
  | unknown => exact h.halt _ hP

theorem of_limit {Q : AdditionalLimit → Prop}
    (compute : ∀ l g, Q l → Q (l.recordComputeGas g)) (sstore : ∀ l r, Q l → Q (l.onSstore r))
    (log : ∀ l n d, Q l → Q (l.onLog n d)) : WrapperClosed env ev fun c => Q c.limit where
  action := fun _ _ hP => hP
  gas := fun _ _ hP => hP
  inner := fun c hP => by
    rw [runInner_limit]
    exact hP
  compute := fun c g hP => compute c.limit g hP
  sstore := fun c r hP => sstore c.limit r hP
  log := fun c n d hP => log c.limit n d hP

end WrapperClosed

namespace InstructionClosed

variable {P : Ctx → Prop}

theorem apply (h : InstructionClosed env ev P) (hP : P c) :
    P (VolatileDataExt.applyComputeGasLimit c) := by
  unfold VolatileDataExt.applyComputeGasLimit
  split
  · exact h.detain _ _ hP
  · exact hP

theorem detained (h : InstructionClosed env ev P) (hP : P c) :
    P (runInnerOrAbort (ComputeGasExt.wrap env ev) VolatileDataExt.applyComputeGasLimit c) :=
  WrapperClosed.abort (h.wrap hP) fun _ hc' => h.apply hc'

/-- Every instruction: one that detains is its own instruction with the cap
applied behind it, or a revert in its place. -/
theorem instruction (h : InstructionClosed env ev P) (hP : P c) : P (instruction env ev c) := by
  cases hd : ev.opcode.detains env.spec with
  | false => exact h.toWrapperClosed.instruction hd hP
  | true =>
    unfold MegaEvm.instruction
    cases hop : ev.opcode with
    | blockEnv ty =>
      simp only [VolatileDataExt.unconditional]
      split
      · exact h.action _ _ hP
      · exact h.detained hP
    | account =>
      simp only [VolatileDataExt.conditional]
      split
      · exact h.action _ _ hP
      · exact h.detained hP
    | sload =>
      simp only [VolatileDataExt.sload]
      repeat' split
      all_goals first | exact h.action _ _ hP | exact h.detained hP | exact h.wrap hP
    | selfdestruct =>
      rw [hop, Opcode.detains] at hd
      simp only [VolatileDataExt.conditional, hd, if_true]
      split
      · exact h.action _ _ hP
      · exact h.detained hP
    | _ =>
      rw [hop] at hd
      cases hd

theorem of_limit {Q : AdditionalLimit → Prop}
    (compute : ∀ l g, Q l → Q (l.recordComputeGas g)) (sstore : ∀ l r, Q l → Q (l.onSstore r))
    (log : ∀ l n d, Q l → Q (l.onLog n d)) (detain : ∀ l cap, Q l → Q (l.setComputeGasLimit cap)) :
    InstructionClosed env ev fun c => Q c.limit where
  toWrapperClosed := .of_limit compute sstore log
  detain := fun c cap hP => detain c.limit cap hP

end InstructionClosed

theorem instruction_aligned {n : ℕ} (h : c.limit.Aligned n) :
    (instruction env ev c).limit.Aligned n := by
  have hclosed : InstructionClosed env ev fun c => c.limit.Aligned n := by
    apply InstructionClosed.of_limit (Q := fun l => l.Aligned n)
    · exact fun _ _ h => h.recordComputeGas
    · exact fun _ r h => h.of_eq (budgets_onSstore r)
    · exact fun _ n d h => h.of_eq (budgets_onLog n d)
    · exact fun _ cap h => h.of_eq (setComputeGasLimit_budgets cap)
  exact hclosed.instruction h

section Volatile

theorem runInner_volatile : (runInner env ev c).volatile = (touchHost env ev c).volatile := by
  unfold runInner
  cases ev.inner with
  | next cost writes =>
    exact chargeInner_spec (P := fun c' => c'.volatile = _) rfl fun _ _ => rfl
  | halt r o cost writes =>
    exact chargeInner_spec (P := fun c' => c'.volatile = _) rfl fun _ _ => rfl
  | newFrame cost f i writes =>
    exact chargeInner_spec (P := fun c' => c'.volatile = _) rfl fun _ _ => rfl

theorem markHost_disableDepth (target : Address) (t : VolatileDataAccessTracker) :
    (markHost env ev target t).disableDepth = t.disableDepth := by
  have hmark (word : Option ℕ) : (markBeneficiary env word t).disableDepth = t.disableDepth := by
    unfold markBeneficiary
    repeat' split
    all_goals rfl
  unfold markHost
  repeat' split
  all_goals first
    | rfl
    | exact hmark _
    | (unfold VolatileDataAccessTracker.checkAndMarkOracleAccess; split <;> rfl)

theorem instruction_disableDepth :
    (instruction env ev c).volatile.disableDepth = c.volatile.disableDepth := by
  have hclosed : InstructionClosed env ev fun c' =>
      c'.volatile.disableDepth = c.volatile.disableDepth := by
    apply InstructionClosed.mk
    case toWrapperClosed =>
      constructor
      case inner =>
        intro c' hc'
        rw [runInner_volatile, ← hc', touchHost]
        split
        · exact markHost_disableDepth _ _
        · rfl
      case log => exact fun _ _ _ hc' => hc'
      all_goals exact fun _ _ hc' => hc'
    case detain => exact fun _ _ hc' => hc'
  exact hclosed.instruction rfl

end Volatile

end MegaEvm
