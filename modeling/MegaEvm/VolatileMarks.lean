import MegaEvm.DetainedLimit
import MegaEvm.InstructionHooks

/-!
# What an instruction marks and what it detains

The host marks volatile data while the interpreter's own instruction runs; the
wrapper around it applies the recorded cap afterwards, if the opcode has such a
wrapper and the instruction did not fail. Both halves are said here once for
every opcode of every table.
-/

set_option autoImplicit false

namespace MegaEvm

open AdditionalLimit

variable {env : Env} {ev : OpEvent} {c : Ctx}

section Marks

def hostAccess (env : Env) (ev : OpEvent) (target : Address) : Option VolatileAccess :=
  match ev.opcode with
  | .blockEnv .difficulty => some (.blockEnv .prevRandao)
  | .blockEnv ty => some (.blockEnv ty)
  | .account => if VolatileDataExt.isBeneficiary env (ev.inspect 0) then some .beneficiary else none
  | .selfbalance =>
    if VolatileDataExt.isBeneficiary env (some target) then some .beneficiary else none
  | .call | .callCode | .delegateCall | .staticCall =>
    if VolatileDataExt.isBeneficiary env (ev.inspect 1) then some .beneficiary else none
  | .selfdestruct =>
    if env.spec.isEnabled .rex4 && VolatileDataExt.isBeneficiary env (ev.inspect 0) then
      some .beneficiary
    else none
  | .sload =>
    if env.spec.isEnabled .rex3 && env.tx.caller != MEGA_SYSTEM_ADDRESS &&
        target == ORACLE_CONTRACT_ADDRESS then
      some .oracle
    else none
  | _ => none

/-- The storage gas wrapper of a call gets to the call itself. -/
def passesStorageGas (ev : OpEvent) (checkTransfer : Bool) (gas : Gas) : Bool :=
  match ev.inspect 1, ev.targetEmpty with
  | some _, some isEmpty =>
    if checkTransfer then
      match ev.inspect 2 with
      | none => false
      | some value =>
        if isEmpty && value != 0 then
          match ev.storageGas with
          | none => false
          | some cost => (gas.recordCost cost).isSome
        else true
    else true
  | _, _ => false

def passesCallCheck (env : Env) (ev : OpEvent) (c : Ctx) : Bool :=
  !(env.spec.isEnabled .rex4 && VolatileDataExt.isBeneficiary env (ev.inspect 1) &&
    VolatileDataExt.disabled c)

/-- The wrappers get to the interpreter's own instruction, for the opcodes whose
instruction asks for volatile data. -/
def passes (env : Env) (ev : OpEvent) (c : Ctx) : Bool :=
  match ev.opcode with
  | .blockEnv _ => !VolatileDataExt.disabled c
  | .account =>
    !(VolatileDataExt.isBeneficiary env (ev.inspect 0) && VolatileDataExt.disabled c)
  | .sload =>
    !(env.spec.isEnabled .rex3 && c.target == ORACLE_CONTRACT_ADDRESS &&
      VolatileDataExt.disabled c)
  | .selfdestruct =>
    if env.spec.isEnabled .rex4 then
      !(VolatileDataExt.isBeneficiary env (ev.inspect 0) && VolatileDataExt.disabled c)
    else env.spec.isEnabled .rex2
  | .call => passesCallCheck env ev c && passesStorageGas ev true c.gas
  | .callCode => !env.spec.isEnabled .rex ||
      (passesCallCheck env ev c && passesStorageGas ev true c.gas)
  | .delegateCall | .staticCall => !env.spec.isEnabled .rex ||
      (passesCallCheck env ev c && passesStorageGas ev false c.gas)
  | _ => true

def accessOf (env : Env) (ev : OpEvent) (c : Ctx) : Option VolatileAccess :=
  if ev.hostCalled && passes env ev c then hostAccess env ev c.target else none

def VolatileDataAccessTracker.markOption (v : VolatileDataAccessTracker) :
    Option VolatileAccess → VolatileDataAccessTracker
  | some a => v.mark a
  | none => v

theorem markBeneficiary_eq (word : Option ℕ) (t : VolatileDataAccessTracker) :
    markBeneficiary env word t =
      t.markOption (if VolatileDataExt.isBeneficiary env word then some .beneficiary else none) := by
  cases word with
  | none => rfl
  | some w =>
    by_cases hw : intoAddress w = env.beneficiary
    · simp [markBeneficiary, VolatileDataExt.isBeneficiary, hw]
      rfl
    · simp [markBeneficiary, VolatileDataExt.isBeneficiary, hw]
      rfl

theorem markHost_eq (target : Address) (t : VolatileDataAccessTracker) :
    markHost env ev target t = t.markOption (hostAccess env ev target) := by
  unfold markHost hostAccess
  cases ev.opcode with
  | blockEnv ty => cases ty <;> rfl
  | account | selfbalance | call | callCode | delegateCall | staticCall =>
    exact markBeneficiary_eq _ t
  | selfdestruct =>
    cases env.spec.isEnabled .rex4 with
    | true =>
      simp only [if_true, Bool.true_and]
      exact markBeneficiary_eq _ t
    | false => rfl
  | sload =>
    simp only
    by_cases hspec : (env.spec.isEnabled .rex3 && env.tx.caller != MEGA_SYSTEM_ADDRESS) = true
    · by_cases ht : target = ORACLE_CONTRACT_ADDRESS
      · subst ht
        simp only [hspec, if_true, beq_self_eq_true, Bool.and_self]
        rfl
      · have hb : (target == ORACLE_CONTRACT_ADDRESS) = false := by simpa using ht
        simp only [hspec, hb, if_true, Bool.and_false]
        simp [VolatileDataAccessTracker.checkAndMarkOracleAccess, ht,
          VolatileDataAccessTracker.markOption]
    · simp only [Bool.not_eq_true] at hspec
      simp only [hspec, Bool.false_and]
      rfl
  | _ => rfl

theorem wrap_volatile : (ComputeGasExt.wrap env ev c).volatile =
    if ev.hostCalled then c.volatile.markOption (hostAccess env ev c.target) else c.volatile := by
  have hinner : (runInner env ev c).volatile =
      if ev.hostCalled then c.volatile.markOption (hostAccess env ev c.target)
      else c.volatile := by
    rw [runInner_volatile, ← markHost_eq]
    rfl
  rw [← hinner]
  unfold ComputeGasExt.wrap runInnerOrAbort computeGas
  split
  · rfl
  · simp only
    split <;> rfl

theorem applyComputeGasLimit_volatile :
    (VolatileDataExt.applyComputeGasLimit c).volatile = c.volatile := by
  unfold VolatileDataExt.applyComputeGasLimit
  cases c.volatile.computeGasLimit <;> rfl

theorem detained_volatile :
    (runInnerOrAbort (ComputeGasExt.wrap env ev) VolatileDataExt.applyComputeGasLimit c).volatile =
      (ComputeGasExt.wrap env ev c).volatile := by
  unfold runInnerOrAbort
  split
  · rfl
  · exact applyComputeGasLimit_volatile

theorem cap_volatile (n : ℕ) : (ForwardGasExt.cap n c).volatile = c.volatile := by
  unfold ForwardGasExt.cap
  cases c.action with
  | none => rfl
  | some a => cases a <;> rfl

theorem forward_volatile (inner : Ctx → Ctx) :
    (ForwardGasExt.wrap ev inner c).volatile = (inner c).volatile := by
  unfold ForwardGasExt.wrap runInnerOrAbort
  split
  · rfl
  · exact cap_volatile _

theorem storageCall_volatile (b : Bool) : (StorageGasExt.call env ev b c).volatile =
    if passesStorageGas ev b c.gas then (ComputeGasExt.wrap env ev c).volatile else c.volatile := by
  have hcharge (cost : ℕ) : (chargeThen cost (ComputeGasExt.wrap env ev) c).volatile =
      if (c.gas.recordCost cost).isSome then (ComputeGasExt.wrap env ev c).volatile
      else c.volatile := by
    unfold chargeThen
    cases c.gas.recordCost cost with
    | none => rfl
    | some g =>
      simp only [wrap_volatile, Option.isSome_some, if_true]
  unfold StorageGasExt.call passesStorageGas
  cases ev.inspect 1 with
  | none => rfl
  | some word =>
    cases ev.targetEmpty with
    | none => rfl
    | some isEmpty =>
      simp only
      split
      · cases ev.inspect 2 with
        | none => rfl
        | some value =>
          simp only
          split
          · cases ev.storageGas with
            | none => rfl
            | some cost => exact hcharge cost
          · rfl
      · rfl

theorem instruction_volatile_plain (hd : ev.opcode.detains env.spec = false)
    (hn : ∀ target, hostAccess env ev target = none) :
    (instruction env ev c).volatile = c.volatile := by
  have hclosed : WrapperClosed env ev fun c' => c'.volatile = c.volatile := by
    constructor
    case inner =>
      intro c' hc'
      rw [runInner_volatile, touchHost, ← hc']
      simp only [markHost_eq, hn]
      split <;> rfl
    case log => exact fun _ _ _ hc' => hc'
    all_goals exact fun _ _ hc' => hc'
  exact hclosed.instruction hd rfl

theorem callCheck_volatile {inner : Ctx → Ctx} (h4 : env.spec.isEnabled .rex4 = true) :
    (VolatileDataExt.callCheck env ev inner c).volatile =
      if passesCallCheck env ev c then (inner c).volatile else c.volatile := by
  unfold VolatileDataExt.callCheck passesCallCheck
  rw [h4, Bool.true_and]
  cases VolatileDataExt.isBeneficiary env (ev.inspect 1) && VolatileDataExt.disabled c <;> rfl

theorem passesCallCheck_of_rex4 (h4 : env.spec.isEnabled .rex4 = false) :
    passesCallCheck env ev c = true := by
  simp [passesCallCheck, h4]

theorem checkedCall_volatile (b : Bool) :
    (if env.spec.isEnabled .rex4 then
        VolatileDataExt.callCheck env ev
          (ForwardGasExt.wrap ev (StorageGasExt.call env ev b)) c
      else ForwardGasExt.wrap ev (StorageGasExt.call env ev b) c).volatile =
      if passesCallCheck env ev c && passesStorageGas ev b c.gas then
        (ComputeGasExt.wrap env ev c).volatile
      else c.volatile := by
  cases h4 : env.spec.isEnabled .rex4 with
  | true =>
    simp only [if_true]
    rw [callCheck_volatile h4, forward_volatile, storageCall_volatile]
    cases passesCallCheck env ev c <;> rfl
  | false =>
    simp only [Bool.false_eq_true, if_false]
    rw [forward_volatile, storageCall_volatile, passesCallCheck_of_rex4 h4, Bool.true_and]

theorem callLike_volatile (b : Bool) : (callLike env ev b c).volatile =
    if !env.spec.isEnabled .rex || (passesCallCheck env ev c && passesStorageGas ev b c.gas) then
      (ComputeGasExt.wrap env ev c).volatile
    else c.volatile := by
  have hchecked := @checkedCall_volatile env ev c b
  unfold callLike
  cases h4 : env.spec.isEnabled .rex4 with
  | true =>
    have h1 : env.spec.isEnabled .rex = true := MegaSpecId.isEnabled_mono (by decide) h4
    rw [h4] at hchecked
    simp only [if_true, h1, Bool.not_true, Bool.false_or] at hchecked ⊢
    exact hchecked
  | false =>
    rw [h4] at hchecked
    cases h1 : env.spec.isEnabled .rex with
    | true =>
      simp only [Bool.false_eq_true, if_false, if_true, Bool.not_true, Bool.false_or] at hchecked ⊢
      exact hchecked
    | false => rfl

theorem guarded_volatile (b : Bool) (ty : VolatileDataAccessType) :
    (if b then VolatileDataExt.revertDisabled ty c
      else runInnerOrAbort (ComputeGasExt.wrap env ev) VolatileDataExt.applyComputeGasLimit
        c).volatile =
      if !b then (ComputeGasExt.wrap env ev c).volatile else c.volatile := by
  cases b with
  | true => rfl
  | false => exact detained_volatile

/-- An instruction marks what its own instruction asks the host for, and nothing
if a wrapper stops it before. -/
theorem instruction_volatile :
    (instruction env ev c).volatile = c.volatile.markOption (accessOf env ev c) := by
  have hsplit {b : Bool} {v : VolatileDataAccessTracker}
      (hv : v = if b then (ComputeGasExt.wrap env ev c).volatile else c.volatile)
      (hp : passes env ev c = b) : v = c.volatile.markOption (accessOf env ev c) := by
    rw [hv, accessOf, hp, wrap_volatile]
    cases b <;> cases ev.hostCalled <;> rfl
  have hplain (hd : ev.opcode.detains env.spec = false)
      (hn : ∀ target, hostAccess env ev target = none) :
      (instruction env ev c).volatile = c.volatile.markOption (accessOf env ev c) := by
    rw [instruction_volatile_plain hd hn, accessOf, hn]
    split <;> rfl
  cases hop : ev.opcode with
  | plain | log | sstore | create | create2 | unknown =>
    apply hplain
    · rw [hop]
      rfl
    · intro target
      rw [hostAccess, hop]
  | selfbalance =>
    apply hsplit (b := true)
    · rw [instruction, hop]
      rfl
    · rw [passes, hop]
  | blockEnv ty =>
    apply hsplit (b := !VolatileDataExt.disabled c)
    · rw [instruction, hop]
      exact guarded_volatile _ ty
    · rw [passes, hop]
  | account =>
    apply hsplit (b := !(VolatileDataExt.isBeneficiary env (ev.inspect 0) &&
      VolatileDataExt.disabled c))
    · rw [instruction, hop]
      exact guarded_volatile _ .beneficiary
    · rw [passes, hop]
  | sload =>
    cases h3 : env.spec.isEnabled .rex3 with
    | true =>
      apply hsplit (b := !(c.target == ORACLE_CONTRACT_ADDRESS && VolatileDataExt.disabled c))
      · rw [instruction, hop]
        simp only [h3, if_true]
        exact guarded_volatile _ .oracle
      · rw [passes, hop]
        simp only [h3, Bool.true_and]
    | false =>
      apply hsplit (b := true)
      · rw [instruction, hop]
        simp only [h3, Bool.false_eq_true, if_false, if_true]
      · rw [passes, hop]
        simp only [h3, Bool.false_and, Bool.not_false]
  | selfdestruct =>
    cases h4 : env.spec.isEnabled .rex4 with
    | true =>
      apply hsplit (b := !(VolatileDataExt.isBeneficiary env (ev.inspect 0) &&
        VolatileDataExt.disabled c))
      · rw [instruction, hop]
        simp only [h4, if_true]
        exact guarded_volatile _ .beneficiary
      · rw [passes, hop]
        simp only [h4, if_true]
    | false =>
      apply hsplit (b := env.spec.isEnabled .rex2)
      · rw [instruction, hop]
        simp only [h4, Bool.false_eq_true, if_false]
        split <;> rfl
      · rw [passes, hop]
        simp only [h4, Bool.false_eq_true, if_false]
  | call =>
    apply hsplit (b := passesCallCheck env ev c && passesStorageGas ev true c.gas)
    · rw [instruction, hop]
      exact checkedCall_volatile true
    · rw [passes, hop]
  | callCode =>
    apply hsplit (b := !env.spec.isEnabled .rex ||
      (passesCallCheck env ev c && passesStorageGas ev true c.gas))
    · rw [instruction, hop]
      exact callLike_volatile true
    · rw [passes, hop]
  | delegateCall | staticCall =>
    apply hsplit (b := !env.spec.isEnabled .rex ||
      (passesCallCheck env ev c && passesStorageGas ev false c.gas))
    · rw [instruction, hop]
      exact callLike_volatile false
    · rw [passes, hop]

end Marks

section Detains

def Opcode.turnedAwayFor : Opcode → VolatileDataAccessType
  | .blockEnv ty => ty
  | .sload => .oracle
  | _ => .beneficiary

/-- An opcode with a detaining wrapper is turned away, or its own instruction runs
and the recorded cap is applied behind it. -/
theorem instruction_of_detains (hd : ev.opcode.detains env.spec = true) :
    instruction env ev c =
      if passes env ev c then
        runInnerOrAbort (ComputeGasExt.wrap env ev) VolatileDataExt.applyComputeGasLimit c
      else VolatileDataExt.revertDisabled ev.opcode.turnedAwayFor c := by
  unfold instruction passes
  cases hop : ev.opcode with
  | blockEnv ty =>
    simp only [VolatileDataExt.unconditional]
    cases VolatileDataExt.disabled c <;> rfl
  | account =>
    simp only [VolatileDataExt.conditional]
    cases VolatileDataExt.isBeneficiary env (ev.inspect 0) && VolatileDataExt.disabled c <;> rfl
  | sload =>
    rw [hop, Opcode.detains] at hd
    simp only [VolatileDataExt.sload, hd, if_true, Bool.true_and]
    cases c.target == ORACLE_CONTRACT_ADDRESS && VolatileDataExt.disabled c <;> rfl
  | selfdestruct =>
    rw [hop, Opcode.detains] at hd
    simp only [VolatileDataExt.conditional, hd, if_true]
    cases VolatileDataExt.isBeneficiary env (ev.inspect 0) && VolatileDataExt.disabled c <;> rfl
  | _ =>
    rw [hop] at hd
    cases hd

theorem detains_opensFrame (hd : ev.opcode.detains env.spec = true) :
    ev.inner.opensFrame = false := by
  by_contra hx
  have hopens := ev.opens (by simpa using hx)
  cases hop : ev.opcode <;> rw [hop] at hd hopens <;>
    first | exact Bool.false_ne_true hd | exact Bool.false_ne_true hopens

/-- The gas of an inner instruction that succeeds, for the opcodes that open no frame. -/
def completedCost (ev : OpEvent) (gas : Gas) : Option ℕ :=
  match ev.inner with
  | .next cost _ => if cost ≤ gas.remaining then some cost else none
  | .halt r _ cost _ => if cost ≤ gas.remaining && !r.isError then some cost else none
  | .newFrame .. => none

theorem isError_halt (r : InstructionResult) : (c.halt r).isError = r.isError := rfl

theorem isError_of_action (ha : c.action = none) : c.isError = false := by
  simp [Ctx.isError, Ctx.instructionResult, ha]

theorem runInner_completed (ha : c.action = none) (hn : ev.inner.opensFrame = false) :
    match completedCost ev c.gas with
    | some cost => (runInner env ev c).isError = false ∧
        computeGasUsed c.gas.remaining (runInner env ev c) = cost
    | none => (runInner env ev c).isError = true := by
  unfold runInner completedCost
  cases hi : ev.inner with
  | newFrame cost f i w =>
    rw [hi] at hn
    cases hn
  | next cost writes =>
    by_cases hle : cost ≤ c.gas.remaining
    · have hsome := Gas.recordCost_eq_some.2 ⟨hle, rfl⟩
      have hgas : (touchHost env ev c).gas = c.gas := rfl
      simp only [hle, if_true, chargeInner, hgas, hsome, id]
      refine ⟨isError_of_action ha, ?_⟩
      simp only [computeGasUsed, touchHost, ha]
      omega
    · have hnone := Gas.recordCost_eq_none.2 (Nat.lt_of_not_le hle)
      have hgas : (touchHost env ev c).gas = c.gas := rfl
      simp only [hle, if_false, chargeInner, hgas, hnone]
      rfl
  | halt r o cost writes =>
    have hgas : (touchHost env ev c).gas = c.gas := rfl
    by_cases hle : cost ≤ c.gas.remaining
    · have hsome := Gas.recordCost_eq_some.2 ⟨hle, rfl⟩
      simp only [hle, decide_true, Bool.true_and, chargeInner, hgas, hsome]
      cases hr : r.isError with
      | true =>
        simp only [Bool.not_true, Bool.false_eq_true, if_false]
        exact hr
      | false =>
        simp only [Bool.not_false, if_true]
        refine ⟨hr, ?_⟩
        simp only [computeGasUsed, Ctx.haltWith]
        omega
    · have hnone := Gas.recordCost_eq_none.2 (Nat.lt_of_not_le hle)
      simp only [hle, decide_false, Bool.false_and, Bool.false_eq_true, if_false, chargeInner,
        hgas, hnone]
      rfl

theorem wrap_completed (ha : c.action = none) (hn : ev.inner.opensFrame = false) :
    match completedCost ev c.gas with
    | some cost =>
      (ComputeGasExt.wrap env ev c).limit = c.limit.recordComputeGas cost ∧
        ((ComputeGasExt.wrap env ev c).isError = true ↔
          (c.limit.recordComputeGas cost).TxExceeded)
    | none => (ComputeGasExt.wrap env ev c).isError = true ∧
        (ComputeGasExt.wrap env ev c).limit = c.limit := by
  have hinner := @runInner_completed env ev c ha hn
  cases hc : completedCost ev c.gas with
  | none =>
    rw [hc] at hinner
    simp only at hinner ⊢
    simp only [ComputeGasExt.wrap, runInnerOrAbort, hinner, if_true, runInner_limit, true_and]
  | some cost =>
    rw [hc] at hinner
    obtain ⟨herr, hused⟩ := hinner
    simp only [ComputeGasExt.wrap, runInnerOrAbort, herr, Bool.false_eq_true, if_false, hused,
      computeGas, runInner_limit]
    split
    · next hx =>
      refine ⟨rfl, ?_⟩
      rw [isError_halt]
      simp only [exceedingInstructionResult, TxExceeded, hx, true_and]
      cases (c.limit.recordComputeGas cost).hasExceededLimit.isFrameLocal <;> decide
    · next hx =>
      refine ⟨rfl, ?_⟩
      have herr' : ({ runInner env ev c with limit := c.limit.recordComputeGas cost } :
          Ctx).isError = false := herr
      rw [herr']
      simp only [TxExceeded]
      simp [hx]

end Detains

section Limit

theorem recordGasUsed_detainedLimit (t : ComputeGasTracker) (g : ℕ) :
    (t.recordGasUsed g).detainedLimit = t.detainedLimit := by
  unfold ComputeGasTracker.recordGasUsed
  split <;> rfl

@[simp] theorem recordComputeGas_detainedLimit (l : AdditionalLimit) (g : ℕ) :
    (l.recordComputeGas g).computeGas.detainedLimit = l.computeGas.detainedLimit := by
  rw [recordComputeGas_computeGas, recordGasUsed_detainedLimit]

end Limit

end MegaEvm
