import MegaEvm.InstructionGas
import MegaEvm.Machine
import MegaEvm.Library.CheckedWord

/-!
# Gas forwarded to a child

An opcode that opens a frame sets gas aside for it under the interpreter's
63/64 rule; the outermost wrapper gives part of that back, so that the child
gets at most 98/100 of what the opcode left. The cap is followed here on the
machine's words. An opcode whose own compute gas exceeds a limit is the one
that loses what it set aside.
-/

set_option autoImplicit false

namespace MegaEvm

/-- The interpreter's own charge for a call with a value. -/
def constants.CALLVALUE : ℕ := 9000

section Words

/-- `wrap_gas_cap!` on 128-bit words, narrowed to 64 bits at the end: the gas
of the parent and the gas limit of the child. -/
def capWords (remaining childGas transferGasStipend : ℕ) : Option (ℕ × ℕ) := do
  let forwardedGas ← CheckedWord.sub childGas transferGasStipend
  let parentOriginalGasLeft ← CheckedWord.add 128 remaining forwardedGas
  let doubled ← CheckedWord.mul 128 parentOriginalGasLeft 2
  let forwardedGasCap ← CheckedWord.sub parentOriginalGasLeft (doubled / 100)
  let cappedForwardedGas := min forwardedGas forwardedGasCap
  let gasToReturn ← CheckedWord.sub forwardedGas cappedForwardedGas
  let newChildGas ← CheckedWord.add 128 cappedForwardedGas transferGasStipend
  let returned ← CheckedWord.narrow 64 gasToReturn
  let parentGas ← CheckedWord.add 64 remaining returned
  let childGasLimit ← CheckedWord.narrow 64 newChildGas
  return (parentGas, childGasLimit)

/-- The gas `wrap_op_compute_gas!` records for an opcode that opened a frame. -/
def usedWords (gasBefore gasAfter childGas : ℕ) : Option ℕ := do
  let gasUsed ← CheckedWord.sub gasBefore gasAfter
  CheckedWord.sub gasUsed childGas

variable {remaining forwarded stipend cost : ℕ}

theorem capWords_eq (hleft : remaining + forwarded < 2 ^ 64)
    (hchild : forwarded + stipend < 2 ^ 64) :
    capWords remaining (forwarded + stipend) stipend =
      some (remaining + ForwardGasExt.gasToReturn remaining forwarded,
        forwarded - ForwardGasExt.gasToReturn remaining forwarded + stipend) := by
  have hwide : (2 : ℕ) ^ 64 * 2 < 2 ^ 128 := by decide
  have hpercent : (remaining + forwarded) * 2 / 100 ≤ remaining + forwarded := by omega
  have hmin : min forwarded (remaining + forwarded - (remaining + forwarded) * 2 / 100) ≤
      forwarded := Nat.min_le_left _ _
  -- every line of the computation, from the first word to the last
  simp only [capWords, ForwardGasExt.gasToReturn, Option.bind_eq_bind,
    CheckedWord.sub_of_le (Nat.le_add_left stipend forwarded), Option.bind_some,
    Nat.add_sub_cancel]
  rw [CheckedWord.add_of_lt (by omega), Option.bind_some, CheckedWord.mul_of_lt (by omega),
    Option.bind_some, CheckedWord.sub_of_le hpercent, Option.bind_some,
    CheckedWord.sub_of_le hmin, Option.bind_some, CheckedWord.add_of_lt (by omega),
    Option.bind_some, CheckedWord.narrow_of_lt (by omega), Option.bind_some,
    CheckedWord.add_of_lt (by omega), Option.bind_some, CheckedWord.narrow_of_lt (by omega),
    Option.bind_some, Nat.sub_sub_self hmin]
  rfl

theorem usedWords_eq (hstipend : stipend ≤ cost) (hgas : cost + forwarded ≤ remaining) :
    usedWords remaining (remaining - (cost + forwarded)) (forwarded + stipend) =
      some (cost - stipend) := by
  simp only [usedWords, Option.bind_eq_bind]
  rw [CheckedWord.sub_of_le (Nat.sub_le _ _), Option.bind_some,
    CheckedWord.sub_of_le (by omega), Option.some.injEq]
  omega

end Words

section Charge

variable (env : Env) (ev : OpEvent)

def callCharge (checkTransfer : Bool) : Option ℕ := do
  let _ ← ev.inspect 1
  let isEmpty ← ev.targetEmpty
  if checkTransfer then
    let value ← ev.inspect 2
    if isEmpty && value != 0 then ev.storageGas else some 0
  else some 0

def createCharge (isCreate2 : Bool) : Option ℕ := do
  let _ ← ev.targetEmpty
  if isCreate2 then
    let offset ← ev.inspect 1
    let len ← ev.inspect 2
    let _ ← ev.inspect 3
    if offset > u64Max || len > u64Max then none else ev.storageGas
  else ev.storageGas

/-- The storage gas of an opcode that opens a frame; `none` when the wrapper
stops before the opcode. -/
def storageCharge : Option ℕ :=
  match ev.opcode with
  | .call | .callCode => callCharge ev true
  | .delegateCall | .staticCall => callCharge ev false
  | .create => createCharge ev false
  | .create2 => createCharge ev true
  | _ => none

variable {env ev} {c : Ctx}

def Charged (env : Env) (ev : OpEvent) (charge : Option ℕ) (c c' : Ctx) : Prop :=
  match charge with
  | some st => c' = chargeThen st (ComputeGasExt.wrap env ev) c
  | none => ∃ r : InstructionResult, r.isError = true ∧ c' = c.halt r

theorem chargeThen_zero (rest : Ctx → Ctx) : chargeThen 0 rest c = rest c := by
  simp [chargeThen, Gas.recordCost]

theorem charged_call (b : Bool) :
    Charged env ev (callCharge ev b) c (StorageGasExt.call env ev b c) := by
  unfold StorageGasExt.call callCharge
  cases ev.inspect 1 with
  | none => exact ⟨_, rfl, rfl⟩
  | some target =>
    cases ev.targetEmpty with
    | none => exact ⟨_, rfl, rfl⟩
    | some isEmpty =>
      cases b with
      | false => exact (chargeThen_zero (ComputeGasExt.wrap env ev)).symm
      | true =>
        cases ev.inspect 2 with
        | none => exact ⟨_, rfl, rfl⟩
        | some value =>
          simp only [if_true, Option.bind_eq_bind, Option.bind_some]
          by_cases hp : (isEmpty && value != 0) = true
          · rw [if_pos hp, if_pos hp]
            cases ev.storageGas with
            | none => exact ⟨_, rfl, rfl⟩
            | some st => rfl
          · rw [if_neg hp, if_neg hp]
            exact (chargeThen_zero (ComputeGasExt.wrap env ev)).symm

theorem charged_create (b : Bool) :
    Charged env ev (createCharge ev b) c (StorageGasExt.create env ev b c) := by
  have hplain : Charged env ev (createCharge ev false) c (StorageGasExt.create env ev false c) := by
    unfold StorageGasExt.create createCharge
    cases ev.targetEmpty with
    | none => exact ⟨_, rfl, rfl⟩
    | some isEmpty =>
      cases ev.storageGas with
      | none => exact ⟨_, rfl, rfl⟩
      | some st => rfl
  cases b with
  | false => exact hplain
  | true =>
    unfold StorageGasExt.create createCharge at hplain ⊢
    cases hte : ev.targetEmpty with
    | none => exact ⟨_, rfl, rfl⟩
    | some isEmpty =>
      rw [hte] at hplain
      cases ev.inspect 1 with
      | none => exact ⟨_, rfl, rfl⟩
      | some offset =>
        cases ev.inspect 2 with
        | none => exact ⟨_, rfl, rfl⟩
        | some len =>
          simp only [if_true, Option.bind_eq_bind, Option.bind_some]
          by_cases hw : (decide (offset > u64Max) || decide (len > u64Max)) = true
          · simp only [hw, if_true]
            cases ev.inspect 3 with
            | none => exact ⟨_, rfl, rfl⟩
            | some salt => exact ⟨_, rfl, rfl⟩
          · simp only [hw, Bool.false_eq_true, if_false]
            cases ev.inspect 3 with
            | none => exact ⟨_, rfl, rfl⟩
            | some salt => exact hplain

/-- From the first Rex spec on an opcode that opens a frame is turned down, or
is charged and forwarded. -/
inductive Forwards (env : Env) (ev : OpEvent) (c : Ctx) : Ctx → Prop
  | denied (hd : accessDenied env ev c = true) :
      Forwards env ev c (VolatileDataExt.revertDisabled .beneficiary c)
  | allowed (hd : accessDenied env ev c = false) (inner : Ctx → Ctx)
      (hcharged : Charged env ev (storageCharge ev) c (inner c)) :
      Forwards env ev c (ForwardGasExt.wrap ev inner c)

theorem forwards_call {b : Bool} (hst : storageCharge ev = callCharge ev b)
    (hd : accessDenied env ev c = (VolatileDataExt.disabled c &&
      (env.spec.isEnabled .rex4 && VolatileDataExt.isBeneficiary env (ev.inspect 1)))) :
    Forwards env ev c
      (if env.spec.isEnabled .rex4 then
        VolatileDataExt.callCheck env ev
          (ForwardGasExt.wrap ev (StorageGasExt.call env ev b)) c
      else ForwardGasExt.wrap ev (StorageGasExt.call env ev b) c) := by
  have hcharged : Charged env ev (storageCharge ev) c (StorageGasExt.call env ev b c) := by
    rw [hst]
    exact charged_call b
  by_cases h4 : env.spec.isEnabled .rex4 = true
  · rw [h4, Bool.true_and, Bool.and_comm] at hd
    rw [if_pos h4, VolatileDataExt.callCheck]
    by_cases hb : (VolatileDataExt.isBeneficiary env (ev.inspect 1) &&
        VolatileDataExt.disabled c) = true
    · rw [if_pos hb]
      exact .denied (by rw [hd, hb])
    · rw [if_neg hb]
      exact .allowed (by rw [hd, Bool.eq_false_iff]; exact hb) _ hcharged
  · rw [if_neg h4]
    exact .allowed (by simp [hd, h4]) _ hcharged

theorem forwards_create {b : Bool} (hst : storageCharge ev = createCharge ev b)
    (hd : accessDenied env ev c = false) :
    Forwards env ev c (ForwardGasExt.wrap ev (StorageGasExt.create env ev b) c) := by
  refine .allowed hd _ ?_
  rw [hst]
  exact charged_create b

theorem instruction_forwards (hr : env.spec.isEnabled .rex = true)
    (ho : ev.opcode.opensFrame = true) : Forwards env ev c (instruction env ev c) := by
  unfold instruction
  cases hop : ev.opcode with
  | call =>
    exact forwards_call (b := true) (by simp [storageCharge, hop]) (by simp [accessDenied, hop])
  | callCode =>
    simp only [callLike, hr, if_true]
    exact forwards_call (by simp [storageCharge, hop]) (by simp [accessDenied, hop])
  | delegateCall | staticCall =>
    simp only [callLike, hr, if_true]
    exact forwards_call (by simp [storageCharge, hop]) (by simp [accessDenied, hop])
  | create | create2 =>
    exact forwards_create (by simp [storageCharge, hop]) (by simp [accessDenied, hop])
  | _ => simp [hop, Opcode.opensFrame] at ho

end Charge

section StorageGas

variable {env : Env} {ev : OpEvent} {st : ℕ}

theorem newAccountGas_of_charge (h : callCharge ev true = some st) : newAccountGas ev = st := by
  simp only [callCharge, if_true, Option.bind_eq_bind, Option.bind_eq_some_iff] at h
  obtain ⟨_, -, isEmpty, he, value, hv, h⟩ := h
  simp only [newAccountGas, he, hv, Option.getD_some]
  by_cases hp : (isEmpty && value != 0) = true
  · rw [if_pos hp] at h ⊢
    rw [h, Option.getD_some]
  · rw [if_neg hp] at h ⊢
    exact Option.some.inj h

theorem callCharge_free (h : callCharge ev false = some st) : st = 0 := by
  simp only [callCharge, Bool.false_eq_true, if_false, Option.bind_eq_bind,
    Option.bind_eq_some_iff, Option.some.injEq] at h
  obtain ⟨_, -, _, -, h⟩ := h
  exact h.symm

theorem storageGas_of_charge {b : Bool} (h : createCharge ev b = some st) :
    ev.storageGas = some st := by
  cases b with
  | false =>
    simp only [createCharge, Bool.false_eq_true, if_false, Option.bind_eq_bind,
      Option.bind_eq_some_iff] at h
    obtain ⟨_, -, h⟩ := h
    exact h
  | true =>
    simp only [createCharge, if_true, Option.bind_eq_bind, Option.bind_eq_some_iff] at h
    obtain ⟨_, -, _, -, _, -, _, -, h⟩ := h
    split at h
    · cases h
    · exact h

theorem opStorageGas_of_charge (hr : env.spec.isEnabled .rex = true)
    (h : storageCharge ev = some st) : opStorageGas env ev = st := by
  unfold opStorageGas
  cases hop : ev.opcode with
  | call =>
    rw [storageCharge, hop] at h
    exact newAccountGas_of_charge h
  | callCode =>
    rw [storageCharge, hop] at h
    rw [if_pos hr]
    exact newAccountGas_of_charge h
  | delegateCall | staticCall =>
    rw [storageCharge, hop] at h
    exact (callCharge_free h).symm
  | create | create2 =>
    rw [storageCharge, hop] at h
    rw [storageGas_of_charge h, Option.getD_some]
  | _ => simp [storageCharge, hop] at h

end StorageGas

section Forwarding

variable (env : Env) (ev : OpEvent) (c : Ctx)

def afterStorageGas : Ctx :=
  { c with gas := { c.gas with remaining := c.gas.remaining - opStorageGas env ev } }

def gasLeft : ℕ := c.gas.remaining - (opStorageGas env ev + ev.inner.cost)

/-- The child starts with `input`: it has at most 98/100 of what was left and of
what was set aside, apart from its stipend, and the rest is its parent's. -/
structure ChildStarted (input : FrameInput) (c' : Ctx) : Prop where
  stipend : stipend ev ≤ input.gasLimit
  forwarded : input.gasLimit - MegaEvm.stipend ev ≤ ev.inner.forwarded
  capped : input.gasLimit - MegaEvm.stipend ev ≤ gasLeft env ev c - gasLeft env ev c * 2 / 100
  conserved : c'.gas.remaining + (input.gasLimit - MegaEvm.stipend ev) + ev.inner.cost +
    opStorageGas env ev = c.gas.remaining
  words : capWords (gasLeft env ev c - ev.inner.forwarded)
    (ev.inner.forwarded + MegaEvm.stipend ev) (MegaEvm.stipend ev) =
      some (c'.gas.remaining, input.gasLimit)

/-- Gas is conserved whether the child starts or a limit stops the opcode. -/
structure ForwardsExactly : Prop where
  started : ∀ input, (instruction env ev c).action = some (.newFrame input) →
    ChildStarted env ev c input (instruction env ev c)
  stopped : ∀ r, (instruction env ev c).action = some (.return r) →
    (instruction env ev c).limit.exceeded = true →
    r.gas.remaining + ev.inner.cost + opStorageGas env ev = c.gas.remaining
  metered : ∀ input,
    (runInner env ev (afterStorageGas env ev c)).action = some (.newFrame input) →
    usedWords (afterStorageGas env ev c).gas.remaining
      (runInner env ev (afterStorageGas env ev c)).gas.remaining input.gasLimit =
        some (ev.inner.cost - stipend ev)

/-- The opcode goes through, sets gas aside, and exceeds a limit with the compute
gas it used itself. -/
def strands : Bool :=
  !accessDenied env ev c && (storageCharge ev).isSome && ev.inner.forwarded != 0 &&
    decide (opStorageGas env ev + ev.inner.cost + ev.inner.forwarded ≤ c.gas.remaining) &&
    (c.limit.recordComputeGas (ev.inner.cost - stipend ev)).exceeded

variable {env ev c}

theorem stipend_le : stipend ev ≤ constants.CALL_STIPEND := by
  unfold stipend
  split
  · exact le_rfl
  · exact Nat.zero_le _

theorem stipend_eq_zero (h : hasTransfer ev = false) : stipend ev = 0 := by
  simp [stipend, h]

theorem stipend_le_cost (hv : hasTransfer ev = true → constants.CALLVALUE ≤ ev.inner.cost) :
    stipend ev ≤ ev.inner.cost := by
  by_cases h : hasTransfer ev = true
  · have hcost := hv h
    have hst : stipend ev ≤ constants.CALL_STIPEND := stipend_le
    have hconst : constants.CALL_STIPEND ≤ constants.CALLVALUE := by decide
    omega
  · rw [stipend_eq_zero (by simpa using h)]
    exact Nat.zero_le _

theorem forward_returned {inner : Ctx → Ctx}
    (h : ∀ i, (inner c).action ≠ some (.newFrame i)) :
    ForwardGasExt.wrap ev inner c = inner c := by
  unfold ForwardGasExt.wrap runInnerOrAbort ForwardGasExt.cap
  split
  · rfl
  · split
    case h_1 i hi => exact absurd hi (h i)
    case h_2 => rfl

theorem forward_opened {inner : Ctx → Ctx} {i : FrameInput}
    (h : (inner c).action = some (.newFrame i)) :
    ForwardGasExt.wrap ev inner c = ForwardGasExt.cap (stipend ev) (inner c) := by
  unfold ForwardGasExt.wrap runInnerOrAbort
  rw [if_neg]
  simp [Ctx.isError, Ctx.instructionResult, h]

theorem runInner_asks (hc : c.action = none) {i : FrameInput}
    (h : (runInner env ev c).action = some (.newFrame i)) :
    ev.inner.cost + ev.inner.forwarded ≤ c.gas.remaining ∧
      (runInner env ev c).gas.remaining = c.gas.remaining - (ev.inner.cost + ev.inner.forwarded) ∧
      i.gasLimit = ev.inner.forwarded + stipend ev := by
  have hopens := runInner_newFrame hc h
  unfold runInner at h ⊢
  cases hi : ev.inner with
  | next | halt => simp [hi, Inner.opensFrame] at hopens
  | newFrame cost forwarded input writes =>
    simp only [hi, chargeInner] at h ⊢
    have hgas : (touchHost env ev c).gas = c.gas := rfl
    cases hg : c.gas.recordCost (cost + forwarded) with
    | none =>
      rw [hgas, hg] at h
      cases h
    | some g =>
      obtain ⟨hle, rfl⟩ := Gas.recordCost_eq_some.1 hg
      rw [hgas, hg] at h ⊢
      cases h
      exact ⟨hle, rfl, FrameInput.withGasLimit_gasLimit _ _⟩

theorem wrap_gas (hc : c.action = none) {r : InterpreterResult}
    (h : (ComputeGasExt.wrap env ev c).action = some (.return r)) :
    r.gas = (ComputeGasExt.wrap env ev c).gas := by
  have hrun : ∀ r, (runInner env ev c).action = some (.return r) →
      r.gas = (runInner env ev c).gas := runInner_gas hc
  revert h
  refine runInnerOrAbort_spec
    (P := fun c' => ∀ r, c'.action = some (.return r) → r.gas = c'.gas)
    (Q := fun c' => c'.action = some (.return r) → r.gas = c'.gas) hrun (fun _ h => ?_)
    fun _ h => h r
  unfold computeGas
  dsimp only
  split
  · intro hr
    cases hr
    rfl
  · exact h r

theorem Charged.cases {charge : Option ℕ} {c' : Ctx} (h : Charged env ev charge c c') :
    (∃ r : InstructionResult, r.isError = true ∧ c' = c.halt r) ∨
      ∃ g, c' = ComputeGasExt.wrap env ev { c with gas := g } := by
  cases charge with
  | none => exact Or.inl h
  | some st =>
    change c' = chargeThen st (ComputeGasExt.wrap env ev) c at h
    unfold chargeThen at h
    cases hg : c.gas.recordCost st with
    | none => exact Or.inl ⟨.outOfGas, rfl, by rw [h, hg]⟩
    | some g => exact Or.inr ⟨g, by rw [h, hg]⟩

theorem Charged.gas {charge : Option ℕ} {c' : Ctx} (h : Charged env ev charge c c')
    (hc : c.action = none) {r : InterpreterResult} (hr : c'.action = some (.return r)) :
    r.gas = c'.gas := by
  obtain ⟨e, -, rfl⟩ | ⟨g, rfl⟩ := h.cases
  · cases hr
    rfl
  · exact wrap_gas (c := { c with gas := g }) hc hr

theorem Charged.opensFrame {charge : Option ℕ} {c' : Ctx} (h : Charged env ev charge c c')
    (hc : c.action = none) {i : FrameInput} (hi : c'.action = some (.newFrame i)) :
    ev.inner.opensFrame = true := by
  obtain ⟨e, -, rfl⟩ | ⟨g, rfl⟩ := h.cases
  · cases hi
  · exact wrap_newFrame (c := { c with gas := g }) hc hi

theorem Charged.charge {charge : Option ℕ} {c' : Ctx} (h : Charged env ev charge c c')
    (hx : c.limit.exceeded = false) (hc : c.action = none) {st : ℕ}
    (hst : ∀ s, charge = some s → st = s) : Charge ev (st + ev.inner.cost) c c' := by
  cases charge with
  | none =>
    obtain ⟨e, he, rfl⟩ := h
    exact .halt hx he
  | some s =>
    change c' = chargeThen s (ComputeGasExt.wrap env ev) c at h
    rw [h, hst s rfl]
    exact charge_chargeThen hx hc s

theorem childStarted {inner : Ctx → Ctx} {i : FrameInput}
    (h : Charge ev (opStorageGas env ev + ev.inner.cost) c (inner c))
    (hi : (inner c).action = some (.newFrame i)) (hstipend : stipend ev ≤ ev.inner.cost)
    (hgas : c.gas.remaining < 2 ^ 64) {input : FrameInput}
    (ha : (ForwardGasExt.wrap ev inner c).action = some (.newFrame input)) :
    ChildStarted env ev c input (ForwardGasExt.wrap ev inner c) := by
  have hlimit := h.forwards i hi
  have hspend := h.spends (by simp [Ctx.failed, Ctx.isError, Ctx.instructionResult, hi])
  simp only [minted, setAside, hi, hlimit] at hspend
  -- the parent's gas before the cap
  have hafter : (inner c).gas.remaining = gasLeft env ev c - ev.inner.forwarded := by
    unfold gasLeft
    omega
  have hret := gasToReturn_le (inner c).gas.remaining ev.inner.forwarded
  rw [forward_opened hi] at ha ⊢
  simp only [ForwardGasExt.cap, hi, hlimit, Nat.add_sub_cancel, Option.some.injEq,
    InterpreterAction.newFrame.injEq] at ha
  have hinput : input.gasLimit = ev.inner.forwarded -
      ForwardGasExt.gasToReturn (inner c).gas.remaining ev.inner.forwarded + stipend ev := by
    rw [← ha, FrameInput.withGasLimit_gasLimit]
  have hparent : (ForwardGasExt.cap (stipend ev) (inner c)).gas.remaining =
      (inner c).gas.remaining +
        ForwardGasExt.gasToReturn (inner c).gas.remaining ev.inner.forwarded := by
    simp only [ForwardGasExt.cap, hi, hlimit, Nat.add_sub_cancel, Gas.eraseCost_remaining]
  have hcap : ev.inner.forwarded -
      ForwardGasExt.gasToReturn (inner c).gas.remaining ev.inner.forwarded ≤
        gasLeft env ev c - gasLeft env ev c * 2 / 100 := by
    have hleft : (inner c).gas.remaining + ev.inner.forwarded = gasLeft env ev c := by
      unfold gasLeft
      omega
    simp only [ForwardGasExt.gasToReturn, hleft]
    omega
  have hleft : (inner c).gas.remaining + ev.inner.forwarded < 2 ^ 64 := by omega
  have hwords := capWords_eq hleft (show ev.inner.forwarded + stipend ev < 2 ^ 64 by omega)
  exact
    { stipend := by omega
      forwarded := by omega
      capped := by omega
      conserved := by omega
      words := by rw [← hafter, hwords, hparent, hinput] }

theorem wrap_strands (hf : ev.inner.forwarded ≠ 0)
    (hgas : ev.inner.cost + ev.inner.forwarded ≤ c.gas.remaining)
    (hx : (c.limit.recordComputeGas (ev.inner.cost - stipend ev)).exceeded = true) :
    ∃ r, (ComputeGasExt.wrap env ev c).action = some (.return r) ∧
      (ComputeGasExt.wrap env ev c).limit.exceeded = true := by
  have hok : (runInner env ev c).isError = false := by
    unfold runInner
    cases hi : ev.inner with
    | next | halt => simp [hi, Inner.forwarded] at hf
    | newFrame cost forwarded input writes =>
      simp only [hi, Inner.cost, Inner.forwarded] at hgas
      have hrec : (touchHost env ev c).gas.recordCost (cost + forwarded) =
          some { c.gas with remaining := c.gas.remaining - (cost + forwarded) } :=
        Gas.recordCost_eq_some.2 ⟨hgas, rfl⟩
      simp [chargeInner, hrec, Ctx.isError, Ctx.instructionResult]
  obtain ⟨-, hused⟩ := runInner_opens hok hf
  unfold ComputeGasExt.wrap runInnerOrAbort
  rw [if_neg (by simp [hok])]
  simp only [computeGas, hused, runInner_limit, hx, if_true]
  exact ⟨_, rfl, hx⟩

theorem Charged.stopped {inner : Ctx → Ctx} {st : ℕ}
    (h : Charged env ev (some st) c (inner c)) (hf : ev.inner.forwarded ≠ 0)
    (hgas : st + ev.inner.cost + ev.inner.forwarded ≤ c.gas.remaining)
    (hx : (c.limit.recordComputeGas (ev.inner.cost - stipend ev)).exceeded = true) :
    ∃ r, (ForwardGasExt.wrap ev inner c).action = some (.return r) ∧
      (ForwardGasExt.wrap ev inner c).limit.exceeded = true := by
  have hrec : c.gas.recordCost st = some { c.gas with remaining := c.gas.remaining - st } :=
    Gas.recordCost_eq_some.2 ⟨by omega, rfl⟩
  have heq : inner c = ComputeGasExt.wrap env ev
      { c with gas := { c.gas with remaining := c.gas.remaining - st } } := by
    change inner c = chargeThen st (ComputeGasExt.wrap env ev) c at h
    rw [h, chargeThen, hrec]
  have hleft : ev.inner.cost + ev.inner.forwarded ≤ c.gas.remaining - st := by omega
  obtain ⟨r, hr, hlx⟩ : ∃ r, (inner c).action = some (.return r) ∧
      (inner c).limit.exceeded = true := by
    rw [heq]
    exact wrap_strands hf hleft hx
  rw [forward_returned fun i hi => by
    rw [hr] at hi
    cases hi]
  exact ⟨r, hr, hlx⟩

theorem stopped_keeps (hr : env.spec.isEnabled .rex = true) (ho : ev.opcode.opensFrame = true)
    (hc : c.action = none) (hx : c.limit.exceeded = false) (hs : strands env ev c = false)
    {r : InterpreterResult} (ha : (instruction env ev c).action = some (.return r))
    (hlx : (instruction env ev c).limit.exceeded = true) :
    r.gas.remaining + ev.inner.cost + opStorageGas env ev = c.gas.remaining := by
  have heffect : Effect ev (opGas env ev c) c (instruction env ev c) := effect_instruction hx hc
  have hforwards := instruction_forwards (c := c) hr ho
  generalize instruction env ev c = c' at heffect hforwards ha hlx
  cases hforwards with
  | denied hd =>
    change c.limit.exceeded = true at hlx
    rw [hx] at hlx
    cases hlx
  | allowed hd inner hcharged =>
    have hspend := heffect.spends (by simp [Ctx.failed, hlx])
    have hstranded := heffect.stranded hlx
    rw [opGas_of_allowed hd] at hspend hstranded
    simp only [minted, setAside, ha, hlx, if_true] at hspend
    have hnone : ∀ i, (inner c).action ≠ some (.newFrame i) := fun i hi => by
      rw [forward_opened hi] at ha
      simp [ForwardGasExt.cap, hi] at ha
    rw [forward_returned hnone] at ha hlx hspend
    have hgas := hcharged.gas hc ha
    have hzero : ev.inner.forwarded = 0 := by
      by_contra hf
      obtain ⟨hle, hrec⟩ := hstranded hf
      cases hst : storageCharge ev with
      | none =>
        rw [hst] at hcharged
        obtain ⟨e, -, heq⟩ := hcharged
        rw [heq] at hlx
        change c.limit.exceeded = true at hlx
        rw [hx] at hlx
        cases hlx
      | some st => simp [strands, hd, hst, hf, hle, hrec] at hs
    rw [hgas]
    omega

theorem strands_stopped (hr : env.spec.isEnabled .rex = true) (ho : ev.opcode.opensFrame = true)
    (hc : c.action = none) (hx : c.limit.exceeded = false) (hs : strands env ev c = true) :
    ∃ r, (instruction env ev c).action = some (.return r) ∧
      (instruction env ev c).limit.exceeded = true ∧
      r.gas.remaining + ev.inner.cost + opStorageGas env ev < c.gas.remaining := by
  simp only [strands, Bool.and_eq_true, Bool.not_eq_true', bne_iff_ne, decide_eq_true_eq,
    Option.isSome_iff_exists] at hs
  obtain ⟨⟨⟨⟨hd, st, hst⟩, hf⟩, hle⟩, hrec⟩ := hs
  have hstorage := opStorageGas_of_charge hr hst
  have heffect : Effect ev (opGas env ev c) c (instruction env ev c) := effect_instruction hx hc
  have hforwards := instruction_forwards (c := c) hr ho
  generalize instruction env ev c = c' at heffect hforwards ⊢
  cases hforwards with
  | denied hd' =>
    rw [hd] at hd'
    cases hd'
  | allowed _ inner hcharged =>
    have hsome : Charged env ev (some st) c (inner c) := by rwa [← hst]
    obtain ⟨r, ha, hlx⟩ := hsome.stopped hf (by omega) hrec
    have hspend := heffect.spends (by simp [Ctx.failed, hlx])
    rw [opGas_of_allowed hd] at hspend
    simp only [minted, setAside, ha, hlx, if_true] at hspend
    have hgas : r.gas = (ForwardGasExt.wrap ev inner c).gas := by
      have hnone : ∀ i, (inner c).action ≠ some (.newFrame i) := fun i hi => by
        rw [forward_opened hi] at ha
        simp [ForwardGasExt.cap, hi] at ha
      rw [forward_returned hnone] at ha ⊢
      exact hcharged.gas hc ha
    refine ⟨r, ha, hlx, ?_⟩
    rw [hgas]
    omega

theorem started_keeps (hr : env.spec.isEnabled .rex = true) (ho : ev.opcode.opensFrame = true)
    (hc : c.action = none) (hx : c.limit.exceeded = false) (hgas : c.gas.remaining < 2 ^ 64)
    (hv : ev.inner.opensFrame = true → hasTransfer ev = true →
      constants.CALLVALUE ≤ ev.inner.cost)
    {input : FrameInput} (ha : (instruction env ev c).action = some (.newFrame input)) :
    ChildStarted env ev c input (instruction env ev c) := by
  have hforwards := instruction_forwards (c := c) hr ho
  generalize instruction env ev c = c' at hforwards ha
  cases hforwards with
  | denied hd => cases ha
  | allowed hd inner hcharged =>
    have hcharge := hcharged.charge hx hc fun s hs => opStorageGas_of_charge hr hs
    by_cases hi : ∃ i, (inner c).action = some (.newFrame i)
    · obtain ⟨i, hi⟩ := hi
      exact childStarted hcharge hi (stipend_le_cost (hv (hcharged.opensFrame hc hi))) hgas ha
    · rw [forward_returned fun i h => hi ⟨i, h⟩] at ha
      exact absurd ⟨input, ha⟩ hi

/-- Gas is conserved by every opcode that opens a frame but the one that strands
what it set aside. -/
theorem forwards_exactly_iff (hr : env.spec.isEnabled .rex = true)
    (ho : ev.opcode.opensFrame = true) (hc : c.action = none) (hx : c.limit.exceeded = false)
    (hgas : c.gas.remaining < 2 ^ 64)
    (hv : ev.inner.opensFrame = true → hasTransfer ev = true →
      constants.CALLVALUE ≤ ev.inner.cost) :
    ForwardsExactly env ev c ↔ strands env ev c = false := by
  constructor
  · intro h
    by_contra hs
    obtain ⟨r, ha, hlx, hlt⟩ := strands_stopped hr ho hc hx (by simpa using hs)
    have hkeeps := h.stopped r ha hlx
    omega
  · intro hs
    exact
      { started := fun input ha => started_keeps hr ho hc hx hgas hv ha
        stopped := fun r ha hlx => stopped_keeps hr ho hc hx hs ha hlx
        metered := fun input ha => by
          have hstipend := stipend_le_cost (hv (runInner_newFrame (c := afterStorageGas env ev c)
            hc ha))
          obtain ⟨hle, hafter, hlimit⟩ := runInner_asks (c := afterStorageGas env ev c) hc ha
          rw [hafter, hlimit]
          exact usedWords_eq hstipend hle }

end Forwarding

section Sample

/-- A CALL with a value that asks for more than there is: it sets 63/64 of 640000 gas aside. -/
def forwardingCall : OpEvent :=
  { sampleCall with
    stack := [1000000, 100, 1, 0, 0, 0, 0]
    inner := .newFrame 11600 630000 (.call ⟨.call, 3, 100, .transfer 1, .other, 0⟩) []
    opens := fun _ => rfl
    ends := nofun }

/-- A frame with 651600 gas whose transaction has `computeGasLimit` left. -/
def forwardingCtx (computeGasLimit : ℕ) : Ctx where
  target := 3
  depth := 0
  gas := ⟨1000000, 651600⟩
  action := none
  limit := .new .rex4 { EvmTxRuntimeLimits.rex4 with txComputeGasLimit := computeGasLimit }
  volatile := .new 20000000 20000000
  journal := []

/-- The child gets 627200 gas and its stipend, the parent keeps the rest. -/
theorem forwards_exactly_call :
    ForwardsExactly (sampleEnv .rex4 (.call 3) .other 1000000) forwardingCall
      (forwardingCtx 200000) :=
  (forwards_exactly_iff rfl rfl rfl (by decide) (by decide) (by decide)).2 (by decide)

/-- The 630000 gas set aside are lost with an opcode that used 11600. -/
theorem forwarded_gas_lost :
    ¬ ∀ (env : Env) (ev : OpEvent) (c : Ctx), env.spec.isEnabled .rex = true →
      ev.opcode.opensFrame = true → c.action = none → c.limit.exceeded = false →
      c.gas.remaining < 2 ^ 64 →
      (ev.inner.opensFrame = true → hasTransfer ev = true →
        constants.CALLVALUE ≤ ev.inner.cost) → ForwardsExactly env ev c := by
  intro h
  have hexact := h (sampleEnv .rex4 (.call 3) .other 1000000) forwardingCall (forwardingCtx 9000)
    rfl rfl rfl (by decide) (by decide) (by decide)
  have hgas := hexact.stopped ⟨.outOfGas, [], ⟨1000000, 10000⟩⟩ (by decide) (by decide)
  have hlost : ¬ 10000 + 11600 + 0 = 651600 := by decide
  exact hlost hgas

end Sample

end MegaEvm
