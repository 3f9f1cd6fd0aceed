import MegaEvm.InstructionSpec

/-!
# What one instruction costs

The gas an instruction uses itself is its storage gas and the interpreter's own
cost; the rest of what leaves the frame's counter is set aside for a child. An
instruction that fails by itself burns its frame's gas anyway, so nothing is
said about it. When recording the instruction exceeds a limit the child never
starts, and what was set aside for it is in no counter any more.
-/

set_option autoImplicit false

namespace MegaEvm

open AdditionalLimit

namespace Inner

def cost : Inner → ℕ
  | next cost _ | halt _ _ cost _ | newFrame cost .. => cost

def forwarded : Inner → ℕ
  | newFrame _ forwarded _ _ => forwarded
  | _ => 0

end Inner

section Cost

variable (env : Env) (ev : OpEvent)

/-- A call with a value to an empty account pays for its creation. -/
def newAccountGas : ℕ :=
  if ev.targetEmpty.getD false && (ev.inspect 2).getD 0 != 0 then ev.storageGas.getD 0 else 0

def logGas (n : ℕ) : ℕ :=
  constants.LOG_DATA_STORAGE_GAS * (ev.inspect 1).getD 0 + constants.LOG_TOPIC_STORAGE_GAS * n

/-- SSTORE's storage gas: only setting a slot that was zero is charged. -/
def sstoreGas : ℕ :=
  match ev.slot with
  | some (original, present) =>
    if original == 0 && present == 0 && (ev.inspect 1).getD 0 != 0 then ev.storageGas.getD 0
    else 0
  | none => 0

def opStorageGas : ℕ :=
  match ev.opcode with
  | .call => newAccountGas ev
  | .callCode => if env.spec.isEnabled .rex then newAccountGas ev else 0
  | .create | .create2 => ev.storageGas.getD 0
  | .log n => logGas ev n
  | .sstore => sstoreGas ev
  | _ => 0

def accessDenied (c : Ctx) : Bool :=
  VolatileDataExt.disabled c &&
    match ev.opcode with
    | .blockEnv _ => true
    | .account => VolatileDataExt.isBeneficiary env (ev.inspect 0)
    | .selfdestruct =>
      env.spec.isEnabled .rex4 && VolatileDataExt.isBeneficiary env (ev.inspect 0)
    | .sload => env.spec.isEnabled .rex3 && c.target == ORACLE_CONTRACT_ADDRESS
    | .call | .callCode | .delegateCall | .staticCall =>
      env.spec.isEnabled .rex4 && VolatileDataExt.isBeneficiary env (ev.inspect 1)
    | _ => false

def opGas (c : Ctx) : ℕ :=
  if accessDenied env ev c then 0 else opStorageGas env ev + ev.inner.cost

end Cost

/-- The instruction failed by itself: its frame's gas is burnt. -/
def Ctx.failed (c : Ctx) : Bool := c.isError && !c.limit.exceeded

/-- Gas set aside for a child, also for one that an exceed keeps from starting. -/
def setAside (ev : OpEvent) (c : Ctx) : ℕ :=
  match c.action with
  | some (.newFrame i) => i.gasLimit
  | _ => if c.limit.exceeded then ev.inner.forwarded else 0

/-- The stipend a starting child gets for free. -/
def minted (ev : OpEvent) (c : Ctx) : ℕ :=
  match c.action with
  | some (.newFrame _) => stipend ev
  | _ => 0

/-- From `c` an instruction that uses `cost` itself led to `c'`. Gas is stranded
only by an instruction whose own compute gas exceeds a limit. -/
structure Effect (ev : OpEvent) (cost : ℕ) (c c' : Ctx) : Prop where
  journal : c.journal <:+ c'.journal
  spends : c'.failed = false →
    c.gas.remaining + minted ev c' = cost + c'.gas.remaining + setAside ev c'
  stranded : c'.limit.exceeded = true → ev.inner.forwarded ≠ 0 →
    cost + ev.inner.forwarded ≤ c.gas.remaining ∧
      (c.limit.recordComputeGas (ev.inner.cost - stipend ev)).exceeded = true

structure Charge (ev : OpEvent) (cost : ℕ) (c c' : Ctx) : Prop extends Effect ev cost c c' where
  forwards : ∀ i, c'.action = some (.newFrame i) → i.gasLimit = ev.inner.forwarded + stipend ev
  settles : (∀ i, c'.action ≠ some (.newFrame i)) → c'.failed = false →
    c'.limit.exceeded = false → ev.inner.forwarded = 0

variable {env : Env} {ev : OpEvent} {c c' : Ctx} {cost : ℕ}

section Basic

theorem Charge.of_failed (hj : c.journal <:+ c'.journal) (hf : c'.failed = true)
    (ha : ∀ i, c'.action ≠ some (.newFrame i)) : Charge ev cost c c' where
  journal := hj
  spends := fun h => by
    rw [hf] at h
    cases h
  stranded := fun hx => by
    rw [Ctx.failed, hx] at hf
    simp at hf
  forwards := fun i hi => absurd hi (ha i)
  settles := fun _ h => by
    rw [hf] at h
    cases h

theorem Charge.halt (hx : c.limit.exceeded = false) {r : InstructionResult}
    (hr : r.isError = true) : Charge ev cost c (c.halt r) := by
  refine .of_failed List.suffix_rfl ?_ fun i hi => by cases hi
  simp [Ctx.failed, Ctx.isError, Ctx.instructionResult, Ctx.halt, hr, hx]

theorem Charge.of_charged {st : ℕ} {g : Gas} (hg : c.gas.recordCost st = some g)
    (h : Charge ev cost { c with gas := g } c') : Charge ev (st + cost) c c' := by
  obtain ⟨hle, rfl⟩ := Gas.recordCost_eq_some.1 hg
  refine ⟨⟨h.journal, fun hf => ?_, fun hx hfwd => ?_⟩, h.forwards, h.settles⟩
  · have hs : c.gas.remaining - st + minted ev c' = cost + c'.gas.remaining + setAside ev c' :=
      h.spends hf
    omega
  · obtain ⟨hgas, hrec⟩ := h.stranded hx hfwd
    have hgas' : cost + ev.inner.forwarded ≤ c.gas.remaining - st := hgas
    exact ⟨by omega, hrec⟩

theorem charge_chargeInner (hx : c.limit.exceeded = false) {full used : ℕ}
    {writes : List JournalEntry} {rest : Ctx → Ctx}
    (hrest : used ≤ c.gas.remaining → Charge ev full c (rest { c with
      gas := { c.gas with remaining := c.gas.remaining - used }
      journal := writes ++ c.journal })) :
    Charge ev full c (chargeInner used writes rest c) := by
  unfold chargeInner
  cases hg : c.gas.recordCost used with
  | none => exact .halt hx rfl
  | some g =>
    obtain ⟨hle, rfl⟩ := Gas.recordCost_eq_some.1 hg
    exact hrest hle

theorem charge_runInner (hx : c.limit.exceeded = false) (hc : c.action = none) :
    Charge ev ev.inner.cost c (runInner env ev c) := by
  -- marking volatile accesses touches neither gas nor journal
  have htouch : Charge ev ev.inner.cost (touchHost env ev c) (runInner env ev c) →
      Charge ev ev.inner.cost c (runInner env ev c) :=
    fun h => ⟨⟨h.journal, h.spends, h.stranded⟩, h.forwards, h.settles⟩
  refine htouch ?_
  have hlim : (touchHost env ev c).limit.exceeded = false := hx
  have hact : (touchHost env ev c).action = none := hc
  unfold runInner
  generalize touchHost env ev c = c₀ at hlim hact
  have hnot : ∀ {P : Prop}, c₀.limit.exceeded = true → P := fun hx => by
    rw [hlim] at hx
    cases hx
  cases hi : ev.inner with
  | next cost writes =>
    refine charge_chargeInner hlim fun hle => ?_
    refine ⟨⟨List.suffix_append _ _, fun _ => ?_, hnot⟩, fun i ha => ?_, fun _ _ _ => ?_⟩
    · simp only [id, minted, setAside, hact, hlim, Inner.cost]
      simp only [Bool.false_eq_true, if_false]
      omega
    · rw [id, hact] at ha
      cases ha
    · rw [hi]
      rfl
  | halt r o cost writes =>
    refine charge_chargeInner hlim fun hle => ?_
    refine ⟨⟨List.suffix_append _ _, fun _ => ?_, hnot⟩, fun i ha => (by cases ha),
      fun _ _ _ => ?_⟩
    · simp only [Ctx.haltWith, minted, setAside, hlim, Inner.cost]
      simp only [Bool.false_eq_true, if_false]
      omega
    · rw [hi]
      rfl
  | newFrame cost forwarded input writes =>
    refine charge_chargeInner hlim fun hle => ?_
    refine ⟨⟨List.suffix_append _ _, fun _ => ?_, hnot⟩, fun i ha => ?_, fun hne => ?_⟩
    · simp only [minted, setAside, FrameInput.withGasLimit_gasLimit, Inner.cost]
      omega
    · cases ha
      rw [hi]
      exact FrameInput.withGasLimit_gasLimit _ _
    · exact absurd rfl (hne _)

end Basic

section Compute

/-- An exceed replaces the action of an instruction that went through: its child
does not start, what was set aside for it stays out of the counter. -/
theorem Charge.haltExceeded (h : Charge ev cost c c') (he : c'.isError = false)
    {l : AdditionalLimit} (hx : l.exceeded = true) (hs : ev.inner.forwarded ≠ 0 →
      cost + ev.inner.forwarded ≤ c.gas.remaining ∧
        (c.limit.recordComputeGas (ev.inner.cost - stipend ev)).exceeded = true)
    (r : InstructionResult) : Charge ev cost c ({ c' with limit := l }.halt r) := by
  have hfailed : c'.failed = false := by simp [Ctx.failed, he]
  have hspend := h.spends hfailed
  refine ⟨⟨h.journal, fun _ => ?_, fun _ => hs⟩, fun i hi => (by cases hi), fun _ _ hf => ?_⟩
  · simp only [Ctx.halt, minted, setAside, hx, if_true]
    cases ha : c'.action with
    | none =>
      by_cases hl : c'.limit.exceeded = true
      · simpa [minted, setAside, ha, hl] using hspend
      · have hzero := h.settles (by simp [ha]) hfailed (by simpa using hl)
        simp only [minted, setAside, ha, hl] at hspend
        rw [hzero]
        simpa using hspend
    | some a =>
      cases a with
      | newFrame i =>
        have hfwd := h.forwards i ha
        simp only [minted, setAside, ha] at hspend
        omega
      | «return» r' =>
        by_cases hl : c'.limit.exceeded = true
        · simpa [minted, setAside, ha, hl] using hspend
        · have hzero := h.settles (by simp [ha]) hfailed (by simpa using hl)
          simp only [minted, setAside, ha, hl] at hspend
          rw [hzero]
          simpa using hspend
  · change l.exceeded = false at hf
    rw [hx] at hf
    cases hf

theorem Charge.ofWithin (h : Charge ev cost c c') (he : c'.isError = false)
    {l : AdditionalLimit} (hx : l.exceeded = false) (hl : c'.limit.exceeded = false) :
    Charge ev cost c { c' with limit := l } := by
  have hfailed : c'.failed = false := by simp [Ctx.failed, he]
  refine ⟨⟨h.journal, fun _ => ?_, fun hlx => ?_⟩, h.forwards,
    fun hne _ _ => h.settles hne hfailed hl⟩
  · have hspend := h.spends hfailed
    simpa [minted, setAside, hx, hl] using hspend
  · change l.exceeded = true at hlx
    rw [hx] at hlx
    cases hlx

theorem Charge.enforced (h : Charge ev cost c c') (he : c'.isError = false)
    {l : AdditionalLimit} (hl : l.exceeded = false → c'.limit.exceeded = false)
    (hs : l.exceeded = true → ev.inner.forwarded ≠ 0 →
      cost + ev.inner.forwarded ≤ c.gas.remaining ∧
        (c.limit.recordComputeGas (ev.inner.cost - stipend ev)).exceeded = true) :
    Charge ev cost c (AdditionalLimitExt.enforce { c' with limit := l }) := by
  unfold AdditionalLimitExt.enforce
  split
  case isTrue hx => exact h.haltExceeded he hx (hs hx) _
  case isFalse hx =>
    have hf : l.exceeded = false := by simpa using hx
    exact h.ofWithin he hf (hl hf)

theorem runInner_opens (he : (runInner env ev c).isError = false)
    (hf : ev.inner.forwarded ≠ 0) : ev.inner.cost + ev.inner.forwarded ≤ c.gas.remaining ∧
      computeGasUsed c.gas.remaining (runInner env ev c) = ev.inner.cost - stipend ev := by
  unfold runInner at he ⊢
  cases hi : ev.inner with
  | next | halt => simp [hi, Inner.forwarded] at hf
  | newFrame cost forwarded input writes =>
    simp only [hi, chargeInner] at he ⊢
    have hgas : (touchHost env ev c).gas = c.gas := rfl
    cases hg : c.gas.recordCost (cost + forwarded) with
    | none =>
      rw [hgas, hg] at he
      cases he
    | some g =>
      obtain ⟨hle, rfl⟩ := Gas.recordCost_eq_some.1 hg
      rw [hgas, hg]
      refine ⟨hle, ?_⟩
      simp only [computeGasUsed, FrameInput.withGasLimit_gasLimit, Inner.cost]
      omega

theorem forwarded_eq_zero (ho : ev.opcode.opensFrame = false) : ev.inner.forwarded = 0 := by
  have hopens := ev.opens
  rw [ho] at hopens
  cases hi : ev.inner with
  | next | halt => rfl
  | newFrame cost forwarded input writes =>
    rw [hi] at hopens
    cases hopens rfl

theorem charge_wrap (hx : c.limit.exceeded = false) (hc : c.action = none) :
    Charge ev ev.inner.cost c (ComputeGasExt.wrap env ev c) := by
  refine runInnerOrAbort_spec (P := Charge ev ev.inner.cost c) (charge_runInner hx hc) ?_
    fun _ h => h
  intro he h
  refine h.enforced he exceeded_of_recordComputeGas fun hl hfwd => ?_
  obtain ⟨hgas, hused⟩ := runInner_opens he hfwd
  rw [hused, runInner_limit] at hl
  exact ⟨hgas, hl⟩

theorem charge_chargeThen (hx : c.limit.exceeded = false) (hc : c.action = none) (st : ℕ) :
    Charge ev (st + ev.inner.cost) c (chargeThen st (ComputeGasExt.wrap env ev) c) := by
  unfold chargeThen
  cases hg : c.gas.recordCost st with
  | none => exact .halt hx rfl
  | some g => exact .of_charged hg (charge_wrap hx hc)

theorem charge_wrap_zero (hx : c.limit.exceeded = false) (hc : c.action = none) {st : ℕ}
    (hst : st = 0) : Charge ev (st + ev.inner.cost) c (ComputeGasExt.wrap env ev c) := by
  rw [hst, Nat.zero_add]
  exact charge_wrap hx hc

end Compute

section Storage

theorem charge_call (hx : c.limit.exceeded = false) (hc : c.action = none) :
    Charge ev (newAccountGas ev + ev.inner.cost) c (StorageGasExt.call env ev true c) := by
  unfold StorageGasExt.call
  cases hto : ev.inspect 1 with
  | none => exact .halt hx rfl
  | some target =>
    cases hte : ev.targetEmpty with
    | none => exact .halt hx rfl
    | some isEmpty =>
      cases hv : ev.inspect 2 with
      | none => exact .halt hx rfl
      | some value =>
        simp only [if_true]
        by_cases hp : (isEmpty && value != 0) = true
        · rw [if_pos hp]
          cases hst : ev.storageGas with
          | none => exact .halt hx rfl
          | some st =>
            have hgas : newAccountGas ev = st := by simp [newAccountGas, hte, hv, hst, hp]
            rw [hgas]
            exact charge_chargeThen hx hc st
        · rw [if_neg hp]
          exact charge_wrap_zero hx hc (by simp [newAccountGas, hte, hv, hp])

theorem charge_callNoTransfer (hx : c.limit.exceeded = false) (hc : c.action = none) :
    Charge ev ev.inner.cost c (StorageGasExt.call env ev false c) := by
  unfold StorageGasExt.call
  cases ev.inspect 1 with
  | none => exact .halt hx rfl
  | some target =>
    cases ev.targetEmpty with
    | none => exact .halt hx rfl
    | some isEmpty => exact charge_wrap hx hc

theorem charge_create (hx : c.limit.exceeded = false) (hc : c.action = none) (b : Bool) :
    Charge ev (ev.storageGas.getD 0 + ev.inner.cost) c (StorageGasExt.create env ev b c) := by
  rcases storageCreate_cases env ev c b with ⟨r, hr, heq⟩ | ⟨st, hst, heq⟩
  · rw [heq]
    exact .halt hx hr
  · rw [heq, hst]
    exact charge_chargeThen hx hc st

theorem charge_logStorage (hx : c.limit.exceeded = false) (hc : c.action = none) (n : ℕ) :
    Charge ev (logGas ev n + ev.inner.cost) c (StorageGasExt.log env ev n c) := by
  unfold StorageGasExt.log
  cases hlen : ev.inspect 1 with
  | none => exact .halt hx rfl
  | some len =>
    simp only
    split
    · exact .halt hx rfl
    · have hgas : logGas ev n =
          constants.LOG_DATA_STORAGE_GAS * len + constants.LOG_TOPIC_STORAGE_GAS * n := by
        simp [logGas, hlen]
      rw [hgas]
      exact charge_chargeThen hx hc _

theorem charge_log (hx : c.limit.exceeded = false) (hc : c.action = none)
    (ho : ev.opcode.opensFrame = false) (n : ℕ) :
    Charge ev (logGas ev n + ev.inner.cost) c (AdditionalLimitExt.log env ev n c) := by
  unfold AdditionalLimitExt.log
  cases ev.inspect 1 with
  | none => exact .halt hx rfl
  | some len =>
    simp only
    split
    · exact .halt hx rfl
    · refine runInnerOrAbort_spec (P := Charge ev (logGas ev n + ev.inner.cost) c)
        (charge_logStorage hx hc n) ?_ fun _ h => h
      intro he h
      exact h.enforced he exceeded_of_onLog fun _ hfwd => absurd (forwarded_eq_zero ho) hfwd

theorem charge_sstoreStorage (hx : c.limit.exceeded = false) (hc : c.action = none) :
    Charge ev (sstoreGas ev + ev.inner.cost) c (StorageGasExt.sstore env ev c) := by
  unfold StorageGasExt.sstore
  split
  · exact .halt hx rfl
  · exact .halt hx rfl
  · exact .halt hx rfl
  case h_4 w0 original present newValue h0 hslot h1 =>
    by_cases hp : (original == 0 && present == 0 && newValue != 0) = true
    · rw [if_pos hp]
      cases hst : ev.storageGas with
      | none => exact .halt hx rfl
      | some st =>
        have hgas : sstoreGas ev = st := by simp [sstoreGas, hslot, h1, hst, hp]
        rw [hgas]
        exact charge_chargeThen hx hc st
    · rw [if_neg hp]
      exact charge_wrap_zero hx hc (by simp [sstoreGas, hslot, h1, hp])

theorem charge_sstore (hx : c.limit.exceeded = false) (hc : c.action = none)
    (ho : ev.opcode.opensFrame = false) :
    Charge ev (sstoreGas ev + ev.inner.cost) c (AdditionalLimitExt.sstore env ev c) := by
  unfold AdditionalLimitExt.sstore
  split
  · exact .halt hx rfl
  · exact .halt hx rfl
  · exact .halt hx rfl
  · refine runInnerOrAbort_spec (P := Charge ev (sstoreGas ev + ev.inner.cost) c)
      (charge_sstoreStorage hx hc) ?_ fun _ h => h
    intro he h
    exact h.enforced he exceeded_of_onSstore fun _ hfwd => absurd (forwarded_eq_zero ho) hfwd

end Storage

section Forward

theorem gasToReturn_le (remaining forwarded : ℕ) :
    ForwardGasExt.gasToReturn remaining forwarded ≤ forwarded := Nat.sub_le _ _

theorem Charge.cap (h : Charge ev cost c c') :
    Effect ev cost c (ForwardGasExt.cap (stipend ev) c') := by
  unfold ForwardGasExt.cap
  split
  case h_1 input ha =>
    have hfwd := h.forwards input ha
    have hret := gasToReturn_le c'.gas.remaining (input.gasLimit - stipend ev)
    refine ⟨h.journal, fun _ => ?_, h.stranded⟩
    have hspend := h.spends (by simp [Ctx.failed, Ctx.isError, Ctx.instructionResult, ha])
    simp only [minted, setAside, ha, FrameInput.withGasLimit_gasLimit,
      Gas.eraseCost_remaining] at hspend ⊢
    omega
  case h_2 => exact h.toEffect

theorem effect_forward {inner : Ctx → Ctx} (h : Charge ev cost c (inner c)) :
    Effect ev cost c (ForwardGasExt.wrap ev inner c) :=
  runInnerOrAbort_spec (P := Charge ev cost c) h (fun _ hi => hi.cap) fun _ hi => hi.toEffect

end Forward

section Volatile

theorem Charge.detain (h : Charge ev cost c c') :
    Charge ev cost c (VolatileDataExt.applyComputeGasLimit c') := by
  unfold VolatileDataExt.applyComputeGasLimit
  cases c'.volatile.computeGasLimit with
  | none => exact h
  | some cap => exact ⟨⟨h.journal, h.spends, h.stranded⟩, h.forwards, h.settles⟩

theorem charge_detained (hx : c.limit.exceeded = false) (hc : c.action = none) :
    Charge ev ev.inner.cost c (runInnerOrAbort (ComputeGasExt.wrap env ev)
      VolatileDataExt.applyComputeGasLimit c) :=
  runInnerOrAbort_spec (P := Charge ev ev.inner.cost c) (charge_wrap hx hc)
    (fun _ h => h.detain) fun _ h => h

theorem effect_revertDisabled (hx : c.limit.exceeded = false) (ty : VolatileDataAccessType) :
    Effect ev 0 c (VolatileDataExt.revertDisabled ty c) := by
  refine ⟨List.suffix_rfl, fun _ => ?_, fun hlx => ?_⟩
  · simp only [VolatileDataExt.revertDisabled, Ctx.haltWith, minted, setAside, hx]
    simp
  · change c.limit.exceeded = true at hlx
    rw [hx] at hlx
    cases hlx

end Volatile

section Table

theorem opGas_of_allowed (h : accessDenied env ev c = false) :
    opGas env ev c = opStorageGas env ev + ev.inner.cost := by
  simp [opGas, h]

theorem opGas_of_denied (h : accessDenied env ev c = true) : opGas env ev c = 0 := by
  simp [opGas, h]

theorem effect_checked (hx : c.limit.exceeded = false) {ty : VolatileDataAccessType}
    {b : Bool} {inner : Ctx} (hb : b = accessDenied env ev c)
    (hi : accessDenied env ev c = false → Effect ev (opStorageGas env ev + ev.inner.cost) c inner) :
    Effect ev (opGas env ev c) c (if b then VolatileDataExt.revertDisabled ty c else inner) := by
  subst hb
  by_cases hd : accessDenied env ev c = true
  · rw [if_pos hd, opGas_of_denied hd]
    exact effect_revertDisabled hx ty
  · have hf : accessDenied env ev c = false := by simpa using hd
    rw [if_neg hd, opGas_of_allowed hf]
    exact hi hf

variable (env ev) in
theorem effect_plain (hx : c.limit.exceeded = false) (hc : c.action = none)
    (hd : accessDenied env ev c = false) (hst : opStorageGas env ev = 0) :
    Effect ev (opGas env ev c) c (ComputeGasExt.wrap env ev c) := by
  rw [opGas_of_allowed hd]
  exact (charge_wrap_zero hx hc hst).toEffect

theorem effect_forwardCall (hx : c.limit.exceeded = false) (hc : c.action = none) {b : Bool}
    (hst : opStorageGas env ev = if b then newAccountGas ev else 0) :
    Effect ev (opStorageGas env ev + ev.inner.cost) c
      (ForwardGasExt.wrap ev (StorageGasExt.call env ev b) c) := by
  rw [hst]
  cases b with
  | true => exact effect_forward (charge_call hx hc)
  | false =>
    rw [if_neg (by simp), Nat.zero_add]
    exact effect_forward (charge_callNoTransfer hx hc)

theorem effect_call (hx : c.limit.exceeded = false) (hc : c.action = none) {b : Bool}
    (hst : opStorageGas env ev = if b then newAccountGas ev else 0)
    (hd : accessDenied env ev c = (VolatileDataExt.disabled c &&
      (env.spec.isEnabled .rex4 && VolatileDataExt.isBeneficiary env (ev.inspect 1)))) :
    Effect ev (opGas env ev c) c
      (if env.spec.isEnabled .rex4 then
        VolatileDataExt.callCheck env ev
          (ForwardGasExt.wrap ev (StorageGasExt.call env ev b)) c
      else ForwardGasExt.wrap ev (StorageGasExt.call env ev b) c) := by
  by_cases h4 : env.spec.isEnabled .rex4 = true
  · rw [if_pos h4, VolatileDataExt.callCheck]
    refine effect_checked hx ?_ fun _ => effect_forwardCall hx hc hst
    rw [hd, h4, Bool.true_and, Bool.and_comm]
  · rw [if_neg h4, opGas_of_allowed (by simp [hd, h4])]
    exact effect_forwardCall hx hc hst

theorem effect_callLike (hx : c.limit.exceeded = false) (hc : c.action = none) {b : Bool}
    (hst : opStorageGas env ev = if env.spec.isEnabled .rex && b then newAccountGas ev else 0)
    (hd : accessDenied env ev c = (VolatileDataExt.disabled c &&
      (env.spec.isEnabled .rex4 && VolatileDataExt.isBeneficiary env (ev.inspect 1)))) :
    Effect ev (opGas env ev c) c (callLike env ev b c) := by
  unfold callLike
  by_cases hr : env.spec.isEnabled .rex = true
  · have hst' : opStorageGas env ev = if b then newAccountGas ev else 0 := by
      rw [hst, hr, Bool.true_and]
    simp only [hr, if_true]
    exact effect_call hx hc hst' hd
  · have h4 : env.spec.isEnabled .rex4 = false := by
      by_contra h4
      exact hr (MegaSpecId.isEnabled_mono (a := .rex) (b := .rex4) (by decide) (by simpa using h4))
    simp only [h4, hr, Bool.false_eq_true, if_false]
    refine effect_plain env ev hx hc ?_ ?_
    · rw [hd, h4]
      simp
    · rw [hst]
      simp [hr]

theorem effect_instruction (hx : c.limit.exceeded = false) (hc : c.action = none) :
    Effect ev (opGas env ev c) c (instruction env ev c) := by
  unfold instruction
  cases ho : ev.opcode with
  | plain | selfbalance =>
    exact effect_plain env ev hx hc (by simp [accessDenied, ho]) (by simp [opStorageGas, ho])
  | blockEnv ty =>
    refine effect_checked hx (by simp [accessDenied, ho]) fun _ => ?_
    rw [show opStorageGas env ev = 0 by simp [opStorageGas, ho], Nat.zero_add]
    exact (charge_detained hx hc).toEffect
  | account =>
    refine effect_checked hx (by simp [accessDenied, ho, Bool.and_comm]) fun _ => ?_
    rw [show opStorageGas env ev = 0 by simp [opStorageGas, ho], Nat.zero_add]
    exact (charge_detained hx hc).toEffect
  | sload =>
    have hst : opStorageGas env ev = 0 := by simp [opStorageGas, ho]
    by_cases h3 : env.spec.isEnabled .rex3 = true
    · simp only [h3, if_true]
      refine effect_checked hx (by simp [accessDenied, ho, h3, Bool.and_comm]) fun _ => ?_
      rw [hst, Nat.zero_add]
      exact (charge_detained hx hc).toEffect
    · simp only [h3, Bool.false_eq_true, if_false]
      exact effect_plain env ev hx hc (by simp [accessDenied, ho, h3]) hst
  | sstore =>
    rw [opGas_of_allowed (by simp [accessDenied, ho])]
    rw [show opStorageGas env ev = sstoreGas ev by simp [opStorageGas, ho]]
    exact (charge_sstore hx hc (by rw [ho]; rfl)).toEffect
  | log n =>
    rw [opGas_of_allowed (by simp [accessDenied, ho])]
    rw [show opStorageGas env ev = logGas ev n by simp [opStorageGas, ho, logGas]]
    exact (charge_log hx hc (by rw [ho]; rfl) n).toEffect
  | create =>
    rw [opGas_of_allowed (by simp [accessDenied, ho])]
    rw [show opStorageGas env ev = ev.storageGas.getD 0 by simp [opStorageGas, ho]]
    exact effect_forward (charge_create hx hc false)
  | create2 =>
    rw [opGas_of_allowed (by simp [accessDenied, ho])]
    rw [show opStorageGas env ev = ev.storageGas.getD 0 by simp [opStorageGas, ho]]
    exact effect_forward (charge_create hx hc true)
  | call =>
    exact effect_call (b := true) hx hc (by simp [opStorageGas, ho]) (by simp [accessDenied, ho])
  | callCode =>
    exact effect_callLike hx hc (by simp [opStorageGas, ho]) (by simp [accessDenied, ho])
  | delegateCall | staticCall =>
    exact effect_callLike hx hc (by simp [opStorageGas, ho]) (by simp [accessDenied, ho])
  | selfdestruct =>
    have hst : opStorageGas env ev = 0 := by simp [opStorageGas, ho]
    by_cases h4 : env.spec.isEnabled .rex4 = true
    · simp only [h4, if_true]
      refine effect_checked hx (by simp [accessDenied, ho, h4, Bool.and_comm]) fun _ => ?_
      rw [hst, Nat.zero_add]
      exact (charge_detained hx hc).toEffect
    · simp only [h4, Bool.false_eq_true, if_false]
      split
      · exact effect_plain env ev hx hc (by simp [accessDenied, ho, h4]) hst
      · exact (Charge.halt hx rfl).toEffect
  | unknown => exact (Charge.halt hx rfl).toEffect

theorem limit_of_denied (hd : accessDenied env ev c = true) (hf : ev.inner.forwarded ≠ 0) :
    (instruction env ev c).limit = c.limit := by
  have hopens : ev.opcode.opensFrame = true := by
    by_contra ho
    exact hf (forwarded_eq_zero (by simpa using ho))
  unfold instruction
  cases ho : ev.opcode with
  | call | callCode | delegateCall | staticCall =>
    simp only [accessDenied, ho, Bool.and_eq_true] at hd
    obtain ⟨hdis, h4, hb⟩ := hd
    simp [callLike, VolatileDataExt.callCheck, VolatileDataExt.revertDisabled, Ctx.haltWith, h4,
      hb, hdis]
  | create | create2 => simp [accessDenied, ho] at hd
  | _ =>
    rw [ho] at hopens
    cases hopens

end Table

end MegaEvm
