import MegaEvm.GasConservation
import MegaEvm.DetainedLimit

/-!
# Every unit of gas is compute gas or storage gas

Two meters run beside each other: the counters of the frames, and the usage of
the compute-gas tracker. In a run whose frames succeed or revert and whose limits
are not exceeded they differ by the storage gas the wrappers charge. Gas that is
set aside for a child is in neither, and a stipend is recorded by neither the
caller, who does not pay it, nor twice by the child.
-/

set_option autoImplicit false

namespace MegaEvm

open AdditionalLimit

variable {env : Env} {ev : OpEvent} {c c' : Ctx}

namespace ComputeGasTracker

def Additive (t : ComputeGasTracker) : Prop :=
  t.Persistent ∧ t.frameTracker.txEntry.refund = 0

namespace Additive

variable {t : ComputeGasTracker}

theorem recordGasUsed (h : t.Additive) (g : ℕ) : (t.recordGasUsed g).Additive := by
  constructor
  · exact h.1.recordGasUsed g
  · unfold ComputeGasTracker.recordGasUsed
    split
    · simp only [FrameLimitTracker.modifyFrame]
      split <;> exact h.2
    · exact h.2

theorem pushFrame (h : t.Additive) (rex4 : Bool) : (t.pushFrame rex4).Additive := by
  constructor
  · exact h.1.pushFrame
  · unfold ComputeGasTracker.pushFrame FrameLimitTracker.pushFrameBy
    split <;> exact h.2

theorem popFrame (h : t.Additive) (b : Bool) : (t.popFrame b).Additive := by
  constructor
  · exact h.1.popFrame b
  · obtain ⟨hp, hr⟩ := h
    obtain ⟨d, tx, stack⟩ := t
    cases stack with
    | nil => exact hr
    | cons e stack =>
      obtain ⟨-, he⟩ := hp e (by simp)
      cases stack with
      | nil =>
        have htx : tx.refund = 0 := hr
        simp [ComputeGasTracker.popFrame, FrameLimitTracker.popFrame, FrameLimitEntry.absorb, he,
          htx]
      | cons p rest => exact hr

end Additive

end ComputeGasTracker

section Adds

variable {l l' l'' : AdditionalLimit} {m n : ℕ}

def Adds (n : ℕ) (l l' : AdditionalLimit) : Prop :=
  l.computeGas.Additive →
    l'.computeGas.Additive ∧ l'.computeGas.txUsage = l.computeGas.txUsage + n

theorem Adds.trans (h : Adds m l l') (h' : Adds n l' l'') : Adds (m + n) l l'' := by
  intro ha
  obtain ⟨ha', hm⟩ := h ha
  obtain ⟨ha'', hn⟩ := h' ha'
  refine ⟨ha'', ?_⟩
  omega

theorem adds_of_eq (h : l'.computeGas = l.computeGas) : Adds 0 l l' := by
  intro ha
  rw [h]
  exact ⟨ha, rfl⟩

theorem Adds.kept (h : Adds n l l') (h' : l''.computeGas = l'.computeGas) : Adds n l l'' :=
  h.trans (adds_of_eq h')

theorem adds_recordComputeGas (l : AdditionalLimit) (g : ℕ) : Adds g l (l.recordComputeGas g) := by
  intro ha
  rw [recordComputeGas_computeGas]
  exact ⟨ha.recordGasUsed g, Detention.txUsage_recordGasUsed ha.1 ha.2 g⟩

theorem adds_setComputeGasLimit (l : AdditionalLimit) (cap : ℕ) :
    Adds 0 l (l.setComputeGasLimit cap) := fun ha => ⟨ha, rfl⟩

theorem adds_pushFrame (h : l'.computeGas = l.computeGas.pushFrame l.rex4) : Adds 0 l l' := by
  intro ha
  rw [h]
  exact ⟨ha.pushFrame _, ComputeGasTracker.txUsage_pushFrame⟩

theorem adds_openFrame (l : AdditionalLimit) (input : FrameInput) (te : Bool) :
    Adds 0 l (l.openFrame input te) := by
  apply adds_pushFrame
  rw [AdditionalLimit.openFrame, checkLimit_computeGas]

theorem adds_pushEmptyFrame (l : AdditionalLimit) : Adds 0 l l.pushEmptyFrame :=
  adds_pushFrame rfl

theorem adds_closeFrame (l : AdditionalLimit) (b : Bool) : Adds 0 l (l.closeFrame b) := by
  intro ha
  rw [AdditionalLimit.closeFrame, checkLimit_computeGas]
  exact ⟨ha.popFrame b, ha.1.txUsage_popFrame b⟩

end Adds

section Instruction

/-- A call that transfers value costs the caller more than the stipend its callee
gets; this is the interpreter's own charge for the transfer. -/
def PaysForValue (ev : OpEvent) : Prop := ev.inner.opensFrame = true → stipend ev ≤ ev.inner.cost
  deriving Decidable

/-- An instruction that goes through records what it costs, but for a stipend. -/
def Bills (ev : OpEvent) (cost : ℕ) (c c' : Ctx) : Prop :=
  c'.isError = false → c'.limit.exceeded = false →
    ∃ n, n + minted ev c' = cost ∧ Adds n c.limit c'.limit

theorem bills_of_error {cost : ℕ} (h : c'.isError = true) : Bills ev cost c c' := by
  intro hno
  rw [h] at hno
  cases hno

theorem runInner_used (hc : c.action = none) (hpay : PaysForValue ev)
    (he : (runInner env ev c).isError = false) :
    computeGasUsed c.gas.remaining (runInner env ev c) + minted ev (runInner env ev c) =
      ev.inner.cost := by
  have hgas : (touchHost env ev c).gas = c.gas := rfl
  unfold PaysForValue at hpay
  unfold runInner at he ⊢
  cases hi : ev.inner with
  | next cost writes =>
    simp only [hi, chargeInner, hgas] at he ⊢
    cases hg : c.gas.recordCost cost with
    | none =>
      rw [hg] at he
      cases he
    | some g =>
      obtain ⟨hle, rfl⟩ := Gas.recordCost_eq_some.1 hg
      have hact : (touchHost env ev c).action = none := hc
      simp only [id, computeGasUsed, minted, hact, Inner.cost]
      omega
  | halt r o cost writes =>
    simp only [hi, chargeInner, hgas] at he ⊢
    cases hg : c.gas.recordCost cost with
    | none =>
      rw [hg] at he
      cases he
    | some g =>
      obtain ⟨hle, rfl⟩ := Gas.recordCost_eq_some.1 hg
      simp only [Ctx.haltWith, computeGasUsed, minted, Inner.cost]
      omega
  | newFrame cost forwarded input writes =>
    have hcost : stipend ev ≤ cost := by simpa [hi, Inner.cost, Inner.opensFrame] using hpay
    simp only [hi, chargeInner, hgas] at he ⊢
    cases hg : c.gas.recordCost (cost + forwarded) with
    | none =>
      rw [hg] at he
      cases he
    | some g =>
      obtain ⟨hle, rfl⟩ := Gas.recordCost_eq_some.1 hg
      simp only [computeGasUsed, minted, FrameInput.withGasLimit_gasLimit, Inner.cost]
      omega

theorem bills_wrap (hc : c.action = none) (hpay : PaysForValue ev) :
    Bills ev ev.inner.cost c (ComputeGasExt.wrap env ev c) := by
  unfold ComputeGasExt.wrap runInnerOrAbort
  split
  · next he => exact bills_of_error he
  · next he =>
    have hok : (runInner env ev c).isError = false := by simpa using he
    have hused := runInner_used hc hpay hok
    unfold computeGas
    simp only
    split
    · next hx =>
      intro _ hno
      have hclash : false = true := hno.symm.trans hx
      cases hclash
    · intro _ _
      refine ⟨_, hused, ?_⟩
      have hadds := adds_recordComputeGas c.limit
        (computeGasUsed c.gas.remaining (runInner env ev c))
      rw [runInner_limit]
      exact hadds

/-- Storage gas comes before the instruction, or nothing runs at all. -/
def Priced (env : Env) (ev : OpEvent) (c c' : Ctx) : Prop :=
  (∃ r, r.isError = true ∧ c' = c.halt r) ∨
    ∃ g, c' = ComputeGasExt.wrap env ev { c with gas := g }

theorem Priced.bills (h : Priced env ev c c') (hc : c.action = none) (hpay : PaysForValue ev) :
    Bills ev ev.inner.cost c c' := by
  rcases h with ⟨r, hr, rfl⟩ | ⟨g, rfl⟩
  · exact bills_of_error hr
  · exact bills_wrap hc hpay

theorem priced_wrap : Priced env ev c (ComputeGasExt.wrap env ev c) := .inr ⟨c.gas, rfl⟩

theorem priced_chargeThen (cost : ℕ) :
    Priced env ev c (chargeThen cost (ComputeGasExt.wrap env ev) c) := by
  unfold chargeThen
  split
  · exact .inr ⟨_, rfl⟩
  · exact .inl ⟨_, rfl, rfl⟩

theorem priced_call (b : Bool) : Priced env ev c (StorageGasExt.call env ev b c) := by
  unfold StorageGasExt.call
  repeat' split
  all_goals first | exact .inl ⟨_, rfl, rfl⟩ | exact priced_chargeThen _ | exact priced_wrap

theorem priced_create (b : Bool) : Priced env ev c (StorageGasExt.create env ev b c) := by
  rcases storageCreate_cases env ev c b with ⟨r, hr, heq⟩ | ⟨st, -, heq⟩
  · exact .inl ⟨r, hr, heq⟩
  · rw [heq]
    exact priced_chargeThen st

theorem priced_log (n : ℕ) : Priced env ev c (StorageGasExt.log env ev n c) := by
  unfold StorageGasExt.log
  repeat' split
  all_goals first | exact .inl ⟨_, rfl, rfl⟩ | exact priced_chargeThen _

theorem priced_sstore : Priced env ev c (StorageGasExt.sstore env ev c) := by
  unfold StorageGasExt.sstore
  repeat' split
  all_goals first | exact .inl ⟨_, rfl, rfl⟩ | exact priced_chargeThen _ | exact priced_wrap

theorem Bills.forward {cost : ℕ} {inner : Ctx → Ctx} (h : Bills ev cost c (inner c)) :
    Bills ev cost c (ForwardGasExt.wrap ev inner c) := by
  unfold ForwardGasExt.wrap runInnerOrAbort
  split
  · next he => exact bills_of_error he
  · next he =>
    have hok : (inner c).isError = false := by simpa using he
    intro _ hx
    unfold ForwardGasExt.cap at hx ⊢
    cases ha : (inner c).action with
    | none =>
      simp only [ha] at hx ⊢
      exact h hok hx
    | some a =>
      cases a with
      | newFrame i =>
        -- the child gets less, but it is still the child of this call
        simp only [ha] at hx ⊢
        obtain ⟨n, hn, hadds⟩ := h hok hx
        simp only [minted, ha] at hn
        exact ⟨n, hn, hadds⟩
      | «return» r =>
        simp only [ha] at hx ⊢
        exact h hok hx

theorem bills_detained (hc : c.action = none) (hpay : PaysForValue ev) :
    Bills ev ev.inner.cost c
      (runInnerOrAbort (ComputeGasExt.wrap env ev) VolatileDataExt.applyComputeGasLimit c) := by
  have hwrap := @bills_wrap env ev c hc hpay
  unfold runInnerOrAbort
  split
  · next he => exact bills_of_error he
  · next he =>
    have hok : (ComputeGasExt.wrap env ev c).isError = false := by simpa using he
    unfold VolatileDataExt.applyComputeGasLimit
    split
    · next cap _ =>
      intro _ hx
      obtain ⟨n, hn, hadds⟩ := hwrap hok hx
      exact ⟨n, hn, hadds.trans (adds_setComputeGasLimit _ cap)⟩
    · exact hwrap

theorem Bills.enforced {cost : ℕ} (h : Bills ev cost c c') (he : c'.isError = false)
    {l : AdditionalLimit} (hx : l.exceeded = false → c'.limit.exceeded = false)
    (hl : l.computeGas = c'.limit.computeGas) :
    Bills ev cost c (AdditionalLimitExt.enforce { c' with limit := l }) := by
  unfold AdditionalLimitExt.enforce
  split
  · next hex =>
    intro _ hno
    have hclash : false = true := hno.symm.trans hex
    cases hclash
  · intro _ hno
    obtain ⟨n, hn, hadds⟩ := h he (hx hno)
    exact ⟨n, hn, hadds.kept hl⟩

theorem bills_sstore (hc : c.action = none) (hpay : PaysForValue ev) :
    Bills ev ev.inner.cost c (AdditionalLimitExt.sstore env ev c) := by
  unfold AdditionalLimitExt.sstore
  split
  · exact bills_of_error rfl
  · exact bills_of_error rfl
  · exact bills_of_error rfl
  · have hpriced : Priced env ev c (StorageGasExt.sstore env ev c) := priced_sstore
    unfold runInnerOrAbort
    split
    · next he => exact bills_of_error he
    · next he =>
      apply (hpriced.bills hc hpay).enforced
      · simpa using he
      · exact exceeded_of_onSstore
      · exact onSstore_computeGas _

theorem bills_log (hc : c.action = none) (hpay : PaysForValue ev) (n : ℕ) :
    Bills ev ev.inner.cost c (AdditionalLimitExt.log env ev n c) := by
  unfold AdditionalLimitExt.log
  split
  · exact bills_of_error rfl
  · split
    · exact bills_of_error rfl
    · have hpriced : Priced env ev c (StorageGasExt.log env ev n c) := priced_log n
      unfold runInnerOrAbort
      split
      · next he => exact bills_of_error he
      · next he =>
        apply (hpriced.bills hc hpay).enforced
        · simpa using he
        · exact exceeded_of_onLog
        · exact onLog_computeGas _ _

def opComputeGas (env : Env) (ev : OpEvent) (c : Ctx) : ℕ :=
  if accessDenied env ev c then 0 else ev.inner.cost

theorem bills_checked {ty : VolatileDataAccessType} {b : Bool} {inner : Ctx}
    (hb : b = accessDenied env ev c) (hi : Bills ev ev.inner.cost c inner) :
    Bills ev (opComputeGas env ev c) c
      (if b then VolatileDataExt.revertDisabled ty c else inner) := by
  subst hb
  unfold opComputeGas
  cases accessDenied env ev c with
  | true =>
    intro _ _
    exact ⟨0, rfl, adds_of_eq rfl⟩
  | false => exact hi

theorem opComputeGas_of_allowed (h : accessDenied env ev c = false) :
    opComputeGas env ev c = ev.inner.cost := by
  simp [opComputeGas, h]

theorem bills_call (hc : c.action = none) (hpay : PaysForValue ev) {b : Bool}
    (hd : accessDenied env ev c = (VolatileDataExt.disabled c &&
      (env.spec.isEnabled .rex4 && VolatileDataExt.isBeneficiary env (ev.inspect 1)))) :
    Bills ev (opComputeGas env ev c) c
      (if env.spec.isEnabled .rex4 then
        VolatileDataExt.callCheck env ev
          (ForwardGasExt.wrap ev (StorageGasExt.call env ev b)) c
      else ForwardGasExt.wrap ev (StorageGasExt.call env ev b) c) := by
  have hpriced : Priced env ev c (StorageGasExt.call env ev b c) := priced_call b
  have hforward := (hpriced.bills hc hpay).forward
  by_cases h4 : env.spec.isEnabled .rex4 = true
  · rw [if_pos h4, VolatileDataExt.callCheck]
    apply bills_checked _ hforward
    rw [hd, h4, Bool.true_and, Bool.and_comm]
  · rw [if_neg h4, opComputeGas_of_allowed (by simp [hd, h4])]
    exact hforward

theorem bills_callLike (hc : c.action = none) (hpay : PaysForValue ev) {b : Bool}
    (hd : accessDenied env ev c = (VolatileDataExt.disabled c &&
      (env.spec.isEnabled .rex4 && VolatileDataExt.isBeneficiary env (ev.inspect 1)))) :
    Bills ev (opComputeGas env ev c) c (callLike env ev b c) := by
  unfold callLike
  by_cases h4 : env.spec.isEnabled .rex4 = true
  · have hcall := @bills_call env ev c hc hpay b hd
    rw [if_pos h4] at hcall ⊢
    exact hcall
  · have hpriced : Priced env ev c (StorageGasExt.call env ev b c) := priced_call b
    rw [if_neg h4, opComputeGas_of_allowed (by simp [hd, h4])]
    split
    · exact (hpriced.bills hc hpay).forward
    · exact bills_wrap hc hpay

theorem bills_instruction (hc : c.action = none) (hpay : PaysForValue ev) :
    Bills ev (opComputeGas env ev c) c (instruction env ev c) := by
  have hwrap := @bills_wrap env ev c hc hpay
  have hdetained := @bills_detained env ev c hc hpay
  unfold instruction
  cases ho : ev.opcode with
  | plain | selfbalance =>
    rw [opComputeGas_of_allowed (by simp [accessDenied, ho])]
    exact hwrap
  | blockEnv ty => exact bills_checked (by simp [accessDenied, ho]) hdetained
  | account => exact bills_checked (by simp [accessDenied, ho, Bool.and_comm]) hdetained
  | sload =>
    by_cases h3 : env.spec.isEnabled .rex3 = true
    · simp only [h3, if_true]
      exact bills_checked (by simp [accessDenied, ho, h3, Bool.and_comm]) hdetained
    · simp only [h3, Bool.false_eq_true, if_false]
      rw [opComputeGas_of_allowed (by simp [accessDenied, ho, h3])]
      exact hwrap
  | sstore =>
    rw [opComputeGas_of_allowed (by simp [accessDenied, ho])]
    exact bills_sstore hc hpay
  | log n =>
    rw [opComputeGas_of_allowed (by simp [accessDenied, ho])]
    exact bills_log hc hpay n
  | create =>
    have hpriced : Priced env ev c (StorageGasExt.create env ev false c) := priced_create false
    rw [opComputeGas_of_allowed (by simp [accessDenied, ho])]
    exact (hpriced.bills hc hpay).forward
  | create2 =>
    have hpriced : Priced env ev c (StorageGasExt.create env ev true c) := priced_create true
    rw [opComputeGas_of_allowed (by simp [accessDenied, ho])]
    exact (hpriced.bills hc hpay).forward
  | call => exact bills_call hc hpay (by simp [accessDenied, ho])
  | callCode | delegateCall | staticCall =>
    exact bills_callLike hc hpay (by simp [accessDenied, ho])
  | selfdestruct =>
    by_cases h4 : env.spec.isEnabled .rex4 = true
    · simp only [h4, if_true]
      exact bills_checked (by simp [accessDenied, ho, h4, Bool.and_comm]) hdetained
    · simp only [h4, Bool.false_eq_true, if_false]
      rw [opComputeGas_of_allowed (by simp [accessDenied, ho, h4])]
      split
      · exact hwrap
      · exact bills_of_error rfl
  | unknown => exact bills_of_error rfl

end Instruction

section Step

variable {s s' s₀ : State} {es : List Event}

def State.endsWell (s : State) : Bool :=
  match s.phase with
  | .action (.return r) => r.result.isOkOrRevert
  | .result p | .handed p | .last p | .done p => p.result.instructionResult.isOkOrRevert
  | _ => true

def State.Orderly (s : State) : Prop := s.limit.exceeded = false ∧ s.endsWell = true
  deriving Decidable

/-- The storage gas a step charges: that of an instruction, and that of the code a
create frame deploys. -/
def stepStorageGas (env : Env) (s : State) (e : Event) : ℕ :=
  match s.phase, e, s.frames with
  | .interp, .op ev, f :: _ =>
    if accessDenied env ev (s.ctx f) then 0 else opStorageGas env ev
  | .action (.return r), .tau, f :: _ => codeStorageGas f r
  | _, _, _ => 0

/-- The overhead of a keyless deployment, where it is not recorded. -/
def stepOverheadGas (env : Env) (s : State) (e : Event) : ℕ :=
  match s.phase, e with
  | .init (.call i), .init _ =>
    if isKeylessCall env s i && !env.spec.isEnabled .rex3 then
      constants.KEYLESS_DEPLOY_OVERHEAD_GAS
    else 0
  | _, _ => 0

theorem orderly_answer {p : Pending} (h : (s.answer p).Orderly) :
    s.limit.exceeded = false ∧ p.result.instructionResult.isOkOrRevert = true := by
  refine ⟨h.1, ?_⟩
  have hresult := h.2
  unfold State.answer at hresult
  cases hf : s.frames with
  | nil => simpa [hf, State.endsWell] using hresult
  | cons f rest => simpa [hf, State.endsWell] using hresult

theorem Detected.adds {input : FrameInput} {l : AdditionalLimit} (h : Detected env s input l) :
    Adds 0 s.limit l := by
  rcases h.detained with rfl | ⟨-, cap, rfl⟩
  · exact adds_of_eq rfl
  · exact adds_setComputeGasLimit _ cap

theorem adds_keylessLimit (env : Env) (l : AdditionalLimit) :
    Adds (if env.spec.isEnabled .rex3 then constants.KEYLESS_DEPLOY_OVERHEAD_GAS else 0) l
      (keylessLimit env l) := by
  unfold keylessLimit
  split
  · exact adds_recordComputeGas l _
  · exact adds_of_eq rfl

/-- A step records what it costs beside the storage gas it charges. -/
def Decomposed (env : Env) (s : State) (e : Event) (s' : State) : Prop :=
  ∃ n, Adds n s.limit s'.limit ∧
    stepCost env s e s' = n + stepStorageGas env s e + stepOverheadGas env s e

theorem decomposed_keyless {i : CallInputs} {e : InitEvent} {s₁ : State} {r : FrameResult}
    (ha : s.limit.Aligned 0) (h2 : isKeylessCall env s i = true)
    (hok : r.instructionResult.isOkOrRevert = true)
    (hk : KeylessCall env s i e.keyless s₁ r) :
    ∃ n, Adds n s.limit s₁.limit.pushEmptyFrame ∧
      (initCost env s (.call i) ({ s₁ with limit := s₁.limit.pushEmptyFrame }.answer
        ⟨r, s.journal⟩) : ℤ) =
          n + if env.spec.isEnabled .rex3 then 0 else constants.KEYLESS_DEPLOY_OVERHEAD_GAS := by
  have hadds := (adds_keylessLimit env s.limit).trans
    (adds_pushEmptyFrame (keylessLimit env s.limit))
  have hsum (hle : constants.KEYLESS_DEPLOY_OVERHEAD_GAS ≤ i.gasLimit) :
      initCost env s (.call i) ({ s₁ with limit := s₁.limit.pushEmptyFrame }.answer
        ⟨r, s.journal⟩) =
      (if env.spec.isEnabled .rex3 then constants.KEYLESS_DEPLOY_OVERHEAD_GAS else 0) +
        (if env.spec.isEnabled .rex3 then 0 else constants.KEYLESS_DEPLOY_OVERHEAD_GAS) := by
    simp only [initCost, h2, if_true, Nat.min_eq_right hle]
    cases env.spec.isEnabled .rex3 <;> rfl
  cases hk with
  | outOfGas | halted => cases hok
  | insufficient output g hc => exact (keyless_not_frameLocal ha hc).elim
  | rejected output hle hx | completed output signer nonce ho hle hx =>
    refine ⟨_, hadds, ?_⟩
    rw [hsum hle]
    push_cast
    ring

theorem decomposed_init {input : FrameInput} {e : InitEvent} (hp : s.phase = .init input)
    (ha : s.limit.Aligned s.frames.length) (ho' : s'.Orderly) (h : InitStep env s input e s') :
    Decomposed env s (.init e) s' := by
  have hcost : stepCost env s (.init e) s' = initCost env s input s' := by
    simp only [stepCost, hp]
  have hstorage : stepStorageGas env s (.init e) = 0 := by
    simp only [stepStorageGas, hp]
  have hpassed {l : AdditionalLimit} (hd : Detected env s input l) :
      stepOverheadGas env s (.init e) = 0 := by
    cases input with
    | call i => simp [stepOverheadGas, hp, hd.passed i rfl]
    | create i => simp [stepOverheadGas, hp]
  unfold Decomposed
  rw [hcost, hstorage]
  cases h with
  | @keyless i s₁ r hi hf h2 hk =>
    subst hi
    obtain ⟨-, hok⟩ := orderly_answer ho'
    have hover : stepOverheadGas env s (.init e) =
        if env.spec.isEnabled .rex3 then 0 else constants.KEYLESS_DEPLOY_OVERHEAD_GAS := by
      simp only [stepOverheadGas, hp, h2, Bool.true_and]
      cases env.spec.isEnabled .rex3 <;> rfl
    rw [hf] at ha
    obtain ⟨n, hadds, hsum⟩ := decomposed_keyless ha h2 hok hk
    refine ⟨n, hadds, ?_⟩
    rw [hover, hsum]
    omega
  | @control i v r hi h4 hk hd hgas hr =>
    subst hi
    refine ⟨0, adds_pushEmptyFrame s.limit, ?_⟩
    have hover : stepOverheadGas env s (.init e) = 0 := by
      simp [stepOverheadGas, hp, hk]
    rw [hover]
    simp only [initCost, hk, Bool.false_eq_true, if_false, answeredSpent_answer, hgas, Gas.spent,
      Gas.new_remaining, Gas.new_limit, Nat.sub_self]
    rfl
  | @refused v l hd hx =>
    obtain ⟨hno, -⟩ := orderly_answer ho'
    have hex : ((l.openFrame input e.targetEmpty).tryRescueGas (.new input.gasLimit)).exceeded =
        true := by
      rw [exceeded_tryRescueGas, openFrame_checkLimit]
      exact hx
    have hclash : false = true := hno.symm.trans hex
    cases hclash
  | @answered v l r opened journal nonce hd hx hin =>
    have hrecord := (hd.adds.trans (adds_openFrame l input e.targetEmpty)).trans
      (adds_recordComputeGas _ r.gas.spent)
    refine ⟨_, hrecord.kept (tryRescueGas_computeGas _ _), ?_⟩
    rw [hpassed hd, initCost_of_passed hd, answeredSpent_answer]
    push_cast
    ring
  | @entered v l target created opened nonce hd hx ho hn =>
    refine ⟨_, hd.adds.trans (adds_openFrame l input e.targetEmpty), ?_⟩
    rw [hpassed hd, initCost_of_passed hd]
    rfl

theorem decomposed_op {f : Frame} {rest : List Frame} {e : OpEvent} (hp : s.phase = .interp)
    (hf : s.frames = f :: rest) (hpay : PaysForValue e)
    (ho' : (interpStep env s f rest e).Orderly) :
    Decomposed env s (.op e) (interpStep env s f rest e) := by
  have hx : (instruction env e (s.ctx f)).limit.exceeded = false := ho'.1
  have herr : (instruction env e (s.ctx f)).isError = false := by
    have hend := ho'.2
    simp only [interpStep] at hend
    unfold Ctx.isError Ctx.instructionResult
    cases hact : (instruction env e (s.ctx f)).action with
    | none => rfl
    | some a =>
      cases a with
      | newFrame i => rfl
      | «return» r =>
        rw [hact] at hend
        have hok : r.result.isOkOrRevert = true := hend
        by_contra hne
        have herror : r.result.isError = true := by simpa using hne
        have hnot := (InstructionResult.isError_iff r.result).1 herror
        rw [hnot] at hok
        cases hok
  obtain ⟨n, hn, hadds⟩ := @bills_instruction env e (s.ctx f) rfl hpay herr hx
  refine ⟨n, hadds, ?_⟩
  have hcost : stepCost env s (.op e) (interpStep env s f rest e) = opCost env e (s.ctx f) := by
    simp only [stepCost, hp, hf]
  have hstorage : stepStorageGas env s (.op e) =
      if accessDenied env e (s.ctx f) then 0 else opStorageGas env e := by
    simp only [stepStorageGas, hp, hf]
  have hover : stepOverheadGas env s (.op e) = 0 := by
    simp only [stepOverheadGas, hp]
  have hfailed : (instruction env e (s.ctx f)).failed = false := by
    simp [Ctx.failed, herr]
  rw [hcost, hstorage, hover, opCost, hfailed]
  cases hd : accessDenied env e (s.ctx f) with
  | true =>
    simp only [opComputeGas, opGas, hd, if_true, Bool.false_eq_true, if_false] at hn ⊢
    omega
  | false =>
    simp only [opComputeGas, opGas, hd, Bool.false_eq_true, if_false] at hn ⊢
    push_cast
    omega

theorem decomposed_returned {f : Frame} {rest : List Frame} {r : InterpreterResult}
    {fr : FrameResult} {journal' : List JournalEntry} (hp : s.phase = .action (.return r))
    (hf : s.frames = f :: rest)
    (hfr : processReturn env f (returnResult s.limit f.isCreate (storageCharged f.isCreate r))
      s.journal = (fr, journal'))
    (hl : s'.limit = (depositLimit
      (returnLimit s.limit f.isCreate (storageCharged f.isCreate r))
      (returnResult s.limit f.isCreate (storageCharged f.isCreate r)) fr).tryRescueGas fr.gas) :
    Decomposed env s .tau s' := by
  have hspent := processReturn_spent env f
    (returnResult s.limit f.isCreate (storageCharged f.isCreate r)) s.journal
  rw [hfr] at hspent
  have hcost : stepCost env s .tau s' = codeStorageGas f r +
      codeDepositGas env f (returnResult s.limit f.isCreate (storageCharged f.isCreate r)) := by
    simp only [stepCost, hp, hf]
  have hstorage : stepStorageGas env s .tau = codeStorageGas f r := by
    simp only [stepStorageGas, hp, hf]
  have hover : stepOverheadGas env s .tau = 0 := by
    simp only [stepOverheadGas, hp]
  have hreturn := adds_of_eq (returnLimit_computeGas s.limit f.isCreate
    (storageCharged f.isCreate r))
  have hadds := hreturn.trans (adds_recordComputeGas _ (depositGas
    (returnResult s.limit f.isCreate (storageCharged f.isCreate r)) fr))
  refine ⟨_, hadds.kept ?_, ?_⟩
  · rw [hl]
    exact tryRescueGas_computeGas _ _
  · rw [hcost, hstorage, hover]
    simp only [depositGas] at hspent ⊢
    push_cast
    omega

theorem Sound.decomposed_step {e : Event} (hsound : Sound env s) (ho : s.Orderly)
    (ho' : s'.Orderly) (hpay : ∀ ev, e = .op ev → PaysForValue ev)
    (hs : MegaEvm.step env s e = some s') : Decomposed env s e s' := by
  have hframed := hsound.framed
  have hnone (hc : stepCost env s e s' = 0) (hst : stepStorageGas env s e = 0)
      (hover : stepOverheadGas env s e = 0) (hl : Adds 0 s.limit s'.limit) :
      Decomposed env s e s' := by
    refine ⟨0, hl, ?_⟩
    rw [hc, hst, hover]
    rfl
  cases step_spec hs with
  | @init input e _ hp hi =>
    simp only [State.Framed, hp] at hframed
    exact decomposed_init hp hframed.1 ho' hi
  | @stopped f rest hp hf hx =>
    have hclash : false = true := ho'.1.symm.trans hx
    cases hclash
  | @resumed f rest hp hf hx hset =>
    apply hnone
    · simp [stepCost, hp, hf]
    · simp [stepStorageGas, hp, hf]
    · simp [stepOverheadGas, hp]
    · exact adds_of_eq (checkLimit_computeGas s.limit)
  | @op f rest e hp hf => exact decomposed_op hp hf (hpay e rfl) ho'
  | @opened f rest i hp hf =>
    apply hnone
    · simp [stepCost, hp, hf]
    · simp [stepStorageGas, hp, hf]
    · simp [stepOverheadGas, hp]
    · exact adds_of_eq rfl
  | @returned f rest r r₂ fr journal' hp hf hr hfr hpr =>
    subst hr
    exact decomposed_returned hp hf hfr rfl
  | @hand p hp =>
    apply hnone
    · simp [stepCost, hp]
    · simp [stepStorageGas, hp]
    · simp [stepOverheadGas, hp]
    · exact (adds_closeFrame s.limit _).kept (beforeFrameReturnResult_computeGas s.limit false _)
  | @insert p hp hn =>
    have hok : p.result.instructionResult.isOkOrRevert = true := by
      have hend := ho.2
      simpa only [State.endsWell, hp] using hend
    apply hnone
    · cases hf : s.frames with
      | nil => simp [stepCost, hp, hf]
      | cons f rest => simp [stepCost, hp, hf, burntGas, hok]
    · simp [stepStorageGas, hp]
    · simp [stepOverheadGas, hp]
    · cases hf : s.frames with
      | nil =>
        rw [insertResult_nil env p hf]
        exact adds_of_eq rfl
      | cons f rest =>
        rw [insertResult_cons env p hf]
        exact adds_of_eq rfl
  | @finish p hp hn =>
    have hok : (s.limit.beforeFrameReturnResult true p.result).2.instructionResult.isOkOrRevert =
        true := ho'.2
    apply hnone
    · simp [stepCost, hp, burntGas, hok]
    · simp [stepStorageGas, hp]
    · simp [stepOverheadGas, hp]
    · exact (adds_closeFrame s.limit _).kept (beforeFrameReturnResult_computeGas s.limit true _)

theorem keepsGas_of_orderly {input : FrameInput} {e : InitEvent} (hp : s.phase = .init input)
    (ha : s.limit.Aligned s.frames.length) (ho : s.Orderly) (ho' : s'.Orderly)
    (h : InitStep env s input e s') : keepsGas env s (.init e) = true := by
  have hwithin : s.limit.exceeded = false := ho.1
  cases input with
  | create i => simp [keepsGas, hp]
  | call i =>
    by_cases hk : isKeylessCall env s i = true
    · simp only [keepsGas, hp, hk, if_true, Bool.or_eq_true, decide_eq_true_eq, Bool.not_eq_true']
      cases h with
      | keyless hi hf h2 hcall =>
        cases hi
        have ha0 : s.limit.Aligned 0 := by
          rw [hf] at ha
          exact ha
        obtain ⟨hno, hok⟩ := orderly_answer ho'
        cases hcall with
        | outOfGas | halted => cases hok
        | insufficient output g hc => exact (keyless_not_frameLocal ha0 hc).elim
        | rejected output hle | completed output signer nonce hle =>
          right
          exact hno
      | control v hi h4 hk' =>
        cases hi
        rw [hk] at hk'
        cases hk'
      | refused hd | answered hd | entered hd =>
        have hpassed := hd.passed i rfl
        rw [hk] at hpassed
        cases hpassed
    · simp [keepsGas, hp, hk, hwithin]

theorem Sound.conserved_orderly {e : Event} (hsound : Sound env s) (hc : s.Counted)
    (ho : s.Orderly) (ho' : s'.Orderly) (hs : MegaEvm.step env s e = some s') :
    (potential s : ℤ) = stepCost env s e s' + potential s' := by
  have hframed := hsound.framed
  cases e with
  | tau => exact hsound.conserved_step hc rfl hs
  | init e =>
    apply hsound.conserved_step hc _ hs
    cases step_spec hs with
    | init hp hi =>
      simp only [State.Framed, hp] at hframed
      exact keepsGas_of_orderly hp hframed.1 ho ho' hi
  | op e =>
    cases step_spec hs with
    | @op f rest _ hp hf =>
      simp only [State.Framed, hp] at hframed
      have hno : (instruction env e (s.ctx f)).limit.exceeded = false := ho'.1
      have hset : setAside e (instruction env e (s.ctx f)) =
          takenGas (instruction env e (s.ctx f)).action := by
        unfold setAside takenGas
        rw [hno]
        rfl
      have hcost : stepCost env s (.op e) (interpStep env s f rest e) =
          opCost env e (s.ctx f) := by
        simp only [stepCost, hp, hf]
      rw [hcost]
      exact conserved_op hframed.2 hsound.spec hp hf hset

/-- One orderly step: what the frames lose, the meter or the storage gas gains. -/
theorem Sound.balanced_step {e : Event} (hsound : Sound env s) (hc : s.Counted)
    (ha : s.limit.computeGas.Additive) (ho : s.Orderly) (ho' : s'.Orderly)
    (hpay : ∀ ev, e = .op ev → PaysForValue ev) (hs : MegaEvm.step env s e = some s') :
    s'.limit.computeGas.Additive ∧
      (potential s + s.limit.computeGas.txUsage : ℤ) =
        (stepStorageGas env s e + stepOverheadGas env s e) +
          (potential s' + s'.limit.computeGas.txUsage) := by
  obtain ⟨n, hadds, hcost⟩ := hsound.decomposed_step ho ho' hpay hs
  obtain ⟨ha', husage⟩ := hadds ha
  have hcons := hsound.conserved_orderly hc ho ho' hs
  constructor
  · exact ha'
  · omega

end Step

section Run

variable {s s' s₀ : State} {es : List Event} {ev : StartEvent}

/-- Storage gas charged before the first frame: for calldata, for the
transaction, and for the account it creates. -/
def startStorageGas (env : Env) (ev : StartEvent) : ℕ :=
  constants.CALLDATA_STANDARD_TOKEN_STORAGE_GAS * env.tx.tokensInCalldata +
    (if env.spec.isEnabled .rex then constants.TX_INTRINSIC_STORAGE_GAS else 0) +
      (creationStorageGas env ev).getD 0

theorem startGas_eq (env : Env) (ev : StartEvent) :
    startGas env ev = ev.intrinsicGas + startStorageGas env ev := by
  unfold startGas initialGas startStorageGas
  omega

theorem start_records (env : Env) (ev : StartEvent) :
    ((onNewTx env ev).recordComputeGas ev.intrinsicGas).computeGas.Additive ∧
      ((onNewTx env ev).recordComputeGas ev.intrinsicGas).computeGas.txUsage =
        ev.intrinsicGas := by
  have hfresh : (onNewTx env ev).computeGas.Additive ∧ (onNewTx env ev).computeGas.txUsage = 0 := by
    rw [onNewTx_eq, checkLimit_computeGas]
    constructor
    · exact ⟨(restorable_newTxTrackers env ev).computeGas.persistent, rfl⟩
    · rfl
  obtain ⟨ha, hzero⟩ := hfresh
  obtain ⟨ha', hsum⟩ := adds_recordComputeGas (onNewTx env ev) ev.intrinsicGas ha
  constructor
  · exact ha'
  · omega

theorem start_orderly (hstart : start env ev = some s₀) (ho : s₀.Orderly) :
    (∃ input, s₀.phase = .init input) ∧
      s₀.limit = (onNewTx env ev).recordComputeGas ev.intrinsicGas := by
  unfold start at hstart
  split at hstart
  · cases hstart
  · simp only [Option.map_eq_some_iff] at hstart
    obtain ⟨storageGas, -, rfl⟩ := hstart
    split at ho
    · cases ho.2
    · next hle =>
      rw [if_neg hle]
      exact ⟨⟨_, rfl⟩, rfl⟩

/-- Each step of an orderly run leaves an orderly state, and its calls pay for the
value they transfer. -/
def OrderlySteps (env : Env) (s : State) (e : Event) : Prop :=
  (∀ ev, e = .op ev → PaysForValue ev) ∧ ∀ s', step env s e = some s' → s'.Orderly

def orderlyStep (env : Env) (s : State) (e : Event) : Bool :=
  (match e with
    | .op ev => decide (PaysForValue ev)
    | _ => true) && (step env s e).all fun s' => decide s'.Orderly

theorem orderlySteps_of_step {e : Event} (h : orderlyStep env s e = true) :
    OrderlySteps env s e := by
  simp only [orderlyStep, Bool.and_eq_true, Option.all_eq_true, decide_eq_true_eq] at h
  constructor
  · rintro ev rfl
    simpa using h.1
  · intro s' hs
    exact h.2 s' hs

/-- In a run whose frames succeed or revert and that exceeds no limit, the gas
spent is the compute gas recorded and the storage gas charged. -/
theorem dual_gas_decomposed {p : Pending} (hstart : start env ev = some s₀) (h₀ : s₀.Orderly)
    (hg : Run.Guarded (step env) (OrderlySteps env) s₀ es)
    (hr : Run.run (step env) s₀ es = some s) (hp : s.phase = .done p) :
    (env.tx.gasLimit : ℤ) - p.result.gas.remaining =
      s.limit.computeGas.txUsage + startStorageGas env ev +
        Run.total (step env) (fun s e _ => stepStorageGas env s e) s₀ es +
        Run.total (step env) (fun s e _ => stepOverheadGas env s e) s₀ es := by
  obtain ⟨⟨input, hi⟩, hlimit⟩ := start_orderly hstart h₀
  obtain ⟨ha, husage⟩ := start_records env ev
  rw [← hlimit] at ha husage
  have hfirst := potential_start hstart hi
  rw [startGas_eq] at hfirst
  have haccount : (potential s₀ + s₀.limit.computeGas.txUsage : ℤ) =
      Run.total (step env) (fun s e _ => (stepStorageGas env s e : ℤ) + stepOverheadGas env s e)
        s₀ es + (potential s + s.limit.computeGas.txUsage) := by
    apply @Run.account _ _ (step env) (OrderlySteps env)
      (fun s => Sound env s ∧ s.Counted ∧ s.limit.computeGas.Additive ∧ s.Orderly) _
      (fun s => (potential s + s.limit.computeGas.txUsage : ℤ))
    · intro s e s' ⟨hsound, hc, ha, ho⟩ hok hs
      have hstep := hsound.balanced_step hc ha ho (hok.2 s' hs) hok.1 hs
      exact ⟨hsound.step hs, hsound.counted_step hc hs, hstep.1, hok.2 s' hs⟩
    · intro s e s' ⟨hsound, hc, ha, ho⟩ hok hs
      exact (hsound.balanced_step hc ha ho (hok.2 s' hs) hok.1 hs).2
    · exact ⟨sound_start hstart, counted_start hstart, ha, h₀⟩
    · exact hg
    · exact hr
  rw [Run.total_add] at haccount
  have hlast : potential s = p.result.gas.remaining := by simp [potential, hp]
  omega

end Run

section Paying

def payingCall : OpEvent where
  opcode := .call
  stack := [500000, 100, 1, 0, 0, 0, 0]
  slot := none
  targetEmpty := some true
  storageGas := some 25000
  hostCalled := true
  inner := .newFrame 36600 500000 (.call ⟨.call, 3, 100, .transfer 1, .other, 0⟩) []

def payingEnv : Env := sampleEnv .rex4 (.call 3) .other 1000000

def payingStart : StartEvent := sampleStart .rex4 rex4_computeGas_fits

/-- There is no code to run; the caller works on and returns. -/
def payingRun : List Event :=
  [.init sampleInit, .tau] ++ samplePushes ++
    [.op payingCall, .tau, .init { sampleInit with targetEmpty := true, call := .emptyCode },
      .tau, .tau, .tau, .op (samplePlain 50000), .op (sampleReturn []), .tau, .tau, .tau, .tau]

theorem dual_gas_paying :
    ∃ s p, Execution payingEnv payingStart payingRun s ∧ s.phase = .done p ∧
      s.limit.computeGas.txUsage = 105321 ∧
      (1000000 : ℤ) - p.result.gas.remaining = 105321 + 39000 + 25000 := by
  have hrun : (execute payingEnv payingStart payingRun).map
      (fun s => (s.phase, s.limit.computeGas.txUsage)) =
      some (.done ⟨callResult .return [] ⟨1000000, 830679⟩, []⟩, 105321) := by decide
  have hfirst : (start payingEnv payingStart).map (fun s =>
      (decide s.Orderly, Run.checks (step payingEnv) (orderlyStep payingEnv) s payingRun,
        Run.total (step payingEnv) (fun s e _ => stepStorageGas payingEnv s e) s payingRun,
        Run.total (step payingEnv) (fun s e _ => stepOverheadGas payingEnv s e) s payingRun)) =
      some (true, true, 25000, 0) := by decide
  obtain ⟨s, ⟨s₀, hstart, hr⟩, hf⟩ := exists_execution hrun
  rw [hstart, Option.map_some, Option.some.injEq, Prod.mk.injEq, Prod.mk.injEq,
    Prod.mk.injEq] at hfirst
  obtain ⟨ho, hchecks, hstorage, hover⟩ := hfirst
  have hp : s.phase = .done _ := (Prod.ext_iff.1 hf).1
  have husage : s.limit.computeGas.txUsage = 105321 := (Prod.ext_iff.1 hf).2
  have hguarded := (Run.guarded_of_checks hchecks).mono fun _ _ => orderlySteps_of_step
  have hgas := dual_gas_decomposed hstart (of_decide_eq_true ho) hguarded hr hp
  have hopen : startStorageGas payingEnv payingStart = 39000 := by decide
  rw [hstorage, hover, husage, hopen] at hgas
  exact ⟨s, _, ⟨s₀, hstart, hr⟩, hp, husage, hgas⟩

end Paying

end MegaEvm
