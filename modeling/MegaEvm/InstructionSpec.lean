import MegaEvm.Instructions
import MegaEvm.FrameHooks

/-!
# What one instruction does to the limits

One specification for the whole instruction table: from trackers that are
ready, every instruction keeps them aligned and restorable, stops the frame
with the exceeding result whenever it sets the flag, and asks for a new frame
only with settled trackers. The wrappers are taken one at a time.
-/

set_option autoImplicit false

namespace MegaEvm

open AdditionalLimit

variable {env : Env} {ev : OpEvent} {l : AdditionalLimit} {c : Ctx}

structure Ready (l : AdditionalLimit) : Prop where
  within : l.exceeded = false
  restorable : l.Restorable
  settled : l.rex4 = true → l.Settled

structure Outcome (l : AdditionalLimit) (c : Ctx) : Prop where
  spec : c.limit.spec = l.spec
  rescuedGas : c.limit.rescuedGas = l.rescuedGas
  budgets : c.limit.budgets = l.budgets
  restorable : c.limit.Restorable
  stops : c.limit.exceeded = true →
    ∃ r, c.action = some (.return r) ∧ r.result = c.limit.exceedingInstructionResult
  opens : ∀ input, c.action = some (.newFrame input) → c.limit.Settled
  settled : l.rex4 = true → c.limit.exceeded = false → c.limit.Settled
  owned : c.limit.Owned
  unmasked : c.limit.Unmasked
  gas : ∀ r, c.action = some (.return r) → r.gas = c.gas
  returns : ∀ r, c.action = some (.return r) → r.result.isOk = true → c.limit.Settled

structure Metered (l : AdditionalLimit) (c : Ctx) : Prop extends Outcome l c where
  computeFlag : c.limit.ComputeFlag

theorem Outcome.rex4 (h : Outcome l c) : c.limit.rex4 = l.rex4 := by
  simp [AdditionalLimit.rex4, h.spec]

section Basic

theorem computeFlag_of_within (h : l.exceeded = false) : l.ComputeFlag := by
  intro k lim u hf
  rw [exceeded_eq_false.1 h] at hf
  cases hf

theorem Ready.metered_of_return (h : Ready l) (hl : c.limit = l) {r : InterpreterResult}
    (ha : c.action = some (.return r)) (hg : r.gas = c.gas) (hr : r.result.isOk = false) :
    Metered l c where
  spec := by rw [hl]
  rescuedGas := by rw [hl]
  budgets := by rw [hl]
  restorable := by rw [hl]; exact h.restorable
  stops := fun hx => by rw [hl, h.within] at hx; cases hx
  opens := fun i hi => by rw [ha] at hi; cases hi
  settled := fun hr _ => by rw [hl]; exact h.settled hr
  owned := by rw [hl]; exact owned_of_within (exceeded_eq_false.1 h.within)
  unmasked := by rw [hl]; exact unmasked_of_within (exceeded_eq_false.1 h.within)
  gas := fun r' hr' => by rw [ha] at hr'; cases hr'; exact hg
  returns := fun r' hr' hok => by rw [ha] at hr'; cases hr'; rw [hr] at hok; cases hok
  computeFlag := by rw [hl]; exact computeFlag_of_within h.within

theorem Ready.metered_halt (h : Ready l) (hl : c.limit = l) {r : InstructionResult}
    (hr : r.isOk = false) : Metered l (c.halt r) :=
  h.metered_of_return (c := c.halt r) hl rfl rfl hr

theorem Ready.metered_haltWith (h : Ready l) (hl : c.limit = l) {r : InstructionResult}
    (hr : r.isOk = false) (o : Bytes) : Metered l (c.haltWith r o) :=
  h.metered_of_return (c := c.haltWith r o) hl rfl rfl hr

theorem chargeInner_spec {P : Ctx → Prop} {cost : ℕ} {writes : List JournalEntry}
    {rest : Ctx → Ctx} (hhalt : P (c.halt .outOfGas))
    (hrest : ∀ g, c.gas.recordCost cost = some g →
      P (rest { c with gas := g, journal := writes ++ c.journal })) :
    P (chargeInner cost writes rest c) := by
  unfold chargeInner
  cases hg : c.gas.recordCost cost with
  | none => exact hhalt
  | some g => exact hrest g hg

theorem runInner_limit : (runInner env ev c).limit = c.limit := by
  unfold runInner
  cases ev.inner with
  | next cost writes =>
    exact chargeInner_spec (P := fun c' => c'.limit = c.limit) rfl fun _ _ => rfl
  | halt r o cost writes =>
    exact chargeInner_spec (P := fun c' => c'.limit = c.limit) rfl fun _ _ => rfl
  | newFrame cost f i writes =>
    exact chargeInner_spec (P := fun c' => c'.limit = c.limit) rfl fun _ _ => rfl

theorem runInner_gas (hc : c.action = none) :
    ∀ r, (runInner env ev c).action = some (.return r) → r.gas = (runInner env ev c).gas := by
  unfold runInner
  cases ev.inner with
  | next cost writes =>
    refine chargeInner_spec (P := fun c' => ∀ r, c'.action = some (.return r) → r.gas = c'.gas)
      ?_ fun g _ => ?_
    · intro r hr
      cases hr
      rfl
    · intro r hr
      rw [id, touchHost, hc] at hr
      cases hr
  | halt r o cost writes =>
    refine chargeInner_spec (P := fun c' => ∀ r, c'.action = some (.return r) → r.gas = c'.gas)
      ?_ fun g _ => ?_
    · intro r hr
      cases hr
      rfl
    · intro r hr
      cases hr
      rfl
  | newFrame cost f i writes =>
    refine chargeInner_spec (P := fun c' => ∀ r, c'.action = some (.return r) → r.gas = c'.gas)
      ?_ fun g _ => ?_
    · intro r hr
      cases hr
      rfl
    · intro r hr
      cases hr

theorem action_of_isError (h : c.isError = true) :
    ∃ r, c.action = some (.return r) ∧ r.result.isOk = false := by
  unfold Ctx.isError Ctx.instructionResult at h
  cases ha : c.action with
  | none => simp [ha] at h
  | some a =>
    cases a with
    | newFrame i => simp [ha] at h
    | «return» r =>
      refine ⟨r, rfl, ?_⟩
      simp only [ha, InstructionResult.isError, Bool.and_eq_true, Bool.not_eq_true'] at h
      exact h.1

theorem runInnerOrAbort_spec {P Q : Ctx → Prop} {inner rest : Ctx → Ctx} (h : P (inner c))
    (hrest : (inner c).isError = false → P (inner c) → Q (rest (inner c)))
    (habort : (inner c).isError = true → P (inner c) → Q (inner c)) :
    Q (runInnerOrAbort inner rest c) := by
  unfold runInnerOrAbort
  split
  case isTrue he => exact habort he h
  case isFalse he => exact hrest (by simpa using he) h

end Basic

section Compute

theorem Ready.metered_computeGas (h : Ready l) (hl : c.limit = l) (g : ℕ)
    (hg : ∀ r, c.action = some (.return r) → r.gas = c.gas) : Metered l (computeGas g c) := by
  have hset : (l.recordComputeGas g).Restorable := h.restorable.recordComputeGas
  have howned := (owned_of_within (exceeded_eq_false.1 h.within)).recordComputeGas (g := g)
  have hflag := computeFlag_recordComputeGas (g := g) h.within h.settled
  have hunmasked := unmasked_recordComputeGas (g := g) h.within
    fun hr => ⟨(h.settled hr).dataSize, (h.settled hr).kvUpdate⟩
  unfold computeGas
  simp only [hl]
  split
  case isTrue hx =>
    exact
      { spec := recordComputeGas_spec g
        rescuedGas := recordComputeGas_rescuedGas g
        budgets := budgets_recordComputeGas
        restorable := hset
        stops := fun _ => ⟨_, rfl, rfl⟩
        opens := fun i hi => by cases hi
        settled := fun _ hf => settled_recordComputeGas hf
        owned := howned
        unmasked := hunmasked
        gas := fun r hr => by cases hr; rfl
        returns := fun r hr hok => by cases hr; simp at hok
        computeFlag := hflag }
  case isFalse hx =>
    exact
      { spec := recordComputeGas_spec g
        rescuedGas := recordComputeGas_rescuedGas g
        budgets := budgets_recordComputeGas
        restorable := hset
        stops := fun hf => absurd hf hx
        opens := fun _ _ => settled_recordComputeGas (by simpa using hx)
        settled := fun _ hf => settled_recordComputeGas hf
        owned := howned
        unmasked := hunmasked
        gas := hg
        returns := fun _ _ _ => settled_recordComputeGas (by simpa using hx)
        computeFlag := hflag }

theorem Ready.metered_wrap (h : Ready l) (hl : c.limit = l) (hc : c.action = none) :
    Metered l (ComputeGasExt.wrap env ev c) := by
  have hlim : (runInner env ev c).limit = l := runInner_limit.trans hl
  refine runInnerOrAbort_spec (P := fun c' => c' = runInner env ev c) rfl ?_ ?_
  · intro _ _
    exact h.metered_computeGas hlim _ (runInner_gas hc)
  · intro he _
    obtain ⟨r, hr, hok⟩ := action_of_isError he
    exact h.metered_of_return hlim hr (runInner_gas hc r hr) hok

end Compute

section Storage

theorem Ready.metered_chargeThen (h : Ready l) (hl : c.limit = l) (hc : c.action = none)
    (cost : ℕ) : Metered l (chargeThen cost (ComputeGasExt.wrap env ev) c) := by
  unfold chargeThen
  cases c.gas.recordCost cost with
  | none => exact h.metered_halt hl rfl
  | some g => exact h.metered_wrap (c := { c with gas := g }) hl hc

theorem Ready.metered_call (h : Ready l) (hl : c.limit = l) (hc : c.action = none) (b : Bool) :
    Metered l (StorageGasExt.call env ev b c) := by
  unfold StorageGasExt.call
  cases ev.inspect 1 with
  | none => exact h.metered_halt hl rfl
  | some target =>
    cases ev.targetEmpty with
    | none => exact h.metered_halt hl rfl
    | some isEmpty =>
      cases b with
      | false => exact h.metered_wrap hl hc
      | true =>
        cases ev.inspect 2 with
        | none => exact h.metered_halt hl rfl
        | some value =>
          simp only [if_true]
          split
          · cases ev.storageGas with
            | none => exact h.metered_halt hl rfl
            | some st => exact h.metered_chargeThen hl hc st
          · exact h.metered_wrap hl hc

theorem storageCreate_cases (env : Env) (ev : OpEvent) (c : Ctx) (b : Bool) :
    (∃ r, r.isError = true ∧ StorageGasExt.create env ev b c = c.halt r) ∨
      ∃ st, ev.storageGas = some st ∧
        StorageGasExt.create env ev b c = chargeThen st (ComputeGasExt.wrap env ev) c := by
  unfold StorageGasExt.create
  cases ev.targetEmpty with
  | none => exact .inl ⟨_, rfl, rfl⟩
  | some e =>
    cases hst : ev.storageGas with
    | none =>
      cases b with
      | false => exact .inl ⟨_, rfl, rfl⟩
      | true =>
        simp only [if_true]
        split
        · split
          · exact .inl ⟨_, rfl, rfl⟩
          · split
            · exact .inl ⟨_, rfl, rfl⟩
            · exact .inl ⟨_, rfl, rfl⟩
        · exact .inl ⟨_, rfl, rfl⟩
    | some st =>
      cases b with
      | false => exact .inr ⟨st, rfl, rfl⟩
      | true =>
        simp only [if_true]
        split
        · split
          · exact .inl ⟨_, rfl, rfl⟩
          · split
            · exact .inl ⟨_, rfl, rfl⟩
            · exact .inr ⟨st, rfl, rfl⟩
        · exact .inl ⟨_, rfl, rfl⟩

theorem Ready.metered_create (h : Ready l) (hl : c.limit = l) (hc : c.action = none) (b : Bool) :
    Metered l (StorageGasExt.create env ev b c) := by
  rcases storageCreate_cases env ev c b with ⟨r, hr, heq⟩ | ⟨st, -, heq⟩
  · rw [heq]
    exact h.metered_halt hl (InstructionResult.isOk_of_isError hr)
  · rw [heq]
    exact h.metered_chargeThen hl hc st

theorem Ready.metered_log (h : Ready l) (hl : c.limit = l) (hc : c.action = none) (n : ℕ) :
    Metered l (StorageGasExt.log env ev n c) := by
  unfold StorageGasExt.log
  cases ev.inspect 1 with
  | none => exact h.metered_halt hl rfl
  | some len =>
    simp only
    split
    · exact h.metered_halt hl rfl
    · exact h.metered_chargeThen hl hc _

theorem Ready.metered_sstore (h : Ready l) (hl : c.limit = l) (hc : c.action = none) :
    Metered l (StorageGasExt.sstore env ev c) := by
  unfold StorageGasExt.sstore
  split
  · exact h.metered_halt hl rfl
  · exact h.metered_halt hl rfl
  · exact h.metered_halt hl rfl
  · split
    · cases ev.storageGas with
      | none => exact h.metered_halt hl rfl
      | some st => exact h.metered_chargeThen hl hc st
    · exact h.metered_wrap hl hc

end Storage

section AdditionalLimits

theorem Metered.outcome_enforce (h : Metered l c) {l' : AdditionalLimit}
    (hflag : l'.hasExceededLimit = c.limit.hasExceededLimit) (hspec : l'.spec = c.limit.spec)
    (hgas : l'.rescuedGas = c.limit.rescuedGas) (hcompute : l'.computeGas = c.limit.computeGas)
    (hbudgets : l'.checkLimit.budgets = c.limit.budgets) (hrestorable : l'.Restorable) :
    Outcome l (AdditionalLimitExt.enforce { c with limit := l'.checkLimit }) := by
  have hrex4 : l'.rex4 = c.limit.rex4 := by simp [AdditionalLimit.rex4, hspec]
  have howned : l'.checkLimit.Owned := h.owned.of_computeFlag h.computeFlag hflag hrex4 hcompute
  have hunmasked : l'.checkLimit.Unmasked := by
    refine unmasked_of_computeFlag h.computeFlag hflag hrex4 hcompute fun hx h4 => ?_
    exact (h.settled (h.rex4.symm.trans h4) hx).computeGas.tx
  unfold AdditionalLimitExt.enforce
  split
  case isTrue hx =>
    exact
      { spec := by simpa [Ctx.halt, hspec] using h.spec
        rescuedGas := by simpa [Ctx.halt, hgas] using h.rescuedGas
        budgets := hbudgets.trans h.budgets
        restorable := restorable_checkLimit.2 hrestorable
        stops := fun _ => ⟨_, rfl, rfl⟩
        opens := fun i hi => by cases hi
        settled := fun _ hf => settled_of_unflagged hf
        owned := howned
        unmasked := hunmasked
        gas := fun r hr => by cases hr; rfl
        returns := fun r hr hok => by cases hr; simp at hok }
  case isFalse hx =>
    exact
      { spec := by simpa [hspec] using h.spec
        rescuedGas := by simpa [hgas] using h.rescuedGas
        budgets := hbudgets.trans h.budgets
        restorable := restorable_checkLimit.2 hrestorable
        stops := fun hf => absurd hf hx
        opens := fun _ _ => settled_of_unflagged (by simpa using hx)
        settled := fun _ hf => settled_of_unflagged hf
        owned := howned
        unmasked := hunmasked
        gas := h.gas
        returns := fun _ _ _ => settled_of_unflagged (by simpa using hx) }

theorem Ready.outcome_sstore (h : Ready l) (hl : c.limit = l) (hc : c.action = none) :
    Outcome l (AdditionalLimitExt.sstore env ev c) := by
  unfold AdditionalLimitExt.sstore
  split
  · exact (h.metered_halt hl rfl).toOutcome
  · exact (h.metered_halt hl rfl).toOutcome
  · exact (h.metered_halt hl rfl).toOutcome
  · refine runInnerOrAbort_spec (P := Metered l) (h.metered_sstore hl hc) ?_ ?_
    · intro _ hm
      exact hm.outcome_enforce rfl rfl rfl rfl (budgets_onSstore _)
        (restorable_checkLimit.1 (hm.restorable.onSstore _))
    · intro _ hm
      exact hm.toOutcome

theorem Ready.outcome_log (h : Ready l) (hl : c.limit = l) (hc : c.action = none) (n : ℕ) :
    Outcome l (AdditionalLimitExt.log env ev n c) := by
  unfold AdditionalLimitExt.log
  cases ev.inspect 1 with
  | none => exact (h.metered_halt hl rfl).toOutcome
  | some len =>
    simp only
    split
    · exact (h.metered_halt hl rfl).toOutcome
    · refine runInnerOrAbort_spec (P := Metered l) (h.metered_log hl hc n) ?_ ?_
      · intro _ hm
        exact hm.outcome_enforce rfl rfl rfl rfl (budgets_onLog _ _)
          (restorable_checkLimit.1 (hm.restorable.onLog _ _))
      · intro _ hm
        exact hm.toOutcome

end AdditionalLimits

section Forward

theorem Outcome.cap (h : Outcome l c) (s : ℕ) : Outcome l (ForwardGasExt.cap s c) := by
  unfold ForwardGasExt.cap
  split
  case h_1 input ha =>
    exact
      { spec := h.spec
        rescuedGas := h.rescuedGas
        budgets := h.budgets
        restorable := h.restorable
        stops := fun hx => by
          obtain ⟨r, hr, -⟩ := h.stops hx
          rw [ha] at hr
          cases hr
        opens := fun _ _ => h.opens input ha
        settled := h.settled
        owned := h.owned
        unmasked := h.unmasked
        gas := fun r hr => by cases hr
        returns := fun r hr => by cases hr }
  case h_2 => exact h

theorem outcome_forward {inner : Ctx → Ctx} (h : Outcome l (inner c)) :
    Outcome l (ForwardGasExt.wrap ev inner c) :=
  runInnerOrAbort_spec h (fun _ hi => hi.cap _) fun _ hi => hi

end Forward

section Volatile

theorem runInner_newFrame (hc : c.action = none) {i : FrameInput}
    (h : (runInner env ev c).action = some (.newFrame i)) : ev.inner.opensFrame = true := by
  unfold runInner at h
  cases hi : ev.inner with
  | newFrame cost f input writes => rfl
  | next cost writes =>
    rw [hi] at h
    revert h
    refine chargeInner_spec (P := fun c' => c'.action = some (.newFrame i) → _) ?_ fun g _ => ?_
    · intro h
      cases h
    · intro h
      rw [id, touchHost, hc] at h
      cases h
  | halt r o cost writes =>
    rw [hi] at h
    revert h
    refine chargeInner_spec (P := fun c' => c'.action = some (.newFrame i) → _) ?_ fun g _ => ?_
    · intro h
      cases h
    · intro h
      cases h

theorem runInner_returns (hc : c.action = none) {r : InterpreterResult}
    (h : (runInner env ev c).action = some (.return r)) (hr : r.result.isOk = true) :
    ev.opcode.endsFrame = true := by
  refine ev.ends ?_
  unfold runInner at h
  cases hi : ev.inner with
  | halt res o cost writes =>
    rw [hi] at h
    revert h
    refine chargeInner_spec (P := fun c' => c'.action = some (.return r) → _) ?_ fun g _ => ?_
    · intro h
      cases h
      cases hr
    · intro h
      cases h
      exact hr
  | next cost writes =>
    rw [hi] at h
    revert h
    refine chargeInner_spec (P := fun c' => c'.action = some (.return r) → _) ?_ fun g _ => ?_
    · intro h
      cases h
      cases hr
    · intro h
      rw [id, touchHost, hc] at h
      cases h
  | newFrame cost f input writes =>
    rw [hi] at h
    revert h
    refine chargeInner_spec (P := fun c' => c'.action = some (.return r) → _) ?_ fun g _ => ?_
    · intro h
      cases h
      cases hr
    · intro h
      cases h

theorem wrap_newFrame (hc : c.action = none) {i : FrameInput}
    (h : (ComputeGasExt.wrap env ev c).action = some (.newFrame i)) :
    ev.inner.opensFrame = true := by
  unfold ComputeGasExt.wrap runInnerOrAbort computeGas at h
  split at h
  · exact runInner_newFrame hc h
  · simp only at h
    split at h
    · cases h
    · exact runInner_newFrame hc h

theorem wrap_returns (hc : c.action = none) {r : InterpreterResult}
    (h : (ComputeGasExt.wrap env ev c).action = some (.return r)) (hr : r.result.isOk = true) :
    ev.opcode.endsFrame = true := by
  unfold ComputeGasExt.wrap runInnerOrAbort computeGas at h
  split at h
  · exact runInner_returns hc h hr
  · simp only at h
    split at h
    · cases h
      simp at hr
    · exact runInner_returns hc h hr

theorem Metered.detain (h : Metered l c) (hn : ∀ i, c.action ≠ some (.newFrame i))
    (hok : ∀ r, c.action = some (.return r) → r.result.isOk = true → l.rex4 = true) :
    Metered l (VolatileDataExt.applyComputeGasLimit c) := by
  unfold VolatileDataExt.applyComputeGasLimit
  cases c.volatile.computeGasLimit with
  | none => exact h
  | some cap =>
    exact
      { spec := h.spec
        rescuedGas := h.rescuedGas
        budgets := (setComputeGasLimit_budgets cap).trans h.budgets
        restorable := h.restorable.setComputeGasLimit cap
        stops := h.stops
        opens := fun i hi => absurd hi (hn i)
        settled := fun hr hf =>
          (h.settled hr hf).setComputeGasLimit cap (h.toOutcome.rex4.trans hr) h.restorable
        owned := h.owned.setComputeGasLimit cap
        unmasked := fun k lim u hf hk => absurd (h.computeFlag k lim u hf) hk
        gas := h.gas
        returns := fun r hr hk => (h.returns r hr hk).setComputeGasLimit cap
          (h.toOutcome.rex4.trans (hok r hr hk)) h.restorable
        computeFlag := h.computeFlag }

theorem Ready.metered_detained (h : Ready l) (hl : c.limit = l) (hc : c.action = none)
    (ho : ev.opcode.opensFrame = false) (he : ev.opcode.endsFrame = true → l.rex4 = true) :
    Metered l (runInnerOrAbort (ComputeGasExt.wrap env ev) VolatileDataExt.applyComputeGasLimit
      c) := by
  refine runInnerOrAbort_spec (P := Metered l) (h.metered_wrap hl hc) ?_ fun _ hm => hm
  intro _ hm
  refine hm.detain (fun i hi => ?_) fun r hr hok => he (wrap_returns hc hr hok)
  rw [ev.opens (wrap_newFrame hc hi)] at ho
  cases ho

theorem Ready.metered_unconditional (h : Ready l) (hl : c.limit = l) (hc : c.action = none)
    (ho : ev.opcode.opensFrame = false) (he : ev.opcode.endsFrame = true → l.rex4 = true)
    (ty : VolatileDataAccessType) : Metered l (VolatileDataExt.unconditional env ev ty c) := by
  unfold VolatileDataExt.unconditional
  split
  · exact h.metered_haltWith hl rfl _
  · exact h.metered_detained hl hc ho he

theorem Ready.metered_conditional (h : Ready l) (hl : c.limit = l) (hc : c.action = none)
    (ho : ev.opcode.opensFrame = false) (he : ev.opcode.endsFrame = true → l.rex4 = true) :
    Metered l (VolatileDataExt.conditional env ev c) := by
  unfold VolatileDataExt.conditional
  split
  · exact h.metered_haltWith hl rfl _
  · exact h.metered_detained hl hc ho he

theorem Ready.metered_sload (h : Ready l) (hl : c.limit = l) (hc : c.action = none)
    (ho : ev.opcode.opensFrame = false) (he : ev.opcode.endsFrame = true → l.rex4 = true) :
    Metered l (VolatileDataExt.sload env ev c) := by
  unfold VolatileDataExt.sload
  split
  · exact h.metered_haltWith hl rfl _
  · exact h.metered_detained hl hc ho he

theorem Ready.outcome_callCheck (h : Ready l) (hl : c.limit = l) {inner : Ctx → Ctx}
    (hi : Outcome l (inner c)) : Outcome l (VolatileDataExt.callCheck env ev inner c) := by
  unfold VolatileDataExt.callCheck
  split
  · exact (h.metered_haltWith hl rfl _).toOutcome
  · exact hi

end Volatile

section Table

theorem Ready.outcome_callLike (h : Ready l) (hl : c.limit = l) (hc : c.action = none)
    (b : Bool) : Outcome l (callLike env ev b c) := by
  have hforward : Outcome l (ForwardGasExt.wrap ev (StorageGasExt.call env ev b) c) :=
    outcome_forward (h.metered_call hl hc b).toOutcome
  unfold callLike
  split
  · exact h.outcome_callCheck hl hforward
  · split
    · exact hforward
    · exact (h.metered_wrap hl hc).toOutcome

theorem Ready.outcome_instruction (h : Ready l) (hs : l.spec = env.spec) (hl : c.limit = l)
    (hc : c.action = none) : Outcome l (instruction env ev c) := by
  unfold instruction
  cases ho : ev.opcode with
  | plain | selfbalance => exact (h.metered_wrap hl hc).toOutcome
  | blockEnv ty =>
    have he : ev.opcode.endsFrame = true → l.rex4 = true := by simp [ho, Opcode.endsFrame]
    exact (h.metered_unconditional hl hc (by rw [ho]; rfl) he ty).toOutcome
  | account =>
    have he : ev.opcode.endsFrame = true → l.rex4 = true := by simp [ho, Opcode.endsFrame]
    exact (h.metered_conditional hl hc (by rw [ho]; rfl) he).toOutcome
  | sload =>
    have he : ev.opcode.endsFrame = true → l.rex4 = true := by simp [ho, Opcode.endsFrame]
    simp only
    split
    · exact (h.metered_sload hl hc (by rw [ho]; rfl) he).toOutcome
    · exact (h.metered_wrap hl hc).toOutcome
  | sstore => exact h.outcome_sstore hl hc
  | log n => exact h.outcome_log hl hc n
  | create => exact outcome_forward (h.metered_create hl hc false).toOutcome
  | create2 => exact outcome_forward (h.metered_create hl hc true).toOutcome
  | call =>
    have hforward : Outcome l (ForwardGasExt.wrap ev (StorageGasExt.call env ev true) c) :=
      outcome_forward (h.metered_call hl hc true).toOutcome
    simp only
    split
    · exact h.outcome_callCheck hl hforward
    · exact hforward
  | callCode => exact h.outcome_callLike hl hc true
  | delegateCall | staticCall => exact h.outcome_callLike hl hc false
  | selfdestruct =>
    simp only
    split
    case isTrue h4 =>
      have he : l.rex4 = true := by rw [AdditionalLimit.rex4, hs]; exact h4
      exact (h.metered_conditional hl hc (by rw [ho]; rfl) fun _ => he).toOutcome
    case isFalse =>
      split
      · exact (h.metered_wrap hl hc).toOutcome
      · exact (h.metered_halt hl rfl).toOutcome
  | unknown => exact (h.metered_halt hl rfl).toOutcome

end Table

end MegaEvm
