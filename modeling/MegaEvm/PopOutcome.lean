import MegaEvm.FrameRevert

/-!
# The flag a frame is popped with

The trackers pop a frame on the result it has before the limits are checked;
the check may then turn that result into a failure. An ok result is turned down
only where an exceed was flagged while the result stayed ok: when the gas of a
precompile that succeeded is recorded, and when a system contract answers a call
on limits that were exceeded before. In every other run a frame is popped with
the success of the result its parent gets, so a failed frame keeps nothing and a
successful one loses nothing.
-/

set_option autoImplicit false

namespace MegaEvm

open AdditionalLimit

variable {env : Env} {s s' : State}

section Pop

namespace FrameLimitTracker

variable {ι : Type}

def totalDiscardable (t : FrameLimitTracker ι) : ℕ :=
  t.txEntry.discardableUsage + (t.frameStack.map (·.discardableUsage)).sum

def dropTop (t : FrameLimitTracker ι) : FrameLimitTracker ι :=
  { t with frameStack := t.frameStack.tail }

/-- The newest frame was popped with the flag `ok`: an ok frame hands everything
down, a failed one neither its discardable usage nor its refunds. -/
structure Popped (t t' : FrameLimitTracker ι) (ok : Bool) : Prop where
  popped : t' = t.popFrame ok
  kept : ok = true →
    t'.totalDiscardable = t.totalDiscardable ∧ t'.totalRefund = t.totalRefund
  dropped : ok = false →
    t'.totalDiscardable = t.dropTop.totalDiscardable ∧ t'.totalRefund = t.dropTop.totalRefund

theorem popped_popFrame (t : FrameLimitTracker ι) (ok : Bool) : Popped t (t.popFrame ok) ok where
  popped := rfl
  kept := by
    rintro rfl
    unfold popFrame totalDiscardable totalRefund
    split
    case h_1 => exact ⟨rfl, rfl⟩
    case h_2 child h =>
      simp [FrameLimitEntry.absorb, h]
    case h_3 child parent rest h =>
      simp only [FrameLimitEntry.absorb, h, List.map_cons, List.sum_cons, if_true]
      constructor <;> omega
  dropped := by
    rintro rfl
    unfold popFrame totalDiscardable totalRefund dropTop
    split
    case h_1 h => simp [h]
    case h_2 child h => simp [FrameLimitEntry.absorb, h]
    case h_3 child parent rest h => simp [FrameLimitEntry.absorb, h]

end FrameLimitTracker

structure AdditionalLimit.Popped (l l' : AdditionalLimit) (ok : Bool) : Prop where
  stateGrowth : l.stateGrowth.Popped l'.stateGrowth ok
  dataSize : l.dataSize.Popped l'.dataSize ok
  kvUpdate : l.kvUpdate.Popped l'.kvUpdate ok
  computeGas : l.computeGas.frameTracker.Popped l'.computeGas.frameTracker ok

theorem closeFrame_popped (l : AdditionalLimit) (ok : Bool) : l.Popped (l.closeFrame ok) ok where
  stateGrowth := by
    rw [closeFrame, checkLimit_stateGrowth]
    exact FrameLimitTracker.popped_popFrame _ ok
  dataSize := by
    rw [closeFrame, checkLimit_dataSize]
    exact FrameLimitTracker.popped_popFrame _ ok
  kvUpdate := by
    rw [closeFrame, checkLimit_kvUpdate]
    exact FrameLimitTracker.popped_popFrame _ ok
  computeGas := by
    rw [closeFrame_computeGas]
    exact FrameLimitTracker.popped_popFrame _ ok

theorem beforeFrameReturnResult_popped (l : AdditionalLimit) (last : Bool) (r : FrameResult) :
    l.Popped (l.beforeFrameReturnResult last r).1 r.instructionResult.isOk := by
  have hclose := closeFrame_popped l r.instructionResult.isOk
  rcases beforeFrameReturnResult_cases (l := l) last r with
    ⟨-, hb⟩ | ⟨-, -, hb⟩ | ⟨-, -, hb⟩ | ⟨-, -, hb⟩
  · rw [hb]
    exact hclose
  · rw [hb]
    exact hclose
  · rw [hb]
    exact ⟨hclose.stateGrowth, hclose.dataSize, hclose.kvUpdate, hclose.computeGas⟩
  · rw [hb]
    exact hclose

theorem popFrame_of_aligned {l l' : AdditionalLimit} (ha : l.Aligned 0) {ok : Bool}
    (h : l.Popped l' ok) (ok' : Bool) : l.Popped l' ok' := by
  have hpop {ι : Type} {t t' : FrameLimitTracker ι} (ht : t.height = 0) (hp : t.Popped t' ok) :
      t.Popped t' ok' := by
    have hs : t.frameStack = [] := List.eq_nil_of_length_eq_zero ht
    have heq : t' = t.popFrame ok' := by
      rw [hp.popped]
      simp [FrameLimitTracker.popFrame, hs]
    rw [heq]
    exact FrameLimitTracker.popped_popFrame t ok'
  exact ⟨hpop ha.stateGrowth h.stateGrowth, hpop ha.dataSize h.dataSize,
    hpop ha.kvUpdate h.kvUpdate, hpop ha.computeGas h.computeGas⟩

end Pop

def interceptedOk (env : Env) (s : State) (i : CallInputs) (outcome : KeylessOutcome) : Bool :=
  match dispatchSystemContractInterceptors env s i outcome with
  | .answered _ r => r.instructionResult.isOk
  | _ => false

/-- The step leaves no exceed flagged next to an ok result: not when it records
the gas of a precompile that succeeded, and no system contract answers a call
with success while an exceed is flagged. -/
def noLateFailure (env : Env) (s : State) : Event → Bool
  | .init ev =>
    match s.phase with
    | .init (.call i) =>
      let l := (detected env s (.call i)).limit.openFrame (.call i) ev.targetEmpty
      (match ev.call with
        | .precompile (.ok used _) => l.exceeded || !(l.recordComputeGas used).exceeded
        | _ => true) &&
      !(s.limit.exceeded && interceptedOk env s i ev.keyless)
    | _ => true
  | _ => true

/-- An exceed that is flagged goes with a failed result. -/
def State.Decided (s : State) : Prop :=
  match s.phase with
  | .result p => s.limit.exceeded = true → p.result.instructionResult.isOk = false
  | .last p => s.limit.Aligned 1 → s.limit.exceeded = true →
      p.result.instructionResult.isOk = false
  | _ => True

section Guard

variable {ev : InitEvent} {i : CallInputs}

theorem noLateFailure_precompile {used : ℕ} {output : Bytes} (hp : s.phase = .init (.call i))
    (hg : noLateFailure env s (.init ev) = true) (hc : ev.call = .precompile (.ok used output))
    (hx : ((detected env s (.call i)).limit.openFrame (.call i) ev.targetEmpty).exceeded =
      false) :
    (((detected env s (.call i)).limit.openFrame (.call i) ev.targetEmpty).recordComputeGas
      used).exceeded = false := by
  simp only [noLateFailure, hp, hc, hx, Bool.and_eq_true, Bool.false_or, Bool.not_eq_true'] at hg
  exact hg.1

theorem noLateFailure_intercepted {s₁ : State} {r : FrameResult} (hp : s.phase = .init (.call i))
    (hg : noLateFailure env s (.init ev) = true)
    (hd : dispatchSystemContractInterceptors env s i ev.keyless = .answered s₁ r)
    (hx : s.limit.exceeded = true) : r.instructionResult.isOk = false := by
  simp only [noLateFailure, interceptedOk, hp, hd, hx, Bool.and_eq_true, Bool.true_and,
    Bool.not_eq_true'] at hg
  exact hg.2

end Guard

section Step

theorem decided_answer {p : Pending}
    (h : s.limit.exceeded = true → p.result.instructionResult.isOk = false) :
    (s.answer p).Decided := by
  unfold State.answer State.Decided
  by_cases hf : s.frames.isEmpty = true
  · simp only [hf, if_true]
    exact fun _ => h
  · simp only [hf, Bool.false_eq_true, if_false]
    exact h

theorem frameInit_intercepted {ev : InitEvent} {i : CallInputs}
    (h : frameInit env s (.call i) ev = some s')
    (hn : dispatchSystemContractInterceptors env s i ev.keyless ≠ .no) :
    ∃ s₁ r, dispatchSystemContractInterceptors env s i ev.keyless = .answered s₁ r ∧
      s' = { s₁ with limit := s₁.limit.pushEmptyFrame }.answer ⟨r, s.journal⟩ := by
  have hsame : detectOracle env s i = s := detectOracle_of_ne (dispatch_ne_oracle hn)
  unfold frameInit at h
  simp only [detected, hsame] at h
  cases hd : dispatchSystemContractInterceptors env s i ev.keyless with
  | no => exact absurd hd hn
  | panicked =>
    rw [hd] at h
    cases h
  | answered s₁ r =>
    rw [hd] at h
    exact ⟨s₁, r, rfl, (Option.some.inj h).symm⟩

theorem dispatch_flag {i : CallInputs} {outcome : KeylessOutcome} {s₁ : State} {r : FrameResult}
    (hd : dispatchSystemContractInterceptors env s i outcome = .answered s₁ r)
    (hok : r.instructionResult.isOk = true) (hx : s₁.limit.exceeded = true) :
    s.limit.exceeded = true := by
  rcases dispatch_answered hd with ⟨-, -, hk⟩ | ⟨-, -, ⟨v, rfl⟩, -, -⟩
  · cases hk with
    | outOfGas | halted | insufficient | rejected => cases hok
    | completed output signer nonce ho hg hclear =>
      by_cases h3 : env.spec.isEnabled .rex3 = true
      · exact absurd hx (by simp [hclear h3])
      · simpa [keylessLimit, h3] using hx
  · exact hx

theorem decided_intercepted {ev : InitEvent} {i : CallInputs} (hp : s.phase = .init (.call i))
    (hg : noLateFailure env s (.init ev) = true) (h : frameInit env s (.call i) ev = some s')
    (hn : dispatchSystemContractInterceptors env s i ev.keyless ≠ .no) : s'.Decided := by
  obtain ⟨s₁, r, hd, rfl⟩ := frameInit_intercepted h hn
  apply decided_answer
  intro hx
  by_contra hok
  have hflag := dispatch_flag hd (by simpa using hok) hx
  exact hok (noLateFailure_intercepted hp hg hd hflag)

theorem decided_init {input : FrameInput} {ev : InitEvent} (hp : s.phase = .init input)
    (hg : noLateFailure env s (.init ev) = true) (h : frameInit env s input ev = some s') :
    s'.Decided := by
  cases frameInit_step h with
  | keyless hi hf h2 hk =>
    subst hi
    apply decided_intercepted hp hg h
    rw [dispatchSystemContractInterceptors, if_pos h2]
    exact executeKeylessDeployCall_ne_no
  | control v hi h4 hk hd hgas hr =>
    subst hi
    exact decided_intercepted hp hg h hd
  | refused hd hx => exact decided_answer fun _ => exceedingInstructionResult_isOk _
  | @answered v l r opened journal nonce hd hx hin =>
    apply decided_answer
    intro hex
    by_contra hok
    have hlate : ((l.openFrame input ev.targetEmpty).recordComputeGas
        r.gas.spent).exceeded = false := by
      rcases hin.charged (by simpa using hok) with hzero | ⟨i, output, rfl, hpre⟩
      · rw [hzero, recordComputeGas_zero, openFrame_checkLimit]
        exact hx
      · rw [← hd.limit] at hx ⊢
        exact noLateFailure_precompile hp hg hpre hx
    have hex' : (((l.openFrame input ev.targetEmpty).recordComputeGas
        r.gas.spent).tryRescueGas r.gas).exceeded = true := hex
    rw [exceeded_tryRescueGas, recordComputeGas_checkLimit, hlate] at hex'
    cases hex'
  | entered => trivial

theorem Sound.decided_step {e : Event} (hsound : Sound env s)
    (hg : noLateFailure env s e = true) (hs : MegaEvm.step env s e = some s') : s'.Decided := by
  have hframed := hsound.framed
  cases step_spec hs with
  | @init input ev _ hp hi =>
    simp only [MegaEvm.step, hp] at hs
    exact decided_init hp hg hs
  | stopped | resumed | opened | hand => trivial
  | op hp hf =>
    simp only [State.Decided, interpStep]
    split <;> split at * <;> trivial
  | @returned f rest r r₂ fr journal' hp hf hr hfr hpr =>
    intro hx
    have hx' : ((depositLimit (returnLimit s.limit f.isCreate (storageCharged f.isCreate r))
        r₂ fr).tryRescueGas fr.gas).exceeded = true := hx
    rw [exceeded_tryRescueGas, depositLimit, recordComputeGas_checkLimit, ← depositLimit] at hx'
    by_contra hok
    have hno := depositResult_isOk (by simpa using hok)
    rw [hno.1] at hx'
    cases hx'
  | @insert p hp hn =>
    simp only [State.Framed, hp] at hframed
    cases hf : s.frames with
    | nil =>
      rw [insertResult_nil env p hf]
      rw [hf] at hframed
      intro ha
      exact absurd hframed.1 (not_aligned_zero ha)
    | cons f rest =>
      rw [insertResult_cons env p hf]
      trivial
  | finish => trivial

theorem decided_start {ev : StartEvent} (h : start env ev = some s) : s.Decided := by
  unfold start at h
  split at h
  · cases h
  · simp only [Option.map_eq_some_iff] at h
    obtain ⟨storageGas, -, rfl⟩ := h
    split
    · trivial
    · trivial

theorem Answered.isOk_hand {l : AdditionalLimit} {r : FrameResult} {n : ℕ}
    (h : Answered l r.instructionResult) (ha : l.Aligned (n + 1)) (last : Bool)
    (hd : l.exceeded = true → r.instructionResult.isOk = false) :
    (l.beforeFrameReturnResult last r).2.instructionResult.isOk = r.instructionResult.isOk := by
  by_cases hx : l.exceeded = true
  · rw [hd hx]
    rcases beforeFrameReturnResult_cases (l := l) last r with
      ⟨-, hb⟩ | ⟨-, -, hb⟩ | ⟨-, -, hb⟩ | ⟨-, -, hb⟩
    · rw [hb]
      exact hd hx
    · rw [hb]
      exact hd hx
    · rw [hb]
      rfl
    · rw [hb]
      rfl
  · have hf : l.exceeded = false := by simpa using hx
    have hnot : ¬ l.TxExceeded := fun ht => ht.not_within hf
    have hclose := closeFrame_within (h.restorable hnot) (h.settled hf) ha hf
      r.instructionResult.isOk
    rcases beforeFrameReturnResult_cases (l := l) last r with
      ⟨-, hb⟩ | ⟨-, -, hb⟩ | ⟨-, hc, hb⟩ | ⟨-, hc, hb⟩
    · rw [hb]
    · rw [hb]
    · have hcx := LimitCheck.exceeded_of_frameLocal hc
      rw [← exceeded, hclose] at hcx
      cases hcx
    · exact absurd hclose fun hw => hc.not_within hw

/-- The frame on top is popped with the success of the result that is handed over. -/
theorem Sound.popped {last : Bool} {p : Pending} (hsound : Sound env s) (hd : s.Decided)
    (hp : (s.phase = .result p ∧ last = false) ∨ (s.phase = .last p ∧ last = true)) :
    s.limit.Popped (s.limit.beforeFrameReturnResult last p.result).1
      (s.limit.beforeFrameReturnResult last p.result).2.instructionResult.isOk := by
  have hframed := hsound.framed
  have hpop := beforeFrameReturnResult_popped s.limit last p.result
  rcases hp with ⟨hp, rfl⟩ | ⟨hp, rfl⟩
  · simp only [State.Framed, hp] at hframed
    simp only [State.Decided, hp] at hd
    rw [hframed.2.isOk_hand hframed.1 false hd]
    exact hpop
  · simp only [State.Framed, hp] at hframed
    simp only [State.Decided, hp] at hd
    rcases hframed.2 with ⟨ha, hans⟩ | ⟨ha, -⟩
    · rw [hans.isOk_hand ha true (hd ha)]
      exact hpop
    · exact popFrame_of_aligned ha hpop _

end Step

/-- In a run without a late failure every frame is popped from all four trackers
with the success of the result its parent gets, or the transaction ends with. -/
theorem frames_popped_as_handed {ev : StartEvent} {es : List Event} {s₀ : State} {q : Pending}
    (hstart : start env ev = some s₀)
    (hg : Run.Guarded (step env) (fun s e => noLateFailure env s e = true) s₀ es)
    (hr : Run.run (step env) s₀ es = some s) (hs : step env s .tau = some s')
    (hq : (∃ p, s.phase = .result p ∧ s'.phase = .handed q) ∨
      ∃ p, s.phase = .last p ∧ s'.phase = .done q) :
    s.limit.Popped s'.limit q.result.instructionResult.isOk := by
  have hinv : Sound env s ∧ s.Decided := by
    refine Run.invariant (I := fun s => Sound env s ∧ s.Decided) ?_
      ⟨sound_start hstart, decided_start hstart⟩ hg hr
    intro s e s' hI hok hst
    exact ⟨hI.1.step hst, hI.1.decided_step hok hst⟩
  obtain ⟨hsound, hd⟩ := hinv
  rcases hq with ⟨p, hp, hp'⟩ | ⟨p, hp, hp'⟩
  · simp only [step, hp, Option.some.injEq] at hs
    subst hs
    obtain rfl : Pending.mk (s.limit.beforeFrameReturnResult false p.result).2 p.opened = q :=
      Phase.handed.inj hp'
    exact hsound.popped hd (.inl ⟨hp, rfl⟩)
  · by_cases hn : isFatal p = true
    · simp [step, hp, hn] at hs
    · simp only [step, hp, hn, Bool.false_eq_true, if_false, Option.some.injEq] at hs
      subst hs
      obtain rfl : Pending.mk (finalResult env s p) p.opened = q := Phase.done.inj hp'
      exact hsound.popped hd (.inr ⟨hp, rfl⟩)

section Late

def answeredEvents (outcome : PrecompileOutcome) : List Event :=
  (precompileEvents outcome).dropLast

/-- A precompile that runs out of gas is popped as failed. -/
theorem frames_popped_as_handed_precompile :
    ∃ s s' : State, step lateEnv s .tau = some s' ∧ s.limit.Popped s'.limit false := by
  have hrun : ((execute lateEnv lateStart (answeredEvents .oog)).bind fun s =>
      (step lateEnv s .tau).map fun s' => (s.phase, s'.phase)) =
      some (.result ⟨callResult .precompileOOG [] (.new 502300), []⟩,
        .handed ⟨callResult .precompileOOG [] (.new 502300), []⟩) := by decide
  obtain ⟨s, hs, hstep⟩ := Option.bind_eq_some_iff.1 hrun
  obtain ⟨s', hs', hphase⟩ := Option.map_eq_some_iff.1 hstep
  obtain ⟨hp, hp'⟩ := Prod.ext_iff.1 hphase
  obtain ⟨s₀, hstart, hr⟩ := execution_iff.2 hs
  have hchecks : (start lateEnv lateStart).map
      (fun s => Run.checks (step lateEnv) (noLateFailure lateEnv) s (answeredEvents .oog)) =
      some true := by decide
  rw [hstart, Option.map_some, Option.some.injEq] at hchecks
  exact ⟨s, s', hs',
    frames_popped_as_handed hstart (Run.guarded_of_checks hchecks) hr hs' (.inl ⟨_, hp, hp'⟩)⟩

/-- The frame of a precompile whose gas exceeds the compute gas limit is popped
as successful, then reported as failed: its account updates stay counted. -/
theorem late_exceed_popped_ok :
    ¬ ∀ env ev es s s' q, Execution env ev es s → step env s .tau = some s' →
      ((∃ p, s.phase = .result p ∧ s'.phase = .handed q) ∨
        ∃ p, s.phase = .last p ∧ s'.phase = .done q) →
      s.limit.Popped s'.limit q.result.instructionResult.isOk := by
  intro h
  have hrun : ((execute lateEnv lateStart (answeredEvents pairingOk)).bind fun s =>
      (step lateEnv s .tau).map fun s' => (s.phase, s'.phase,
        decide (s'.limit.dataSize = s.limit.dataSize.popFrame false))) =
      some (.result ⟨callResult .return (abiWord 1) ⟨502300, 457300⟩, []⟩,
        .handed ⟨callResult .outOfGas [] ⟨502300, 457300⟩, []⟩, false) := by decide
  obtain ⟨s, hs, hstep⟩ := Option.bind_eq_some_iff.1 hrun
  obtain ⟨s', hs', hphase⟩ := Option.map_eq_some_iff.1 hstep
  obtain ⟨hp, hrest⟩ := Prod.ext_iff.1 hphase
  obtain ⟨hp', hdata⟩ := Prod.ext_iff.1 hrest
  have hpop := h lateEnv lateStart _ s s' _ (execution_iff.2 hs) hs' (.inl ⟨_, hp, hp'⟩)
  exact of_decide_eq_false hdata hpop.dataSize.popped

end Late

end MegaEvm
