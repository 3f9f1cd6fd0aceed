import MegaEvm.Inspector

/-!
# Scopes of disabled volatile access

What the access-control contract promises is a flag for every open frame: a
frame that disables access sets its own flag, a frame that returns takes its
flag with it, and access is disabled while any flag on the call stack is set.
The tracker keeps one number instead, the depth of the lowest flag that is set.
Along every run of the last spec the two agree while a frame executes; between a
frame's return and its parent's next step the number may still name the frame
that returned.
-/

set_option autoImplicit false

namespace MegaEvm

inductive ScopeAction where
  | enter
  | leave
  | disable
  | enable
  | other
  deriving DecidableEq, Repr

/-- One flag for every open frame, the newest first, and one below them for the
sender of the transaction. A frame re-enables what it disabled itself, unless one
of its ancestors disables access as well. -/
def scopeAct : List Bool → ScopeAction → List Bool
  | flags, .enter => false :: flags
  | flags, .leave => flags.tail
  | flags, .disable => true :: flags.tail
  | flags, .enable => if flags.tail.any id then flags else false :: flags.tail
  | flags, .other => flags

def lowest : List Bool → Option ℕ
  | [] => none
  | f :: fs =>
    match lowest fs with
    | some d => some d
    | none => if f then some fs.length else none

section Lowest

variable {f : Bool} {fs : List Bool} {d : ℕ}

theorem lowest_lt (h : lowest fs = some d) : d < fs.length := by
  induction fs with
  | nil => cases h
  | cons f fs ih =>
    unfold lowest at h
    cases hl : lowest fs with
    | some e =>
      rw [hl] at h
      have he := ih (hl.trans h)
      exact Nat.lt_succ_of_lt he
    | none =>
      rw [hl] at h
      cases f with
      | true =>
        obtain rfl : fs.length = d := Option.some.inj h
        exact Nat.lt_succ_self _
      | false => cases h

theorem lowest_isSome (fs : List Bool) : (lowest fs).isSome = fs.any id := by
  induction fs with
  | nil => rfl
  | cons f fs ih =>
    rw [List.any_cons, ← ih, lowest]
    cases lowest fs with
    | some e => simp
    | none => cases f <;> rfl

theorem lowest_cons_of_some (h : lowest fs = some d) : lowest (f :: fs) = some d := by
  rw [lowest, h]

theorem lowest_cons_true (h : lowest fs = none) : lowest (true :: fs) = some fs.length := by
  rw [lowest, h]
  rfl

@[simp] theorem lowest_cons_false : lowest (false :: fs) = lowest fs := by
  rw [lowest]
  cases lowest fs <;> rfl

theorem any_eq_false_of_lowest (h : lowest fs = none) : fs.any id = false := by
  rw [← lowest_isSome, h]
  rfl

theorem any_of_lowest (h : lowest fs = some d) : fs.any id = true := by
  rw [← lowest_isSome, h]
  rfl

end Lowest

namespace VolatileDataAccessTracker

variable {t : VolatileDataAccessTracker} {f : Bool} {fs : List Bool}

theorem volatileAccessDisabled_lowest (h : t.disableDepth = lowest (f :: fs)) :
    t.volatileAccessDisabled fs.length = (f :: fs).any id := by
  unfold volatileAccessDisabled
  rw [h, ← lowest_isSome]
  cases hl : lowest (f :: fs) with
  | none => rfl
  | some d =>
    have hd : d < fs.length + 1 := lowest_lt hl
    simp only [Option.isSome_some, decide_eq_true_eq, ge_iff_le]
    omega

theorem disableAccess_lowest (h : t.disableDepth = lowest (f :: fs)) :
    (t.disableAccess fs.length).disableDepth = lowest (true :: fs) := by
  unfold disableAccess
  cases hl : lowest fs with
  | some d =>
    have hd : d < fs.length := lowest_lt hl
    rw [lowest_cons_of_some hl] at h ⊢
    simp only [h, ge_iff_le, hd.le, if_true]
  | none =>
    rw [lowest_cons_true hl]
    rw [lowest, hl] at h
    cases f with
    | true =>
      simp only [if_true] at h
      simp only [h, ge_iff_le, le_refl, if_true]
    | false =>
      simp only [Bool.false_eq_true, if_false] at h
      simp only [h]

theorem enableAccess_lowest (h : t.disableDepth = lowest (f :: fs)) :
    (t.enableAccess fs.length).1.disableDepth = lowest (scopeAct (f :: fs) .enable) ∧
      (t.enableAccess fs.length).2 = !fs.any id := by
  unfold enableAccess scopeAct
  cases hl : lowest fs with
  | some d =>
    have hd : d < fs.length := lowest_lt hl
    have hany := any_of_lowest hl
    rw [lowest_cons_of_some hl] at h
    have hnot : ¬ fs.length ≤ d := by omega
    simp only [h, hnot, if_false, List.tail_cons, hany, if_true, Bool.not_true]
    exact ⟨(lowest_cons_of_some hl).symm, trivial⟩
  | none =>
    have hany := any_eq_false_of_lowest hl
    rw [lowest, hl] at h
    simp only [List.tail_cons, hany, Bool.false_eq_true, if_false, lowest_cons_false, hl,
      Bool.not_false]
    cases f with
    | true =>
      simp only [if_true] at h
      simp only [h, le_refl, if_true]
      exact ⟨trivial, trivial⟩
    | false =>
      simp only [Bool.false_eq_true, if_false] at h
      simp only [h]
      exact ⟨trivial, trivial⟩

/-- What a returning frame leaves: the lowest flag, or its own depth if it was
the only one with a flag. -/
def Returning (t : VolatileDataAccessTracker) (flags : List Bool) : Prop :=
  t.disableDepth = lowest flags ∨ lowest flags = none ∧ t.disableDepth = some flags.length

theorem Returning.enableAccessIfReturning (h : t.Returning (f :: fs)) :
    (t.enableAccessIfReturning fs.length).disableDepth = lowest (f :: fs) := by
  unfold VolatileDataAccessTracker.enableAccessIfReturning
  rcases h with h | ⟨hl, h⟩
  · cases hl : lowest (f :: fs) with
    | none =>
      rw [hl] at h
      simp only [h]
    | some d =>
      have hd : d < fs.length + 1 := lowest_lt hl
      have hnot : ¬ fs.length < d := by omega
      rw [hl] at h
      simp only [h, hnot, if_false]
  · have hlt : fs.length < (f :: fs).length := Nat.lt_succ_self _
    rw [hl]
    simp only [h, hlt, if_true]

theorem returning_tail (h : t.disableDepth = lowest (f :: fs)) : t.Returning fs := by
  unfold Returning
  cases hl : lowest fs with
  | some d =>
    rw [lowest_cons_of_some hl] at h
    exact .inl h
  | none =>
    rw [lowest, hl] at h
    cases f with
    | true => exact .inr ⟨rfl, h⟩
    | false => exact .inl h

end VolatileDataAccessTracker

section Calls

def accessCall (env : Env) : FrameInput → Option SystemCall
  | .call i =>
    if env.spec.isEnabled .rex4 && i.targetAddress == ACCESS_CONTROL_ADDRESS &&
        (rejectNonZeroTransfer i).isNone then some i.input
    else none
  | .create _ => none

/-- What a step did to the frames, as seen from outside. -/
def scopeAction (env : Env) (s : State) (e : InspectEvent) (s' : State) : ScopeAction :=
  match s.phase, e with
  | .init _, .supplied _ => .other
  | .init old, .hooked input _ _ =>
    match accessCall env (input.getD old) with
    | some .disableVolatileDataAccess => .disable
    | some .enableVolatileDataAccess => .enable
    | _ => if s.frames.length < s'.frames.length then .enter else .other
  | _, _ => if s'.frames.length < s.frames.length then .leave else .other

def scopedStep (env : Env) (x : State × List Bool) (e : InspectEvent) :
    Option (State × List Bool) :=
  (inspectStep env x.1 e).map fun s' => (s', scopeAct x.2 (scopeAction env x.1 e s'))

variable {env : Env} {s s' : State} {flags : List Bool}

def Phase.executing : Phase → Bool
  | .init _ | .run | .interp | .action _ => true
  | _ => false

def State.InScope (s : State) (flags : List Bool) : Prop :=
  match s.phase with
  | .init _ | .run | .interp | .action _ =>
    flags.length = s.frames.length + 1 ∧ s.volatile.disableDepth = lowest flags
  | .result _ | .handed _ =>
    flags.length = s.frames.length + 1 ∧ s.volatile.Returning flags
  | .last _ | .done _ => True

theorem inScope_answer {p : Pending} (hl : flags.length = s.frames.length + 1)
    (hd : s.volatile.disableDepth = lowest flags) : (s.answer p).InScope flags := by
  unfold State.answer State.InScope
  cases hf : s.frames with
  | nil => trivial
  | cons f rest =>
    rw [hf] at hl
    exact ⟨hl, .inl hd⟩

theorem detected_rex4 (h4 : env.spec.isEnabled .rex4 = true) (input : FrameInput) :
    detected env s input = s := by
  have h3 : env.spec.isEnabled .rex3 = true :=
    MegaSpecId.isEnabled_mono (a := .rex3) (b := .rex4) (by decide) h4
  cases input with
  | create i => rfl
  | call i => simp [detected, detectOracle, h3]

theorem dispatch_accessCall {i : CallInputs} {call : SystemCall} (outcome : KeylessOutcome)
    (ha : accessCall env (.call i) = some call) :
    i.input = call ∧ rejectNonZeroTransfer i = none ∧
      dispatchSystemContractInterceptors env s i outcome = accessControlIntercept s i := by
  simp only [accessCall] at ha
  split at ha
  case isTrue h =>
    simp only [Bool.and_eq_true, beq_iff_eq, Option.isNone_iff_eq_none] at h
    obtain ⟨⟨h4, ht⟩, hn⟩ := h
    have hk : isKeylessCall env s i = false := by
      have hne : (ACCESS_CONTROL_ADDRESS == KEYLESS_DEPLOY_ADDRESS) = false := by decide
      simp [isKeylessCall, ht, hne]
    unfold dispatchSystemContractInterceptors
    rw [if_neg (by simp [hk]), if_pos (by simp [h4, ht])]
    exact ⟨Option.some.inj ha, hn, rfl⟩
  case isFalse => cases ha

theorem dispatch_volatile {i : CallInputs} {outcome : KeylessOutcome} {s₁ : State}
    {r : FrameResult} (h4 : env.spec.isEnabled .rex4 = true)
    (hd : accessCall env (.call i) ≠ some .disableVolatileDataAccess)
    (he : accessCall env (.call i) ≠ some .enableVolatileDataAccess)
    (h : dispatchSystemContractInterceptors env s i outcome = .answered s₁ r) :
    s₁.volatile = s.volatile := by
  unfold dispatchSystemContractInterceptors at h
  split at h
  · cases executeKeylessDeployCall_answered h <;> rfl
  · split at h
    case isTrue ha =>
      simp only [Bool.and_eq_true, beq_iff_eq] at ha
      unfold accessControlIntercept at h
      cases hn : rejectNonZeroTransfer i with
      | some r' =>
        simp only [hn] at h
        split at h <;> cases h <;> rfl
      | none =>
        have hacc : accessCall env (.call i) = some i.input := by simp [accessCall, h4, ha.2, hn]
        rw [hacc] at hd he
        simp only [hn] at h
        split at h
        case h_1 hi => exact absurd (congrArg some hi) hd
        case h_2 hi => exact absurd (congrArg some hi) he
        case h_3 =>
          cases h
          rfl
        case h_4 => cases h
    case isFalse =>
      split at h
      · rw [(limitControlIntercept_answered h).1]
      · cases h

theorem makeCallFrame_volatile {i : CallInputs} {ev : InitEvent}
    (h : makeCallFrame s i ev = some s') : s'.volatile = s.volatile := by
  unfold makeCallFrame at h
  split at h
  · cases h
    rfl
  · simp only at h
    split at h
    · cases h
      rfl
    · obtain ⟨r, -, rfl⟩ := Option.map_eq_some_iff.1 h
      rfl
    · cases h
      rfl
    · cases h
      rfl

theorem makeCreateFrame_volatile {i : CreateInputs} {ev : InitEvent}
    (h : makeCreateFrame env s i ev = some s') : s'.volatile = s.volatile := by
  unfold makeCreateFrame at h
  simp only at h
  split at h
  · cases h
    rfl
  · split at h
    all_goals first
      | (split at h <;> cases h <;> rfl)
      | (cases h; rfl)

theorem frameInit_volatile {input : FrameInput} {ev : InitEvent}
    (h4 : env.spec.isEnabled .rex4 = true)
    (hd : accessCall env input ≠ some .disableVolatileDataAccess)
    (he : accessCall env input ≠ some .enableVolatileDataAccess)
    (h : frameInit env s input ev = some s') : s'.volatile = s.volatile := by
  unfold frameInit at h
  rw [detected_rex4 h4] at h
  cases input with
  | call i =>
    simp only at h
    cases hi : dispatchSystemContractInterceptors env s i ev.keyless with
    | panicked =>
      rw [hi] at h
      cases h
    | answered s₁ r =>
      rw [hi] at h
      have hv := dispatch_volatile h4 hd he hi
      cases h
      exact hv
    | no =>
      rw [hi] at h
      simp only at h
      split at h
      · cases h
        rfl
      · have hv := makeCallFrame_volatile h
        exact hv
  | create i =>
    simp only at h
    split at h
    · cases h
      rfl
    · have hv := makeCreateFrame_volatile h
      exact hv

end Calls

section Step

variable {env : Env} {s s' : State} {flags : List Bool}

theorem InitStep.frames_cases {input : FrameInput} {ev : InitEvent}
    (h : InitStep env s input ev s') :
    (s'.frames = s.frames ∧ ∃ p, s'.phase = (s'.answer p).phase) ∨
      (s'.frames.length = s.frames.length + 1 ∧ s'.phase = .run) := by
  cases h with
  | keyless hi hf h2 hk => cases hk <;> exact .inl ⟨rfl, _, rfl⟩
  | control | refused | answered => exact .inl ⟨rfl, _, rfl⟩
  | entered => exact .inr ⟨rfl, rfl⟩

theorem inScope_answered {p : Pending} (hp : s'.phase = (s'.answer p).phase)
    (hl : flags.length = s'.frames.length + 1) (hd : s'.volatile.disableDepth = lowest flags) :
    s'.InScope flags := by
  have h := inScope_answer (p := p) hl hd
  unfold State.InScope at h ⊢
  rw [← hp] at h
  exact h

theorem inScope_init {input : FrameInput} {ev : InitEvent} {act : ScopeAction}
    (h4 : env.spec.isEnabled .rex4 = true) (hl : flags.length = s.frames.length + 1)
    (hd : s.volatile.disableDepth = lowest flags) (h : frameInit env s input ev = some s')
    (hact : act = match accessCall env input with
      | some .disableVolatileDataAccess => .disable
      | some .enableVolatileDataAccess => .enable
      | _ => if s.frames.length < s'.frames.length then .enter else .other) :
    s'.InScope (scopeAct flags act) := by
  obtain ⟨f, fs, rfl⟩ : ∃ f fs, flags = f :: fs := List.exists_cons_of_length_eq_add_one hl
  have hfs : fs.length = s.depth := by
    simpa [State.depth] using hl
  by_cases hdis : accessCall env input = some .disableVolatileDataAccess
  · rw [hdis] at hact
    subst hact
    cases input with
    | create i => cases hdis
    | call i =>
      obtain ⟨hi, hn, hdisp⟩ := dispatch_accessCall (s := s) ev.keyless hdis
      unfold frameInit at h
      simp only [detected_rex4 h4, hdisp, accessControlIntercept, hi, hn] at h
      cases h
      apply inScope_answer
      · simpa [scopeAct] using hl
      · rw [← hfs]
        exact VolatileDataAccessTracker.disableAccess_lowest hd
  · by_cases hen : accessCall env input = some .enableVolatileDataAccess
    · rw [hen] at hact
      subst hact
      cases input with
      | create i => cases hen
      | call i =>
        obtain ⟨hi, hn, hdisp⟩ := dispatch_accessCall (s := s) ev.keyless hen
        unfold frameInit at h
        simp only [detected_rex4 h4, hdisp, accessControlIntercept, hi, hn] at h
        cases h
        apply inScope_answer
        · show (if fs.any id then f :: fs else false :: fs).length = s.frames.length + 1
          split
          · exact hl
          · exact hl
        · rw [← hfs]
          exact (VolatileDataAccessTracker.enableAccess_lowest hd).1
    · have hv : s'.volatile.disableDepth = lowest (f :: fs) := by
        rw [frameInit_volatile h4 hdis hen h]
        exact hd
      have hact' : act = if s.frames.length < s'.frames.length then .enter else .other := by
        rw [hact]
        split
        case h_1 hc => exact absurd hc hdis
        case h_2 hc => exact absurd hc hen
        case h_3 => rfl
      rcases (frameInit_step h).frames_cases with ⟨hframes, p, hp⟩ | ⟨hframes, hp⟩
      · rw [hact', hframes, if_neg (lt_irrefl _)]
        apply inScope_answered hp
        · rw [hframes]
          exact hl
        · exact hv
      · rw [hact', hframes, if_pos (Nat.lt_succ_self _)]
        unfold State.InScope
        simp only [hp]
        constructor
        · simp only [scopeAct, List.length_cons, hframes]
          simpa using hl
        · rw [scopeAct, lowest_cons_false]
          exact hv

/-- Every other step of the frame loop: a frame that ends takes its flag along,
a frame that gets a result finds the flags of the open frames. -/
theorem inScope_step {e : Event} (h4 : env.spec.isEnabled .rex4 = true) (hs : s.InScope flags)
    (hinit : ∀ input, s.phase ≠ .init input) (h : step env s e = some s') :
    s'.InScope (scopeAct flags
      (if s'.frames.length < s.frames.length then .leave else .other)) := by
  cases step_spec h with
  | init hp => exact absurd hp (hinit _)
  | stopped hp | resumed hp | opened hp =>
    simp only [State.InScope, hp] at hs
    simp only [lt_irrefl, if_false, scopeAct]
    exact hs
  | @op f rest ev hp hf =>
    simp only [State.InScope, hp, hf] at hs
    have hv : (interpStep env s f rest ev).volatile.disableDepth = lowest flags :=
      instruction_disableDepth.trans hs.2
    have hlen : (interpStep env s f rest ev).frames.length = s.frames.length := by
      rw [hf]
      rfl
    rw [hlen, if_neg (lt_irrefl _), scopeAct]
    cases ha : (instruction env ev (s.ctx f)).action with
    | none =>
      simp only [State.InScope, interpStep, ha]
      exact ⟨hs.1, hv⟩
    | some a =>
      simp only [State.InScope, interpStep, ha]
      exact ⟨hs.1, hv⟩
  | @returned f rest r r₂ fr journal' hp hf hr hfr hpr =>
    simp only [State.InScope, hp, hf] at hs
    obtain ⟨g, gs, rfl⟩ : ∃ g gs, flags = g :: gs := List.exists_cons_of_length_eq_add_one hs.1
    simp only [hf, List.length_cons, Nat.lt_succ_self, if_true, scopeAct, List.tail_cons,
      State.InScope]
    constructor
    · simpa using hs.1
    · exact VolatileDataAccessTracker.returning_tail hs.2
  | hand hp =>
    simp only [State.InScope, hp] at hs
    simp only [frameReturnResult, lt_irrefl, if_false, scopeAct]
    exact hs
  | insert hp hn =>
    simp only [State.InScope, hp] at hs
    cases hf : s.frames with
    | nil =>
      rw [insertResult_nil env _ hf]
      trivial
    | cons f rest =>
      rw [insertResult_cons env _ hf]
      obtain ⟨g, gs, rfl⟩ : ∃ g gs, flags = g :: gs := List.exists_cons_of_length_eq_add_one hs.1
      have hgs : gs.length = s.depth := by simpa [State.depth] using hs.1
      simp only [List.length_cons, lt_irrefl, if_false, scopeAct, State.InScope]
      constructor
      · rw [hf] at hs
        exact hs.1
      · rw [volatileAfter, if_pos h4, ← hgs]
        exact hs.2.enableAccessIfReturning
  | finish hp hn => trivial

theorem changeResult_inScope {before : Phase} {result : Option FrameResult}
    (hs : s.InScope flags) (h : s.changeResult before result = some s') :
    s'.InScope flags ∧ s'.frames = s.frames := by
  rcases changeResult_eq h with rfl | ⟨p, r, ⟨hp, rfl⟩ | ⟨hp, rfl⟩⟩
  · exact ⟨hs, rfl⟩
  · simp only [State.InScope, hp] at hs
    exact ⟨hs, rfl⟩
  · exact ⟨trivial, rfl⟩

theorem changeInput_init {input : Option FrameInput} {old : FrameInput} {m : State}
    (hp : s.phase = .init old) (h : s.changeInput input = some m) :
    m = { s with phase := .init (input.getD old) } := by
  unfold State.changeInput at h
  split at h
  · obtain rfl := Option.some.inj h
    rw [Option.getD_none, ← hp]
  · simp only [hp] at h
    split at h
    · exact (Option.some.inj h).symm
    · cases h

theorem changeInput_other {input : Option FrameInput} {m : State}
    (hp : ∀ old, s.phase ≠ .init old) (h : s.changeInput input = some m) : m = s := by
  rcases changeInput_eq h with rfl | ⟨old, new, hi, -⟩
  · rfl
  · exact absurd hi (hp old)

theorem inScope_hooked {input : Option FrameInput} {e : Event} {result : Option FrameResult}
    (h4 : env.spec.isEnabled .rex4 = true) (hs : s.InScope flags)
    (h : inspectStep env s (.hooked input e result) = some s') :
    s'.InScope (scopeAct flags (scopeAction env s (.hooked input e result) s')) := by
  simp only [inspectStep, inspectWith, Option.bind_eq_some_iff] at h
  obtain ⟨m, hm, s₁, hs₁, h⟩ := h
  by_cases hinit : ∃ old, s.phase = .init old
  · obtain ⟨old, hp⟩ := hinit
    obtain rfl := changeInput_init hp hm
    simp only [State.InScope, hp] at hs
    cases e with
    | init ev =>
      have hs₁' : frameInit env { s with phase := .init (input.getD old) } (input.getD old) ev =
          some s₁ := hs₁
      have hscope := inScope_init h4 (s := { s with phase := .init (input.getD old) }) hs.1 hs.2
        hs₁' rfl
      obtain ⟨hres, hframes⟩ := changeResult_inScope hscope h
      have hact : scopeAction env s (.hooked input (.init ev) result) s' =
          match accessCall env (input.getD old) with
          | some .disableVolatileDataAccess => .disable
          | some .enableVolatileDataAccess => .enable
          | _ => if s.frames.length < s₁.frames.length then .enter else .other := by
        simp only [scopeAction, hp, hframes]
      rw [hact]
      exact hres
    | tau => cases hs₁
    | op ev => cases hs₁
  · have hno : ∀ old, s.phase ≠ .init old := fun old hp => hinit ⟨old, hp⟩
    obtain rfl := changeInput_other hno hm
    obtain ⟨hres, hframes⟩ := changeResult_inScope (inScope_step h4 hs hno hs₁) h
    have hact : scopeAction env m (.hooked input e result) s' =
        if s₁.frames.length < m.frames.length then .leave else .other := by
      unfold scopeAction
      split
      case h_1 hp _ => exact absurd hp (hno _)
      case h_2 hp _ => exact absurd hp (hno _)
      case h_3 => rw [hframes]
    rw [hact]
    exact hres

theorem inScope_supplied {r : FrameResult} (hs : s.InScope flags)
    (h : inspectStep env s (.supplied r) = some s') :
    s'.InScope (scopeAct flags (scopeAction env s (.supplied r) s')) := by
  unfold inspectStep inspectWith at h
  simp only at h
  split at h
  · next input hp =>
    split at h
    · simp only [State.InScope, hp] at hs
      obtain rfl := Option.some.inj h
      simp only [scopeAction, hp, scopeAct]
      exact inScope_answer hs.1 hs.2
    · cases h
  · cases h

end Step

section Scope

variable {env : Env} {s s₀ : State} {flags : List Bool}

/-- What the flags say about the frame that executes and about its control calls. -/
structure ScopeMatches (env : Env) (s : State) (flags : List Bool) : Prop where
  frames : s.phase.executing = true → flags.length = s.frames.length + 1
  disabled : s.phase.executing = true →
    s.volatile.volatileAccessDisabled s.depth = flags.any id
  enable : ∀ i ev s', s.phase = .init (.call i) →
    accessCall env (.call i) = some .enableVolatileDataAccess →
    frameInit env s (.call i) ev = some s' →
    s'.phase = (s'.answer ⟨if flags.tail.any id
      then callResult .revert DISABLED_BY_PARENT_REVERT_DATA (.new i.gasLimit)
      else callResult .return [] (.new i.gasLimit), s.journal⟩).phase
  query : ∀ i ev s', s.phase = .init (.call i) →
    accessCall env (.call i) = some .isVolatileDataAccessDisabled →
    frameInit env s (.call i) ev = some s' →
    s'.phase = (s'.answer ⟨callResult .return (abiWord (if flags.any id then 1 else 0))
      (.new i.gasLimit), s.journal⟩).phase

theorem State.InScope.executing (h : s.InScope flags) (hx : s.phase.executing = true) :
    flags.length = s.frames.length + 1 ∧ s.volatile.disableDepth = lowest flags := by
  unfold State.InScope at h
  cases hp : s.phase with
  | init i | run | interp | action a =>
    rw [hp] at h
    exact h
  | result p | handed p | last p | done p =>
    rw [hp] at hx
    cases hx

theorem State.InScope.matches (h : s.InScope flags) (h4 : env.spec.isEnabled .rex4 = true) :
    ScopeMatches env s flags := by
  have hdisabled (hx : s.phase.executing = true) :
      s.volatile.volatileAccessDisabled s.depth = flags.any id := by
    obtain ⟨hl, hd⟩ := h.executing hx
    obtain ⟨f, fs, rfl⟩ : ∃ f fs, flags = f :: fs := List.exists_cons_of_length_eq_add_one hl
    have hfs : fs.length = s.depth := by simpa [State.depth] using hl
    rw [← hfs]
    exact VolatileDataAccessTracker.volatileAccessDisabled_lowest hd
  constructor
  case frames => exact fun hx => (h.executing hx).1
  case disabled => exact hdisabled
  case enable =>
    intro i ev s' hp ha hs
    obtain ⟨hl, hd⟩ := h.executing (by rw [hp]; rfl)
    obtain ⟨f, fs, rfl⟩ : ∃ f fs, flags = f :: fs := List.exists_cons_of_length_eq_add_one hl
    have hfs : fs.length = s.depth := by simpa [State.depth] using hl
    have hen := (VolatileDataAccessTracker.enableAccess_lowest hd).2
    obtain ⟨hi, hn, hdisp⟩ := dispatch_accessCall (s := s) ev.keyless ha
    unfold frameInit at hs
    simp only [detected_rex4 h4, hdisp, accessControlIntercept, hi, hn, ← hfs, hen] at hs
    cases hs
    cases hany : fs.any id <;> simp [State.answer, hany]
  case query =>
    intro i ev s' hp ha hs
    have hq := hdisabled (by rw [hp]; rfl)
    obtain ⟨hi, hn, hdisp⟩ := dispatch_accessCall (s := s) ev.keyless ha
    unfold frameInit at hs
    simp only [detected_rex4 h4, hdisp, accessControlIntercept, hi, hn, hq] at hs
    cases hs
    rfl

theorem inScope_start {ev : StartEvent} (h : start env ev = some s) : s.InScope [false] := by
  unfold start at h
  split at h
  · cases h
  · simp only [Option.map_eq_some_iff] at h
    obtain ⟨storageGas, -, rfl⟩ := h
    have hd : (checkTxBeneficiaryAccess env (.new ev.limits.blockEnvAccessComputeGasLimit
        ev.limits.oracleAccessComputeGasLimit)).disableDepth = none := by
      unfold checkTxBeneficiaryAccess
      simp only
      repeat' split
      all_goals rfl
    split
    · trivial
    · exact ⟨rfl, hd⟩

/-- Along every run of the last spec, access counts as disabled in the frame that
executes exactly when the flag of some open frame is set; enabling is refused
exactly when the flag of a strict ancestor is. A frame that returned has no flag. -/
theorem volatile_access_scoped {ev : StartEvent} {es : List InspectEvent}
    (h4 : env.spec = .rex4) (hstart : start env ev = some s₀)
    (hr : Run.run (scopedStep env) (s₀, [false]) es = some (s, flags)) :
    ScopeMatches env s flags := by
  have hrex4 : env.spec.isEnabled .rex4 = true := (MegaSpecId.isEnabled_rex4 _).2 h4
  have hscope : s.InScope flags := by
    apply Run.invariant' (I := fun x => x.1.InScope x.2) _ (inScope_start hstart) hr
    rintro ⟨s, flags⟩ e x hs hstep
    obtain ⟨s', hs', rfl⟩ := Option.map_eq_some_iff.1 hstep
    cases e with
    | supplied r => exact inScope_supplied hs hs'
    | hooked input e result => exact inScope_hooked hrex4 hs hs'
  exact hscope.matches hrex4

def disableEvents : List InspectEvent :=
  let call : OpEvent :=
    { sampleCall with
      stack := [500000, ACCESS_CONTROL_ADDRESS, 0, 0, 4, 0, 0]
      inner := .newFrame 2600 500000
        (.call ⟨.call, 3, ACCESS_CONTROL_ADDRESS, .transfer 0, .disableVolatileDataAccess, 0⟩) []
      opens := fun _ => rfl
      ends := nofun }
  watched ([.init sampleInit, .tau] ++ samplePushes ++
    [.op call, .tau, .init sampleInit, .tau, .tau])

def disableEnv : Env := sampleEnv .rex4 (.call 3) .other 1000000

/-- Its own flag is the one that is set. -/
theorem volatile_access_scoped_disable :
    ∃ s₀ s, start disableEnv suppliedStart = some s₀ ∧
      Run.run (scopedStep disableEnv) (s₀, [false]) disableEvents = some (s, [true, false]) ∧
      s.phase = .run ∧ s.volatile.volatileAccessDisabled s.depth = true := by
  let env := disableEnv
  have hstart : (start env suppliedStart).isSome = true := by decide
  obtain ⟨s₀, hs₀⟩ := Option.isSome_iff_exists.1 hstart
  have hrun : ((start env suppliedStart).bind fun s₀ =>
      Run.run (scopedStep env) (s₀, [false]) disableEvents).map (fun x => (x.2, x.1.phase)) =
      some ([true, false], .run) := by decide
  rw [hs₀, Option.bind_some, Option.map_eq_some_iff] at hrun
  obtain ⟨⟨s, flags⟩, hr, hx⟩ := hrun
  obtain ⟨hflags, hp⟩ : flags = [true, false] ∧ s.phase = .run := Prod.ext_iff.1 hx
  subst hflags
  have hscope := volatile_access_scoped rfl hs₀ hr
  exact ⟨s₀, s, hs₀, hr, hp, hscope.disabled (by rw [hp]; rfl)⟩

end Scope

end MegaEvm
