import MegaEvm.AccessScope
import MegaEvm.AccountLoads
import MegaEvm.DetentionDelay
import MegaEvm.Nonce

/-!
# When the beneficiary's account goes unnoticed

The tracker is to know of the beneficiary whenever the returned state has its
account. The host's methods and the check of sender and recipient see to that
for the routes they are on. What the frame loop loads itself has been through
one of these before. A load past both leaves the account in the state and the
tracker as it was.
-/

set_option autoImplicit false

namespace MegaEvm

namespace VolatileDataAccessTracker

def hasAccessedBeneficiaryBalance (t : VolatileDataAccessTracker) : Bool :=
  t.accessed.testBit VolatileDataAccessType.beneficiary.asU8

theorem hasAccessed_congr {t t' : VolatileDataAccessTracker} (h : t'.accessed = t.accessed) :
    t'.hasAccessedBeneficiaryBalance = t.hasAccessedBeneficiaryBalance := by
  rw [hasAccessedBeneficiaryBalance, hasAccessedBeneficiaryBalance, h]

theorem hasAccessed_insert (t : VolatileDataAccessTracker) (ty : VolatileDataAccessType) :
    (t.insert ty).hasAccessedBeneficiaryBalance =
      (t.hasAccessedBeneficiaryBalance || ty == .beneficiary) := by
  simp only [hasAccessedBeneficiaryBalance, insert, VolatileDataAccessType.bit, Nat.testBit_or,
    Nat.testBit_two_pow]
  cases ty <;> rfl

theorem hasAccessed_markOption (t : VolatileDataAccessTracker) {a : Option VolatileAccess}
    (ha : a ≠ some (.blockEnv .beneficiary)) :
    (t.markOption a).hasAccessedBeneficiaryBalance = true ↔
      t.hasAccessedBeneficiaryBalance = true ∨ a = some .beneficiary := by
  cases a with
  | none => simp [markOption]
  | some a =>
    cases a with
    | blockEnv ty =>
      have hty : ty ≠ .beneficiary := fun h => ha (by rw [h])
      have hinsert := hasAccessed_insert t ty
      simp only [beq_eq_false_iff_ne.2 hty, Bool.or_false] at hinsert
      show (t.insert ty).hasAccessedBeneficiaryBalance = true ↔ _
      simp [hinsert]
    | beneficiary =>
      have hinsert := hasAccessed_insert t .beneficiary
      show (t.insert .beneficiary).hasAccessedBeneficiaryBalance = true ↔ _
      simp [hinsert]
    | oracle =>
      have hinsert := hasAccessed_insert t .oracle
      show (t.insert .oracle).hasAccessedBeneficiaryBalance = true ↔ _
      simp only [hinsert, Bool.or_eq_true, beq_iff_eq, reduceCtorEq, or_false,
        Option.some.injEq]

end VolatileDataAccessTracker

open VolatileDataAccessTracker

variable {env : Env} {d : Delegations} {s s' : State} {w w' : Loading} {a : Address} {r : Route}

section Routes

variable {ev : OpEvent} {c : Ctx}

theorem mem_unchecked {accounts : List Address} :
    (a, r) ∈ unchecked accounts ↔ a ∈ accounts ∧ r = .journal := by
  simp only [unchecked, List.mem_map, Prod.mk.injEq]
  constructor
  · rintro ⟨b, hb, rfl, rfl⟩
    exact ⟨hb, rfl⟩
  · rintro ⟨ha, rfl⟩
    exact ⟨a, ha, rfl, rfl⟩

theorem route_inspectedBehind {b : Address} (h : (a, r) ∈ inspectedBehind env d b) :
    r = .journal := by
  unfold inspectedBehind at h
  split at h
  · cases h
  · split at h
    · exact (mem_unchecked.1 h).2
    · exact (mem_unchecked.1 h).2

theorem route_loadedBehind {b : Address} (h : (a, r) ∈ loadedBehind d b) : r = .journal :=
  (mem_unchecked.1 h).2

theorem accessOf_eq : accessOf env ev c =
    if reachesHost env ev c then hostAccess env ev c.target else none := rfl

theorem route_wrapperLoads (h : (a, r) ∈ wrapperLoads env d ev c) : r = .journal ∨
    (r = .frame ∧ a = c.target) ∨
      (r = .host ∧ reachesHost env ev c = true ∧ (a, .host) ∈ hostLoads env d ev c) := by
  unfold wrapperLoads at h
  cases hop : ev.opcode with
  | call | callCode | delegateCall | staticCall =>
    cases hi : ev.inspect 1 with
    | none => simp [hop, hi] at h
    | some word =>
      simp only [hop, hi] at h
      split at h
      case isFalse => cases h
      rcases List.mem_cons.1 h with h | h
      · cases hr : reachesHost env ev c with
        | true =>
          have hsame : a = intoAddress word ∧ r = .host := by simpa [hr] using h
          exact .inr (.inr ⟨hsame.2, rfl, by simp [hostLoads, hop, hi, hsame.1]⟩)
        | false =>
          have hsame : a = intoAddress word ∧ r = .journal := by simpa [hr] using h
          exact .inl hsame.2
      · exact .inl (route_inspectedBehind h)
  | create | create2 =>
    simp only [hop] at h
    rcases List.mem_cons.1 h with h | h
    · cases h
      exact .inr (.inl ⟨rfl, rfl⟩)
    · exact .inl (route_inspectedBehind h)
  | sstore =>
    cases hi : ev.inspect 0 with
    | none => simp [hop, hi] at h
    | some word =>
      simp only [hop, hi] at h
      rcases List.mem_cons.1 h with h | h
      · cases h
        exact .inr (.inl ⟨rfl, rfl⟩)
      · split at h
        case isTrue => cases h
        case isFalse => exact .inl (route_inspectedBehind h)
  | _ => simp [hop] at h

theorem route_hostLoads (h : (a, r) ∈ hostLoads env d ev c) : r ≠ .frame := by
  rintro rfl
  unfold hostLoads at h
  cases hop : ev.opcode with
  | account => cases hi : ev.inspect 0 <;> simp [hop, hi] at h
  | call | callCode | delegateCall | staticCall =>
    cases hi : ev.inspect 1 with
    | none => simp [hop, hi] at h
    | some word =>
      simp only [hop, hi] at h
      rcases List.mem_cons.1 h with h | h
      · cases h
      · cases route_loadedBehind h
  | selfdestruct =>
    cases hi : ev.inspect 0 with
    | none => simp [hop, hi] at h
    | some word => cases h4 : env.spec.isEnabled .rex4 <;> simp [hop, hi, h4] at h
  | _ => simp [hop] at h

theorem isBeneficiary_some (word : ℕ) :
    VolatileDataExt.isBeneficiary env (some word) = true ↔ env.beneficiary = intoAddress word := by
  simp only [VolatileDataExt.isBeneficiary, beq_iff_eq]
  exact eq_comm

theorem host_hostLoads : (env.beneficiary, .host) ∈ hostLoads env d ev c ↔
    hostAccess env ev c.target = some .beneficiary := by
  unfold hostLoads hostAccess
  cases hop : ev.opcode with
  | account =>
    cases hi : ev.inspect 0 with
    | none => simp [VolatileDataExt.isBeneficiary]
    | some word => simp [isBeneficiary_some]
  | selfbalance =>
    simp [isBeneficiary_some]
  | call | callCode | delegateCall | staticCall =>
    cases hi : ev.inspect 1 with
    | none => simp [VolatileDataExt.isBeneficiary]
    | some word =>
      have hbehind : (env.beneficiary, Route.host) ∉ loadedBehind d (intoAddress word) := by
        intro h
        cases route_loadedBehind h
      simp [isBeneficiary_some, hbehind]
  | selfdestruct =>
    cases hi : ev.inspect 0 with
    | none => simp [VolatileDataExt.isBeneficiary]
    | some word =>
      cases env.spec.isEnabled .rex4 with
      | true => simp [isBeneficiary_some]
      | false => simp
  | blockEnv ty => cases ty <;> simp
  | sload =>
    simp only [List.not_mem_nil, false_iff]
    split
    all_goals
      intro h
      cases h
  | _ => simp

theorem host_opLoads : (env.beneficiary, .host) ∈ opLoads env d ev c ↔
    accessOf env ev c = some .beneficiary := by
  rw [opLoads, List.mem_append, accessOf_eq]
  constructor
  · rintro (h | h)
    · rcases route_wrapperLoads h with hr | ⟨hr, -⟩ | ⟨-, hr, h⟩
      · cases hr
      · cases hr
      · rw [if_pos hr]
        exact host_hostLoads.1 h
    · split at h
      case isTrue hr =>
        rw [if_pos hr]
        exact host_hostLoads.1 h
      case isFalse => cases h
  · intro h
    split at h
    case isTrue hr =>
      right
      rw [if_pos hr]
      exact host_hostLoads.2 h
    case isFalse => cases h

theorem frame_opLoads (h : (a, .frame) ∈ opLoads env d ev c) : a = c.target := by
  rw [opLoads, List.mem_append] at h
  rcases h with h | h
  · rcases route_wrapperLoads h with hr | ⟨-, ha⟩ | ⟨hr, -⟩
    · cases hr
    · exact ha
    · cases hr
  · split at h
    case isTrue => exact absurd rfl (route_hostLoads h)
    case isFalse => cases h

end Routes

section Initialised

variable {input : FrameInput} {ev : InitEvent} {x : FrameLoads}

theorem detected_frames (env : Env) (s : State) (input : FrameInput) :
    (detected env s input).frames = s.frames := by
  cases input with
  | call i =>
    obtain ⟨v, l, heq, -⟩ := detectOracle_cases env s i
    rw [detected, heq]
  | create i => rfl

theorem detected_accessed (env : Env) (s : State) (input : FrameInput) :
    (detected env s input).volatile.hasAccessedBeneficiaryBalance =
      s.volatile.hasAccessedBeneficiaryBalance := by
  cases input with
  | create i => rfl
  | call i =>
    have horacle : (s.volatile.checkAndMarkOracleAccess
        i.targetAddress).hasAccessedBeneficiaryBalance =
          s.volatile.hasAccessedBeneficiaryBalance := by
      unfold checkAndMarkOracleAccess
      split
      · exact (hasAccessed_insert s.volatile .oracle).trans (Bool.or_false _)
      · rfl
    show (detectOracle env s i).volatile.hasAccessedBeneficiaryBalance = _
    rw [detectOracle_eq]
    split
    · exact horacle
    · rfl

theorem disableAccess_accessed (t : VolatileDataAccessTracker) (depth : ℕ) :
    (t.disableAccess depth).accessed = t.accessed := by
  unfold disableAccess
  split
  · split <;> rfl
  · rfl

theorem enableAccess_accessed (t : VolatileDataAccessTracker) (depth : ℕ) :
    (t.enableAccess depth).1.accessed = t.accessed := by
  unfold enableAccess
  split
  · rfl
  · split <;> rfl

theorem dispatch_accessed {i : CallInputs} {outcome : KeylessOutcome} {s₁ : State}
    {fr : FrameResult} (h : dispatchSystemContractInterceptors env s i outcome = .answered s₁ fr) :
    s₁.volatile.accessed = s.volatile.accessed := by
  unfold dispatchSystemContractInterceptors at h
  split at h
  · cases executeKeylessDeployCall_answered h <;> rfl
  · split at h
    · unfold accessControlIntercept at h
      cases hn : rejectNonZeroTransfer i with
      | some r' =>
        simp only [hn] at h
        split at h <;> cases h <;> rfl
      | none =>
        simp only [hn] at h
        split at h
        case h_1 =>
          cases h
          exact disableAccess_accessed _ _
        case h_2 =>
          cases h
          exact enableAccess_accessed _ _
        case h_3 =>
          cases h
          rfl
        case h_4 => cases h
    · split at h
      · rw [(limitControlIntercept_answered h).1]
      · cases h

theorem frameInit_eq (env : Env) (s : State) (input : FrameInput) (ev : InitEvent) :
    frameInit env s input ev =
      match interceptedBy env (detected env s input) input ev with
      | .panicked => none
      | .answered s' fr =>
        some ({ s' with limit := s'.limit.pushEmptyFrame }.answer
          ⟨fr, (detected env s input).journal⟩)
      | .no =>
        match (detected env s input).limit.beforeFrameInit input ev.targetEmpty with
        | (limit, some fr) =>
          some ({ detected env s input with limit := limit }.answer
            ⟨fr, (detected env s input).journal⟩)
        | (limit, none) =>
          match input with
          | .call i => makeCallFrame { detected env s input with limit := limit } i ev
          | .create i => makeCreateFrame env { detected env s input with limit := limit } i ev := by
  cases input <;> rfl

theorem frameInit_accessed (h : frameInit env s input ev = some s') :
    s'.volatile.hasAccessedBeneficiaryBalance = s.volatile.hasAccessedBeneficiaryBalance := by
  rw [← detected_accessed env s input]
  rw [frameInit_eq] at h
  cases hi : interceptedBy env (detected env s input) input ev with
  | panicked =>
    rw [hi] at h
    cases h
  | answered s₁ fr =>
    rw [hi] at h
    cases input with
    | create i => cases hi
    | call i =>
      have hacc := dispatch_accessed hi
      cases h
      exact hasAccessed_congr hacc
  | no =>
    simp only [hi] at h
    split at h
    · cases h
      rfl
    · cases input with
      | call i =>
        have hv := makeCallFrame_volatile h
        exact hasAccessed_congr (congrArg VolatileDataAccessTracker.accessed hv)
      | create i =>
        have hv := makeCreateFrame_volatile h
        exact hasAccessed_congr (congrArg VolatileDataAccessTracker.accessed hv)

theorem route_growthLoads {asked : CallAddresses} (h : (a, r) ∈ growthLoads env d asked input) :
    r = .journal ∨ (r = .frame ∧ a = asked.target) := by
  cases input with
  | create i => cases h
  | call i =>
    unfold growthLoads at h
    simp only at h
    split at h
    case isFalse => cases h
    case isTrue =>
      rcases List.mem_cons.1 h with h | h
      · cases h
        exact .inr ⟨rfl, rfl⟩
      · exact .inl (route_inspectedBehind h)

theorem mem_transferLoads {i : CallInputs} (h : (a, r) ∈ transferLoads i) : r = .frame ∧
    (a = i.targetAddress ∨ i.value.transferValue.isSome = true ∧ a = i.caller) := by
  unfold transferLoads at h
  cases hv : i.value.transferValue with
  | none =>
    rw [hv] at h
    cases h
  | some v =>
    simp only [hv] at h
    split at h
    · cases List.mem_singleton.1 h
      exact ⟨rfl, .inl rfl⟩
    · rcases List.mem_cons.1 h with h | h
      · cases h
        exact ⟨rfl, .inr ⟨rfl, rfl⟩⟩
      · cases List.mem_singleton.1 h
        exact ⟨rfl, .inl rfl⟩

def FrameKnown (env : Env) (w : Loading) (input : FrameInput) (a : Address) : Prop :=
  a = w.asked.target ∨ a = w.asked.bytecode ∨ a = w.state.asker env ∨
    ∃ i, input = .call i ∧
      (a = i.targetAddress ∨ i.value.transferValue.isSome = true ∧ a = i.caller)

theorem route_makeFrameLoads (h : (a, r) ∈ makeFrameLoads env d w ev x input) :
    r = .journal ∨ (r = .frame ∧ FrameKnown env w input a) := by
  cases input with
  | call i =>
    rcases List.mem_cons.1 h with h | h
    · cases h
      exact .inr ⟨rfl, .inr (.inl rfl)⟩
    rcases List.mem_append.1 h with h | h
    · exact .inl (route_loadedBehind h)
    · obtain ⟨hr, ha⟩ := mem_transferLoads h
      exact .inr ⟨hr, .inr (.inr (.inr ⟨i, rfl, ha⟩))⟩
  | create i =>
    rcases List.mem_cons.1 h with h | h
    · cases h
      exact .inr ⟨rfl, .inr (.inr (.inl rfl))⟩
    · left
      cases hc : ev.create with
      | outOfFunds | nonceOverflow =>
        rw [hc] at h
        cases h
      | checkpointFailed | enter =>
        rw [hc] at h
        cases List.mem_singleton.1 h
        rfl

theorem route_frameInitLoads (h : (a, r) ∈ frameInitLoads env d w input ev x) :
    r = .journal ∨ (r = .frame ∧ FrameKnown env w input a) := by
  unfold frameInitLoads at h
  simp only at h
  split at h
  · cases h
  · split at h
    · cases h
    · exact .inl (mem_unchecked.1 h).2
  · rcases List.mem_append.1 h with h | h
    · rcases route_growthLoads h with hr | ⟨hr, ha⟩
      · exact .inl hr
      · exact .inr ⟨hr, .inl ha⟩
    · split at h
      · exact route_makeFrameLoads h
      · cases h

theorem makeCallFrame_targets {i : CallInputs} (h : makeCallFrame s i ev = some s') {f : Frame}
    (hf : f ∈ s'.frames) : f ∈ s.frames ∨ f.target = i.targetAddress := by
  unfold makeCallFrame at h
  split at h
  · cases h
    exact .inl hf
  · simp only at h
    split at h
    · cases h
      exact .inl hf
    · obtain ⟨fr, -, rfl⟩ := Option.map_eq_some_iff.1 h
      exact .inl hf
    · cases h
      exact .inl hf
    · cases h
      rcases List.mem_cons.1 hf with rfl | hf
      · exact .inr rfl
      · exact .inl hf

theorem makeCreateFrame_targets {i : CreateInputs} (h : makeCreateFrame env s i ev = some s')
    {f : Frame} (hf : f ∈ s'.frames) :
    f ∈ s.frames ∨ (s.depth ≤ constants.CALL_STACK_LIMIT ∧ ev.create = .enter f.target) := by
  unfold makeCreateFrame at h
  simp only at h
  split at h
  · cases h
    exact .inl hf
  · next hdepth =>
    cases hc : ev.create with
    | outOfFunds | nonceOverflow =>
      simp only [hc] at h
      split at h
      · cases h
      · cases h
        exact .inl hf
    | checkpointFailed err =>
      simp only [hc] at h
      cases h
      exact .inl hf
    | enter created =>
      simp only [hc] at h
      cases h
      rcases List.mem_cons.1 hf with rfl | hf
      · exact .inr ⟨by simpa using hdepth, rfl⟩
      · exact .inl hf

theorem frameInit_targets (h : frameInit env w.state input ev = some s') {f : Frame}
    (hf : f ∈ s'.frames) : f ∈ w.state.frames ∨ (∃ i, input = .call i ∧
      f.target = i.targetAddress) ∨ (f.target, .journal) ∈ frameInitLoads env d w input ev x := by
  have hframes := detected_frames env w.state input
  have hinit := (frameInit_step h).frames_cases
  rw [frameInit_eq] at h
  cases hi : interceptedBy env (detected env w.state input) input ev with
  | panicked =>
    rw [hi] at h
    cases h
  | answered s₁ fr =>
    rw [hi] at h
    cases h
    rcases hinit with ⟨heq, -⟩ | ⟨-, hrun⟩
    · rw [heq] at hf
      exact .inl hf
    · rcases answer_phase (s := { s₁ with limit := s₁.limit.pushEmptyFrame })
        ⟨fr, (detected env w.state input).journal⟩ with hp | hp
      · rw [hp] at hrun
        cases hrun
      · rw [hp] at hrun
        cases hrun
  | no =>
    simp only [hi] at h
    cases hb : (detected env w.state input).limit.beforeFrameInit input ev.targetEmpty with
    | mk limit refused =>
      rw [hb] at h
      cases refused with
      | some fr =>
        cases h
        exact .inl (hframes ▸ hf)
      | none =>
        cases input with
        | call i =>
          rcases makeCallFrame_targets h hf with hold | htarget
          · exact .inl (hframes ▸ hold)
          · exact .inr (.inl ⟨i, rfl, htarget⟩)
        | create i =>
          rcases makeCreateFrame_targets h hf with hold | ⟨hdepth, hc⟩
          · exact .inl (hframes ▸ hold)
          · right; right
            have hmakes : makesFrame (detected env w.state (.create i)) (.create i) ev = true := by
              simp only [makesFrame, hb, Option.isNone_none, Bool.true_and, decide_eq_true_eq]
              exact hdepth
            simp [frameInitLoads, hi, growthLoads, hmakes, makeFrameLoads, hc]

end Initialised

section Step

variable (env : Env) (d : Delegations)

/-- A method of the host that looks for the beneficiary loads its account. -/
def Checked (w : Loading) (x : LoadEvent) : Prop :=
  (env.beneficiary, .host) ∈ stepLoads env d w x

/-- The beneficiary's account is loaded past the host. -/
def Unchecked (w : Loading) (x : LoadEvent) : Prop :=
  (env.beneficiary, .journal) ∈ stepLoads env d w x

/-- The transaction itself names the beneficiary. -/
def NamesBeneficiary : Prop :=
  env.tx.caller = env.beneficiary ∨ env.tx.kind = .call env.beneficiary

/-- The beneficiary's account is neither in the journal nor where the frame loop
would take it from. -/
structure Absent (w : Loading) : Prop where
  accounts : env.beneficiary ∉ w.accounts
  caller : env.tx.caller ≠ env.beneficiary
  frames : ∀ f ∈ w.state.frames, f.target ≠ env.beneficiary
  target : w.asked.target ≠ env.beneficiary
  bytecode : w.asked.bytecode ≠ env.beneficiary

end Step

section Kept

variable {x : LoadEvent} {e : Event} {fl : FrameLoads}

theorem Loading.step_some (h : w.step env d x = some w') : w.admits env x = true ∧
    ∃ s', MegaEvm.step env w.state x.event = some s' ∧
      w' = ⟨s', (stepLoads env d w x).map Prod.fst ++ w.accounts, askedAfter env w x⟩ := by
  unfold Loading.step at h
  split at h
  case isFalse => cases h
  case isTrue ha =>
    obtain ⟨s', hs, heq⟩ := Option.map_eq_some_iff.1 h
    exact ⟨ha, s', hs, heq.symm⟩

theorem insertResult_accessed (env : Env) (s : State) (p : Pending) :
    (insertResult env s p).volatile.accessed = s.volatile.accessed := by
  have hafter : (volatileAfter env s).accessed = s.volatile.accessed := by
    unfold volatileAfter enableAccessIfReturning
    split
    · split
      · split <;> rfl
      · rfl
    · rfl
  cases hf : s.frames with
  | nil =>
    rw [insertResult_nil env p hf]
    exact hafter
  | cons f rest =>
    rw [insertResult_cons env p hf]
    exact hafter

theorem opcode_of_hostAccess {ev : OpEvent} {target : Address}
    (h : hostAccess env ev target = some (.blockEnv .beneficiary)) :
    ev.opcode = .blockEnv .beneficiary := by
  unfold hostAccess at h
  cases hop : ev.opcode with
  | blockEnv ty => cases ty <;> simp_all
  | account | selfbalance | call | callCode | delegateCall | staticCall | selfdestruct | sload =>
    simp only [hop] at h
    split at h
    · cases h
    · cases h
  | _ =>
    rw [hop] at h
    cases h

/-- The tracker learns of the beneficiary from the checked loads, and only from them. -/
theorem marked_step (ha : w.admits env ⟨e, fl⟩ = true)
    (hs : MegaEvm.step env w.state e = some s') :
    s'.volatile.hasAccessedBeneficiaryBalance = true ↔
      w.state.volatile.hasAccessedBeneficiaryBalance = true ∨ Checked env d w ⟨e, fl⟩ := by
  have hquiet (hloads : stepLoads env d w ⟨e, fl⟩ = [])
      (hv : s'.volatile.accessed = w.state.volatile.accessed) :
      s'.volatile.hasAccessedBeneficiaryBalance = true ↔
        w.state.volatile.hasAccessedBeneficiaryBalance = true ∨ Checked env d w ⟨e, fl⟩ := by
    rw [Checked, hloads, hasAccessed_congr hv]
    simp
  cases step_spec hs with
  | @init input ev s' hp h =>
    have hinit : frameInit env w.state input ev = some s' := by
      simpa only [MegaEvm.step, hp] using hs
    have hnot : ¬ Checked env d w ⟨.init ev, fl⟩ := by
      intro hc
      have hmem : (env.beneficiary, Route.host) ∈ frameInitLoads env d w input ev fl := by
        simpa only [Checked, stepLoads, hp] using hc
      rcases route_frameInitLoads hmem with hr | ⟨hr, -⟩
      · cases hr
      · cases hr
    rw [frameInit_accessed hinit]
    simp [hnot]
  | @op f rest ev hp hf =>
    have hop : ev.opcode ≠ .blockEnv .beneficiary := by
      simpa only [Loading.admits, hp, bne_iff_ne] using ha
    have hplain : accessOf env ev (w.state.ctx f) ≠ some (.blockEnv .beneficiary) := fun h =>
      hop (opcode_of_hostAccess (passes_of_accessOf h).2.2)
    have hv : (interpStep env w.state f rest ev).volatile =
        w.state.volatile.markOption (accessOf env ev (w.state.ctx f)) := instruction_volatile
    rw [hv, hasAccessed_markOption _ hplain, ← host_opLoads (d := d)]
    simp only [Checked, stepLoads, hp, hf]
  | stopped hp | resumed hp | opened hp | returned hp | hand hp | finish hp =>
    apply hquiet
    · simp only [stepLoads, hp]
    · rfl
  | insert hp =>
    apply hquiet
    · simp only [stepLoads, hp]
    · exact insertResult_accessed env w.state _

theorem marked_start {ev : StartEvent} (h : start env ev = some s) :
    s.volatile.hasAccessedBeneficiaryBalance = true ↔ NamesBeneficiary env := by
  have hv : s.volatile = checkTxBeneficiaryAccess env
      (.new ev.limits.blockEnvAccessComputeGasLimit ev.limits.oracleAccessComputeGasLimit) := by
    unfold start at h
    split at h
    · cases h
    · obtain ⟨storageGas, -, rfl⟩ := Option.map_eq_some_iff.1 h
      simp only
      split <;> rfl
  have hmark (t : VolatileDataAccessTracker) :
      t.markBeneficiaryBalanceAccessed.hasAccessedBeneficiaryBalance = true := by
    have hinsert := hasAccessed_insert t .beneficiary
    rw [beq_self_eq_true, Bool.or_true] at hinsert
    exact hinsert
  have hnew (b o : ℕ) : (new b o).hasAccessedBeneficiaryBalance = false := by
    simp [hasAccessedBeneficiaryBalance, new]
  rw [hv]
  unfold checkTxBeneficiaryAccess NamesBeneficiary
  cases hk : env.tx.kind with
  | create =>
    by_cases hc : env.tx.caller = env.beneficiary
    · simp [hc, hmark]
    · simp [hc, hnew]
  | call recipient =>
    by_cases hr : recipient = env.beneficiary
    · simp [hr, hmark]
    · by_cases hc : env.tx.caller = env.beneficiary
      · simp [hc, hmark, hr]
      · simp [hc, hr, hnew]

theorem step_targets (ha : w.admits env ⟨e, fl⟩ = true)
    (hs : MegaEvm.step env w.state e = some s') {f : Frame} (hf : f ∈ s'.frames) :
    (∃ g ∈ w.state.frames, g.target = f.target) ∨ f.target = w.asked.target ∨
      (f.target, .journal) ∈ stepLoads env d w ⟨e, fl⟩ := by
  cases step_spec hs with
  | @init input ev s' hp h =>
    have hinit : frameInit env w.state input ev = some s' := by
      simpa only [MegaEvm.step, hp] using hs
    rcases frameInit_targets (d := d) (x := fl) hinit hf with hold | ⟨i, rfl, hi⟩ | hnew
    · exact .inl ⟨f, hold, rfl⟩
    · right; left
      simp only [Loading.admits, hp, Bool.and_eq_true, beq_iff_eq] at ha
      exact hi.trans ha.1
    · right; right
      simpa only [stepLoads, hp] using hnew
  | @op g rest ev hp hg =>
    left
    rcases List.mem_cons.1 hf with rfl | hf
    · exact ⟨g, by simp [hg], rfl⟩
    · exact ⟨f, by simp [hg, hf], rfl⟩
  | @returned g rest r r₂ fr journal' hp hg =>
    exact .inl ⟨f, by simp [hg, show f ∈ rest from hf], rfl⟩
  | @insert p hp =>
    left
    cases hg : w.state.frames with
    | nil =>
      rw [insertResult_nil env p hg] at hf
      exact ⟨f, hg ▸ hf, rfl⟩
    | cons g rest =>
      rw [insertResult_cons env p hg] at hf
      rcases List.mem_cons.1 hf with rfl | hf
      · refine ⟨g, by simp, ?_⟩
        unfold creditGas
        split <;> rfl
      · exact ⟨f, by simp [hf], rfl⟩
  | stopped | resumed | opened | hand | finish => exact .inl ⟨f, hf, rfl⟩

theorem Absent.asker (h : Absent env w) : w.state.asker env ≠ env.beneficiary := by
  unfold State.asker
  cases hf : w.state.frames with
  | nil => exact h.caller
  | cons f rest => exact h.frames f (by simp [hf])

theorem Absent.loads (h : Absent env w) (ha : w.admits env x = true)
    (hc : ¬ Checked env d w x) (hu : ¬ Unchecked env d w x) :
    (env.beneficiary, r) ∉ stepLoads env d w x := by
  intro hmem
  cases r with
  | host => exact hc hmem
  | journal => exact hu hmem
  | frame =>
    unfold stepLoads at hmem
    split at hmem
    · next input ev hp he =>
      rcases route_frameInitLoads hmem with hr | ⟨-, ht | hb | hk | ⟨i, rfl, hi⟩⟩
      · cases hr
      · exact h.target ht.symm
      · exact h.bytecode hb.symm
      · exact h.asker hk.symm
      · simp only [Loading.admits, hp, Bool.and_eq_true, beq_iff_eq, Bool.or_eq_true,
          Option.isNone_iff_eq_none] at ha
        rcases hi with hi | ⟨hv, hi⟩
        · exact h.target (ha.1.symm.trans hi.symm)
        · rcases ha.2 with hnone | hcaller
          · rw [hnone] at hv
            cases hv
          · exact h.asker (hcaller.symm.trans hi.symm)
    · next ev f rest hp he hf =>
      have htarget := frame_opLoads hmem
      exact h.frames f (by simp [hf]) htarget.symm
    · cases hmem

theorem Absent.askedAfter (h : Absent env w) (hc : ¬ Checked env d w x) :
    (MegaEvm.askedAfter env w x).target ≠ env.beneficiary ∧
      (MegaEvm.askedAfter env w x).bytecode ≠ env.beneficiary := by
  unfold MegaEvm.askedAfter
  split
  case h_2 => exact ⟨h.target, h.bytecode⟩
  case h_1 ev f rest hp he hf =>
    have hself : f.target ≠ env.beneficiary := h.frames f (by simp [hf])
    have hloads : (env.beneficiary, Route.host) ∉ opLoads env d ev (w.state.ctx f) := by
      simpa only [Checked, stepLoads, hp, he, hf] using hc
    unfold askedBy
    cases hi : ev.inspect 1 with
    | none => exact ⟨h.target, h.bytecode⟩
    | some word =>
      simp only
      split
      case isFalse => exact ⟨h.target, h.bytecode⟩
      case isTrue hr =>
        have hcallee (hop : (intoAddress word, Route.host) ∈
            hostLoads env d ev (w.state.ctx f)) : intoAddress word ≠ env.beneficiary := by
          intro hb
          apply hloads
          rw [opLoads, if_pos hr, List.mem_append, ← hb]
          exact .inr hop
        cases hop : ev.opcode with
        | call | staticCall =>
          have hword := hcallee (by simp [hostLoads, hop, hi])
          exact ⟨hword, hword⟩
        | callCode | delegateCall =>
          have hword := hcallee (by simp [hostLoads, hop, hi])
          exact ⟨hself, hword⟩
        | _ => exact ⟨h.target, h.bytecode⟩

theorem Absent.step (h : Absent env w) (hc : ¬ Checked env d w x) (hu : ¬ Unchecked env d w x)
    (hs : w.step env d x = some w') : Absent env w' := by
  obtain ⟨ha, s', hstep, rfl⟩ := Loading.step_some hs
  have hasked := h.askedAfter hc
  constructor
  case accounts =>
    intro hb
    rcases List.mem_append.1 hb with hb | hb
    · obtain ⟨⟨b, r⟩, hr, rfl⟩ := List.mem_map.1 hb
      exact h.loads ha hc hu hr
    · exact h.accounts hb
  case caller => exact h.caller
  case frames =>
    intro f hf hb
    rcases step_targets (d := d) ha hstep hf with ⟨g, hg, heq⟩ | htarget | hnew
    · exact h.frames g hg (heq.trans hb)
    · exact h.target (htarget.symm.trans hb)
    · rw [hb] at hnew
      exact hu hnew
  case target => exact hasked.1
  case bytecode => exact hasked.2

end Kept

section Whole

variable {ev : StartEvent} {x : LoadStart} {xs : List LoadEvent} {w₀ : Loading}

theorem Loading.start_some (h : Loading.start env ev x = some w₀) :
    MegaEvm.start env ev = some w₀.state ∧ w₀.accounts = (startLoads env x).map Prod.fst ∧
      w₀.asked = match env.tx.kind with
        | .call recipient => ⟨recipient, recipient⟩
        | .create => ⟨env.tx.caller, env.tx.caller⟩ := by
  obtain ⟨s, hs, rfl⟩ := Option.map_eq_some_iff.1 h
  exact ⟨hs, rfl, rfl⟩

theorem mem_start (h : Loading.start env ev x = some w₀) : a ∈ w₀.accounts ↔
    a = env.tx.caller ∨ a ∈ x.keyed ∨ a ∈ x.authorities ∨ a ∈ x.predeploys := by
  rw [(Loading.start_some h).2.1]
  simp [startLoads, unchecked]

theorem absent_start (h : Loading.start env ev x = some w₀) (hn : ¬ NamesBeneficiary env)
    (hp : env.beneficiary ∉ x.predeploys) (hl : env.beneficiary ∉ x.keyed)
    (hauth : env.beneficiary ∉ x.authorities) : Absent env w₀ := by
  have hcaller : env.tx.caller ≠ env.beneficiary := fun hb => hn (.inl hb)
  obtain ⟨hs, -, hasked⟩ := Loading.start_some h
  have hboth : w₀.asked.target ≠ env.beneficiary ∧ w₀.asked.bytecode ≠ env.beneficiary := by
    rw [hasked]
    cases hk : env.tx.kind with
    | create => exact ⟨hcaller, hcaller⟩
    | call recipient =>
      have hne : recipient ≠ env.beneficiary := fun hb => hn (.inr (by rw [hk, hb]))
      exact ⟨hne, hne⟩
  constructor
  case accounts =>
    rw [mem_start h]
    rintro (hb | hb | hb | hb)
    · exact hcaller hb.symm
    · exact hl hb
    · exact hauth hb
    · exact hp hb
  case caller => exact hcaller
  case frames =>
    intro f hf
    rw [(start_cases hs).1] at hf
    cases hf
  case target => exact hboth.1
  case bytecode => exact hboth.2

theorem loaded_step {y : LoadEvent} (h : w.step env d y = some w') :
    a ∈ w'.accounts ↔ a ∈ w.accounts ∨ ∃ r, (a, r) ∈ stepLoads env d w y := by
  obtain ⟨-, s', -, rfl⟩ := Loading.step_some h
  simp only [List.mem_append, List.mem_map, Prod.exists, exists_and_right, exists_eq_right]
  exact or_comm

/-- The tracker knows at the end whether the beneficiary was named or checked. -/
theorem marked_iff (hstart : Loading.start env ev x = some w₀)
    (hrun : Run.run (Loading.step env d) w₀ xs = some w) :
    w.state.volatile.hasAccessedBeneficiaryBalance = true ↔
      NamesBeneficiary env ∨ Run.Occurs (Loading.step env d) (Checked env d) w₀ xs := by
  rw [← marked_start (Loading.start_some hstart).1]
  apply Run.flag_iff (I := fun w : Loading =>
    w.state.volatile.hasAccessedBeneficiaryBalance = true) _ hrun
  intro m y m' hm
  obtain ⟨ha, s', hs, rfl⟩ := Loading.step_some hm
  exact marked_step ha hs

theorem loaded_of_unchecked (hrun : Run.run (Loading.step env d) w₀ xs = some w)
    (hu : Run.Occurs (Loading.step env d) (Unchecked env d) w₀ xs) :
    env.beneficiary ∈ w.accounts := by
  rw [Run.flag_iff (I := fun w : Loading => env.beneficiary ∈ w.accounts)
    (fun m y m' hm => loaded_step hm) hrun]
  right
  exact hu.mono fun m y hy => ⟨.journal, hy⟩

/-- When the access to the beneficiary is detected: the transaction names the
beneficiary, a method of the host looks for it in what it loads, or pre-execution
and the steps of the run leave its account alone. -/
theorem beneficiary_detected_iff (hp : env.beneficiary ∉ x.predeploys)
    (hstart : Loading.start env ev x = some w₀)
    (hrun : Run.run (Loading.step env d) w₀ xs = some w) :
    (env.beneficiary ∈ w.accounts → w.state.volatile.hasAccessedBeneficiaryBalance = true) ↔
      (NamesBeneficiary env ∨ Run.Occurs (Loading.step env d) (Checked env d) w₀ xs) ∨
        (env.beneficiary ∉ x.keyed ∧ env.beneficiary ∉ x.authorities ∧
          ¬ Run.Occurs (Loading.step env d) (Unchecked env d) w₀ xs) := by
  have hmarked := marked_iff hstart hrun
  have hkept (hb : env.beneficiary ∈ w₀.accounts) : env.beneficiary ∈ w.accounts :=
    (Run.flag_iff (I := fun w : Loading => env.beneficiary ∈ w.accounts)
      (fun m y m' hm => loaded_step hm) hrun).2 (.inl hb)
  rw [hmarked]
  constructor
  · intro h
    by_cases hm : NamesBeneficiary env ∨
        Run.Occurs (Loading.step env d) (Checked env d) w₀ xs
    · exact .inl hm
    · right
      refine ⟨fun hl => hm (h ?_), fun hauth => hm (h ?_), fun hu => hm (h ?_)⟩
      · exact hkept ((mem_start hstart).2 (.inr (.inl hl)))
      · exact hkept ((mem_start hstart).2 (.inr (.inr (.inl hauth))))
      · exact loaded_of_unchecked hrun hu
  · rintro (hm | ⟨hl, hauth, hu⟩) hb
    · exact hm
    · by_contra hm
      rw [not_or] at hm
      have hguard := (Run.Guarded.of_not_occurs hm.2).and (Run.Guarded.of_not_occurs hu)
      have habsent : Absent env w := Run.invariant
        (fun m y m' h hg hs => h.step hg.1 hg.2 hs) (absent_start hstart hm.1 hp hl hauth)
        hguard hrun
      exact habsent.accounts hb

end Whole

section Sample

def sampleDelegations : Delegations := ⟨fun _ => none, 0⟩

def sampleLoads : List LoadEvent :=
  [.init sampleInit, .tau, .op (sampleReturn []), .tau, .tau, .tau, .tau].map fun e =>
    ⟨e, 0, []⟩

def endsWith (env : Env) (x : LoadStart) : Option (Bool × Bool × Bool) :=
  (Loading.start env (sampleStart EvmTxRuntimeLimits.rex4 rex4_computeGas_fits) x).bind fun w₀ =>
    (Run.run (Loading.step env sampleDelegations) w₀ sampleLoads).map fun w =>
      (match w.state.phase with | .done _ => true | _ => false,
        decide (env.beneficiary ∈ w.accounts),
        w.state.volatile.hasAccessedBeneficiaryBalance)

theorem exists_loading {x : LoadStart} {done loaded marked : Bool}
    (h : endsWith env x = some (done, loaded, marked)) :
    ∃ w₀ w, Loading.start env (sampleStart EvmTxRuntimeLimits.rex4 rex4_computeGas_fits) x =
        some w₀ ∧
      Run.run (Loading.step env sampleDelegations) w₀ sampleLoads = some w ∧
      (done = true → ∃ p, w.state.phase = .done p) ∧
      decide (env.beneficiary ∈ w.accounts) = loaded ∧
      w.state.volatile.hasAccessedBeneficiaryBalance = marked := by
  obtain ⟨w₀, hstart, h⟩ := Option.bind_eq_some_iff.1 h
  obtain ⟨w, hrun, h⟩ := Option.map_eq_some_iff.1 h
  simp only [Prod.mk.injEq] at h
  obtain ⟨hdone, hloaded, hmarked⟩ := h
  refine ⟨w₀, w, hstart, hrun, ?_, hloaded, hmarked⟩
  rintro rfl
  split at hdone
  · next p hp => exact ⟨p, hp⟩
  · cases hdone

/-- A transaction to the beneficiary. -/
theorem beneficiary_detected_recipient : ∃ w₀ w,
    Loading.start (sampleEnv .rex4 (.call 1) .other 1000000)
      (sampleStart EvmTxRuntimeLimits.rex4 rex4_computeGas_fits) ⟨[], [], []⟩ = some w₀ ∧
    Run.run (Loading.step (sampleEnv .rex4 (.call 1) .other 1000000) sampleDelegations) w₀
      sampleLoads = some w ∧
    (∃ p, w.state.phase = .done p) ∧ 1 ∈ w.accounts ∧
      w.state.volatile.hasAccessedBeneficiaryBalance = true := by
  have hrun : endsWith (sampleEnv .rex4 (.call 1) .other 1000000) ⟨[], [], []⟩ =
      some (true, true, true) := by decide
  obtain ⟨w₀, w, hstart, hr, hdone, hloaded, -⟩ := exists_loading hrun
  have hmem : 1 ∈ w.accounts := of_decide_eq_true hloaded
  exact ⟨w₀, w, hstart, hr, hdone rfl, hmem,
    (beneficiary_detected_iff (by decide) hstart hr).2 (.inl (.inl (.inr rfl))) hmem⟩

/-- A transaction that has a slot of the beneficiary in its access list, and calls
another contract. -/
theorem beneficiary_unnoticed : ¬ ∀ (env : Env) (d : Delegations) (ev : StartEvent)
    (x : LoadStart) (xs : List LoadEvent) (w₀ w : Loading) (p : Pending),
    env.spec.isEnabled .miniRex = true → env.beneficiary ∉ x.predeploys →
    Loading.start env ev x = some w₀ → Run.run (Loading.step env d) w₀ xs = some w →
    w.state.phase = .done p → env.beneficiary ∈ w.accounts →
      w.state.volatile.hasAccessedBeneficiaryBalance = true := by
  intro h
  have hrun : endsWith (sampleEnv .rex4 (.call 3) .other 1000000) ⟨[(1, [0])], [], []⟩ =
      some (true, true, false) := by decide
  obtain ⟨w₀, w, hstart, hr, hdone, hloaded, hmarked⟩ := exists_loading hrun
  obtain ⟨p, hp⟩ := hdone rfl
  have htrue := h _ _ _ _ _ w₀ w p rfl (by decide) hstart hr hp (of_decide_eq_true hloaded)
  rw [hmarked] at htrue
  cases htrue

end Sample

end MegaEvm
