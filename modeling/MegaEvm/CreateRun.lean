import MegaEvm.ExceededStart
import MegaEvm.FrameRevert

/-!
# The run of a create

A transaction that creates a contract commits its code in one step at most: when
the outermost frame returns. The limits may turn the result down in that same
step, after the code is in the journal. Without such a step the transaction
fails, and its journal is the one from before the frame.
-/

set_option autoImplicit false

namespace MegaEvm

open AdditionalLimit

def committedCode (env : Env) (s : State) : Option Bytes :=
  match s.phase, s.frames with
  | .action (.return r), [f] =>
    let r := returnResult s.limit f.isCreate (storageCharged f.isCreate r)
    if f.isCreate && (returnCreate env r).2 then some r.output else none
  | _, _ => none

/-- The code a run commits, and whether the limits turn it down in the same step. -/
def deployment (env : Env) : State → List Event → Option (Bytes × Bool)
  | _, [] => none
  | s, e :: es =>
    match committedCode env s with
    | some code => some (code, !noLateExceed env s .tau)
    | none => (step env s e).bind fun s' => deployment env s' es

def commitState (env : Env) : State → List Event → Option State
  | _, [] => none
  | s, e :: es =>
    if (committedCode env s).isSome then some s
    else (step env s e).bind fun s' => commitState env s' es

variable {env : Env} {s s' s₀ : State} {p : Pending} {e : Event} {es : List Event}

theorem deployment_eq : deployment env s es = (commitState env s es).bind fun m =>
    (committedCode env m).map fun code => (code, !noLateExceed env m .tau) := by
  induction es generalizing s with
  | nil => rfl
  | cons e es ih =>
    cases hc : committedCode env s with
    | some code => simp [deployment, commitState, hc]
    | none =>
      simp only [deployment, commitState, hc, Option.isSome_none, Bool.false_eq_true, if_false]
      cases step env s e with
      | none => rfl
      | some s' => exact ih

section Outermost

def OuterCreates : List Frame → Prop
  | [] => True
  | f :: rest => (rest = [] → f.isCreate = true) ∧ OuterCreates rest

def State.Creating (s : State) : Prop :=
  OuterCreates s.frames ∧ match s.phase with
    | .init input => Stacked s.frames s.journal ∧ (s.frames = [] → input.isCreate = true)
    | .run | .interp | .action _ => Stacked s.frames s.journal
    | .result p | .handed p =>
      s.frames ≠ [] ∧ p.opened <:+ s.journal ∧ Stacked s.frames p.opened
    | .last _ | .done _ => False

inductive Ending (s : State) (p : Pending) : Prop where
  | result : s.phase = .result p → Ending s p
  | handed : s.phase = .handed p → Ending s p
  | last : s.phase = .last p → Ending s p
  | done : s.phase = .done p → Ending s p

structure Succeeded (code : Bytes) (s : State) (p : Pending) : Prop where
  isOk : p.result.instructionResult.isOk = true
  output : p.result.result.output = code
  within : s.phase = .result p → s.limit.exceeded = false
  closed : s.phase = .last p → s.limit.Aligned 0

/-- Without a commit the result is a failure that left nothing in the journal. A
commit is a success unless the limits turned it down. -/
def Concluded (committed : Option (Bytes × Bool)) (s : State) (p : Pending) : Prop :=
  match committed with
  | none => p.result.instructionResult.isOk = false ∧ s.journal = p.opened
  | some (_, true) => p.result.instructionResult.isOk = false
  | some (code, false) => Succeeded code s p

def State.Left (committed : Option (Bytes × Bool)) (s : State) : Prop :=
  s.frames = [] ∧ ∃ p, Ending s p ∧ Concluded committed s p

theorem creating_answer (hc : OuterCreates s.frames) (hne : s.frames ≠ [])
    (ho : p.opened <:+ s.journal) (hs : Stacked s.frames p.opened) : (s.answer p).Creating := by
  have hempty : s.frames.isEmpty = false := by simpa using hne
  unfold State.answer State.Creating
  simp only [hempty, Bool.false_eq_true, if_false]
  exact ⟨hc, hne, ho, hs⟩

theorem left_answer (hf : s.frames = []) (hno : p.result.instructionResult.isOk = false)
    (hj : s.journal = p.opened) : (s.answer p).Left none := by
  rw [State.answer_last hf]
  exact ⟨hf, p, .last rfl, hno, hj⟩

end Outermost

section Init

variable {input : FrameInput} {ev : InitEvent}

theorem makeCreateFrame_answered {i : CreateInputs} (hdep : env.isDeposit = false)
    (hf : s.frames = []) (h : makeCreateFrame env s i ev = some s') :
    s'.frames ≠ [] ∨ ∃ p, s'.phase = .last p ∧ p.result.instructionResult.isOk = false := by
  have hfunds : createFundsValidated env s = true := by
    simp [createFundsValidated, hf, hdep]
  have hdepth : ¬ s.depth > constants.CALL_STACK_LIMIT := by
    simp [State.depth, hf]
  have hlast : ∀ (m : State) (r : FrameResult) opened, m.frames = [] →
      (m.answerInner r opened).phase = .last ⟨r, opened⟩ := by
    intro m r opened hm
    unfold State.answerInner
    rw [State.answer_last (by exact hm)]
  unfold makeCreateFrame at h
  rw [if_neg hdepth] at h
  cases hc : ev.create with
  | outOfFunds | nonceOverflow => simp [hc, hfunds] at h
  | checkpointFailed err =>
    simp only [hc, Option.some.injEq] at h
    subst h
    right
    refine ⟨_, hlast _ _ _ hf, ?_⟩
    cases err with
    | outOfFunds | overflowPayment | createCollision => rfl
  | enter created =>
    simp only [hc, Option.some.injEq] at h
    subst h
    exact .inl (List.cons_ne_nil _ _)

theorem frameInit_answered {i : CreateInputs} (hdep : env.isDeposit = false)
    (hf : s.frames = []) (h : frameInit env s (.create i) ev = some s') :
    s'.frames ≠ [] ∨ ∃ p, s'.phase = .last p ∧ p.result.instructionResult.isOk = false := by
  unfold frameInit at h
  simp only [detected] at h
  by_cases hx : (s.limit.openFrame (.create i) ev.targetEmpty).exceeded = true
  · simp only [beforeFrameInit_exceeded hx, Option.some.injEq] at h
    subst h
    right
    rw [State.answer_last (by exact hf)]
    exact ⟨_, rfl, exceedingInstructionResult_isOk _⟩
  · have hw : (s.limit.openFrame (.create i) ev.targetEmpty).exceeded = false := by simpa using hx
    simp only [beforeFrameInit_within hw] at h
    exact makeCreateFrame_answered hdep (by exact hf) h

theorem creating_init (hdep : env.isDeposit = false) (hp : s.phase = .init input)
    (h : s.Creating) (hs : frameInit env s input ev = some s') : s'.Creating ∨ s'.Left none := by
  obtain ⟨hc, hstate⟩ := h
  simp only [hp] at hstate
  obtain ⟨hst, hcreate⟩ := hstate
  by_cases hf : s.frames = []
  · obtain ⟨i, rfl⟩ : ∃ i, input = .create i := by
      cases input with
      | create i => exact ⟨i, rfl⟩
      | call i => cases hcreate hf
    have hanswer := frameInit_answered hdep hf hs
    cases frameInit_step hs with
    | keyless hi | control v hi => cases hi
    | refused hd hx =>
      exact .inr (left_answer hf (exceedingInstructionResult_isOk _) rfl)
    | @answered v l r opened journal nonce hd hx ha =>
      have hno : r.instructionResult.isOk = false := by
        rw [State.answer_last (by exact hf)] at hanswer
        obtain hne | ⟨q, hq, hno⟩ := hanswer
        · exact absurd hf hne
        · cases hq
          exact hno
      exact .inr (left_answer hf hno (ha.reverted hno))
    | entered hd hx ho hn =>
      left
      refine ⟨⟨fun _ => rfl, hc⟩, rfl, List.suffix_append _ _, ?_⟩
      exact hst.mono ho
  · left
    cases frameInit_step hs with
    | keyless hi hnil => exact absurd hnil hf
    | control | refused =>
      exact creating_answer hc hf List.suffix_rfl hst
    | answered hd hx ha => exact creating_answer hc hf ha.grown (hst.mono ha.above)
    | entered hd hx ho hn =>
      refine ⟨⟨fun hnil => absurd hnil hf, hc⟩, rfl, List.suffix_append _ _, ?_⟩
      exact hst.mono ho

end Init

section Return

variable {f : Frame} {r : InterpreterResult}

theorem processReturn_reverted (journal : List JournalEntry) (hf : f.isCreate = true)
    (hc : (returnCreate env r).2 = false) :
    (processReturn env f r journal).1.instructionResult.isOk = false ∧
      (processReturn env f r journal).2 = checkpointRevert journal f.checkpoint := by
  have hno := returnCreate_reverted env hc
  unfold processReturn
  rw [if_pos hf]
  cases hr : returnCreate env r with
  | mk r' b =>
    rw [hr] at hc hno
    dsimp only at hc hno
    subst hc
    exact ⟨hno, rfl⟩

theorem processReturn_committed (journal : List JournalEntry) (hf : f.isCreate = true)
    (hc : (returnCreate env r).2 = true) :
    (processReturn env f r journal).1.instructionResult.isOk = true ∧
      (processReturn env f r journal).1.result.output = r.output ∧
      depositGas r (processReturn env f r journal).1 = constants.CODEDEPOSIT * r.output.length := by
  have hgas : ∀ g, r.gas.recordCost (constants.CODEDEPOSIT * r.output.length) = some g →
      r.gas.remaining - g.remaining = constants.CODEDEPOSIT * r.output.length := by
    intro g hg
    obtain ⟨hle, rfl⟩ := Gas.recordCost_eq_some.1 hg
    exact Nat.sub_sub_self hle
  unfold processReturn
  rw [if_pos hf]
  unfold returnCreate at hc ⊢
  split at hc
  · cases hc
  · split at hc
    · cases hc
    · split at hc
      · cases hc
      · cases hg : r.gas.recordCost (constants.CODEDEPOSIT * r.output.length) with
        | none =>
          rw [hg] at hc
          cases hc
        | some g =>
          rename_i hok hef hsize
          rw [if_neg hok, if_neg hef, if_neg hsize]
          exact ⟨rfl, rfl, hgas g hg⟩

theorem depositResult_failed {l : AdditionalLimit} {fr : FrameResult}
    (hno : fr.instructionResult.isOk = false) :
    (depositResult l r fr).instructionResult.isOk = false := by
  unfold depositResult
  split
  · exact exceedingInstructionResult_isOk _
  · exact hno

theorem creating_returned {r₂ : InterpreterResult} {fr : FrameResult}
    {journal' : List JournalEntry} (hp : s.phase = .action (.return r)) (hf : s.frames = [f])
    (hcreate : f.isCreate = true)
    (hr : r₂ = returnResult s.limit f.isCreate (storageCharged f.isCreate r))
    (hfr : processReturn env f r₂ s.journal = (fr, journal'))
    (hst : Stacked s.frames s.journal) (committed : Option (Bytes × Bool))
    (hcode : committed = (committedCode env s).map fun code => (code, !noLateExceed env s .tau)) :
    Concluded committed { s with
      frames := []
      limit := (depositLimit (returnLimit s.limit f.isCreate (storageCharged f.isCreate r))
        r₂ fr).tryRescueGas fr.gas
      journal := journal'
      phase := .result ⟨depositResult
        (returnLimit s.limit f.isCreate (storageCharged f.isCreate r)) r₂ fr, f.opened⟩ }
      ⟨depositResult (returnLimit s.limit f.isCreate (storageCharged f.isCreate r)) r₂ fr,
        f.opened⟩ := by
  rw [hf] at hst
  have hrevert := hst.checkpointRevert
  have hr' : returnResult s.limit true (storageCharged true r) = r₂ := by rw [hr, hcreate]
  by_cases hc : (returnCreate env r₂).2 = true
  · obtain ⟨hok, hout, hgas⟩ := processReturn_committed s.journal hcreate hc
    rw [hfr] at hok hout hgas
    have hsome : committedCode env s = some r₂.output := by
      simp [committedCode, hp, hf, hr', hcreate, hc]
    have hlate : noLateExceed env s .tau = !(depositLimit
        (returnLimit s.limit f.isCreate (storageCharged f.isCreate r)) r₂ fr).exceeded := by
      simp [noLateExceed, hp, hf, hr', hcreate, hc, depositLimit, hgas]
    rw [hsome, hlate, Option.map_some, Bool.not_not] at hcode
    rw [hcode]
    cases hx : (depositLimit (returnLimit s.limit f.isCreate (storageCharged f.isCreate r))
        r₂ fr).exceeded with
    | true =>
      show (depositResult _ r₂ fr).instructionResult.isOk = false
      simp [depositResult, hx]
    | false =>
      have hsame : depositResult (returnLimit s.limit f.isCreate (storageCharged f.isCreate r))
          r₂ fr = fr := by simp [depositResult, hx]
      rw [hsame]
      exact
        { isOk := hok
          output := hout
          within := fun _ => by
            show ((depositLimit _ r₂ fr).tryRescueGas fr.gas).exceeded = false
            rw [exceeded_tryRescueGas, depositLimit, recordComputeGas_checkLimit,
              ← depositLimit, hx]
          closed := fun hlast => by cases hlast }
  · have hf' : (returnCreate env r₂).2 = false := by simpa using hc
    obtain ⟨hno, hj⟩ := processReturn_reverted s.journal hcreate hf'
    rw [hfr] at hno hj
    have hnone : committedCode env s = none := by
      simp [committedCode, hp, hf, hr', hcreate, hf']
    rw [hnone] at hcode
    rw [hcode]
    exact ⟨depositResult_failed hno, hj.trans hrevert⟩

end Return

section Step

theorem State.Creating.step (hdep : env.isDeposit = false) (hsound : Sound env s)
    (h : s.Creating) (hs : MegaEvm.step env s e = some s') :
    (committedCode env s = none ∧ s'.Creating) ∨
      s'.Left ((committedCode env s).map fun code => (code, !noLateExceed env s .tau)) := by
  have hframed := hsound.framed
  obtain ⟨hc, hstate⟩ := id h
  cases step_spec hs with
  | @init input ev _ hp hi =>
    have hnone : committedCode env s = none := by simp [committedCode, hp]
    have hinit : frameInit env s input ev = some s' := by simpa [MegaEvm.step, hp] using hs
    rw [hnone]
    rcases creating_init hdep hp h hinit with hopen | hleft
    · exact .inl ⟨rfl, hopen⟩
    · exact .inr hleft
  | stopped hp hf hx =>
    simp only [hp] at hstate
    exact .inl ⟨by simp [committedCode, hp], hc, hstate⟩
  | resumed hp hf hx hset =>
    simp only [hp] at hstate
    exact .inl ⟨by simp [committedCode, hp], hc, hstate⟩
  | @op f rest ev hp hf =>
    simp only [hp] at hstate
    rw [hf] at hc
    simp only [State.Framed, hp] at hframed
    have hnext := @stacked_interpStep env s f rest ev hframed.2 hf hstate
    left
    refine ⟨by simp [committedCode, hp], hc, ?_⟩
    cases hact : (instruction env ev (s.ctx f)).action with
    | none =>
      simp only [interpStep, hact]
      exact hnext
    | some a =>
      simp only [interpStep, hact]
      exact hnext
  | opened hp hf =>
    simp only [hp] at hstate
    refine .inl ⟨by simp [committedCode, hp], hc, hstate, fun hnil => ?_⟩
    rw [hf] at hnil
    cases hnil
  | @returned f rest r r₂ fr journal' hp hf hr hfr hpr =>
    simp only [hp] at hstate
    rw [hf] at hc
    cases rest with
    | nil =>
      right
      refine ⟨rfl, _, .result rfl, ?_⟩
      exact creating_returned hp hf (hc.1 rfl) hr hfr hstate _ rfl
    | cons g rest =>
      left
      rw [hf] at hstate
      exact ⟨by simp [committedCode, hp, hf], hc.2, List.cons_ne_nil _ _, hstate.processed hpr,
        hstate.2.2⟩
  | hand hp =>
    simp only [hp] at hstate
    exact .inl ⟨by simp [committedCode, hp], hc, hstate⟩
  | @insert p hp hn =>
    simp only [hp] at hstate
    obtain ⟨hne, ho, hst⟩ := hstate
    left
    refine ⟨by simp [committedCode, hp], ?_⟩
    cases hf : s.frames with
    | nil => exact absurd hf hne
    | cons f rest =>
      have hnext := @stacked_insertResult env s p f rest hf ho hst
      have hcreate : (creditGas f p.result).isCreate = f.isCreate := by
        unfold creditGas
        split <;> rfl
      rw [insertResult_cons env p hf] at hnext ⊢
      rw [hf] at hc
      exact ⟨⟨fun hnil => hcreate.trans (hc.1 hnil), hc.2⟩, hnext⟩
  | finish hp =>
    simp only [hp] at hstate

theorem beforeFrameReturnResult_failed {l : AdditionalLimit} (b : Bool) {r : FrameResult}
    (hno : r.instructionResult.isOk = false) :
    (l.beforeFrameReturnResult b r).2.instructionResult.isOk = false := by
  rcases beforeFrameReturnResult_cases (l := l) b r with
    ⟨-, hb⟩ | ⟨-, -, hb⟩ | ⟨-, -, hb⟩ | ⟨-, -, hb⟩
  · rw [hb]
    exact hno
  · rw [hb]
    exact hno
  · rw [hb]
    rfl
  · rw [hb]
    rfl

theorem beforeFrameReturnResult_kept {l : AdditionalLimit} {n : ℕ} (b : Bool) {r : FrameResult}
    (h : Answered l r.instructionResult) (ha : l.Aligned (n + 1)) (hx : l.exceeded = false) :
    (l.beforeFrameReturnResult b r).2 = r := by
  have hnot : ¬ l.TxExceeded := fun ht => ht.not_within hx
  have hclose := closeFrame_within (h.restorable hnot) (h.settled hx) ha hx r.instructionResult.isOk
  rcases beforeFrameReturnResult_cases (l := l) b r with
    ⟨-, hb⟩ | ⟨-, -, hb⟩ | ⟨-, hl, -⟩ | ⟨-, hl, -⟩
  · rw [hb]
  · rw [hb]
  · have hcx := LimitCheck.exceeded_of_frameLocal hl
    rw [← exceeded, hclose] at hcx
    cases hcx
  · exact absurd hclose fun hw => hl.not_within hw

theorem of_step_result (hp : s.phase = .result p) (h : MegaEvm.step env s e = some s') :
    s' = frameReturnResult s p := by
  cases e with
  | tau => simpa [MegaEvm.step, hp] using h.symm
  | op | init => simp [MegaEvm.step, hp] at h

theorem of_step_handed (hp : s.phase = .handed p) (h : MegaEvm.step env s e = some s') :
    s' = insertResult env s p := by
  cases e with
  | tau =>
    by_cases hn : isFatal p = true
    · simp [MegaEvm.step, hp, hn] at h
    · simpa [MegaEvm.step, hp, hn] using h.symm
  | op | init => simp [MegaEvm.step, hp] at h

theorem of_step_last (hp : s.phase = .last p) (h : MegaEvm.step env s e = some s') :
    s' = lastFrameResult env s p := by
  cases e with
  | tau =>
    by_cases hn : isFatal p = true
    · simp [MegaEvm.step, hp, hn] at h
    · simpa [MegaEvm.step, hp, hn] using h.symm
  | op | init => simp [MegaEvm.step, hp] at h

theorem of_step_done (hp : s.phase = .done p) : MegaEvm.step env s e = none := by
  cases e with
  | tau | op | init => simp [MegaEvm.step, hp]

theorem frameReturnResult_phase (s : State) (p : Pending) : (frameReturnResult s p).phase =
    .handed ⟨(s.limit.beforeFrameReturnResult false p.result).2, p.opened⟩ := rfl

theorem Succeeded.of_result {code : Bytes} {r : FrameResult} {opened : List JournalEntry}
    (h : Succeeded code s p) (hr : r.instructionResult = p.result.instructionResult)
    (ho : r.result.output = p.result.result.output)
    (hphase : s'.phase = .handed ⟨r, opened⟩ ∨ s'.phase = .done ⟨r, opened⟩) :
    Succeeded code s' ⟨r, opened⟩ where
  isOk := by rw [← h.isOk, ← hr]
  output := by rw [← h.output, ← ho]
  within := fun hp => by
    rw [hp] at hphase
    simp at hphase
  closed := fun hp => by
    rw [hp] at hphase
    simp at hphase

theorem Concluded.of_step {committed : Option (Bytes × Bool)} {q : Pending}
    (h : Concluded committed s p) (hj : s'.journal = s.journal) (ho : q.opened = p.opened)
    (hfail : p.result.instructionResult.isOk = false → q.result.instructionResult.isOk = false)
    (hkeep : ∀ code, Succeeded code s p → Succeeded code s' q) : Concluded committed s' q := by
  cases committed with
  | none =>
    have hnone : p.result.instructionResult.isOk = false ∧ s.journal = p.opened := h
    exact ⟨hfail hnone.1, by rw [hj, ho, hnone.2]⟩
  | some d =>
    obtain ⟨code, late⟩ := d
    cases late with
    | true => exact hfail h
    | false => exact hkeep code h

theorem State.Left.step {committed : Option (Bytes × Bool)} (hsound : Sound env s)
    (h : s.Left committed) (hs : MegaEvm.step env s e = some s') : s'.Left committed := by
  have hframed := hsound.framed
  obtain ⟨hf, p, hend, hcon⟩ := h
  cases hend with
  | result hp =>
    simp only [State.Framed, hp, hf, List.length_nil] at hframed
    rw [of_step_result hp hs]
    have hphase := frameReturnResult_phase s p
    refine ⟨hf, _, .handed hphase, ?_⟩
    refine hcon.of_step rfl rfl (beforeFrameReturnResult_failed false) fun code hok => ?_
    have hsame := beforeFrameReturnResult_kept false hframed.2 hframed.1 (hok.within hp)
    exact hok.of_result (by rw [hsame]) (by rw [hsame]) (.inl hphase)
  | handed hp =>
    simp only [State.Framed, hp, hf, List.length_nil] at hframed
    rw [of_step_handed hp hs, insertResult_nil env p hf]
    refine ⟨hf, p, .last rfl, ?_⟩
    refine hcon.of_step rfl rfl id fun code hok => ?_
    exact ⟨hok.isOk, hok.output, fun hq => (by cases hq), fun _ => hframed.1⟩
  | last hp =>
    rw [of_step_last hp hs]
    have hphase := lastFrameResult_phase env s p
    refine ⟨hf, _, .done hphase, ?_⟩
    refine hcon.of_step rfl rfl (beforeFrameReturnResult_failed true) fun code hok => ?_
    have hsame : (s.limit.beforeFrameReturnResult true p.result).2 = p.result := by
      rw [beforeFrameReturnResult_duplicate (hok.closed hp)]
    refine hok.of_result ?_ ?_ (.inr hphase)
    · rw [finalResult_instructionResult, hsame]
    · rw [finalResult_output, hsame]
  | done hp =>
    rw [of_step_done hp] at hs
    cases hs

theorem State.Left.run {committed : Option (Bytes × Bool)} (hsound : Sound env s)
    (h : s.Left committed) (hr : Run.run (MegaEvm.step env) s es = some s') :
    s'.Left committed := by
  have hinv : Sound env s' ∧ s'.Left committed := by
    refine Run.invariant' (I := fun m => Sound env m ∧ m.Left committed) ?_ ⟨hsound, h⟩ hr
    intro m e m' ⟨hm, hl⟩ hs
    exact ⟨hm.step hs, hl.step hm hs⟩
  exact hinv.2

end Step

section Run

theorem committedCode_nonempty {code : Bytes} (hsound : Sound env s)
    (hc : committedCode env s = some code) (hlate : noLateExceed env s .tau = false) :
    code ≠ [] := by
  have hframed := hsound.framed
  rintro rfl
  unfold committedCode at hc
  split at hc
  case h_2 => cases hc
  case h_1 r f hp hf =>
    set r₂ := returnResult s.limit f.isCreate (storageCharged f.isCreate r) with hr₂
    simp only [State.Framed, hp] at hframed
    have hret : Returning (returnLimit s.limit f.isCreate (storageCharged f.isCreate r)) r₂ :=
      hframed.2.returning f.isCreate
    dsimp only at hc
    split at hc
    case isFalse => cases hc
    case isTrue hcommit =>
      rw [Bool.and_eq_true] at hcommit
      have hempty : r₂.output = [] := Option.some.inj hc
      have hok : r₂.result.isOk = true := by
        by_contra hno
        have hfalse : r₂.result.isOk = false := by simpa using hno
        simp [returnCreate, hfalse] at hcommit
      obtain ⟨hw, hs⟩ := hret.committed hok
      have hsame := checkLimit_eq_self (exceeded_eq_false.1 hw) hs
      simp only [noLateExceed, hp, hf, ← hr₂, hempty, List.length_nil, Nat.mul_zero,
        recordComputeGas_zero, hsame, hw, Bool.not_false, Bool.or_true] at hlate
      cases hlate

theorem deployment_nonempty {code : Bytes} (hsound : Sound env s)
    (h : deployment env s es = some (code, true)) : code ≠ [] := by
  induction es generalizing s with
  | nil => cases h
  | cons e es ih =>
    cases hc : committedCode env s with
    | none =>
      simp only [deployment, hc, Option.bind_eq_some_iff] at h
      obtain ⟨m, hm, hrest⟩ := h
      exact ih (hsound.step hm) hrest
    | some c =>
      simp only [deployment, hc, Option.some.injEq, Prod.mk.injEq, Bool.not_eq_true'] at h
      obtain ⟨rfl, hlate⟩ := h
      exact committedCode_nonempty hsound hc hlate

theorem deployment_left {committed : Option (Bytes × Bool)} (hsound : Sound env s)
    (h : s.Left committed) (es : List Event) : deployment env s es = none := by
  induction es generalizing s with
  | nil => rfl
  | cons e es ih =>
    have hnone : committedCode env s = none := by
      unfold committedCode
      rw [h.1]
      split
      · rename_i hnil
        cases hnil
      · rfl
    cases hm : step env s e with
    | none => simp [deployment, hnone, hm]
    | some m =>
      simp only [deployment, hnone, hm, Option.bind_some]
      exact ih (hsound.step hm) (h.step hsound hm)

/-- How the create ends is decided by the code it commits. -/
theorem State.Creating.run (hdep : env.isDeposit = false) (hsound : Sound env s)
    (h : s.Creating) (hr : Run.run (MegaEvm.step env) s es = some s') (hp : s'.phase = .done p) :
    s'.Left (deployment env s es) := by
  induction es generalizing s with
  | nil =>
    obtain rfl : s = s' := by simpa [Run.run] using hr
    have hstate := h.2
    simp only [hp] at hstate
  | cons e es ih =>
    obtain ⟨m, hm, hrest⟩ := Run.run_cons.1 hr
    have hnext := hsound.step hm
    cases hc : committedCode env s with
    | none =>
      have hlater : deployment env s (e :: es) = deployment env m es := by
        simp [deployment, hc, hm]
      rw [hlater]
      rcases h.step hdep hsound hm with ⟨-, hopen⟩ | hleft
      · exact ih hnext hopen hrest
      · rw [hc] at hleft
        rw [deployment_left hnext hleft]
        exact hleft.run hnext hrest
    | some code =>
      have hnow : deployment env s (e :: es) = some (code, !noLateExceed env s .tau) := by
        simp [deployment, hc]
      rw [hnow]
      rcases h.step hdep hsound hm with ⟨hnone, -⟩ | hleft
      · rw [hc] at hnone
        cases hnone
      · rw [hc] at hleft
        exact hleft.run hnext hrest

theorem committed_journal {code : Bytes} (hc : committedCode env s = some code)
    (hs : step env s e = some s') :
    ∃ f, s.frames = [f] ∧ s'.journal = .codeChange f.target :: s.journal := by
  unfold committedCode at hc
  split at hc
  case h_2 => cases hc
  case h_1 r f hp hf =>
    dsimp only at hc
    split at hc
    case isFalse => cases hc
    case isTrue hcommit =>
      rw [Bool.and_eq_true] at hcommit
      refine ⟨f, hf, ?_⟩
      cases step_spec hs with
      | @returned f' rest r' r₂ fr journal' hp' hf' hr hfr hpr =>
        rw [hf, List.cons.injEq] at hf'
        obtain ⟨rfl, rfl⟩ := hf'
        rw [hp, Phase.action.injEq, InterpreterAction.return.injEq] at hp'
        subst hp' hr
        unfold processReturn at hfr
        rw [if_pos hcommit.1] at hfr
        cases hcreate : returnCreate env (returnResult s.limit f.isCreate
            (storageCharged f.isCreate r)) with
        | mk r₃ kept =>
          rw [hcreate] at hfr hcommit
          have hkept : kept = true := hcommit.2
          subst hkept
          exact (congrArg Prod.snd hfr).symm
      | init hp' | stopped hp' | resumed hp' | op hp' =>
        rw [hp] at hp'
        cases hp'
      | opened hp' | hand hp' | insert hp' | finish hp' =>
        rw [hp] at hp'
        cases hp'

theorem State.Left.journal {committed : Option (Bytes × Bool)} (hsound : Sound env s)
    (h : s.Left committed) (hr : Run.run (MegaEvm.step env) s es = some s') :
    s'.journal = s.journal := by
  have hinv : (Sound env s' ∧ s'.Left committed) ∧ s'.journal = s.journal := by
    refine Run.invariant'
      (I := fun m => (Sound env m ∧ m.Left committed) ∧ m.journal = s.journal) ?_
      ⟨⟨hsound, h⟩, rfl⟩ hr
    intro m e m' ⟨⟨hm, hl⟩, hj⟩ hs
    refine ⟨⟨hm.step hs, hl.step hm hs⟩, ?_⟩
    obtain ⟨hf, q, hend, -⟩ := hl
    cases hend with
    | result hq => rw [of_step_result hq hs, ← hj]; rfl
    | handed hq => rw [of_step_handed hq hs, insertResult_nil env q hf, ← hj]
    | last hq => rw [of_step_last hq hs, ← hj]; rfl
    | done hq =>
      rw [of_step_done hq] at hs
      cases hs
  exact hinv.2

theorem commitState_journal {m : State} (hdep : env.isDeposit = false) (hsound : Sound env s)
    (h : s.Creating ∨ s.Left none) (hr : Run.run (step env) s es = some s')
    (hm : commitState env s es = some m) :
    ∃ f, m.frames = [f] ∧ s'.journal = .codeChange f.target :: m.journal := by
  induction es generalizing s with
  | nil => cases hm
  | cons e es ih =>
    obtain ⟨s₁, hs₁, hrest⟩ := Run.run_cons.1 hr
    have hnext := hsound.step hs₁
    cases hc : committedCode env s with
    | none =>
      simp only [commitState, hc, Option.isSome_none, Bool.false_eq_true, if_false, hs₁,
        Option.bind_some] at hm
      rcases h with hopen | hleft
      · rcases hopen.step hdep hsound hs₁ with ⟨-, hopen'⟩ | hleft'
        · exact ih hnext (.inl hopen') hrest hm
        · rw [hc] at hleft'
          exact ih hnext (.inr hleft') hrest hm
      · exact ih hnext (.inr (hleft.step hsound hs₁)) hrest hm
    | some code =>
      simp only [commitState, hc, Option.isSome_some, if_true, Option.some.injEq] at hm
      subst hm
      obtain ⟨f, hf, hj⟩ := committed_journal hc hs₁
      have hleft : s₁.Left (some (code, !noLateExceed env s .tau)) := by
        rcases h with hopen | hleft
        · rcases hopen.step hdep hsound hs₁ with ⟨hnone, -⟩ | hleft
          · rw [hc] at hnone
            cases hnone
          · rwa [hc] at hleft
        · rw [hleft.1] at hf
          cases hf
      exact ⟨f, hf, (hleft.journal hnext hrest).trans hj⟩

theorem creating_start {ev : StartEvent} (hk : env.tx.kind = .create)
    (hstart : start env ev = some s) : s.Creating ∨ s.Left none := by
  unfold start at hstart
  split at hstart
  · cases hstart
  · simp only [Option.map_eq_some_iff] at hstart
    obtain ⟨storageGas, -, rfl⟩ := hstart
    split
    · exact .inr ⟨rfl, _, .done rfl, rfl, rfl⟩
    · left
      refine ⟨trivial, trivial, fun _ => ?_⟩
      rw [firstFrameInput, hk]
      rfl

/-- A create ends as a success that deployed its code, as a failure that left
nothing, or as one that the limits found too late. -/
theorem concluded_of_create {ev : StartEvent} (hdep : env.isDeposit = false)
    (hk : env.tx.kind = .create) (hstart : start env ev = some s₀)
    (hr : Run.run (step env) s₀ es = some s) (hp : s.phase = .done p) :
    Concluded (deployment env s₀ es) s p := by
  have hsound := sound_start hstart
  have hleft : s.Left (deployment env s₀ es) := by
    rcases creating_start hk hstart with hopen | hleft
    · exact hopen.run hdep hsound hr hp
    · rw [deployment_left hsound hleft]
      exact hleft.run hsound hr
  obtain ⟨-, q, hend, hcon⟩ := hleft
  cases hend with
  | result hq | handed hq | last hq =>
    rw [hp] at hq
    cases hq
  | done hq =>
    rw [hp] at hq
    cases hq
    exact hcon

end Run

end MegaEvm
