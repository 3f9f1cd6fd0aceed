import MegaEvm.FrameInvariant
import MegaEvm.InstructionGas

/-!
# Failed frames and the journal

The frame loop reverts a frame's changes on the result it sees itself. A limit
that turns an ok result into a failure after that leaves the changes in the
journal. The two places that record compute gas so late are the gas a precompile
used and the gas of a code deposit; and a keyless deployment's state is in no
journal entry at all. While none of these exceeds a limit, a failed frame leaves
the journal as it was at its checkpoint.
-/

set_option autoImplicit false

namespace MegaEvm

open AdditionalLimit

variable {env : Env} {s s' : State} {p : Pending}

section Stack

/-- Every open frame's checkpoint is where the journal was when it was opened. -/
def Stacked : List Frame → List JournalEntry → Prop
  | [], _ => True
  | f :: rest, journal =>
    f.opened.length = f.checkpoint ∧ f.opened <:+ journal ∧ Stacked rest f.opened

theorem Stacked.mono {frames : List Frame} {j j' : List JournalEntry} (h : Stacked frames j)
    (hj : j <:+ j') : Stacked frames j' := by
  cases frames with
  | nil => trivial
  | cons f rest => exact ⟨h.1, h.2.1.trans hj, h.2.2⟩

theorem Stacked.checkpointRevert {f : Frame} {rest : List Frame} {j : List JournalEntry}
    (h : Stacked (f :: rest) j) : checkpointRevert j f.checkpoint = f.opened := by
  obtain ⟨hlen, ⟨t, rfl⟩, -⟩ := h
  rw [← hlen]
  exact checkpointRevert_append t f.opened

theorem Stacked.processed {f : Frame} {rest : List Frame} {j j' : List JournalEntry}
    {r : InterpreterResult} {fr : FrameResult} (h : Stacked (f :: rest) j)
    (hpr : Processed f r j fr j') : f.opened <:+ j' := by
  have hrevert := h.checkpointRevert
  cases hpr with
  | call => exact h.2.1
  | callReverted | createReverted => exact ⟨[], hrevert.symm⟩
  | create => exact h.2.1.trans (List.suffix_cons _ _)

theorem stacked_interpStep {f : Frame} {rest : List Frame} {ev : OpEvent} (hr : Ready s.limit)
    (hf : s.frames = f :: rest) (h : Stacked s.frames s.journal) :
    Stacked (interpStep env s f rest ev).frames (interpStep env s f rest ev).journal := by
  have heff : Effect ev (opGas env ev (s.ctx f)) (s.ctx f) (instruction env ev (s.ctx f)) :=
    effect_instruction hr.within rfl
  rw [hf] at h
  exact h.mono heff.journal

theorem stacked_insertResult {p : Pending} {f : Frame} {rest : List Frame}
    (hf : s.frames = f :: rest) (ho : p.opened <:+ s.journal) (h : Stacked s.frames p.opened) :
    Stacked (insertResult env s p).frames (insertResult env s p).journal := by
  have hmono := h.mono ho
  rw [hf] at hmono
  rw [insertResult_cons env p hf]
  unfold creditGas
  split
  · exact hmono
  · exact hmono

end Stack

/-- The step finds no exceed after it committed changes: not when it records the
gas of a precompile that succeeded or of a code deposit, and no keyless
deployment completes while an exceed is flagged. -/
def noLateExceed (env : Env) (s : State) : Event → Bool
  | .init ev =>
    match s.phase with
    | .init (.call i) =>
      let l := (detected env s (.call i)).limit.openFrame (.call i) ev.targetEmpty
      (match ev.call with
        | .precompile (.ok used _) => l.exceeded || !(l.recordComputeGas used).exceeded
        | _ => true) &&
      (match ev.keyless with
        | .completed .. => !isKeylessCall env s i || !s.limit.exceeded
        | .rejected _ => true)
    | _ => true
  | .tau =>
    match s.phase, s.frames with
    | .action (.return r), f :: _ =>
      let l := returnLimit s.limit f.isCreate (storageCharged f.isCreate r)
      let r := returnResult s.limit f.isCreate (storageCharged f.isCreate r)
      !(f.isCreate && (returnCreate env r).2) ||
        !(l.recordComputeGas (constants.CODEDEPOSIT * r.output.length)).exceeded
    | _, _ => true
  | .op _ => true

section Guard

variable {ev : InitEvent} {i : CallInputs}

theorem noLateExceed_precompile {used : ℕ} {output : Bytes} (hp : s.phase = .init (.call i))
    (hg : noLateExceed env s (.init ev) = true) (hc : ev.call = .precompile (.ok used output))
    (hx : ((detected env s (.call i)).limit.openFrame (.call i) ev.targetEmpty).exceeded =
      false) :
    (((detected env s (.call i)).limit.openFrame (.call i) ev.targetEmpty).recordComputeGas
      used).exceeded = false := by
  simp only [noLateExceed, hp, hc, hx, Bool.and_eq_true, Bool.false_or, Bool.not_eq_true'] at hg
  exact hg.1

theorem noLateExceed_keyless {output : Bytes} {signer : Address} {nonce : ℕ}
    (hp : s.phase = .init (.call i)) (hg : noLateExceed env s (.init ev) = true)
    (hk : ev.keyless = .completed output signer nonce) (hi : isKeylessCall env s i = true) :
    s.limit.exceeded = false := by
  simp only [noLateExceed, hp, hk, hi, Bool.and_eq_true, Bool.not_true, Bool.false_or,
    Bool.not_eq_true'] at hg
  exact hg.2

theorem noLateExceed_deposit {f : Frame} {rest : List Frame} {r r₂ : InterpreterResult}
    (hp : s.phase = .action (.return r)) (hf : s.frames = f :: rest)
    (hr : r₂ = returnResult s.limit f.isCreate (storageCharged f.isCreate r))
    (hg : noLateExceed env s .tau = true) (hc : f.isCreate = true)
    (hd : (returnCreate env r₂).2 = true) :
    ((returnLimit s.limit f.isCreate (storageCharged f.isCreate r)).recordComputeGas
      (constants.CODEDEPOSIT * r₂.output.length)).exceeded = false := by
  rw [hc] at hr
  simp only [noLateExceed, hp, hf, hc, ← hr, hd, Bool.and_self, Bool.not_true, Bool.false_or,
    Bool.not_eq_true'] at hg
  rw [hc]
  exact hg

end Guard

structure Pended (s : State) (p : Pending) : Prop where
  opened : p.opened <:+ s.journal
  stacked : Stacked s.frames p.opened
  reverted : p.result.instructionResult.isOk = false → s.journal = p.opened

def State.Journaled (s : State) : Prop :=
  match s.phase with
  | .init _ | .run | .interp | .action _ => Stacked s.frames s.journal
  | .result p => Pended s p ∧ (s.limit.exceeded = true → s.journal = p.opened)
  | .handed p => Pended s p
  | .last p => Pended s p ∧
      (s.limit.Aligned 1 → s.limit.exceeded = true → s.journal = p.opened)
  | .done p => p.result.instructionResult.isOk = false → s.journal = p.opened

section Step

theorem journaled_answer (hp : Pended s p)
    (hx : s.limit.exceeded = true → s.journal = p.opened) : (s.answer p).Journaled := by
  unfold State.answer State.Journaled
  by_cases hf : s.frames.isEmpty = true
  · simp only [hf, if_true]
    exact ⟨⟨hp.opened, hp.stacked, hp.reverted⟩, fun _ => hx⟩
  · simp only [hf, Bool.false_eq_true, if_false]
    exact ⟨⟨hp.opened, hp.stacked, hp.reverted⟩, hx⟩

theorem pended_same {r : FrameResult} (h : Stacked s.frames s.journal) :
    Pended s ⟨r, s.journal⟩ := ⟨List.suffix_rfl, h, fun _ => rfl⟩

theorem journaled_keyless {i : CallInputs} {ev : InitEvent} {s₁ : State} {r : FrameResult}
    (hp : s.phase = .init (.call i)) (hf : s.frames = []) (hi : isKeylessCall env s i = true)
    (hg : noLateExceed env s (.init ev) = true) (hk : KeylessCall env s i ev.keyless s₁ r) :
    ({ s₁ with limit := s₁.limit.pushEmptyFrame }.answer ⟨r, s.journal⟩).Journaled := by
  have hstack : ∀ j : List JournalEntry, Stacked s.frames j := by
    intro j
    rw [hf]
    trivial
  cases hk with
  | outOfGas | halted | insufficient | rejected =>
    exact journaled_answer ⟨List.suffix_rfl, hstack _, fun _ => rfl⟩ fun _ => rfl
  | completed output signer nonce ho hgas hx =>
    refine journaled_answer ⟨List.suffix_cons _ _, hstack _, fun hno => by cases hno⟩ fun hex => ?_
    have hclear := noLateExceed_keyless hp hg ho hi
    have hlim : (keylessLimit env s.limit).exceeded = false := by
      by_cases h3 : env.spec.isEnabled .rex3 = true
      · exact hx h3
      · simpa [keylessLimit, h3] using hclear
    have hex' : (keylessLimit env s.limit).exceeded = true := hex
    rw [hlim] at hex'
    cases hex'

theorem journaled_init {input : FrameInput} {ev : InitEvent} (hp : s.phase = .init input)
    (hs : Stacked s.frames s.journal) (hg : noLateExceed env s (.init ev) = true)
    (h : InitStep env s input ev s') : s'.Journaled := by
  cases h with
  | keyless hi hf h2 hk =>
    subst hi
    exact journaled_keyless hp hf h2 hg hk
  | control v hi h4 hgas hr => exact journaled_answer (pended_same hs) fun _ => rfl
  | refused hd hx => exact journaled_answer (pended_same hs) fun _ => rfl
  | @answered v l r opened journal nonce hd hx hin =>
    refine journaled_answer ⟨hin.grown, hs.mono hin.above, hin.reverted⟩ fun hex => ?_
    by_cases hok : r.instructionResult.isOk = true
    · have hlate : ((l.openFrame input ev.targetEmpty).recordComputeGas
          r.gas.spent).exceeded = false := by
        rcases hin.charged hok with hzero | ⟨i, output, rfl, hpre⟩
        · rw [hzero, recordComputeGas_zero, openFrame_checkLimit]
          exact hx
        · rw [← hd.limit] at hx ⊢
          exact noLateExceed_precompile hp hg hpre hx
      have hex' : (((l.openFrame input ev.targetEmpty).recordComputeGas
          r.gas.spent).tryRescueGas r.gas).exceeded = true := hex
      rw [exceeded_tryRescueGas, recordComputeGas_checkLimit, hlate] at hex'
      cases hex'
    · exact hin.reverted (by simpa using hok)
  | @entered v l target created opened nonce hd hx hop hn =>
    exact ⟨rfl, List.suffix_append _ _, hs.mono hop⟩

theorem committed_within {f : Frame} {rest : List Frame} {r r₂ : InterpreterResult}
    {fr : FrameResult} {journal' : List JournalEntry} (hp : s.phase = .action (.return r))
    (hf : s.frames = f :: rest)
    (hr : r₂ = returnResult s.limit f.isCreate (storageCharged f.isCreate r))
    (hfr : processReturn env f r₂ s.journal = (fr, journal'))
    (hpr : Processed f r₂ s.journal fr journal') (hg : noLateExceed env s .tau = true)
    (hret : Returning (returnLimit s.limit f.isCreate (storageCharged f.isCreate r)) r₂)
    (hok : fr.instructionResult.isOk = true) :
    (depositLimit (returnLimit s.limit f.isCreate (storageCharged f.isCreate r))
      r₂ fr).exceeded = false := by
  have hcommit := hret.committed (hpr.isOk hok)
  cases hpr with
  | call hcall hr₂ =>
    have hzero : depositGas r₂ ⟨false, r₂⟩ = 0 := Nat.sub_self _
    rw [depositLimit, hzero, recordComputeGas_zero,
      checkLimit_eq_self (exceeded_eq_false.1 hcommit.1) hcommit.2]
    exact hcommit.1
  | callReverted hcall hr₂ => exact absurd (hr₂.symm.trans hok) (by simp)
  | createReverted hcreate hr₂ => exact absurd (hr₂.symm.trans hok) (by simp)
  | create hcreate hr₂ hgas =>
    have hcommitted : (returnCreate env r₂).2 = true := by
      by_contra hno
      have hrev := returnCreate_reverted env (by simpa using hno)
      have hres : (processReturn env f r₂ s.journal).1.instructionResult =
          (returnCreate env r₂).1.result := by
        unfold processReturn
        rw [if_pos hcreate]
        cases returnCreate env r₂ with
        | mk a b => cases b <;> rfl
      rw [hfr] at hres
      rw [← hres] at hrev
      cases hrev
    have hlate := noLateExceed_deposit hp hf hr hg hcreate hcommitted
    have hdiff : depositGas r₂ ⟨true, { r₂ with
        result := .return
        gas := { r₂.gas with
          remaining := r₂.gas.remaining - constants.CODEDEPOSIT * r₂.output.length } }⟩ =
        constants.CODEDEPOSIT * r₂.output.length := Nat.sub_sub_self hgas
    rw [depositLimit, hdiff]
    exact hlate

theorem journaled_returned {f : Frame} {rest : List Frame} {r r₂ : InterpreterResult}
    {fr : FrameResult} {journal' : List JournalEntry} (hsound : Sound env s)
    (hp : s.phase = .action (.return r)) (hf : s.frames = f :: rest)
    (hr : r₂ = returnResult s.limit f.isCreate (storageCharged f.isCreate r))
    (hfr : processReturn env f r₂ s.journal = (fr, journal'))
    (hpr : Processed f r₂ s.journal fr journal') (hg : noLateExceed env s .tau = true)
    (hs : Stacked s.frames s.journal) :
    State.Journaled { s with
      frames := rest
      limit := (depositLimit (returnLimit s.limit f.isCreate (storageCharged f.isCreate r))
        r₂ fr).tryRescueGas fr.gas
      journal := journal'
      phase := .result ⟨depositResult
        (returnLimit s.limit f.isCreate (storageCharged f.isCreate r)) r₂ fr, f.opened⟩ } := by
  have hframed := hsound.framed
  simp only [State.Framed, hp] at hframed
  have hret : Returning (returnLimit s.limit f.isCreate (storageCharged f.isCreate r)) r₂ := by
    rw [hr]
    exact hframed.2.returning f.isCreate
  have hlate := committed_within hp hf hr hfr hpr hg hret
  rw [hf] at hs
  have hrevert := hs.checkpointRevert
  have hnot : fr.instructionResult.isOk = false → journal' = f.opened := by
    intro hno
    cases hpr with
    | call hcall hr₂ => exact absurd (hr₂.symm.trans hno) (by simp)
    | callReverted => exact hrevert
    | create => cases hno
    | createReverted => exact hrevert
  refine ⟨⟨hs.processed hpr, hs.2.2, fun hno => ?_⟩, fun hex => ?_⟩
  · refine hnot ?_
    by_contra hok
    have hw := hlate (by simpa using hok)
    have hsame : depositResult (returnLimit s.limit f.isCreate (storageCharged f.isCreate r))
        r₂ fr = fr := by simp [depositResult, hw]
    rw [hsame] at hno
    exact hok hno
  · refine hnot ?_
    by_contra hok
    have hw := hlate (by simpa using hok)
    have hex' : ((depositLimit (returnLimit s.limit f.isCreate (storageCharged f.isCreate r))
        r₂ fr).tryRescueGas fr.gas).exceeded = true := hex
    rw [exceeded_tryRescueGas, depositLimit, recordComputeGas_checkLimit, ← depositLimit, hw] at hex'
    cases hex'

theorem Answered.reverted {l : AdditionalLimit} {n : ℕ} {r : FrameResult} {b : Bool} {P : Prop}
    (h : Answered l r.instructionResult) (ha : l.Aligned (n + 1))
    (hres : r.instructionResult.isOk = false → P) (hx : l.exceeded = true → P)
    (hno : (l.beforeFrameReturnResult b r).2.instructionResult.isOk = false) : P := by
  by_cases hex : l.exceeded = true
  · exact hx hex
  · have hf : l.exceeded = false := by simpa using hex
    have hnot : ¬ l.TxExceeded := fun ht => ht.not_within hf
    have hclose := closeFrame_within (h.restorable hnot) (h.settled hf) ha hf
      r.instructionResult.isOk
    rcases beforeFrameReturnResult_cases (l := l) b r with
      ⟨hc, hb⟩ | ⟨hd, hc, hb⟩ | ⟨hd, hc, hb⟩ | ⟨hd, hc, hb⟩
    · rw [hb] at hno
      exact hres hno
    · rw [hclose] at hc
      cases hc
    · have hcx := LimitCheck.exceeded_of_frameLocal hc
      rw [← exceeded, hclose] at hcx
      cases hcx
    · exact absurd hclose fun hw => hc.not_within hw

theorem Sound.journaled_step {e : Event} (hsound : Sound env s) (hj : s.Journaled)
    (hg : noLateExceed env s e = true) (hs : MegaEvm.step env s e = some s') : s'.Journaled := by
  have hframed := hsound.framed
  unfold State.Journaled at hj
  cases step_spec hs with
  | init hp hi =>
    simp only [hp] at hj
    exact journaled_init hp hj hg hi
  | stopped hp hf hx =>
    simp only [hp] at hj
    exact hj
  | resumed hp hf hx hset =>
    simp only [hp] at hj
    exact hj
  | @op f rest ev hp hf =>
    simp only [hp] at hj
    simp only [State.Framed, hp] at hframed
    have hnext := @stacked_interpStep env s f rest ev hframed.2 hf hj
    cases hact : (instruction env ev (s.ctx f)).action with
    | none =>
      simp only [State.Journaled, interpStep, hact]
      exact hnext
    | some a =>
      simp only [State.Journaled, interpStep, hact]
      exact hnext
  | opened hp hf =>
    simp only [hp] at hj
    exact hj
  | returned hp hf hr hfr hpr =>
    simp only [hp] at hj
    exact journaled_returned hsound hp hf hr hfr hpr hg hj
  | hand hp =>
    simp only [hp] at hj
    simp only [State.Framed, hp] at hframed
    exact ⟨hj.1.opened, hj.1.stacked, fun hno =>
      hframed.2.reverted hframed.1 hj.1.reverted hj.2 hno⟩
  | @insert p hp hn =>
    simp only [hp] at hj
    simp only [State.Framed, hp] at hframed
    cases hf : s.frames with
    | nil =>
      rw [insertResult_nil env p hf]
      refine ⟨⟨hj.opened, hj.stacked, hj.reverted⟩, fun ha => ?_⟩
      rw [hf] at hframed
      have h0 := hframed.1 .dataSize
      rw [ha .dataSize] at h0
      cases h0
    | cons f rest =>
      have hst := @stacked_insertResult env s p f rest hf hj.opened hj.stacked
      rw [insertResult_cons env p hf] at hst ⊢
      exact hst
  | @finish p hp hn =>
    simp only [hp] at hj
    simp only [State.Framed, hp] at hframed
    intro hno
    have hno' : (s.limit.beforeFrameReturnResult true p.result).2.instructionResult.isOk =
      false := hno
    rcases hframed.2 with ⟨ha, hans⟩ | ⟨ha, -⟩
    · exact hans.reverted ha hj.1.reverted (hj.2 ha) hno'
    · rw [beforeFrameReturnResult_duplicate ha] at hno'
      exact hj.1.reverted hno'

theorem journaled_start {ev : StartEvent} (h : start env ev = some s) : s.Journaled := by
  unfold start at h
  split at h
  · cases h
  · simp only [Option.map_eq_some_iff] at h
    obtain ⟨storageGas, -, rfl⟩ := h
    split
    · exact fun _ => rfl
    · trivial

end Step

/-- In a run without a late exceed every frame that fails, for its parent or for
the transaction, leaves the journal as it was at the frame's checkpoint. -/
theorem failed_frame_reverted {ev : StartEvent} {es : List Event} {s₀ : State}
    (hstart : start env ev = some s₀)
    (hg : Run.Guarded (step env) (fun s e => noLateExceed env s e = true) s₀ es)
    (hr : Run.run (step env) s₀ es = some s) (hp : s.phase = .handed p ∨ s.phase = .done p)
    (hno : p.result.instructionResult.isOk = false) : s.journal = p.opened := by
  have hinv : Sound env s ∧ s.Journaled := by
    refine Run.invariant (I := fun s => Sound env s ∧ s.Journaled) ?_
      ⟨sound_start hstart, journaled_start hstart⟩ hg hr
    intro s e s' ⟨hsound, hj⟩ hok hs
    exact ⟨hsound.step hs, hsound.journaled_step hj hok hs⟩
  have hj := hinv.2
  unfold State.Journaled at hj
  rcases hp with hp | hp
  · simp only [hp] at hj
    exact hj.reverted hno
  · simp only [hp] at hj
    exact hj hno

section Late

/-- A call with a value to a precompile, under a compute gas limit of 60000. -/
def lateEnv : Env := sampleEnv .rex3 (.call 3) .other 1000000

def lateStart : StartEvent :=
  sampleStart { EvmTxRuntimeLimits.rex3 with txComputeGasLimit := 60000 } (by decide)

def pairingCall : OpEvent where
  opcode := .call
  stack := [500000, 8, 1, 0, 0, 0, 0]
  slot := none
  targetEmpty := some false
  storageGas := none
  hostCalled := true
  inner := .newFrame 11600 500000 (.call ⟨.call, 3, 8, .transfer 1, .other, 0⟩) []

def precompileEvents (outcome : PrecompileOutcome) : List Event :=
  [.init sampleInit, .tau] ++ samplePushes ++
    [.op pairingCall, .tau,
      .init { sampleInit with call := .precompile outcome, writes := [.balanceTransfer 3 8 1] },
      .tau]

/-- The pairing of no points costs 45000 gas and is 1. -/
def pairingOk : PrecompileOutcome := .ok 45000 (abiWord 1)

/-- A precompile that runs out of gas is reverted. -/
theorem failed_frame_reverted_precompile :
    ∃ s p, Execution lateEnv lateStart (precompileEvents .oog) s ∧ s.phase = .handed p ∧
      s.journal = p.opened := by
  have hrun : (execute lateEnv lateStart (precompileEvents .oog)).map (fun s => s.phase) =
      some (.handed ⟨callResult .precompileOOG [] (.new 502300), []⟩) := by decide
  obtain ⟨s, hs, hp⟩ := exists_execution hrun
  obtain ⟨s₀, hstart, hr⟩ := hs
  have hchecks : (start lateEnv lateStart).map
      (fun s => Run.checks (step lateEnv) (noLateExceed lateEnv) s (precompileEvents .oog)) =
      some true := by decide
  rw [hstart, Option.map_some, Option.some.injEq] at hchecks
  exact ⟨s, _, ⟨s₀, hstart, hr⟩, hp,
    failed_frame_reverted hstart (Run.guarded_of_checks hchecks) hr (.inl hp) rfl⟩

/-- A precompile that succeeds is committed before its gas is found to exceed
the compute gas limit: its frame fails, and keeps the transfer. -/
theorem late_exceed_not_reverted :
    ¬ ∀ env ev es s p, Execution env ev es s → (s.phase = .handed p ∨ s.phase = .done p) →
      p.result.instructionResult.isOk = false → s.journal = p.opened := by
  intro h
  have hrun : (execute lateEnv lateStart (precompileEvents pairingOk)).map
      (fun s => (s.phase, s.journal)) =
      some (.handed ⟨callResult .outOfGas [] ⟨502300, 457300⟩, []⟩,
        [.balanceTransfer 3 8 1]) := by decide
  obtain ⟨s, hs, hf⟩ := exists_execution hrun
  have hp : s.phase = .handed _ := (Prod.ext_iff.1 hf).1
  have hj : s.journal = _ := (Prod.ext_iff.1 hf).2
  have hrev := h lateEnv lateStart _ s _ hs (.inl hp) rfl
  rw [hj] at hrev
  cases hrev

end Late

end MegaEvm
