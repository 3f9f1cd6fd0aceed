import MegaEvm.FrameInvariant

/-!
# A compute gas exceed ends in a halt

Once an exceed of a transaction limit is flagged it stays flagged, and no frame
runs an instruction any more. A transaction whose compute gas ends above the
effective limit ends in a halt, unless its first frame was stopped for its own
compute gas budget: that exceed is absorbed as a revert, and the check after it
comes too late to change the result.
-/

set_option autoImplicit false

namespace MegaEvm

open AdditionalLimit

variable {env : Env} {s s' : State} {l : AdditionalLimit}

/-- The first frame, or what was answered in its place, is being ended for an
exceed of its own compute gas budget. -/
def firstFrameComputeExceed (s : State) : Bool :=
  s.frames.isEmpty && match s.limit.hasExceededLimit with
    | .exceedsLimit .computeGas _ _ frameLocal => frameLocal
    | _ => false

def Event.isOp : Event → Bool
  | .op _ => true
  | _ => false

section Flagged

theorem txExceeded_keylessCall {i : CallInputs} {outcome : KeylessOutcome} {s₁ : State}
    {r : FrameResult} (h : s.limit.TxExceeded) (hk : KeylessCall env s i outcome s₁ r) :
    s₁.limit.TxExceeded := by
  cases hk with
  | outOfGas => exact h
  | halted | insufficient | rejected | completed => exact txExceeded_keylessLimit h

theorem txExceeded_init {input : FrameInput} {ev : InitEvent} (h : s.limit.TxExceeded)
    (hi : InitStep env s input ev s') : s'.limit.TxExceeded := by
  have hopen : ∀ {l : AdditionalLimit}, Detected env s input l →
      (l.openFrame input ev.targetEmpty).TxExceeded := fun hd =>
    txExceeded_openFrame ((txExceeded_congr hd.flag).2 h)
  cases hi with
  | keyless hi hf h2 hk =>
    have hs₁ := txExceeded_keylessCall h hk
    exact hs₁
  | control => exact h
  | refused hd hx => exact txExceeded_tryRescueGas.2 (txExceeded_checkLimit (hopen hd))
  | answered hd hx => exact absurd hx fun hx => (hopen hd).not_within hx
  | entered hd hx => exact absurd hx fun hx => (hopen hd).not_within hx

theorem txExceeded_returned {f : Frame} {r r₂ : InterpreterResult} {fr : FrameResult}
    (h : l.TxExceeded) :
    ((depositLimit (returnLimit l f.isCreate (storageCharged f.isCreate r))
      r₂ fr).tryRescueGas fr.gas).TxExceeded := by
  have hreturn : (returnLimit l f.isCreate (storageCharged f.isCreate r)).TxExceeded :=
    (txExceeded_congr (returnLimit_sticky h.1 _)).2 h
  exact txExceeded_tryRescueGas.2 (txExceeded_checkLimit (txExceeded_recordComputeGas hreturn))

/-- A flagged exceed of a transaction limit stays, and no instruction runs. -/
theorem Sound.txExceeded_step {e : Event} (hsound : Sound env s) (h : s.limit.TxExceeded)
    (hs : MegaEvm.step env s e = some s') : s'.limit.TxExceeded ∧ e.isOp = false := by
  have hframed := hsound.framed
  cases step_spec hs with
  | init hp hi => exact ⟨txExceeded_init h hi, rfl⟩
  | stopped => exact ⟨txExceeded_checkLimit h, rfl⟩
  | resumed hp hf hx => exact absurd hx fun hx => (txExceeded_checkLimit h).not_within hx
  | op hp hf =>
    simp only [State.Framed, hp] at hframed
    exact absurd hframed.2.within fun hx => h.not_within hx
  | opened => exact ⟨h, rfl⟩
  | returned => exact ⟨txExceeded_returned h, rfl⟩
  | hand | finish => exact ⟨txExceeded_beforeFrameReturnResult h, rfl⟩
  | @insert p hp hn =>
    refine ⟨?_, rfl⟩
    cases hf : s.frames with
    | nil =>
      rw [insertResult_nil env p hf]
      exact h
    | cons f rest =>
      rw [insertResult_cons env p hf]
      exact h

theorem Sound.txExceeded_run {es : List Event} (hsound : Sound env s) (h : s.limit.TxExceeded)
    (hr : Run.run (MegaEvm.step env) s es = some s') :
    s'.limit.TxExceeded ∧ ∀ e ∈ es, e.isOp = false := by
  induction es generalizing s with
  | nil =>
    obtain rfl : s = s' := by simpa [Run.run] using hr
    exact ⟨h, by simp⟩
  | cons e es ih =>
    obtain ⟨m, hm, hr⟩ := Run.run_cons.1 hr
    obtain ⟨hx, he⟩ := hsound.txExceeded_step h hm
    obtain ⟨hx', hes⟩ := ih (hsound.step hm) hx hr
    refine ⟨hx', fun e' he' => ?_⟩
    rcases List.mem_cons.1 he' with rfl | he'
    · exact he
    · exact hes e' he'

end Flagged

section Final

def HaltsAbove (l : AdditionalLimit) (r : InstructionResult) : Prop :=
  ¬ l.ComputeClear → r.isError = true

def State.Halting (s : State) : Prop :=
  match s.phase with
  | .handed p => s.frames = [] → HaltsAbove s.limit p.result.instructionResult
  | .last p => s.limit.Aligned 0 → HaltsAbove s.limit p.result.instructionResult
  | .done p => HaltsAbove s.limit p.result.instructionResult
  | _ => True

/-- Closing the first frame leaves a halt, or compute gas within the limit. -/
theorem Answered.haltsAbove {r : FrameResult} {b : Bool}
    (h : Answered l r.instructionResult) (ha : l.Aligned 1)
    (hc : ∀ lim used, l.hasExceededLimit ≠ .exceedsLimit .computeGas lim used true) :
    HaltsAbove (l.beforeFrameReturnResult b r).1
      (l.beforeFrameReturnResult b r).2.instructionResult := by
  intro hclear
  have hnot : ¬ (l.closeFrame r.instructionResult.isOk).TxExceeded → l.Restorable := by
    intro hn
    exact h.restorable fun ht => hn (txExceeded_closeFrame ht)
  have habove : ¬ (l.closeFrame r.instructionResult.isOk).TxExceeded →
      (l.closeFrame r.instructionResult.isOk).ComputeClear → l.ComputeClear := by
    intro hn
    exact (computeClear_closeFrame (hnot hn) _).1
  rcases beforeFrameReturnResult_cases (l := l) b r with
    ⟨hx, hb⟩ | ⟨hd, hx, hb⟩ | ⟨hd, hx, hb⟩ | ⟨hd, hx, hb⟩
  · have hn : ¬ (l.closeFrame r.instructionResult.isOk).TxExceeded := fun ht => ht.not_within hx
    have hf : l.exceeded = false := by
      by_contra hl
      have hsticky : (l.closeFrame r.instructionResult.isOk).hasExceededLimit =
          l.hasExceededLimit := closeFrame_sticky _ (by simpa using hl)
      rw [exceeded, hsticky] at hx
      exact hl hx
    rw [hb] at hclear
    exact absurd ((computeClear_closeFrame (hnot hn) _).2 (h.settled hf).computeGas.tx) hclear
  · rw [not_duplicate ha] at hd
    cases hd
  · have hn : ¬ (l.closeFrame r.instructionResult.isOk).TxExceeded := by
      intro ht
      rw [ht.2] at hx
      cases hx
    have hl : l.exceeded = true := by
      by_contra hf
      have hf' : l.exceeded = false := by simpa using hf
      have hw := closeFrame_within (hnot hn) (h.settled hf') ha hf' r.instructionResult.isOk
      rw [exceeded, LimitCheck.exceeded_of_frameLocal hx] at hw
      cases hw
    have hsticky := closeFrame_sticky r.instructionResult.isOk hl
    have hunmasked : l.ComputeClear := by
      cases hflag : l.hasExceededLimit with
      | withinLimit =>
        rw [exceeded, hflag] at hl
        cases hl
      | exceedsLimit k lim used frameLocal =>
        rw [hsticky, hflag] at hx
        obtain rfl : frameLocal = true := by simpa using hx
        refine h.unmasked k lim used hflag ?_
        rintro rfl
        exact hc lim used hflag
    rw [hb] at hclear
    exact absurd ((computeClear_closeFrame (hnot hn) _).2 hunmasked) hclear
  · rw [hb]
    rfl

theorem computeFlag_ne (hf : s.frames = []) (hg : firstFrameComputeExceed s = false)
    (lim used : ℕ) : s.limit.hasExceededLimit ≠ .exceedsLimit .computeGas lim used true := by
  intro hflag
  simp [firstFrameComputeExceed, hf, hflag] at hg

theorem halting_init {input : FrameInput} {ev : InitEvent}
    (ha : s.limit.Aligned s.frames.length) (h : InitStep env s input ev s') : s'.Halting := by
  have hopen : ¬ s'.limit.Aligned 0 := not_aligned_zero (h.aligned ha)
  unfold State.Halting
  rcases h.phase_cases with hp | ⟨p, hp | hp⟩
  · rw [hp]
    trivial
  · rw [hp]
    trivial
  · rw [hp]
    exact fun h0 => absurd h0 hopen

theorem Sound.halting_step {e : Event} (hsound : Sound env s) (hh : s.Halting)
    (hg : firstFrameComputeExceed s = false) (hs : MegaEvm.step env s e = some s') :
    s'.Halting := by
  have hframed := hsound.framed
  unfold State.Halting at hh
  cases step_spec hs with
  | init hp hi =>
    simp only [State.Framed, hp] at hframed
    exact halting_init hframed.1 hi
  | stopped | resumed | opened | returned => trivial
  | @op f rest ev hp hf =>
    cases hact : (instruction env ev (s.ctx f)).action with
    | none => simp only [State.Halting, interpStep, hact]
    | some a => simp only [State.Halting, interpStep, hact]
  | @hand p hp =>
    simp only [State.Framed, hp] at hframed
    intro hf
    have hf' : s.frames = [] := hf
    rw [hf'] at hframed
    exact hframed.2.haltsAbove hframed.1 (computeFlag_ne hf' hg)
  | @insert p hp hn =>
    simp only [hp] at hh
    cases hf : s.frames with
    | nil =>
      rw [insertResult_nil env p hf]
      exact fun _ => hh hf
    | cons f rest =>
      rw [insertResult_cons env p hf]
      trivial
  | @finish p hp hn =>
    simp only [State.Framed, hp] at hframed
    simp only [hp] at hh
    show HaltsAbove (lastFrameResult env s p).limit (finalResult env s p).instructionResult
    rw [lastFrameResult_limit, finalResult_instructionResult]
    rcases hframed.2 with ⟨ha, hans⟩ | ⟨ha, -⟩
    · exact hans.haltsAbove ha (computeFlag_ne hframed.1 hg)
    · rw [beforeFrameReturnResult_duplicate ha]
      intro hclear
      refine hh ha ?_
      simpa [ComputeClear] using hclear

theorem halting_start {ev : StartEvent} (h : start env ev = some s) : s.Halting := by
  unfold start at h
  split at h
  · cases h
  · simp only [Option.map_eq_some_iff] at h
    obtain ⟨storageGas, -, rfl⟩ := h
    split
    · exact fun _ => rfl
    · trivial

end Final

/-- A transaction whose first frame is not stopped for its own compute gas
budget ends in a halt when its compute gas is above the effective limit, and no
instruction runs after an exceed of a transaction limit is flagged. -/
theorem compute_exceed_halts {ev : StartEvent} {es : List Event} {s₀ : State}
    (hstart : start env ev = some s₀)
    (hg : Run.Guarded (step env) (fun s _ => firstFrameComputeExceed s = false) s₀ es)
    (hr : Run.run (step env) s₀ es = some s) :
    (∀ p, s.phase = .done p → s.limit.computeGas.txUsage > s.limit.computeGas.txLimit →
      p.result.instructionResult.isError = true) ∧
    (s.limit.TxExceeded → ∀ fs s', Run.run (step env) s fs = some s' →
      ∀ e ∈ fs, e.isOp = false) := by
  have hinv : Sound env s ∧ s.Halting := by
    refine Run.invariant (I := fun s => Sound env s ∧ s.Halting) ?_
      ⟨sound_start hstart, halting_start hstart⟩ hg hr
    intro s e s' ⟨hsound, hh⟩ hok hs
    exact ⟨hsound.step hs, hsound.halting_step hh hok hs⟩
  obtain ⟨hsound, hh⟩ := hinv
  constructor
  · intro p hp habove
    simp only [State.Halting, hp] at hh
    exact hh (Nat.not_le.2 habove)
  · intro hx fs s' hfs
    exact (hsound.txExceeded_run hx hfs).2

section Metered

/-- A call whose first instruction costs more than the compute gas limit. -/
def meteredEnv (spec : MegaSpecId) : Env := sampleEnv spec (.call 3) .other 1000000

def meteredStart : StartEvent :=
  sampleStart { EvmTxRuntimeLimits.rex4 with txComputeGasLimit := 30000 } (by decide)

def meteredEvents : List Event :=
  [.init sampleInit, .tau, .op (samplePlain 40000), .tau, .tau, .tau, .tau]

/-- Without frame budgets the transaction halts. -/
theorem compute_exceed_halts_metered :
    ∃ s p, Execution (meteredEnv .rex3) meteredStart meteredEvents s ∧ s.phase = .done p ∧
      p.result.instructionResult.isError = true := by
  have hrun : (execute (meteredEnv .rex3) meteredStart meteredEvents).map
      (fun s => (s.phase, decide (s.limit.computeGas.txUsage > s.limit.computeGas.txLimit))) =
      some (.done ⟨callResult .outOfGas [] ⟨1000000, 900000⟩, []⟩, true) := by decide
  obtain ⟨s, ⟨s₀, hstart, hr⟩, hf⟩ := exists_execution hrun
  have hp : s.phase = .done _ := (Prod.ext_iff.1 hf).1
  have habove : s.limit.computeGas.txUsage > s.limit.computeGas.txLimit :=
    of_decide_eq_true (Prod.ext_iff.1 hf).2
  have hchecks : (start (meteredEnv .rex3) meteredStart).map (fun s =>
      Run.checks (step (meteredEnv .rex3)) (fun s _ => !firstFrameComputeExceed s) s
        meteredEvents) = some true := by decide
  rw [hstart, Option.map_some, Option.some.injEq] at hchecks
  have hg : Run.Guarded (step (meteredEnv .rex3)) (fun s _ => firstFrameComputeExceed s = false)
      s₀ meteredEvents :=
    (Run.guarded_of_checks hchecks).mono fun _ _ h => by simpa using h
  exact ⟨s, _, ⟨s₀, hstart, hr⟩, hp, (compute_exceed_halts hstart hg hr).1 _ hp habove⟩

/-- With frame budgets the exceed is the first frame's own: it is absorbed, and
the transaction ends as a revert above its limit. -/
theorem compute_exceed_reverts :
    ¬ ∀ env ev es s p, Execution env ev es s → s.phase = .done p →
      s.limit.computeGas.txUsage > s.limit.computeGas.txLimit →
      p.result.instructionResult.isError = true := by
  intro h
  have hrun : (execute (meteredEnv .rex4) meteredStart meteredEvents).map
      (fun s => (s.phase, decide (s.limit.computeGas.txUsage > s.limit.computeGas.txLimit))) =
      some (.done ⟨callResult .revert (LimitCheck.exceedsLimit .computeGas 30000 40000
        true).revertData ⟨1000000, 900000⟩, []⟩, true) := by decide
  obtain ⟨s, hs, hf⟩ := exists_execution hrun
  have hp : s.phase = .done _ := (Prod.ext_iff.1 hf).1
  have habove : s.limit.computeGas.txUsage > s.limit.computeGas.txLimit :=
    of_decide_eq_true (Prod.ext_iff.1 hf).2
  have herror := h (meteredEnv .rex4) meteredStart meteredEvents s _ hs hp habove
  cases herror

end Metered

end MegaEvm
