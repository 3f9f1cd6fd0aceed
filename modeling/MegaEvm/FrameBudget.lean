import MegaEvm.FrameInvariant

/-!
# Frame budgets

With frame budgets on, a frame that hands an ok result to its parent stayed
within the budget of every resource, and a frame-local exceed is absorbed where
the frame whose budget it names is closed.
-/

set_option autoImplicit false

namespace MegaEvm

open AdditionalLimit

variable {env : Env} {s s' : State} {l : AdditionalLimit} {k : LimitKind} {lim used n : ℕ}

section Budgets

/-- A step leaves the budgets of the open frames alone, gives one to a new frame,
or closes the newest frame. -/
inductive BudgetStep (l l' : AdditionalLimit) : Prop
  | kept (h : l'.budgets = l.budgets)
  | pushed (h : ∀ k, l'.budgets k = l.forwardLimit k :: l.budgets k)
  | popped (h : ∀ k, l'.budgets k = (l.budgets k).tail)

theorem BudgetStep.of_eq {l₁ l' : AdditionalLimit} (h : BudgetStep l l₁)
    (hb : l'.budgets = l₁.budgets) : BudgetStep l l' := by
  cases h with
  | kept h => exact .kept (hb.trans h)
  | pushed h => exact .pushed fun k => by rw [hb, h k]
  | popped h => exact .popped fun k => by rw [hb, h k]

theorem BudgetStep.openFrame (l : AdditionalLimit) (input : FrameInput) (te : Bool) :
    BudgetStep l (l.openFrame input te) := .pushed budgets_openFrame

theorem Detected.forwardLimit {input : FrameInput} (h : Detected env s input l) :
    l.forwardLimit = s.limit.forwardLimit := by
  rcases h.detained with rfl | ⟨-, cap, rfl⟩
  · rfl
  · funext k
    cases k <;> rfl

theorem Detected.budgetStep {input : FrameInput} {l' : AdditionalLimit}
    (hd : Detected env s input l) (h : BudgetStep l l') : BudgetStep s.limit l' := by
  cases h with
  | kept h => exact .kept (h.trans hd.budgets)
  | pushed h => exact .pushed fun k => by rw [h k, hd.budgets, hd.forwardLimit]
  | popped h => exact .popped fun k => by rw [h k, hd.budgets]

theorem forwardLimit_keylessLimit (ha : l.Aligned 0) :
    (keylessLimit env l).forwardLimit = l.forwardLimit := by
  have hstack : l.computeGas.frameTracker.frameStack = [] :=
    List.eq_nil_of_length_eq_zero ha.computeGas
  unfold keylessLimit
  split
  · funext k
    cases k with
    | dataSize | kvUpdate | stateGrowth => simp [AdditionalLimit.forwardLimit]
    | computeGas =>
      simp [AdditionalLimit.forwardLimit, FrameLimitTracker.forwardLimit,
        FrameLimitTracker.maxForwardLimit, ComputeGasTracker.recordGasUsed,
        FrameLimitTracker.hasActiveFrame, FrameLimitTracker.modifyTx, hstack]
  · rfl

theorem budgets_keylessLimit : (keylessLimit env l).budgets = l.budgets := by
  unfold keylessLimit
  split
  · exact budgets_recordComputeGas
  · rfl

theorem budgetStep_keyless (ha : l.Aligned 0) :
    BudgetStep l (keylessLimit env l).pushEmptyFrame :=
  .pushed fun k => by
    rw [budgets_pushEmptyFrame, budgets_keylessLimit, forwardLimit_keylessLimit ha]

theorem State.answer_limit (s : State) (p : Pending) : (s.answer p).limit = s.limit := rfl

theorem budgetStep_init {input : FrameInput} {ev : InitEvent}
    (ha : s.limit.Aligned s.frames.length) (h : InitStep env s input ev s') :
    BudgetStep s.limit s'.limit := by
  cases h with
  | keyless hi hf h2 hk =>
    have ha0 : s.limit.Aligned 0 := by
      rw [hf] at ha
      exact ha
    rw [State.answer_limit]
    cases hk with
    | outOfGas => exact .pushed budgets_pushEmptyFrame
    | halted => exact budgetStep_keyless ha0
    | insufficient => exact budgetStep_keyless ha0
    | rejected => exact budgetStep_keyless ha0
    | completed => exact budgetStep_keyless ha0
  | control v hi h4 hg hr => exact .pushed budgets_pushEmptyFrame
  | refused hd hx =>
    rw [State.answer_limit]
    exact hd.budgetStep ((BudgetStep.openFrame _ input ev.targetEmpty).of_eq tryRescueGas_budgets)
  | answered hd hx hin =>
    rw [State.answer_limit]
    refine hd.budgetStep ((BudgetStep.openFrame _ input ev.targetEmpty).of_eq ?_)
    exact tryRescueGas_budgets.trans budgets_recordComputeGas
  | entered hd hx hop hn =>
    exact hd.budgetStep ((BudgetStep.openFrame _ input ev.targetEmpty).of_eq (budgets_afterFrameInitItem _))

theorem budgets_returnLimit (b : Bool) (r : InterpreterResult) :
    (returnLimit l b r).budgets = l.budgets := by
  cases b with
  | false => rfl
  | true => exact (checkLimit_budgets _).trans (budgets_countOutput true (.return r))

theorem budgets_beforeFrameReturnResult (b : Bool) (r : FrameResult) (k : LimitKind) :
    (l.beforeFrameReturnResult b r).1.budgets k = (l.budgets k).tail := by
  have hclose := budgets_closeFrame (l := l) r.instructionResult.isOk k
  rcases beforeFrameReturnResult_cases (l := l) b r with
    ⟨-, hb⟩ | ⟨-, -, hb⟩ | ⟨-, -, hb⟩ | ⟨-, -, hb⟩
  all_goals
    rw [hb]
    exact hclose

theorem budgetStep_step {e : Event} (h : Sound env s) (hs : step env s e = some s') :
    BudgetStep s.limit s'.limit := by
  obtain ⟨hspec, hframed⟩ := h
  cases step_spec hs with
  | init hp hi =>
    simp only [State.Framed, hp] at hframed
    exact budgetStep_init hframed.1 hi
  | stopped hp hf hx => exact .kept (checkLimit_budgets _)
  | resumed hp hf hx hset => exact .kept (checkLimit_budgets _)
  | @op f rest ev hp hf =>
    simp only [State.Framed, hp] at hframed
    have ho : Outcome s.limit (instruction env ev (s.ctx f)) :=
      hframed.2.outcome_instruction hspec rfl rfl
    exact .kept ho.budgets
  | opened hp hf => exact .kept rfl
  | returned hp hf hr hfr hpr =>
    refine .kept (tryRescueGas_budgets.trans ?_)
    exact budgets_recordComputeGas.trans (budgets_returnLimit _ _)
  | hand hp => exact .popped (budgets_beforeFrameReturnResult _ _)
  | insert hp hn =>
    cases hf : s.frames with
    | nil =>
      rw [insertResult_nil env _ hf]
      exact .kept rfl
    | cons f rest =>
      rw [insertResult_cons env _ hf]
      exact .kept rfl
  | finish hp hn => exact .popped (budgets_beforeFrameReturnResult _ _)

end Budgets

section Open

theorem openBudget_of_aligned (ha : l.Aligned (n + 1)) (k : LimitKind) :
    ∃ lim net, l.openBudget k = some (lim, net) := by
  have hlen := ha k
  cases k with
  | dataSize =>
    cases hs : l.dataSize.frameStack with
    | nil => simp [budgets, FrameLimitTracker.budgets, hs] at hlen
    | cons e rest => exact ⟨e.limit, e.net, by simp [openBudget, hs]⟩
  | kvUpdate =>
    cases hs : l.kvUpdate.frameStack with
    | nil => simp [budgets, FrameLimitTracker.budgets, hs] at hlen
    | cons e rest => exact ⟨e.limit, e.net, by simp [openBudget, hs]⟩
  | computeGas =>
    cases hs : l.computeGas.frameTracker.frameStack with
    | nil => simp [budgets, FrameLimitTracker.budgets, hs] at hlen
    | cons e rest => exact ⟨e.limit, e.net, by simp [openBudget, hs]⟩
  | stateGrowth =>
    cases hs : l.stateGrowth.frameStack with
    | nil => simp [budgets, FrameLimitTracker.budgets, hs] at hlen
    | cons e rest => exact ⟨e.limit, e.net, by simp [openBudget, hs]⟩

theorem openBudget_budgets {net : ℕ} (h : l.openBudget k = some (lim, net)) :
    (l.budgets k).head? = some lim := by
  cases k with
  | dataSize =>
    cases hs : l.dataSize.frameStack <;>
      simp_all [openBudget, budgets, FrameLimitTracker.budgets]
  | kvUpdate =>
    cases hs : l.kvUpdate.frameStack <;>
      simp_all [openBudget, budgets, FrameLimitTracker.budgets]
  | computeGas =>
    cases hs : l.computeGas.frameTracker.frameStack <;>
      simp_all [openBudget, budgets, FrameLimitTracker.budgets]
  | stateGrowth =>
    cases hs : l.stateGrowth.frameStack <;>
      simp_all [openBudget, budgets, FrameLimitTracker.budgets]

def AdditionalLimit.BudgetsKept (l : AdditionalLimit) : Prop :=
  ∀ k lim net, l.openBudget k = some (lim, net) → net ≤ lim

theorem topWithin_iff {ι : Type} {t : FrameLimitTracker ι} : t.TopWithin ↔
    ∀ lim net, t.frameStack.head?.map (fun e => (e.limit, e.net)) = some (lim, net) →
      net ≤ lim := by
  unfold FrameLimitTracker.TopWithin FrameLimitEntry.Within
  cases t.frameStack with
  | nil => simp
  | cons e rest =>
    simp only [List.head?_cons, Option.map_some, Option.some.injEq, Prod.mk.injEq,
      Option.mem_some_iff, forall_eq']
    constructor
    · rintro h lim net ⟨rfl, rfl⟩
      exact h
    · intro h
      exact h _ _ ⟨rfl, rfl⟩

theorem settled_iff_budgets (h4 : l.rex4 = true) :
    l.Settled ↔ l.BudgetsKept ∧ l.ComputeClear := by
  constructor
  · intro h
    obtain ⟨hs, hd, hk, hc⟩ := h
    rw [h4] at hs hd hk hc
    refine ⟨fun k lim net hb => ?_, hc.tx⟩
    cases k with
    | dataSize => exact topWithin_iff.1 hd lim net hb
    | kvUpdate => exact topWithin_iff.1 hk lim net hb
    | computeGas => exact topWithin_iff.1 (hc.frame rfl) lim net hb
    | stateGrowth => exact topWithin_iff.1 hs lim net hb
  · rintro ⟨hb, hc⟩
    refine ⟨?_, ?_, ?_, ?_⟩
    · rw [h4]
      exact topWithin_iff.2 fun lim net => hb .stateGrowth lim net
    · rw [h4]
      exact topWithin_iff.2 fun lim net => hb .dataSize lim net
    · rw [h4]
      exact topWithin_iff.2 fun lim net => hb .kvUpdate lim net
    · exact ⟨fun _ => topWithin_iff.2 fun lim net => hb .computeGas lim net, hc⟩

end Open

section Close

theorem Answered.settled_of_isOk {r : FrameResult} {b : Bool} (ha : l.Aligned (n + 1))
    (h : Answered l r.instructionResult)
    (hok : (l.beforeFrameReturnResult b r).2.instructionResult.isOk = true) : l.Settled := by
  have hdup := not_duplicate ha b
  refine h.settled ?_
  rcases beforeFrameReturnResult_cases (l := l) b r with
    ⟨hx, hb⟩ | ⟨hd, hx, hb⟩ | ⟨hd, hx, hb⟩ | ⟨hd, hx, hb⟩
  · by_contra hf
    have hsticky := closeFrame_sticky (l := l) r.instructionResult.isOk (by simpa using hf)
    rw [exceeded, hsticky] at hx
    exact hf hx
  · rw [hdup] at hd
    cases hd
  · rw [hb] at hok
    cases hok
  · rw [hb] at hok
    cases hok

theorem beforeFrameReturnResult_frameLocal (ha : l.Aligned (n + 1))
    (hf : l.hasExceededLimit = .exceedsLimit k lim used true) (b : Bool) (r : FrameResult) :
    l.beforeFrameReturnResult b r =
      ({ l.closeFrame r.instructionResult.isOk with hasExceededLimit := .withinLimit },
        r.markAsExceedingLimit .revert (megaLimitExceeded k.asU8 lim)) := by
  have hx : l.exceeded = true := by rw [exceeded, hf]; rfl
  have hsticky := closeFrame_sticky (l := l) r.instructionResult.isOk hx
  rcases beforeFrameReturnResult_cases (l := l) b r with
    ⟨hc, hb⟩ | ⟨hd, hc, hb⟩ | ⟨hd, hc, hb⟩ | ⟨hd, hc, hb⟩
  · rw [exceeded, hsticky, ← exceeded, hx] at hc
    cases hc
  · rw [not_duplicate ha b] at hd
    cases hd
  · rw [hb, hsticky, hf]
    rfl
  · have hlocal := hc.2
    rw [hsticky, hf] at hlocal
    cases hlocal

/-- The result an exceed of the budget `lim` for `k` leaves at the boundary of its frame. -/
structure Absorbed (s : State) (p : Pending) (k : LimitKind) (lim : ℕ) : Prop where
  reverted : p.result.instructionResult = .revert
  output : p.result.result.output = megaLimitExceeded k.asU8 lim
  cleared : s.limit.hasExceededLimit = .withinLimit

theorem step_result {p : Pending} (hp : s.phase = .result p) :
    step env s .tau = some (frameReturnResult s p) := by
  unfold step
  rw [hp]

theorem step_last {p : Pending} (hp : s.phase = .last p) (hn : isFatal p = false) :
    step env s .tau = some (lastFrameResult env s p) := by
  unfold step
  rw [hp]
  simp [hn]

theorem step_handed {p : Pending} (hp : s.phase = .handed p) (hn : isFatal p = false) :
    step env s .tau = some (insertResult env s p) := by
  unfold step
  rw [hp]
  simp [hn]

theorem step_run {f : Frame} {rest : List Frame} (hp : s.phase = .run)
    (hf : s.frames = f :: rest) : step env s .tau = some (frameRun s f) := by
  unfold step
  rw [hp, hf]

theorem step_action {f : Frame} {rest : List Frame} {a : InterpreterAction}
    (hp : s.phase = .action a) (hf : s.frames = f :: rest) :
    step env s .tau = some (actionStep env s f rest a) := by
  unfold step
  rw [hp, hf]

theorem absorbed_result {p : Pending} (hp : s.phase = .result p)
    (ha : s.limit.Aligned (n + 1))
    (hf : s.limit.hasExceededLimit = .exceedsLimit k lim used true) :
    ∃ s' p', step env s .tau = some s' ∧ s'.phase = .handed p' ∧ Absorbed s' p' k lim ∧
      (∀ k, s'.limit.budgets k = (s.limit.budgets k).tail) ∧ s'.frames = s.frames := by
  have hb := beforeFrameReturnResult_frameLocal ha hf false p.result
  refine ⟨_, ⟨(s.limit.beforeFrameReturnResult false p.result).2, p.opened⟩, step_result hp,
    rfl, ⟨?_, ?_, ?_⟩, ?_, rfl⟩
  · simp only [hb]
    rfl
  · simp only [hb]
    rfl
  · simp only [frameReturnResult, hb]
  · exact budgets_beforeFrameReturnResult false p.result

theorem absorbed_last {p : Pending} (hp : s.phase = .last p) (hn : isFatal p = false)
    (ha : s.limit.Aligned (n + 1))
    (hf : s.limit.hasExceededLimit = .exceedsLimit k lim used true) :
    ∃ s' p', step env s .tau = some s' ∧ s'.phase = .done p' ∧ Absorbed s' p' k lim := by
  have hb := beforeFrameReturnResult_frameLocal ha hf true p.result
  refine ⟨_, ⟨finalResult env s p, p.opened⟩, step_last hp hn, rfl, ⟨?_, ?_, ?_⟩⟩
  · rw [finalResult_instructionResult, hb]
    rfl
  · rw [finalResult_output, hb]
    rfl
  · rw [lastFrameResult_limit, hb]

theorem flagged_action {r : InterpreterResult} (hp : s.phase = .action (.return r))
    (ha : s.limit.Aligned s.frames.length) (hx : s.limit.exceeded = true)
    {f : Frame} {rest : List Frame} (hf : s.frames = f :: rest) :
    ∃ s₁ p₁, step env s .tau = some s₁ ∧ s₁.phase = .result p₁ ∧
      s₁.limit.hasExceededLimit = s.limit.hasExceededLimit ∧
      s₁.limit.Aligned (rest.length + 1) ∧ s₁.limit.budgets = s.limit.budgets ∧
      s₁.frames = rest := by
  obtain ⟨r₂, fr, journal', hr, hfr, hpr, heq⟩ := actionStep_return env s f rest r
  rw [hf] at ha
  have hret := returnLimit_sticky (r := storageCharged f.isCreate r) hx f.isCreate
  have hretx : (returnLimit s.limit f.isCreate (storageCharged f.isCreate r)).exceeded = true := by
    rw [exceeded, hret]
    exact hx
  have hdep := recordComputeGas_sticky (g := depositGas r₂ fr) hretx
  refine ⟨_, _, step_action hp hf, by rw [heq], ?_, ?_, ?_, by rw [heq]⟩
  · rw [heq]
    simp only [tryRescueGas_hasExceededLimit, depositLimit, recordComputeGas_checkLimit]
    rw [hdep, hret]
  · rw [heq]
    exact aligned_tryRescueGas.2 (returnLimit_aligned ha _).recordComputeGas
  · rw [heq]
    exact tryRescueGas_budgets.trans (budgets_recordComputeGas.trans (budgets_returnLimit _ _))

theorem handed_resumes {p : Pending} (hp : s.phase = .handed p)
    (hr : p.result.instructionResult = .revert)
    (hw : s.limit.hasExceededLimit = .withinLimit) {f : Frame} {rest : List Frame}
    (hf : s.frames = f :: rest) :
    ∃ s', Run.run (step env) s [.tau, .tau] = some s' ∧
      (s'.phase = .interp ↔ s.limit.Settled) ∧ s'.frames = creditGas f p.result :: rest := by
  have hn : isFatal p = false := by simp [isFatal, hr]
  have hins := insertResult_cons env p hf
  set s₁ : State := { s with
    volatile := volatileAfter env s
    frames := creditGas f p.result :: rest
    phase := .run } with hs₁
  have h1 : step env s .tau = some s₁ := by rw [step_handed hp hn, hins]
  have h2 : step env s₁ .tau = some (frameRun s₁ (creditGas f p.result)) :=
    step_run rfl (show s₁.frames = creditGas f p.result :: rest from rfl)
  have hrun : Run.run (step env) s [.tau, .tau] = some (frameRun s₁ (creditGas f p.result)) := by
    rw [Run.run_cons]
    refine ⟨s₁, h1, ?_⟩
    rw [Run.run_cons]
    exact ⟨_, h2, rfl⟩
  refine ⟨_, hrun, ?_⟩
  have hiff := checkLimit_within_iff (l := s.limit)
  unfold frameRun
  rcases beforeFrameRun_cases (l := s₁.limit) (creditGas f p.result).gas with
    ⟨hx, hb⟩ | ⟨hx, hs, hb⟩
  · rw [hb]
    refine ⟨⟨fun h => (by cases h), fun hset => ?_⟩, rfl⟩
    rw [exceeded_eq_true] at hx
    exact absurd (hiff.2 ⟨hw, hset⟩) hx
  · rw [hb]
    exact ⟨⟨fun _ => settled_checkLimit.1 hs, fun _ => rfl⟩, rfl⟩

theorem handed_finishes {p : Pending} (hp : s.phase = .handed p)
    (hr : p.result.instructionResult = .revert) (ha : s.limit.Aligned 0) (hf : s.frames = []) :
    ∃ s' p', Run.run (step env) s [.tau, .tau] = some s' ∧ s'.phase = .done p' ∧
      p'.result.instructionResult = .revert ∧
      p'.result.result.output = p.result.result.output := by
  have hn : isFatal p = false := by simp [isFatal, hr]
  have hins := insertResult_nil env p hf
  set s₁ : State := { s with volatile := volatileAfter env s, phase := .last p } with hs₁
  have h1 : step env s .tau = some s₁ := by rw [step_handed hp hn, hins]
  have h2 : step env s₁ .tau = some (lastFrameResult env s₁ p) := step_last rfl hn
  have hrun : Run.run (step env) s [.tau, .tau] = some (lastFrameResult env s₁ p) := by
    rw [Run.run_cons]
    refine ⟨s₁, h1, ?_⟩
    rw [Run.run_cons]
    exact ⟨_, h2, rfl⟩
  have hsame : (s₁.limit.beforeFrameReturnResult true p.result).2 = p.result := by
    rw [beforeFrameReturnResult_duplicate (l := s₁.limit) ha]
  refine ⟨_, ⟨finalResult env s₁ p, p.opened⟩, hrun, rfl, ?_, ?_⟩
  · rw [finalResult_instructionResult, hsame]
    exact hr
  · rw [finalResult_output, hsame]

end Close

section Exact

/-- The parent of a frame that handed over `p` runs on exactly when its own
budgets are kept and compute gas is within the transaction's limit; without a
parent the transaction ends as `p` did. -/
def Resumes (env : Env) (s : State) (p : Pending) : Prop :=
  (∀ f rest, s.frames = f :: rest → ∃ s', Run.run (step env) s [.tau, .tau] = some s' ∧
    s'.frames = creditGas f p.result :: rest ∧
    (s'.phase = .interp ↔ s.limit.BudgetsKept ∧ s.limit.ComputeClear)) ∧
  (s.frames = [] → ∃ s' p', Run.run (step env) s [.tau, .tau] = some s' ∧ s'.phase = .done p' ∧
    p'.result.instructionResult = .revert ∧ p'.result.result.output = p.result.result.output)

/-- Closing the open frame, and no other, absorbs an exceed of its budget `lim`. -/
def AbsorbedAtBoundary (env : Env) (s : State) (k : LimitKind) (lim : ℕ) : Prop :=
  ∃ es s' p', (∀ e ∈ es, e = .tau) ∧ Run.run (step env) s es = some s' ∧
    (s'.phase = .handed p' ∧ Resumes env s' p' ∨ s'.phase = .done p') ∧ Absorbed s' p' k lim ∧
    ∀ k, s'.limit.budgets k = (s.limit.budgets k).tail

def WithinBudgets (s : State) : Prop :=
  ∀ k, ∃ budget net, (s.limit.budgets k).head? = some budget ∧
    s.limit.openBudget k = some (budget, net) ∧ net ≤ budget

theorem withinBudgets_of_settled (h4 : s.limit.rex4 = true) (ha : s.limit.Aligned (n + 1))
    (hs : s.limit.Settled) : WithinBudgets s := by
  intro k
  obtain ⟨budget, net, hb⟩ := openBudget_of_aligned ha k
  exact ⟨budget, net, openBudget_budgets hb, hb, ((settled_iff_budgets h4).1 hs).1 k _ _ hb⟩

theorem Sound.resumes {p : Pending} (h : Sound env s) (h4 : s.limit.rex4 = true)
    (hp : s.phase = .handed p) (ha : Absorbed s p k lim) : Resumes env s p := by
  have hframed := h.framed
  simp only [State.Framed, hp] at hframed
  constructor
  · intro f rest hf
    obtain ⟨s', hrun, hiff, hframes⟩ := handed_resumes hp ha.reverted ha.cleared hf
    exact ⟨s', hrun, hframes, hiff.trans (settled_iff_budgets h4)⟩
  · intro hf
    rw [hf] at hframed
    exact handed_finishes hp ha.reverted hframed.1 hf

theorem Sound.rex4 (h : Sound env s) (h4 : env.spec = .rex4) : s.limit.rex4 = true := by
  rw [AdditionalLimit.rex4, h.spec, h4]
  rfl

theorem absorbedAtBoundary_result {p : Pending} (h : Sound env s) (h4 : env.spec = .rex4)
    (hp : s.phase = .result p)
    (hf : s.limit.hasExceededLimit = .exceedsLimit k lim used true) :
    AbsorbedAtBoundary env s k lim := by
  have hframed := h.framed
  simp only [State.Framed, hp] at hframed
  obtain ⟨s', p', hstep, hp', habs, hbud, -⟩ := absorbed_result hp hframed.1 hf
  have hs' : Sound env s' := h.step hstep
  refine ⟨[.tau], s', p', by simp, ?_, .inl ⟨hp', ?_⟩, habs, hbud⟩
  · rw [Run.run_cons]
    exact ⟨s', hstep, rfl⟩
  · exact hs'.resumes (hs'.rex4 h4) hp' habs

/-- A frame-local flag is only ever seen while its own frame is being ended. -/
theorem Sound.frameLocal_phase (h : Sound env s)
    (hf : s.limit.hasExceededLimit = .exceedsLimit k lim used true) :
    (∃ r, s.phase = .action (.return r)) ∨ (∃ p, s.phase = .result p) ∨
      ∃ p, s.phase = .last p ∧ s.limit.Aligned 1 ∧ isFatal p = false := by
  have hx : s.limit.exceeded = true := by rw [exceeded, hf]; rfl
  have hlocal : ¬ s.limit.TxExceeded := by
    intro ht
    have hno := ht.2
    rw [hf] at hno
    cases hno
  have hframed := h.framed
  unfold State.Framed at hframed
  cases hp : s.phase with
  | init i =>
    simp only [hp] at hframed
    exact absurd (hframed.2.1.halting hx) hlocal
  | run | handed p =>
    simp only [hp] at hframed
    exact absurd (hframed.2.halting hx) hlocal
  | interp =>
    simp only [hp] at hframed
    have hw := hframed.2.within
    rw [hx] at hw
    cases hw
  | action a =>
    simp only [hp] at hframed
    obtain ⟨r, rfl, -⟩ := hframed.2.stops hx
    exact .inl ⟨r, rfl⟩
  | result p => exact .inr (.inl ⟨p, rfl⟩)
  | last p =>
    simp only [hp] at hframed
    rcases hframed.2 with ⟨ha, hans⟩ | ⟨-, hres⟩
    · refine .inr (.inr ⟨p, rfl, ha, ?_⟩)
      simpa [isFatal] using hans.fatal hx
    · exact absurd (hres.halting hx) hlocal
  | done p =>
    simp only [hp] at hframed
    rw [hf] at hframed
    cases hframed

theorem Sound.absorbedAtBoundary (h : Sound env s) (h4 : env.spec = .rex4)
    (hf : s.limit.hasExceededLimit = .exceedsLimit k lim used true) :
    AbsorbedAtBoundary env s k lim := by
  have hx : s.limit.exceeded = true := by rw [exceeded, hf]; rfl
  rcases h.frameLocal_phase hf with ⟨r, hp⟩ | ⟨p, hp⟩ | ⟨p, hp, ha, hn⟩
  · have hframed := h.framed
    simp only [State.Framed, hp] at hframed
    obtain ⟨hal, hact⟩ := hframed
    obtain ⟨-, net, hopen, -⟩ := hact.owned k lim used hf
    cases hs : s.frames with
    | nil =>
      have hlen := hal k
      have hhead := openBudget_budgets hopen
      rw [hs, List.length_nil, List.length_eq_zero_iff] at hlen
      rw [hlen] at hhead
      cases hhead
    | cons f rest =>
      obtain ⟨s₁, p₁, hstep, hp₁, hflag, -, hbud, -⟩ :=
        flagged_action hp hal hx hs
      have h₁ : Sound env s₁ := h.step hstep
      obtain ⟨es, s', p', htau, hrun, hend, habs, hpop⟩ :=
        absorbedAtBoundary_result h₁ h4 hp₁ (hflag.trans hf)
      refine ⟨.tau :: es, s', p', ?_, ?_, hend, habs, fun k => by rw [hpop, hbud]⟩
      · intro e he
        rcases List.mem_cons.1 he with rfl | he
        · rfl
        · exact htau e he
      · rw [Run.run_cons]
        exact ⟨s₁, hstep, hrun⟩
  · exact absorbedAtBoundary_result h h4 hp hf
  · obtain ⟨s', p', hstep, hp', habs⟩ := absorbed_last hp hn ha hf
    refine ⟨[.tau], s', p', by simp, ?_, .inr hp', habs, ?_⟩
    · rw [Run.run_cons]
      exact ⟨s', hstep, rfl⟩
    · rw [step_last hp hn, Option.some.injEq] at hstep
      subst hstep
      exact budgets_beforeFrameReturnResult true p.result

/-- Frame budgets are enforced exactly. In every state of every transaction of
the last spec: a step keeps the budgets of the open frames, gives one to a new
frame or closes the newest; a result that is handed over ok comes from a frame
within its budgets; and a frame-local exceed is of a budget of the open frame
and is absorbed when that frame is closed. -/
theorem frame_budgets_enforced {ev : StartEvent} {es : List Event} (h4 : env.spec = .rex4)
    (h : Execution env ev es s) :
    (∀ e s', step env s e = some s' → BudgetStep s.limit s'.limit) ∧
    (∀ p s' p', s.phase = .result p → step env s .tau = some s' → s'.phase = .handed p' →
      p'.result.instructionResult.isOk = true → WithinBudgets s) ∧
    (∀ p s' p', s.phase = .last p → s.limit.Aligned 1 → step env s .tau = some s' →
      s'.phase = .done p' → p'.result.instructionResult.isOk = true → WithinBudgets s) ∧
    ∀ k lim used, s.limit.hasExceededLimit = .exceedsLimit k lim used true →
      (∃ net, s.limit.openBudget k = some (lim, net) ∧ lim < net) ∧
        AbsorbedAtBoundary env s k lim := by
  have hsound : Sound env s := h.sound
  have hrex4 : s.limit.rex4 = true := hsound.rex4 h4
  have hframed := hsound.framed
  refine ⟨fun e s' hs => budgetStep_step hsound hs, ?_, ?_, ?_⟩
  · intro p s' p' hp hs hp' hok
    simp only [State.Framed, hp] at hframed
    rw [step_result hp, Option.some.injEq] at hs
    subst hs
    cases hp'
    exact withinBudgets_of_settled hrex4 hframed.1 (hframed.2.settled_of_isOk hframed.1 hok)
  · intro p s' p' hp ha hs hp' hok
    simp only [State.Framed, hp] at hframed
    have hn : isFatal p = false := by
      by_contra hn
      simp only [Bool.not_eq_false] at hn
      simp [step, hp, hn] at hs
    rw [step_last hp hn, Option.some.injEq] at hs
    subst hs
    rw [lastFrameResult_phase, Phase.done.injEq] at hp'
    subst hp'
    rw [finalResult_instructionResult] at hok
    rcases hframed.2 with ⟨-, hans⟩ | ⟨ha0, -⟩
    · exact withinBudgets_of_settled hrex4 ha (hans.settled_of_isOk ha hok)
    · have h0 := ha0 .dataSize
      rw [ha .dataSize] at h0
      cases h0
  · intro k lim used hf
    refine ⟨?_, hsound.absorbedAtBoundary h4 hf⟩
    have howned : s.limit.Owned := by
      rcases hsound.frameLocal_phase hf with ⟨r, hp⟩ | ⟨p, hp⟩ | ⟨p, hp, ha, hn⟩
      · simp only [State.Framed, hp] at hframed
        exact hframed.2.owned
      · simp only [State.Framed, hp] at hframed
        exact hframed.2.owned
      · simp only [State.Framed, hp] at hframed
        rcases hframed.2 with ⟨-, hans⟩ | ⟨-, hres⟩
        · exact hans.owned
        · exact hres.owned
    exact (howned k lim used hf).2

section Log

/-- A LOG0 of 990 bytes in a call that may emit 980. -/
def logEnv : Env := sampleEnv .rex4 (.call 3) .other 1000000

def logStart : StartEvent :=
  sampleStart { EvmTxRuntimeLimits.rex4 with txDataSizeLimit := 1000 } (by decide)

def logCall : OpEvent where
  opcode := .call
  stack := [200000, 100, 0, 0, 0, 0, 0]
  slot := none
  targetEmpty := some false
  storageGas := none
  hostCalled := true
  inner := .newFrame 2600 200000 (.call ⟨.call, 3, 100, .transfer 0, .other, 0⟩) []

def logZero : OpEvent where
  opcode := .log 0
  stack := [0, 990]
  slot := none
  targetEmpty := none
  storageGas := none
  hostCalled := true
  inner := .next 8389 []

def logEvents : List Event :=
  [.init sampleInit, .tau] ++ samplePushes ++
    [.op logCall, .tau, .init sampleInit, .tau, .op (samplePlain 3), .op (samplePlain 3),
      .op logZero]

theorem frame_budgets_enforced_log :
    ∃ s, Execution logEnv logStart logEvents s ∧ AbsorbedAtBoundary logEnv s .dataSize 980 := by
  have hrun : (execute logEnv logStart logEvents).map (fun s => s.limit.hasExceededLimit) =
      some (.exceedsLimit .dataSize 980 990 true) := by decide
  obtain ⟨s, hs, hf⟩ := exists_execution hrun
  exact ⟨s, hs, ((frame_budgets_enforced rfl hs).2.2.2 _ _ _ hf).2⟩

end Log

end Exact

end MegaEvm
