import MegaEvm.ReturnSpec

/-!
# The invariant of the frame loop

In every state a transaction reaches, the trackers have one entry for every
open frame, what is flagged belongs to the frame that is being ended, and a
frame that is initialised, resumed or handed over finds the trackers it needs.
-/

set_option autoImplicit false

namespace MegaEvm

open AdditionalLimit

variable {env : Env} {s s' : State} {l : AdditionalLimit}

/-- The steps of the frame loop, every hook's outcome spelled out. -/
inductive Step (env : Env) (s : State) : Event → State → Prop
  | init {input : FrameInput} {ev : InitEvent} {s' : State} (hp : s.phase = .init input)
      (h : InitStep env s input ev s') : Step env s (.init ev) s'
  | stopped {f : Frame} {rest : List Frame} (hp : s.phase = .run) (hf : s.frames = f :: rest)
      (hx : s.limit.checkLimit.exceeded = true) :
      Step env s .tau { s with
        limit := s.limit.checkLimit
        phase := .action (.return ⟨s.limit.checkLimit.exceedingInstructionResult,
          s.limit.checkLimit.hasExceededLimit.revertData, f.gas⟩) }
  | resumed {f : Frame} {rest : List Frame} (hp : s.phase = .run) (hf : s.frames = f :: rest)
      (hx : s.limit.checkLimit.exceeded = false) (hs : s.limit.checkLimit.Settled) :
      Step env s .tau { s with limit := s.limit.checkLimit, phase := .interp }
  | op {f : Frame} {rest : List Frame} {ev : OpEvent} (hp : s.phase = .interp)
      (hf : s.frames = f :: rest) : Step env s (.op ev) (interpStep env s f rest ev)
  | opened {f : Frame} {rest : List Frame} {i : FrameInput}
      (hp : s.phase = .action (.newFrame i)) (hf : s.frames = f :: rest) :
      Step env s .tau { s with phase := .init i }
  | returned {f : Frame} {rest : List Frame} {r r₂ : InterpreterResult} {fr : FrameResult}
      {journal' : List JournalEntry} (hp : s.phase = .action (.return r))
      (hf : s.frames = f :: rest)
      (hr : r₂ = returnResult s.limit f.isCreate (storageCharged f.isCreate r))
      (hfr : processReturn env f r₂ s.journal = (fr, journal'))
      (hpr : Processed f r₂ s.journal fr journal') :
      Step env s .tau { s with
        frames := rest
        limit := (depositLimit (returnLimit s.limit f.isCreate (storageCharged f.isCreate r))
          r₂ fr).tryRescueGas fr.gas
        journal := journal'
        phase := .result ⟨depositResult
          (returnLimit s.limit f.isCreate (storageCharged f.isCreate r)) r₂ fr, f.opened⟩ }
  | hand {p : Pending} (hp : s.phase = .result p) : Step env s .tau (frameReturnResult s p)
  | insert {p : Pending} (hp : s.phase = .handed p) (hn : isFatal p = false) :
      Step env s .tau (insertResult env s p)
  | finish {p : Pending} (hp : s.phase = .last p) (hn : isFatal p = false) :
      Step env s .tau (lastFrameResult env s p)

def volatileAfter (env : Env) (s : State) : VolatileDataAccessTracker :=
  if env.spec.isEnabled .rex4 then s.volatile.enableAccessIfReturning s.depth else s.volatile

theorem insertResult_nil (env : Env) (p : Pending) (hf : s.frames = []) :
    insertResult env s p = { s with volatile := volatileAfter env s, phase := .last p } := by
  unfold insertResult
  simp only [hf]
  rfl

theorem insertResult_cons (env : Env) (p : Pending) {f : Frame} {rest : List Frame}
    (hf : s.frames = f :: rest) :
    insertResult env s p = { s with
      volatile := volatileAfter env s
      frames := creditGas f p.result :: rest
      phase := .run } := by
  unfold insertResult
  simp only [hf]
  rfl

def finalResult (env : Env) (s : State) (p : Pending) : FrameResult :=
  let (limit, result) := s.limit.beforeFrameReturnResult true p.result
  { result with result := { result.result with gas := finalGas env limit result } }

theorem lastFrameResult_phase (env : Env) (s : State) (p : Pending) :
    (lastFrameResult env s p).phase = .done ⟨finalResult env s p, p.opened⟩ := rfl

theorem lastFrameResult_limit (env : Env) (s : State) (p : Pending) :
    (lastFrameResult env s p).limit = (s.limit.beforeFrameReturnResult true p.result).1 := rfl

theorem finalResult_instructionResult (env : Env) (s : State) (p : Pending) :
    (finalResult env s p).instructionResult =
      (s.limit.beforeFrameReturnResult true p.result).2.instructionResult := rfl

theorem finalResult_output (env : Env) (s : State) (p : Pending) :
    (finalResult env s p).result.output =
      (s.limit.beforeFrameReturnResult true p.result).2.result.output := rfl

theorem frameRun_step {f : Frame} {rest : List Frame} (hp : s.phase = .run)
    (hf : s.frames = f :: rest) : Step env s .tau (frameRun s f) := by
  unfold frameRun
  rcases beforeFrameRun_cases (l := s.limit) f.gas with ⟨hx, hb⟩ | ⟨hx, hs, hb⟩
  · rw [hb]
    exact .stopped hp hf hx
  · rw [hb]
    exact .resumed hp hf hx hs

theorem actionStep_step {f : Frame} {rest : List Frame} {a : InterpreterAction}
    (hp : s.phase = .action a) (hf : s.frames = f :: rest) :
    Step env s .tau (actionStep env s f rest a) := by
  cases a with
  | newFrame i =>
    rw [actionStep_newFrame]
    exact .opened hp hf
  | «return» r =>
    obtain ⟨r₂, fr, journal', hr, hfr, hpr, heq⟩ := actionStep_return env s f rest r
    rw [heq]
    exact .returned hp hf hr hfr hpr

theorem step_spec {e : Event} (h : step env s e = some s') : Step env s e s' := by
  unfold step at h
  split at h
  case h_1 input ev hp => exact .init hp (frameInit_step h)
  case h_2 f rest hp hf =>
    cases h
    exact frameRun_step hp hf
  case h_3 ev f rest hp hf =>
    cases h
    exact .op hp hf
  case h_4 a f rest hp hf =>
    cases h
    exact actionStep_step hp hf
  case h_5 p hp =>
    cases h
    exact .hand hp
  case h_6 p hp =>
    by_cases hn : isFatal p = true
    · simp [hn] at h
    · rw [if_neg hn] at h
      cases h
      exact .insert hp (by simpa using hn)
  case h_7 p hp =>
    by_cases hn : isFatal p = true
    · simp [hn] at h
    · rw [if_neg hn] at h
      cases h
      exact .finish hp (by simpa using hn)
  case h_8 => cases h

section Limits

structure Opening (l : AdditionalLimit) : Prop where
  settled : l.exceeded = false → l.Settled
  restorable : l.exceeded = false → l.Restorable
  halting : l.exceeded = true → l.TxExceeded

/-- The limits between the instructions of two frames: an exceed that is still
flagged halts the transaction. -/
structure Resuming (l : AdditionalLimit) : Prop where
  restorable : l.exceeded = false → l.Restorable
  halting : l.exceeded = true → l.TxExceeded
  clear : l.exceeded = false → l.rex4 = true →
    l.ComputeClear ∨ (l.dataSize.Settled l.rex4 ∧ l.kvUpdate.Settled l.rex4)

variable {r : InstructionResult} {n : ℕ}

theorem AdditionalLimit.TxExceeded.not_within (h : l.TxExceeded) (hf : l.exceeded = false) : False := by
  rw [h.1] at hf
  cases hf

theorem txExceeded_congr {l' : AdditionalLimit} (h : l'.hasExceededLimit = l.hasExceededLimit) :
    l'.TxExceeded ↔ l.TxExceeded := by
  simp only [TxExceeded, exceeded, h]

theorem Answered.of_txExceeded (h : l.TxExceeded) (hr : r ≠ .fatalExternalError) :
    Answered l r where
  restorable := fun ht => absurd h ht
  settled := fun hf => absurd hf fun hf => h.not_within hf
  accounts := fun ht => absurd h ht
  fatal := fun _ => hr
  owned := owned_of_txExceeded h
  unmasked := unmasked_of_txExceeded h

theorem Answered.of_settled (hf : l.exceeded = false) (hs : l.Settled) (hr : l.Restorable) :
    Answered l r where
  restorable := fun _ => hr
  settled := fun _ => hs
  accounts := fun _ _ _ => ⟨hs.dataSize, hs.kvUpdate⟩
  fatal := fun hx => by
    rw [hf] at hx
    cases hx
  owned := owned_of_within (exceeded_eq_false.1 hf)
  unmasked := unmasked_of_within (exceeded_eq_false.1 hf)

theorem Opening.answered_pushEmptyFrame (h : Opening l) (hr : r ≠ .fatalExternalError) :
    Answered l.pushEmptyFrame r := by
  by_cases hx : l.exceeded = true
  · exact .of_txExceeded ((txExceeded_congr rfl).2 (h.halting hx)) hr
  · have hf : l.exceeded = false := by simpa using hx
    exact .of_settled hf (h.settled hf).pushEmptyFrame
      ((h.restorable hf).pushEmptyFrame (h.settled hf))

theorem AdditionalLimit.Owned.txExceeded (h : l.Owned) (ha : l.Aligned 0) (hx : l.exceeded = true) :
    l.TxExceeded := by
  refine ⟨hx, ?_⟩
  cases hc : l.hasExceededLimit with
  | withinLimit => rfl
  | exceedsLimit kind lim used frameLocal =>
    cases frameLocal with
    | false => rfl
    | true =>
      obtain ⟨-, net, hb, -⟩ := h kind lim used hc
      have hdata : l.dataSize.frameStack = [] := List.eq_nil_of_length_eq_zero ha.dataSize
      have hkv : l.kvUpdate.frameStack = [] := List.eq_nil_of_length_eq_zero ha.kvUpdate
      have hgrowth : l.stateGrowth.frameStack = [] :=
        List.eq_nil_of_length_eq_zero ha.stateGrowth
      have hcompute : l.computeGas.frameTracker.frameStack = [] :=
        List.eq_nil_of_length_eq_zero ha.computeGas
      cases kind <;> simp [openBudget, hdata, hkv, hgrowth, hcompute] at hb

theorem Opening.recordComputeGas (h : Opening l) (ha : l.Aligned 0) (g : ℕ) :
    Opening (l.recordComputeGas g) := by
  have howned : l.Owned := by
    by_cases hx : l.exceeded = true
    · exact owned_of_txExceeded (h.halting hx)
    · exact owned_of_within (exceeded_eq_false.1 (by simpa using hx))
  refine ⟨fun hf => settled_recordComputeGas hf, fun hf => ?_, fun hx => ?_⟩
  · have hbefore : l.exceeded = false := by
      by_contra hx
      exact (txExceeded_recordComputeGas (h.halting (by simpa using hx))).not_within hf
    exact (h.restorable hbefore).recordComputeGas
  · exact howned.recordComputeGas.txExceeded ha.recordComputeGas hx

theorem Opening.keylessLimit (h : Opening l) (ha : l.Aligned 0) :
    Opening (keylessLimit env l) := by
  unfold MegaEvm.keylessLimit
  split
  · exact h.recordComputeGas ha _
  · exact h

theorem keylessLimit_spec (env : Env) (l : AdditionalLimit) :
    (keylessLimit env l).spec = l.spec := by
  unfold keylessLimit
  split
  · simp
  · rfl

theorem keylessLimit_aligned (h : l.Aligned n) : (keylessLimit env l).Aligned n := by
  unfold keylessLimit
  split
  · exact h.recordComputeGas
  · exact h

end Limits

section Detect

variable {input : FrameInput}

theorem Detected.spec (h : Detected env s input l) : l.spec = s.limit.spec := by
  rcases h.detained with rfl | ⟨-, cap, rfl⟩ <;> rfl

theorem Detected.flag (h : Detected env s input l) :
    l.hasExceededLimit = s.limit.hasExceededLimit := by
  rcases h.detained with rfl | ⟨-, cap, rfl⟩ <;> rfl

theorem Detected.rescuedGas (h : Detected env s input l) : l.rescuedGas = s.limit.rescuedGas := by
  rcases h.detained with rfl | ⟨-, cap, rfl⟩ <;> rfl

theorem Detected.budgets (h : Detected env s input l) : l.budgets = s.limit.budgets := by
  rcases h.detained with rfl | ⟨-, cap, rfl⟩
  · rfl
  · exact setComputeGasLimit_budgets cap

theorem Detected.aligned {n : ℕ} (h : Detected env s input l) (ha : s.limit.Aligned n) :
    l.Aligned n := ha.of_eq h.budgets

theorem Detected.restorable (h : Detected env s input l) (hr : s.limit.Restorable) :
    l.Restorable := by
  rcases h.detained with rfl | ⟨-, cap, rfl⟩
  · exact hr
  · exact hr.setComputeGasLimit cap

theorem rex4_of_rex3 (hs : l.spec = env.spec) (h3 : env.spec.isEnabled .rex3 = false) :
    l.rex4 = false := by
  rw [rex4, hs]
  by_contra h4
  rw [MegaSpecId.isEnabled_mono (a := .rex3) (b := .rex4) (by decide) (by simpa using h4)] at h3
  cases h3

theorem Detected.openable (h : Detected env s input l) (hspec : s.limit.spec = env.spec)
    (hs : s.limit.Settled) : l.Openable := by
  rcases h.detained with rfl | ⟨h3, cap, rfl⟩
  · exact hs.openable
  · exact hs.openable.setComputeGasLimit (rex4_of_rex3 hspec h3) cap

end Detect

section Invariant

/-- What holds of the limits in each phase. -/
def State.Framed (s : State) : Prop :=
  match s.phase with
  | .init _ => s.limit.Aligned s.frames.length ∧ Opening s.limit ∧
      (s.limit.exceeded = true → s.frames = [])
  | .run | .handed _ => s.limit.Aligned s.frames.length ∧ Resuming s.limit
  | .interp => s.limit.Aligned s.frames.length ∧ Ready s.limit
  | .action a => s.limit.Aligned s.frames.length ∧ Acting s.limit a
  | .result p => s.limit.Aligned (s.frames.length + 1) ∧
      Answered s.limit p.result.instructionResult
  | .last p => s.frames = [] ∧
      ((s.limit.Aligned 1 ∧ Answered s.limit p.result.instructionResult) ∨
        (s.limit.Aligned 0 ∧ Resuming s.limit))
  | .done _ => s.limit.hasExceededLimit.isFrameLocal = false

structure Sound (env : Env) (s : State) : Prop where
  spec : s.limit.spec = env.spec
  framed : s.Framed

theorem Sound.of_answer {p : Pending} (hspec : s.limit.spec = env.spec)
    (ha : s.limit.Aligned (s.frames.length + 1))
    (h : Answered s.limit p.result.instructionResult) : Sound env (s.answer p) := by
  refine ⟨hspec, ?_⟩
  unfold State.answer
  by_cases hf : s.frames = []
  · rw [hf] at ha
    simp only [State.Framed, hf, List.isEmpty_nil, if_true]
    exact ⟨trivial, .inl ⟨ha, h⟩⟩
  · have hne : s.frames.isEmpty = false := by simpa using hf
    simp only [State.Framed, hne, Bool.false_eq_true, if_false]
    exact ⟨ha, h⟩

variable {input : FrameInput} {ev : InitEvent}

theorem sound_keyless {i : CallInputs} {outcome : KeylessOutcome} {s₁ : State} {r : FrameResult}
    (hspec : s.limit.spec = env.spec) (ha : s.limit.Aligned s.frames.length)
    (ho : Opening s.limit) (hf : s.frames = []) (hk : KeylessCall env s i outcome s₁ r) :
    Sound env ({ s₁ with limit := s₁.limit.pushEmptyFrame }.answer ⟨r, s.journal⟩) := by
  have ha0 : s.limit.Aligned 0 := by
    rw [hf] at ha
    exact ha
  have hkey : Opening (keylessLimit env s.limit) := ho.keylessLimit ha0
  have hkspec : (keylessLimit env s.limit).spec = env.spec :=
    (keylessLimit_spec env s.limit).trans hspec
  have hka : (keylessLimit env s.limit).Aligned s.frames.length := keylessLimit_aligned ha
  have hne : ∀ {res : InstructionResult}, res = .outOfGas ∨ res = .revert ∨ res = .return →
      res ≠ .fatalExternalError := by
    rintro res (rfl | rfl | rfl) <;> simp
  cases hk with
  | outOfGas =>
    exact .of_answer hspec ha.pushEmptyFrame (ho.answered_pushEmptyFrame (hne (.inl rfl)))
  | halted =>
    exact .of_answer hkspec hka.pushEmptyFrame (hkey.answered_pushEmptyFrame (hne (.inl rfl)))
  | insufficient =>
    exact .of_answer hkspec hka.pushEmptyFrame
      (hkey.answered_pushEmptyFrame (hne (.inr (.inl rfl))))
  | rejected =>
    exact .of_answer hkspec hka.pushEmptyFrame
      (hkey.answered_pushEmptyFrame (hne (.inr (.inl rfl))))
  | completed =>
    exact .of_answer hkspec hka.pushEmptyFrame
      (hkey.answered_pushEmptyFrame (hne (.inr (.inr rfl))))

theorem openFrame_checkLimit (l : AdditionalLimit) (input : FrameInput) (te : Bool) :
    (l.openFrame input te).checkLimit = l.openFrame input te := checkLimit_idem

theorem Opening.answered_refused (hspec : s.limit.spec = env.spec) (ho : Opening s.limit)
    (hd : Detected env s input l)
    (hx : (l.openFrame input ev.targetEmpty).exceeded = true) :
    Answered (l.openFrame input ev.targetEmpty)
      (l.openFrame input ev.targetEmpty).exceedingInstructionResult := by
  by_cases hs : s.limit.exceeded = true
  · have hl : l.exceeded = true := by rw [exceeded, hd.flag]; exact hs
    refine .of_txExceeded ((txExceeded_congr ?_).2 (ho.halting hs))
      (exceedingInstructionResult_ne_fatal _)
    rw [openFrame_sticky hl, hd.flag]
  · have hsf : s.limit.exceeded = false := by simpa using hs
    have hl : l.exceeded = false := by rw [exceeded, hd.flag]; exact hsf
    have hopen : l.Openable := hd.openable hspec (ho.settled hsf)
    exact
      { restorable := fun _ => (hd.restorable (ho.restorable hsf)).openFrame hopen
        settled := fun hf => by rw [hx] at hf; cases hf
        accounts := fun _ _ hok => by simp at hok
        fatal := fun _ => exceedingInstructionResult_ne_fatal _
        owned := owned_openFrame hl
        unmasked := unmasked_openFrame hl hopen }

theorem Opening.restorable_openFrame (hspec : s.limit.spec = env.spec) (ho : Opening s.limit)
    (hd : Detected env s input l)
    (hx : (l.openFrame input ev.targetEmpty).exceeded = false) :
    (l.openFrame input ev.targetEmpty).Restorable := by
  have hl : l.exceeded = false := by
    by_contra hf
    have hsticky : (l.openFrame input ev.targetEmpty).hasExceededLimit = l.hasExceededLimit :=
      openFrame_sticky (by simpa using hf)
    rw [exceeded, hsticky] at hx
    exact hf hx
  have hs : s.limit.exceeded = false := by rw [exceeded, ← hd.flag]; exact hl
  exact (hd.restorable (ho.restorable hs)).openFrame (hd.openable hspec (ho.settled hs))

theorem answered_inner (hx : l.exceeded = false) (hs : l.Settled) (hr : l.Restorable) (g : ℕ)
    {r : InstructionResult} (hfatal : r ≠ .fatalExternalError) :
    Answered (l.recordComputeGas g) r where
  restorable := fun _ => hr.recordComputeGas
  settled := fun hf => settled_recordComputeGas hf
  accounts := fun _ _ _ => by
    rw [recordComputeGas_dataSize, recordComputeGas_kvUpdate, recordComputeGas_rex4]
    exact ⟨hs.dataSize, hs.kvUpdate⟩
  fatal := fun _ => hfatal
  owned := (owned_of_within (exceeded_eq_false.1 hx)).recordComputeGas
  unmasked := unmasked_recordComputeGas hx fun _ => ⟨hs.dataSize, hs.kvUpdate⟩

theorem InitStep.aligned (ha : s.limit.Aligned s.frames.length) (h : InitStep env s input ev s') :
    s'.limit.Aligned (s.frames.length + 1) := by
  cases h with
  | keyless hi hf h2 hk =>
    cases hk with
    | outOfGas => exact ha.pushEmptyFrame
    | halted | insufficient | rejected | completed => exact (keylessLimit_aligned ha).pushEmptyFrame
  | control => exact ha.pushEmptyFrame
  | refused hd hx => exact aligned_tryRescueGas.2 (hd.aligned ha).openFrame
  | answered hd hx => exact aligned_tryRescueGas.2 ((hd.aligned ha).openFrame).recordComputeGas
  | entered hd hx => exact ((hd.aligned ha).openFrame).afterFrameInitItem _

theorem not_aligned_zero {n : ℕ} (h : l.Aligned (n + 1)) : ¬ l.Aligned 0 := by
  intro h0
  have hlen := h0 .dataSize
  rw [h .dataSize] at hlen
  cases hlen

theorem answer_phase (p : Pending) : (s.answer p).phase = .result p ∨ (s.answer p).phase = .last p := by
  unfold State.answer
  cases s.frames with
  | nil => exact .inr rfl
  | cons f rest => exact .inl rfl

theorem InitStep.phase_cases (h : InitStep env s input ev s') :
    s'.phase = .run ∨ ∃ p, s'.phase = .result p ∨ s'.phase = .last p := by
  cases h with
  | keyless | control | refused | answered => exact .inr ⟨_, answer_phase _⟩
  | entered => exact .inl rfl

theorem sound_init (hspec : s.limit.spec = env.spec) (ha : s.limit.Aligned s.frames.length)
    (ho : Opening s.limit) (h : InitStep env s input ev s') : Sound env s' := by
  cases h with
  | keyless hi hf h2 hk => exact sound_keyless hspec ha ho hf hk
  | control v hi h4 hk hd hg hr =>
    refine .of_answer hspec ha.pushEmptyFrame (ho.answered_pushEmptyFrame fun hf => ?_)
    rw [hf] at hr
    cases hr
  | @refused v l hd hx =>
    refine .of_answer ?_ ?_ ?_
    · simpa using hd.spec.trans hspec
    · exact aligned_tryRescueGas.2 (hd.aligned ha).openFrame
    · exact (ho.answered_refused hspec hd hx).tryRescueGas (openFrame_checkLimit _ _ _) _
  | @answered v l r opened journal nonce hd hx hin =>
    refine .of_answer ?_ ?_ ?_
    · simpa [afterFrameInitResult] using hd.spec.trans hspec
    · exact aligned_tryRescueGas.2 ((hd.aligned ha).openFrame).recordComputeGas
    · exact (answered_inner hx (openFrame_settled hx) (ho.restorable_openFrame hspec hd hx) _
        hin.notFatal).tryRescueGas (recordComputeGas_checkLimit _) _
  | @entered v l target created opened nonce hd hx hop hn =>
    refine ⟨by simpa [afterFrameInitItem] using hd.spec.trans hspec, ?_⟩
    have hrun : Resuming ((l.openFrame input ev.targetEmpty).afterFrameInitItem created) :=
      { restorable := fun _ =>
          (ho.restorable_openFrame hspec hd hx).afterFrameInitItem created
        halting := fun hf => by
          rw [afterFrameInitItem_exceeded, hx] at hf
          cases hf
        clear := fun _ _ => .inl (openFrame_settled hx).computeGas.tx }
    exact ⟨((hd.aligned ha).openFrame).afterFrameInitItem created, hrun⟩

theorem Resuming.owned (h : Resuming l) : l.Owned := by
  by_cases hx : l.exceeded = true
  · exact owned_of_txExceeded (h.halting hx)
  · exact owned_of_within (exceeded_eq_false.1 (by simpa using hx))

theorem Resuming.unmasked_checkLimit (h : Resuming l) : l.checkLimit.Unmasked := by
  by_cases hx : l.exceeded = true
  · rw [checkLimit_of_exceeded hx]
    exact unmasked_of_txExceeded (h.halting hx)
  · have hf : l.exceeded = false := by simpa using hx
    by_cases hc : l.ComputeClear
    · exact AdditionalLimit.unmasked_checkLimit (unmasked_of_within (exceeded_eq_false.1 hf))
        fun _ _ => hc
    · rw [← recordComputeGas_zero]
      exact unmasked_recordComputeGas hf fun h4 => (h.clear hf h4).resolve_left hc

theorem Resuming.acting (h : Resuming l) (hx : l.checkLimit.exceeded = true) (o : Bytes)
    (g : Gas) : Acting l.checkLimit (.return ⟨l.checkLimit.exceedingInstructionResult, o, g⟩) where
  restorable := fun ht => by
    have hf : l.exceeded = false := by
      by_contra hl
      exact ht (txExceeded_checkLimit (h.halting (by simpa using hl)))
    exact restorable_checkLimit.2 (h.restorable hf)
  stops := fun _ => ⟨_, rfl, rfl⟩
  opens := fun i hi => by cases hi
  settled := fun _ hf => by rw [hx] at hf; cases hf
  returns := fun r hr hok => by
    cases hr
    simp at hok
  owned := h.owned.checkLimit
  unmasked := h.unmasked_checkLimit

theorem Resuming.ready (h : Resuming l) (hx : l.checkLimit.exceeded = false)
    (hs : l.checkLimit.Settled) : Ready l.checkLimit where
  within := hx
  restorable := by
    have hf : l.exceeded = false := by
      by_contra hl
      exact (txExceeded_checkLimit (h.halting (by simpa using hl))).not_within hx
    exact restorable_checkLimit.2 (h.restorable hf)
  settled := fun _ => hs

theorem Acting.opening {i : FrameInput} (h : Acting l (.newFrame i)) : Opening l := by
  have hf : l.exceeded = false := by
    by_contra hx
    obtain ⟨r, hr, -⟩ := h.stops (by simpa using hx)
    cases hr
  have hnot : ¬ l.TxExceeded := fun ht => ht.not_within hf
  exact ⟨fun _ => h.opens i rfl, fun _ => h.restorable hnot, fun hx => by
    rw [hf] at hx
    cases hx⟩

theorem Acting.not_exceeded {i : FrameInput} (h : Acting l (.newFrame i)) :
    l.exceeded = false := by
  by_contra hx
  obtain ⟨r, hr, -⟩ := h.stops (by simpa using hx)
  cases hr

theorem sound_op {f : Frame} {rest : List Frame} {ev : OpEvent} (hspec : s.limit.spec = env.spec)
    (hf : s.frames = f :: rest) (ha : s.limit.Aligned s.frames.length) (hr : Ready s.limit) :
    Sound env (interpStep env s f rest ev) := by
  have ho : Outcome s.limit (instruction env ev (s.ctx f)) :=
    hr.outcome_instruction hspec rfl rfl
  have hal : (instruction env ev (s.ctx f)).limit.Aligned (rest.length + 1) := by
    rw [hf] at ha
    exact ha.of_eq ho.budgets
  refine ⟨ho.spec.trans hspec, ?_⟩
  cases hact : (instruction env ev (s.ctx f)).action with
  | some a =>
    simp only [State.Framed, interpStep, hact, List.length_cons]
    exact ⟨hal, ho.acting hact⟩
  | none =>
    simp only [State.Framed, interpStep, hact, List.length_cons]
    refine ⟨hal, ?_, ho.restorable, fun h4 => ?_⟩
    · by_contra hx
      obtain ⟨r, hres, -⟩ := ho.stops (by simpa using hx)
      rw [hact] at hres
      cases hres
    · refine ho.settled (ho.rex4.symm.trans h4) ?_
      by_contra hx
      obtain ⟨r, hres, -⟩ := ho.stops (by simpa using hx)
      rw [hact] at hres
      cases hres

theorem Answered.resuming {r : FrameResult} {n : ℕ} (h : Answered l r.instructionResult)
    (ha : l.Aligned (n + 1)) : Resuming (l.beforeFrameReturnResult false r).1 := by
  have hnot : ¬ (l.closeFrame r.instructionResult.isOk).TxExceeded → ¬ l.TxExceeded := by
    intro hn ht
    exact hn ((txExceeded_congr (closeFrame_sticky _ ht.1)).2 ht)
  have hrest : ¬ (l.closeFrame r.instructionResult.isOk).TxExceeded →
      (l.closeFrame r.instructionResult.isOk).Restorable := by
    intro hn
    exact (h.restorable (hnot hn)).closeFrame _
  have haccounts : ¬ (l.closeFrame r.instructionResult.isOk).TxExceeded → l.rex4 = true →
      (l.closeFrame r.instructionResult.isOk).dataSize.Settled l.rex4 ∧
        (l.closeFrame r.instructionResult.isOk).kvUpdate.Settled l.rex4 := by
    intro hn h4
    exact closeFrame_settled_accounts (h.restorable (hnot hn)) ha
      fun hok => h.accounts (hnot hn) h4 hok
  rcases beforeFrameReturnResult_cases (l := l) false r with
    ⟨hx, hb⟩ | ⟨hd, hx, hb⟩ | ⟨hd, hx, hb⟩ | ⟨hd, hx, hb⟩
  · have hn : ¬ (l.closeFrame r.instructionResult.isOk).TxExceeded := fun ht => ht.not_within hx
    rw [hb]
    refine ⟨fun _ => hrest hn, fun hf => ?_, fun _ h4 => .inr ?_⟩
    · rw [hx] at hf
      cases hf
    · rw [closeFrame_rex4] at h4 ⊢
      exact haccounts hn h4
  · cases hd
  · have hn : ¬ (l.closeFrame r.instructionResult.isOk).TxExceeded := by
      intro ht
      rw [ht.2] at hx
      cases hx
    rw [hb]
    refine ⟨fun _ => ?_, fun hf => absurd hf (by simp [exceeded]), fun _ h4 => .inr ?_⟩
    · obtain ⟨hs, hd, hk, hc⟩ := hrest hn
      exact ⟨hs, hd, hk, hc⟩
    · have h4' : l.rex4 = true := by rw [← closeFrame_rex4 r.instructionResult.isOk]; exact h4
      have hacc := haccounts hn h4'
      rw [← closeFrame_rex4 (l := l) r.instructionResult.isOk] at hacc
      exact hacc
  · rw [hb]
    refine ⟨fun hf => absurd hf fun hf => hx.not_within hf, fun _ => hx,
      fun hf => absurd hf fun hf => hx.not_within hf⟩

theorem beforeFrameReturnResult_spec (b : Bool) (r : FrameResult) :
    (l.beforeFrameReturnResult b r).1.spec = l.spec := by
  rcases beforeFrameReturnResult_cases (l := l) b r with
    ⟨-, hb⟩ | ⟨-, -, hb⟩ | ⟨-, -, hb⟩ | ⟨-, -, hb⟩
  all_goals
    rw [hb]
    exact closeFrame_spec _

theorem beforeFrameReturnResult_aligned {n : ℕ} (h : l.Aligned (n + 1)) (b : Bool)
    (r : FrameResult) : (l.beforeFrameReturnResult b r).1.Aligned n := by
  have hclose : (l.closeFrame r.instructionResult.isOk).Aligned n := h.closeFrame _
  rcases beforeFrameReturnResult_cases (l := l) b r with
    ⟨-, hb⟩ | ⟨-, -, hb⟩ | ⟨-, -, hb⟩ | ⟨-, -, hb⟩
  · rw [hb]; exact hclose
  · rw [hb]; exact hclose
  · rw [hb]
    exact hclose
  · rw [hb]; exact hclose

theorem hasActiveFrame_of_aligned {n : ℕ} (ha : l.Aligned (n + 1)) :
    l.dataSize.hasActiveFrame = true := by
  rw [FrameLimitTracker.hasActiveFrame_iff, ha.dataSize]
  omega

theorem not_duplicate {n : ℕ} (ha : l.Aligned (n + 1)) (b : Bool) :
    (b && !l.dataSize.hasActiveFrame) = false := by
  rw [hasActiveFrame_of_aligned ha]
  cases b <;> rfl

theorem closeFrame_of_aligned (ha : l.Aligned 0) (b : Bool) : l.closeFrame b = l.checkLimit := by
  have hdata : l.dataSize.frameStack = [] := List.eq_nil_of_length_eq_zero ha.dataSize
  have hkv : l.kvUpdate.frameStack = [] := List.eq_nil_of_length_eq_zero ha.kvUpdate
  have hgrowth : l.stateGrowth.frameStack = [] := List.eq_nil_of_length_eq_zero ha.stateGrowth
  have hcompute : l.computeGas.frameTracker.frameStack = [] :=
    List.eq_nil_of_length_eq_zero ha.computeGas
  simp [closeFrame, FrameLimitTracker.popFrame, ComputeGasTracker.popFrame, hdata, hkv, hgrowth,
    hcompute]

theorem beforeFrameReturnResult_duplicate (ha : l.Aligned 0) (r : FrameResult) :
    l.beforeFrameReturnResult true r = (l.checkLimit, r) := by
  have hstack : l.dataSize.frameStack = [] := List.eq_nil_of_length_eq_zero ha.dataSize
  have hactive : l.dataSize.hasActiveFrame = false := by
    simp [FrameLimitTracker.hasActiveFrame, hstack]
  rw [← closeFrame_of_aligned ha r.instructionResult.isOk]
  rcases beforeFrameReturnResult_cases (l := l) true r with
    ⟨hx, hb⟩ | ⟨hd, hx, hb⟩ | ⟨hd, hx, hb⟩ | ⟨hd, hx, hb⟩
  · exact hb
  · exact hb
  · simp [hactive] at hd
  · simp [hactive] at hd

theorem txExceeded_keylessLimit (h : l.TxExceeded) : (keylessLimit env l).TxExceeded := by
  unfold keylessLimit
  split
  · exact txExceeded_recordComputeGas h
  · exact h

theorem txExceeded_openFrame {input : FrameInput} {te : Bool} (h : l.TxExceeded) :
    (l.openFrame input te).TxExceeded := (txExceeded_congr (openFrame_sticky h.1)).2 h

theorem txExceeded_closeFrame {b : Bool} (h : l.TxExceeded) : (l.closeFrame b).TxExceeded :=
  (txExceeded_congr (closeFrame_sticky b h.1)).2 h

theorem txExceeded_beforeFrameReturnResult {b : Bool} {r : FrameResult} (h : l.TxExceeded) :
    (l.beforeFrameReturnResult b r).1.TxExceeded := by
  have hclose : (l.closeFrame r.instructionResult.isOk).TxExceeded := txExceeded_closeFrame h
  rcases beforeFrameReturnResult_cases (l := l) b r with
    ⟨hx, hb⟩ | ⟨hd, hx, hb⟩ | ⟨hd, hx, hb⟩ | ⟨hd, hx, hb⟩
  · exact absurd hx fun hx => hclose.not_within hx
  · rw [hb]
    exact hclose
  · rw [hclose.2] at hx
    cases hx
  · rw [hb]
    exact hclose

theorem Answered.txExceeded_hand {r : FrameResult} {n : ℕ} (h : Answered l r.instructionResult)
    (ha : l.Aligned (n + 1)) (b : Bool) :
    (l.beforeFrameReturnResult b r).1.TxExceeded ↔ l.TxExceeded := by
  refine ⟨fun ht => ?_, txExceeded_beforeFrameReturnResult⟩
  by_cases hx : l.exceeded = true
  · have hsticky := closeFrame_sticky r.instructionResult.isOk hx
    rcases beforeFrameReturnResult_cases (l := l) b r with
      ⟨hc, hb⟩ | ⟨hd, hc, hb⟩ | ⟨hd, hc, hb⟩ | ⟨hd, hc, hb⟩
    · rw [exceeded, hsticky] at hc
      rw [exceeded, hc] at hx
      cases hx
    · rw [not_duplicate ha] at hd
      cases hd
    · rw [hb] at ht
      exact absurd ht.1 (by simp [exceeded])
    · exact (txExceeded_congr hsticky).1 hc
  · have hf : l.exceeded = false := by simpa using hx
    have hnot : ¬ l.TxExceeded := fun htl => htl.not_within hf
    have hw := closeFrame_within (h.restorable hnot) (h.settled hf) ha hf r.instructionResult.isOk
    rcases beforeFrameReturnResult_cases (l := l) b r with
      ⟨hc, hb⟩ | ⟨hd, hc, hb⟩ | ⟨hd, hc, hb⟩ | ⟨hd, hc, hb⟩
    · rw [hb] at ht
      exact absurd hc fun hc => ht.not_within hc
    · rw [not_duplicate ha] at hd
      cases hd
    · rw [hb] at ht
      exact absurd ht.1 (by simp [exceeded])
    · exact absurd hw fun hw => hc.not_within hw

theorem notFrameLocal_of_within (h : l.exceeded = false) :
    l.hasExceededLimit.isFrameLocal = false := by
  rw [exceeded_eq_false.1 h]
  rfl

theorem Resuming.checkLimit_halting (h : Resuming l) (ha : l.Aligned 0)
    (hx : l.checkLimit.exceeded = true) : l.checkLimit.TxExceeded :=
  h.owned.checkLimit.txExceeded (aligned_checkLimit.2 ha) hx

theorem notFrameLocal_last (r : FrameResult)
    (h : (l.Aligned 1 ∧ Answered l r.instructionResult) ∨ (l.Aligned 0 ∧ Resuming l)) :
    (l.beforeFrameReturnResult true r).1.hasExceededLimit.isFrameLocal = false := by
  rcases beforeFrameReturnResult_cases (l := l) true r with
    ⟨hx, hb⟩ | ⟨hd, hx, hb⟩ | ⟨hd, hx, hb⟩ | ⟨hd, hx, hb⟩
  · rw [hb]
    exact notFrameLocal_of_within hx
  · rw [hb]
    rcases h with ⟨ha, -⟩ | ⟨ha, hres⟩
    · rw [not_duplicate ha true] at hd
      cases hd
    · rw [closeFrame_of_aligned ha] at hx ⊢
      exact (hres.checkLimit_halting ha hx).2
  · rw [hb]
    rfl
  · rw [hb]
    exact hx.2

theorem Sound.step {e : Event} (h : Sound env s) (hs : step env s e = some s') :
    Sound env s' := by
  obtain ⟨hspec, hframed⟩ := h
  cases step_spec hs with
  | init hp hi =>
    simp only [State.Framed, hp] at hframed
    exact sound_init hspec hframed.1 hframed.2.1 hi
  | stopped hp hf hx =>
    simp only [State.Framed, hp] at hframed
    exact ⟨by simpa using hspec, aligned_checkLimit.2 hframed.1, hframed.2.acting hx _ _⟩
  | resumed hp hf hx hset =>
    simp only [State.Framed, hp] at hframed
    exact ⟨by simpa using hspec, aligned_checkLimit.2 hframed.1, hframed.2.ready hx hset⟩
  | op hp hf =>
    simp only [State.Framed, hp] at hframed
    exact sound_op hspec hf hframed.1 hframed.2
  | opened hp hf =>
    simp only [State.Framed, hp] at hframed
    refine ⟨hspec, hframed.1, hframed.2.opening, fun hx => ?_⟩
    rw [hframed.2.not_exceeded] at hx
    cases hx
  | @returned f rest r r₂ fr journal' hp hf hr hfr hpr =>
    simp only [State.Framed, hp, hf, List.length_cons] at hframed
    have hret := hframed.2.returning f.isCreate
    rw [← hr] at hret
    refine ⟨?_, ?_, ?_⟩
    · simp [depositLimit, returnLimit_spec, hspec]
    · exact aligned_tryRescueGas.2 (returnLimit_aligned hframed.1 _).recordComputeGas
    · exact (hret.answered hpr).tryRescueGas (recordComputeGas_checkLimit _) _
  | @hand p hp =>
    simp only [State.Framed, hp] at hframed
    refine ⟨?_, ?_, ?_⟩
    · exact (beforeFrameReturnResult_spec _ _).trans hspec
    · exact beforeFrameReturnResult_aligned hframed.1 _ _
    · exact hframed.2.resuming hframed.1
  | @insert p hp hn =>
    simp only [State.Framed, hp] at hframed
    cases hf : s.frames with
    | nil =>
      rw [hf] at hframed
      rw [insertResult_nil env _ hf]
      exact ⟨hspec, hf, .inr hframed⟩
    | cons f rest =>
      rw [hf] at hframed
      rw [insertResult_cons env _ hf]
      exact ⟨hspec, hframed⟩
  | @finish p hp hn =>
    simp only [State.Framed, hp] at hframed
    exact ⟨(beforeFrameReturnResult_spec _ _).trans hspec, notFrameLocal_last _ hframed.2⟩

end Invariant

section Start

variable {ev : StartEvent}

def newTxTrackers (env : Env) (ev : StartEvent) : AdditionalLimit :=
  { AdditionalLimit.new env.spec ev.limits with
    computeGas := ComputeGasTracker.reset (env.spec.isEnabled .rex1)
      ⟨ev.detainedLimit, .new ev.limits.txComputeGasLimit⟩
    dataSize := DataSizeTracker.beforeTxStart (.new ev.limits.txDataSizeLimit) env.tx
    kvUpdate := KVUpdateTracker.beforeTxStart (.new ev.limits.txKvUpdatesLimit) env.tx }

theorem onNewTx_eq (env : Env) (ev : StartEvent) :
    onNewTx env ev = (newTxTrackers env ev).checkLimit := rfl

theorem restorable_newTxTrackers (env : Env) (ev : StartEvent) :
    (newTxTrackers env ev).Restorable := by
  have hu : ev.limits.txComputeGasLimit ≤ u64Max := ev.computeGasLimit_u64
  refine ⟨⟨?_, ?_, ?_⟩, ⟨?_, ?_, ?_⟩, ⟨?_, ?_, ?_⟩, ⟨?_, ?_, hu⟩⟩
  all_goals
    simp [newTxTrackers, AdditionalLimit.new, FrameLimitTracker.Discardable,
      FrameLimitTracker.Nested, FrameLimitTracker.Floors, ComputeGasTracker.Persistent,
      ComputeGasTracker.reset, FrameLimitTracker.reset, FrameLimitTracker.new,
      DataSizeTracker.beforeTxStart, KVUpdateTracker.beforeTxStart, FrameLimitTracker.modifyTx]

theorem opening_start (env : Env) (ev : StartEvent) :
    ((onNewTx env ev).recordComputeGas ev.intrinsicGas).spec = env.spec ∧
      ((onNewTx env ev).recordComputeGas ev.intrinsicGas).rescuedGas = 0 ∧
      ((onNewTx env ev).recordComputeGas ev.intrinsicGas).Aligned 0 ∧
      Opening ((onNewTx env ev).recordComputeGas ev.intrinsicGas) := by
  rw [onNewTx_eq]
  have howned : (newTxTrackers env ev).checkLimit.Owned := (owned_of_within rfl).checkLimit
  have hal : (newTxTrackers env ev).checkLimit.Aligned 0 :=
    aligned_checkLimit.2 fun k => by cases k <;> rfl
  have hr : (newTxTrackers env ev).checkLimit.Restorable :=
    restorable_checkLimit.2 (restorable_newTxTrackers env ev)
  refine ⟨by simp [newTxTrackers, AdditionalLimit.new],
    by simp [newTxTrackers, AdditionalLimit.new], hal.recordComputeGas, ?_⟩
  exact
    { settled := fun hf => settled_recordComputeGas hf
      restorable := fun _ => hr.recordComputeGas
      halting := fun hx => howned.recordComputeGas.txExceeded hal.recordComputeGas hx }

theorem sound_start (h : start env ev = some s) : Sound env s := by
  obtain ⟨hspec, -, ha, ho⟩ := opening_start env ev
  unfold start at h
  split at h
  · cases h
  · simp only [Option.map_eq_some_iff] at h
    obtain ⟨storageGas, -, rfl⟩ := h
    split
    · refine ⟨hspec, ?_⟩
      by_cases hx : ((onNewTx env ev).recordComputeGas ev.intrinsicGas).exceeded = true
      · exact (ho.halting hx).2
      · exact notFrameLocal_of_within (by simpa using hx)
    · exact ⟨hspec, ha, ho, fun _ => rfl⟩

theorem Execution.sound {es : List Event} (h : Execution env ev es s) : Sound env s := by
  obtain ⟨s₀, hstart, hrun⟩ := h
  exact Run.invariant' (fun _ _ _ hs hst => hs.step hst) (sound_start hstart) hrun

end Start

end MegaEvm
