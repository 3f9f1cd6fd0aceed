import MegaEvm.FrameInvariant
import MegaEvm.InstructionHooks

/-!
# Inspected runs and the tracker stacks

An inspector may answer a call or a create itself, change the input of a frame
before it is initialised, and change a frame's result before it is returned.
Whatever it does, each of the four trackers has one entry for every frame whose
initialisation began and whose result was not handed over yet: every path that
starts a frame pushes once, and every path that ends one pops once.

Before MINI_REX the guard of every hook is off, and so are the wrappers of the
instructions: the frame loop is the interpreter's own, and the stacks stay as they
are.
-/

set_option autoImplicit false

namespace MegaEvm

open AdditionalLimit

/-- A step with an inspector. `supplied` is the outcome of its call or create
hook; `hooked` is a step whose frame input or frame result it may have changed. -/
inductive InspectEvent where
  | supplied (result : FrameResult)
  | hooked (input : Option FrameInput) (e : Event) (result : Option FrameResult)
  deriving DecidableEq, Repr

/-- `frame_start` sees calls as calls and creates as creates. -/
def State.changeInput (s : State) : Option FrameInput → Option State
  | none => some s
  | some input =>
    match s.phase with
    | .init old =>
      if input.isCreate = old.isCreate then some { s with phase := .init input } else none
    | _ => none

def State.changeResult (before : Phase) (s : State) : Option FrameResult → Option State
  | none => some s
  | some r =>
    match before, s.phase with
    | .init _, .result p | .action _, .result p =>
      some { s with phase := .result { p with result := r } }
    | .init _, .last p => some { s with phase := .last { p with result := r } }
    | _, _ => none

/-- `inspect_frame_init` and `inspect_frame_run` around the steps of a frame loop;
`push` is what an answer of the inspector does to the limits. -/
def inspectWith (next : State → Event → Option State)
    (push : AdditionalLimit → AdditionalLimit) (s : State) : InspectEvent → Option State
  | .supplied r =>
    match s.phase with
    | .init input =>
      if r.isCreate = input.isCreate then
        some ({ s with limit := push s.limit }.answer ⟨r, s.journal⟩)
      else none
    | _ => none
  | .hooked input e result =>
    (s.changeInput input).bind fun s =>
      (next s e).bind fun s' => s'.changeResult s.phase result

def inspectStep (env : Env) : State → InspectEvent → Option State :=
  inspectWith (step env) pushEmptyFrame

section Unhooked

variable (env : Env)

/-- `validate` and `pre_execution` before MINI_REX. -/
def startUnhooked (ev : StartEvent) : Option State :=
  if ev.intrinsicGas > env.tx.gasLimit then none
  else some
    { limit := leftLimit env ev
      volatile := checkTxBeneficiaryAccess env
        (.new ev.limits.blockEnvAccessComputeGasLimit ev.limits.oracleAccessComputeGasLimit)
      frames := []
      journal := ev.journal
      senderNonce := match env.tx.kind with
        | .call _ => ev.nonce + 1
        | .create => ev.nonce
      phase := .init (firstFrameInput env (env.tx.gasLimit - ev.intrinsicGas)) }

def innerFrameInit (s : State) (ev : InitEvent) : FrameInput → Option State
  | .call i => makeCallFrame s i ev
  | .create i => makeCreateFrame env s i ev

def innerInterpStep (s : State) (f : Frame) (rest : List Frame) (ev : OpEvent) : State :=
  let c := runInner env ev (s.ctx f)
  { s with
    frames := { f with gas := c.gas } :: rest
    volatile := c.volatile
    journal := c.journal
    phase := match c.action with
      | some a => .action a
      | none => .interp }

def innerActionStep (s : State) (f : Frame) (rest : List Frame) : InterpreterAction → State
  | .newFrame input => { s with phase := .init input }
  | .return r =>
    let (result, journal) := processReturn env f r s.journal
    { s with frames := rest, journal := journal, phase := .result ⟨result, f.opened⟩ }

def innerLastFrameResult (s : State) (p : Pending) : State :=
  let final :=
    { p.result with result := { p.result.result with gas := settledGas env p.result } }
  { s with phase := .done ⟨final, p.opened⟩ }

/-- The frame loop before MINI_REX. What the inner `frame_init` would have recorded in
the limits is dropped. -/
def stepUnhooked (s : State) (e : Event) : Option State :=
  match s.phase, e, s.frames with
  | .init input, .init ev, _ =>
    (innerFrameInit env s ev input).map fun s' => { s' with limit := s.limit }
  | .run, .tau, _ :: _ => some { s with phase := .interp }
  | .interp, .op ev, f :: rest => some (innerInterpStep env s f rest ev)
  | .action a, .tau, f :: rest => some (innerActionStep env s f rest a)
  | .result p, .tau, _ => some { s with phase := .handed p }
  | .handed p, .tau, _ => if isFatal p then none else some (insertResult env s p)
  | .last p, .tau, _ => if isFatal p then none else some (innerLastFrameResult env s p)
  | _, _, _ => none

end Unhooked

def hookedStart (env : Env) (ev : StartEvent) : Option State :=
  if env.spec.isEnabled .miniRex then start env ev else startUnhooked env ev

def hookedStep (env : Env) : State → InspectEvent → Option State :=
  if env.spec.isEnabled .miniRex then inspectStep env else inspectWith (stepUnhooked env) id

/-- How many frames are open after the next step: initialising a frame opens it,
handing its result over closes it, the end of the transaction closes the rest. -/
def openAfter (s : State) (n : ℕ) : ℕ :=
  match s.phase with
  | .init _ => n + 1
  | .result _ => n - 1
  | .last _ => 0
  | _ => n

def countedStep (env : Env) (x : State × ℕ) (e : InspectEvent) : Option (State × ℕ) :=
  (hookedStep env x.1 e).map fun s' => (s', openAfter x.1 x.2)

def Counted (s : State) (n : ℕ) : Prop :=
  match s.phase with
  | .result _ => n = s.frames.length + 1
  | .last _ => s.frames = [] ∧ n ≤ 1
  | .done _ => s.frames = [] ∧ n = 0
  | _ => n = s.frames.length

section Counting

variable {env : Env} {s s' : State} {n : ℕ} {e : InspectEvent}

theorem counted_answer {p : Pending} (h : n = s.frames.length) : Counted (s.answer p) (n + 1) := by
  unfold State.answer Counted
  cases hf : s.frames with
  | nil =>
    rw [hf, List.length_nil] at h
    exact ⟨rfl, by omega⟩
  | cons f rest =>
    rw [hf] at h
    simp only [List.isEmpty_cons, Bool.false_eq_true, if_false]
    omega

theorem InitStep.counted {input : FrameInput} {ev : InitEvent} (hp : s.phase = .init input)
    (hc : Counted s n) (h : InitStep env s input ev s') : Counted s' (n + 1) := by
  simp only [Counted, hp] at hc
  cases h with
  | keyless hi hf h2 hk => cases hk <;> exact counted_answer hc
  | control | refused | answered => exact counted_answer hc
  | entered =>
    simp only [Counted, List.length_cons]
    omega

theorem step_counted {e : Event} (hc : Counted s n) (h : step env s e = some s') :
    Counted s' (openAfter s n) := by
  unfold openAfter
  cases step_spec h with
  | init hp hi =>
    simp only [hp]
    exact hi.counted hp hc
  | stopped hp hf | resumed hp hf | opened hp hf =>
    simp only [Counted, hp] at hc ⊢
    exact hc
  | op hp hf =>
    simp only [Counted, hp, hf] at hc ⊢
    simp only [interpStep]
    split
    all_goals first | exact hc | (split at * <;> simp_all)
  | returned hp hf =>
    simp only [Counted, hp, hf, List.length_cons] at hc ⊢
    exact hc
  | hand hp =>
    simp only [Counted, hp] at hc
    simp only [hp, frameReturnResult, Counted]
    omega
  | insert hp hn =>
    simp only [Counted, hp] at hc
    cases hf : s.frames with
    | nil =>
      rw [insertResult_nil env _ hf]
      simp only [Counted, hp]
      rw [hf] at hc
      exact ⟨hf, by simp at hc; omega⟩
    | cons f rest =>
      rw [insertResult_cons env _ hf]
      simp only [Counted, hp, List.length_cons]
      rw [hf] at hc
      exact hc
  | finish hp hn =>
    simp only [Counted, hp] at hc
    simp only [hp, lastFrameResult, Counted]
    exact ⟨hc.1, trivial⟩

theorem innerFrameInit_counted {ev : InitEvent} {input : FrameInput} (hc : n = s.frames.length)
    (h : innerFrameInit env s ev input = some s') : Counted s' (n + 1) := by
  cases input with
  | call i =>
    simp only [innerFrameInit, makeCallFrame] at h
    split at h
    · cases h
      exact counted_answer hc
    · split at h
      · cases h
        exact counted_answer hc
      · obtain ⟨r, -, rfl⟩ := Option.map_eq_some_iff.1 h
        exact counted_answer hc
      · cases h
        exact counted_answer hc
      · cases h
        exact congrArg (· + 1) hc
  | create i =>
    have hbump : s.bumpNonce.frames = s.frames := rfl
    simp only [innerFrameInit, makeCreateFrame] at h
    split at h
    · cases h
      exact counted_answer hc
    · split at h
      · split at h
        · cases h
        · cases h
          exact counted_answer hc
      · split at h
        · cases h
        · cases h
          exact counted_answer hc
      · cases h
        exact counted_answer hc
      · cases h
        exact congrArg (· + 1) hc

theorem stepUnhooked_limit {e : Event} (h : stepUnhooked env s e = some s') :
    s'.limit = s.limit := by
  unfold stepUnhooked at h
  split at h
  · obtain ⟨m, -, rfl⟩ := Option.map_eq_some_iff.1 h
    rfl
  · cases h
    rfl
  · cases h
    rfl
  · next a f rest _ _ =>
    cases h
    cases a <;> rfl
  · cases h
    rfl
  · next p _ =>
    split at h
    · cases h
    · cases h
      cases hf : s.frames with
      | nil => rw [insertResult_nil env p hf]
      | cons f rest => rw [insertResult_cons env p hf]
  · split at h
    · cases h
    · cases h
      rfl
  · cases h

theorem stepUnhooked_counted {e : Event} (hc : Counted s n) (h : stepUnhooked env s e = some s') :
    Counted s' (openAfter s n) := by
  unfold stepUnhooked at h
  split at h
  · next input ev hp =>
    simp only [Counted, openAfter, hp] at hc ⊢
    obtain ⟨m, hm, rfl⟩ := Option.map_eq_some_iff.1 h
    have hcounted : Counted m (n + 1) := innerFrameInit_counted hc hm
    exact hcounted
  · next hp hf =>
    cases h
    simp only [Counted, openAfter, hp] at hc ⊢
    exact hc
  · next ev f rest hp hf =>
    cases h
    simp only [Counted, hp, hf] at hc
    simp only [openAfter, hp, Counted, innerInterpStep]
    cases (runInner env ev (s.ctx f)).action with
    | none => exact hc
    | some a => exact hc
  · next a f rest hp hf =>
    cases h
    simp only [Counted, hp, hf, List.length_cons] at hc
    simp only [openAfter, hp]
    cases a with
    | newFrame input => simpa [Counted, innerActionStep, hf] using hc
    | «return» r => exact hc
  · next p hp =>
    cases h
    simp only [Counted, openAfter, hp] at hc ⊢
    omega
  · next p hp =>
    split at h
    · cases h
    · cases h
      simp only [Counted, openAfter, hp] at hc ⊢
      cases hf : s.frames with
      | nil =>
        rw [insertResult_nil env p hf]
        rw [hf, List.length_nil] at hc
        exact ⟨hf, by omega⟩
      | cons f rest =>
        rw [insertResult_cons env p hf]
        rw [hf] at hc
        exact hc
  · next p hp =>
    split at h
    · cases h
    · cases h
      simp only [Counted, openAfter, hp] at hc ⊢
      exact ⟨hc.1, trivial⟩
  · cases h

theorem changeInput_eq {input : Option FrameInput} {m : State}
    (h : s.changeInput input = some m) :
    m = s ∨ ∃ old new, s.phase = .init old ∧ m = { s with phase := .init new } := by
  unfold State.changeInput at h
  split at h
  · exact .inl (Option.some.inj h).symm
  · next i =>
    split at h
    · next old hp =>
      split at h
      · exact .inr ⟨old, i, hp, (Option.some.inj h).symm⟩
      · cases h
    · cases h

theorem changeResult_eq {before : Phase} {result : Option FrameResult} {m : State}
    (h : s.changeResult before result = some m) :
    m = s ∨ ∃ p r, (s.phase = .result p ∧ m = { s with phase := .result r }) ∨
      (s.phase = .last p ∧ m = { s with phase := .last r }) := by
  unfold State.changeResult at h
  split at h
  · exact .inl (Option.some.inj h).symm
  · split at h
    case h_1 p hp => exact .inr ⟨p, _, .inl ⟨hp, (Option.some.inj h).symm⟩⟩
    case h_2 p hp => exact .inr ⟨p, _, .inl ⟨hp, (Option.some.inj h).symm⟩⟩
    case h_3 p hp => exact .inr ⟨p, _, .inr ⟨hp, (Option.some.inj h).symm⟩⟩
    case h_4 => cases h

theorem inspectWith_keeps {next : State → Event → Option State}
    {push : AdditionalLimit → AdditionalLimit} {P Q : State → Prop}
    (hstep : ∀ s e s', P s → next s e = some s' → Q s')
    (hanswer : ∀ s i p, P s → s.phase = .init i → Q ({ s with limit := push s.limit }.answer p))
    (hinput : ∀ s i j, P s → s.phase = .init i → P { s with phase := .init j })
    (hresult : ∀ s p q, Q s → s.phase = .result p → Q { s with phase := .result q })
    (hlast : ∀ s p q, Q s → s.phase = .last p → Q { s with phase := .last q })
    (hP : P s) (h : inspectWith next push s e = some s') : Q s' := by
  unfold inspectWith at h
  split at h
  · next r =>
    split at h
    · next input hp =>
      split at h
      · rw [← Option.some.inj h]
        exact hanswer s input _ hP hp
      · cases h
    · cases h
  · next input ev result =>
    obtain ⟨m, hm, h⟩ := Option.bind_eq_some_iff.1 h
    obtain ⟨s₁, hs₁, h⟩ := Option.bind_eq_some_iff.1 h
    have hPm : P m := by
      rcases changeInput_eq hm with rfl | ⟨old, new, hp, rfl⟩
      · exact hP
      · exact hinput s old new hP hp
    have hQ : Q s₁ := hstep m ev s₁ hPm hs₁
    rcases changeResult_eq h with rfl | ⟨p, r, ⟨hp, rfl⟩ | ⟨hp, rfl⟩⟩
    · exact hQ
    · exact hresult s₁ p r hQ hp
    · exact hlast s₁ p r hQ hp

theorem inspectWith_counted {next : State → Event → Option State}
    {push : AdditionalLimit → AdditionalLimit}
    (hnext : ∀ m n e m', Counted m n → next m e = some m' → Counted m' (openAfter m n))
    (hc : Counted s n) (h : inspectWith next push s e = some s') :
    Counted s' (openAfter s n) := by
  apply inspectWith_keeps (P := fun m => Counted m n ∧ openAfter m n = openAfter s n)
    (Q := fun m => Counted m (openAfter s n)) _ _ _ _ _ ⟨hc, rfl⟩ h
  · intro m ev m' ⟨hm, hn⟩ hs
    rw [← hn]
    exact hnext m n ev m' hm hs
  · intro m i p ⟨hm, hn⟩ hp
    simp only [Counted, hp] at hm
    have hopen : openAfter m n = n + 1 := by simp only [openAfter, hp]
    rw [← hn, hopen]
    exact counted_answer hm
  · intro m i j ⟨hm, hn⟩ hp
    simp only [Counted, openAfter, hp] at hm hn ⊢
    exact ⟨hm, hn⟩
  · intro m p q hm hp
    simp only [Counted, hp] at hm ⊢
    exact hm
  · intro m p q hm hp
    simp only [Counted, hp] at hm ⊢
    exact hm

end Counting

section Alignment

variable {env : Env} {s s' : State} {n : ℕ} {e : InspectEvent}

/-- Each hook that opens a frame pushes once, each that closes one pops once, and
the last result pops what the frame loop left. -/
theorem step_aligned {e : Event} (hc : Counted s n) (ha : s.limit.Aligned n)
    (h : step env s e = some s') : s'.limit.Aligned (openAfter s n) := by
  unfold openAfter
  cases step_spec h with
  | init hp hi =>
    simp only [Counted, hp] at hc
    subst hc
    simp only [hp]
    exact hi.aligned ha
  | stopped hp | resumed hp =>
    simp only [hp]
    exact aligned_checkLimit.2 ha
  | opened hp =>
    simp only [hp]
    exact ha
  | op hp hf =>
    simp only [hp]
    exact instruction_aligned ha
  | returned hp =>
    simp only [hp]
    exact aligned_tryRescueGas.2 (returnLimit_aligned ha _).recordComputeGas
  | hand hp =>
    simp only [Counted, hp] at hc
    subst hc
    simp only [hp, Nat.add_sub_cancel]
    exact beforeFrameReturnResult_aligned ha false _
  | insert hp hn =>
    simp only [hp]
    cases hf : s.frames with
    | nil =>
      rw [insertResult_nil env _ hf]
      exact ha
    | cons f rest =>
      rw [insertResult_cons env _ hf]
      exact ha
  | @finish p hp hn =>
    simp only [Counted, hp] at hc
    simp only [hp]
    have hn1 : n = 0 ∨ n = 1 := by omega
    rcases hn1 with rfl | rfl
    · rw [lastFrameResult_limit, beforeFrameReturnResult_duplicate ha]
      exact aligned_checkLimit.2 ha
    · exact beforeFrameReturnResult_aligned ha true p.result

theorem inspectStep_aligned (hc : Counted s n) (ha : s.limit.Aligned n)
    (h : inspectStep env s e = some s') : s'.limit.Aligned (openAfter s n) := by
  apply inspectWith_keeps
    (P := fun m => (Counted m n ∧ m.limit.Aligned n) ∧ openAfter m n = openAfter s n)
    (Q := fun m => m.limit.Aligned (openAfter s n)) _ _ _ _ _ ⟨⟨hc, ha⟩, rfl⟩ h
  · intro m ev m' ⟨⟨hm, hal⟩, hn⟩ hs
    rw [← hn]
    exact step_aligned hm hal hs
  · intro m i p ⟨⟨hm, hal⟩, hn⟩ hp
    have hopen : openAfter m n = n + 1 := by simp only [openAfter, hp]
    rw [← hn, hopen]
    exact hal.pushEmptyFrame
  · intro m i j ⟨⟨hm, hal⟩, hn⟩ hp
    simp only [Counted, openAfter, hp] at hm hn ⊢
    exact ⟨⟨hm, hal⟩, hn⟩
  · exact fun m p q hm hp => hm
  · exact fun m p q hm hp => hm

end Alignment

def State.stackHeights (s : State) : List ℕ :=
  [s.limit.stateGrowth.height, s.limit.dataSize.height, s.limit.kvUpdate.height,
    s.limit.computeGas.height]

def AdditionalLimit.CreatedUnrecorded (l : AdditionalLimit) : Prop :=
  (∀ e ∈ l.dataSize.frameStack.head?, e.info.targetAddress = none) ∧
    ∀ e ∈ l.kvUpdate.frameStack.head?, e.info.targetAddress = none

/-- The assertions of the hooks: a result that is handed over finds an open frame
in every tracker, a create frame that is entered finds no created account. -/
structure State.Asserts (env : Env) (s : State) : Prop where
  nonempty : env.spec.isEnabled .miniRex = true → ∀ p, s.phase = .result p →
    s.limit.stateGrowth.hasActiveFrame = true ∧ s.limit.dataSize.hasActiveFrame = true ∧
      s.limit.kvUpdate.hasActiveFrame = true ∧
      s.limit.computeGas.frameTracker.hasActiveFrame = true
  unrecorded : ∀ i targetEmpty,
    ((detected env s (.create i)).limit.openFrame (.create i) targetEmpty).CreatedUnrecorded

section Assertions

open FrameLimitTracker

theorem head?_pushFrameBy {ι : Type} (rex4 : Bool) (t : FrameLimitTracker ι) (i : ι) :
    ∀ e ∈ (t.pushFrameBy rex4 i).frameStack.head?, e.info = i := by
  unfold pushFrameBy
  split <;> simp [pushFrame, pushFrameWithLimit, FrameLimitEntry.new]

theorem head?_recordIf {t : AccountTracker} {P : CallFrameInfo → Prop} (b : Bool) (n : ℕ)
    (h : ∀ e ∈ t.frameStack.head?, P e.info) :
    ∀ e ∈ (AccountTracker.recordIf b n t).frameStack.head?, P e.info := by
  unfold AccountTracker.recordIf
  split
  · unfold recordDiscardable modifyFrame
    cases hs : t.frameStack with
    | nil => simp [hs]
    | cons e rest =>
      rw [hs] at h
      simpa using h
  · exact h

theorem createdUnrecorded_openFrame (l : AdditionalLimit) (i : CreateInputs)
    (targetEmpty : Bool) : (l.openFrame (.create i) targetEmpty).CreatedUnrecorded := by
  have hpush (t : AccountTracker) (unit : ℕ) :
      ∀ e ∈ (AccountTracker.beforeFrameInitBy unit l.rex4 t (.create i)).frameStack.head?,
        e.info.targetAddress = none := by
    apply head?_recordIf (P := fun info => info.targetAddress = none)
    intro e he
    rw [head?_pushFrameBy l.rex4 t _ e he]
  unfold openFrame CreatedUnrecorded
  rw [checkLimit_dataSize, checkLimit_kvUpdate]
  exact ⟨hpush l.dataSize _, hpush l.kvUpdate _⟩

theorem asserts_of_aligned {env : Env} {s : State} {n : ℕ} (hc : Counted s n)
    (ha : env.spec.isEnabled .miniRex = true → s.limit.Aligned n) : s.Asserts env where
  nonempty := by
    intro hon p hp
    have hal := ha hon
    simp only [Counted, hp] at hc
    subst hc
    simp only [hasActiveFrame_iff, hal.stateGrowth, hal.dataSize, hal.kvUpdate, hal.computeGas]
    omega
  unrecorded := fun i te => createdUnrecorded_openFrame _ i te

end Assertions

section Run

variable {env : Env} {s s₀ : State} {n : ℕ}

theorem startUnhooked_counted {ev : StartEvent} (h : startUnhooked env ev = some s) :
    Counted s 0 ∧ s.limit.Aligned 0 := by
  unfold startUnhooked at h
  split at h
  · cases h
  · cases h
    exact ⟨rfl, fun k => by cases k <;> rfl⟩

theorem start_counted {ev : StartEvent} (h : start env ev = some s) :
    Counted s 0 ∧ s.limit.Aligned 0 := by
  have ha : ((onNewTx env ev).recordComputeGas ev.intrinsicGas).Aligned 0 :=
    (opening_start env ev).2.2.1
  unfold start at h
  split at h
  · cases h
  · simp only [Option.map_eq_some_iff] at h
    obtain ⟨storageGas, -, rfl⟩ := h
    split
    · exact ⟨⟨rfl, rfl⟩, ha⟩
    · exact ⟨rfl, ha⟩

structure Tracked (env : Env) (s : State) (n : ℕ) : Prop where
  counted : Counted s n
  aligned : s.limit.Aligned (if env.spec.isEnabled .miniRex then n else 0)

theorem tracked_start {ev : StartEvent} (h : hookedStart env ev = some s) : Tracked env s 0 := by
  have hzero : Counted s 0 ∧ s.limit.Aligned 0 := by
    unfold hookedStart at h
    split at h
    · exact start_counted h
    · exact startUnhooked_counted h
  exact ⟨hzero.1, by simpa using hzero.2⟩

theorem Tracked.step {e : InspectEvent} {x : State × ℕ} (h : Tracked env s n)
    (hs : countedStep env (s, n) e = some x) : Tracked env x.1 x.2 := by
  unfold countedStep hookedStep at hs
  obtain ⟨s', hs', rfl⟩ := Option.map_eq_some_iff.1 hs
  have ha := h.aligned
  by_cases hon : env.spec.isEnabled .miniRex = true
  · simp only [hon, if_true] at ha hs'
    refine ⟨inspectWith_counted (fun m n e m' => step_counted) h.counted hs', ?_⟩
    simpa [hon] using inspectStep_aligned h.counted ha hs'
  · simp only [hon, Bool.false_eq_true, if_false] at ha hs'
    refine ⟨inspectWith_counted (fun m n e m' => stepUnhooked_counted) h.counted hs', ?_⟩
    have hlimit : s'.limit = s.limit := by
      apply inspectWith_keeps (P := fun m => m.limit = s.limit)
        (Q := fun m => m.limit = s.limit) _ _ _ _ _ rfl hs'
      · exact fun m e m' hm hs => (stepUnhooked_limit hs).trans hm
      · exact fun m i p hm hp => hm
      · exact fun m i j hm hp => hm
      · exact fun m p q hm hp => hm
      · exact fun m p q hm hp => hm
    simpa [hon, hlimit] using ha

/-- Along every inspected run from MINI_REX on the four stacks are as high as
there are open frames, no assertion of the hooks fires, and the stacks are empty
when the transaction ends. Before MINI_REX they stay empty. -/
theorem tracker_stacks_aligned {ev : StartEvent} {es : List InspectEvent}
    (hstart : hookedStart env ev = some s₀)
    (hr : Run.run (countedStep env) (s₀, 0) es = some (s, n)) :
    (∀ h ∈ s.stackHeights, h = if env.spec.isEnabled .miniRex then n else 0) ∧ Counted s n ∧
      s.Asserts env ∧ ∀ p, s.phase = .done p → ∀ h ∈ s.stackHeights, h = 0 := by
  have htracked : Tracked env s n :=
    Run.invariant' (I := fun x => Tracked env x.1 x.2) (fun x e x' h hs => h.step hs)
      (tracked_start hstart) hr
  have hal := htracked.aligned
  have hheights : ∀ h ∈ s.stackHeights, h = if env.spec.isEnabled .miniRex then n else 0 := by
    simp [State.stackHeights, ComputeGasTracker.height, hal.stateGrowth, hal.dataSize,
      hal.kvUpdate, hal.computeGas]
  refine ⟨hheights, htracked.counted, ?_, ?_⟩
  · apply asserts_of_aligned htracked.counted
    intro hon
    simpa [hon] using hal
  · intro p hp h hh
    have hc := htracked.counted
    simp only [Counted, hp] at hc
    rw [hheights h hh, hc.2]
    split <;> rfl

def watched (es : List Event) : List InspectEvent := es.map fun e => .hooked none e none

def suppliedEvents : List InspectEvent :=
  watched ([.init sampleInit, .tau] ++ samplePushes ++ [.op sampleCall, .tau]) ++
    [.supplied (callResult .stop [] (.new 502300))]

def suppliedStart : StartEvent := sampleStart EvmTxRuntimeLimits.rex4 rex4_computeGas_fits

def suppliedEnv : Env := sampleEnv .rex4 (.call 3) .other 1000000

/-- The supplied result is a second open frame. -/
theorem tracker_stacks_aligned_supplied :
    ∃ s₀ s : State, hookedStart suppliedEnv suppliedStart = some s₀ ∧
      Run.run (countedStep suppliedEnv) (s₀, 0) suppliedEvents = some (s, 2) ∧
      (∀ h ∈ s.stackHeights, h = 2) ∧ s.frames.length = 1 := by
  let env := suppliedEnv
  have hstart : (hookedStart env suppliedStart).isSome = true := by decide
  obtain ⟨s₀, hs₀⟩ := Option.isSome_iff_exists.1 hstart
  have hrun : ((hookedStart env suppliedStart).bind fun s₀ =>
      Run.run (countedStep env) (s₀, 0) suppliedEvents).map (fun x => (x.2, x.1.frames.length)) =
      some (2, 1) := by decide
  rw [hs₀, Option.bind_some, Option.map_eq_some_iff] at hrun
  obtain ⟨⟨s, n⟩, hr, hx⟩ := hrun
  obtain ⟨rfl, hlen⟩ := Prod.ext_iff.1 hx
  exact ⟨s₀, s, hs₀, hr, (tracker_stacks_aligned hs₀ hr).1, hlen⟩

/-- Before MINI_REX an open frame has no entry. -/
theorem tracker_stacks_unused :
    ¬ ∀ env ev es s₀ s n, hookedStart env ev = some s₀ →
      Run.run (countedStep env) (s₀, 0) es = some (s, n) → ∀ h ∈ s.stackHeights, h = n := by
  intro h
  let env := sampleEnv .equivalence (.call 3) .other 1000000
  have hstart : (hookedStart env suppliedStart).isSome = true := by decide
  obtain ⟨s₀, hs₀⟩ := Option.isSome_iff_exists.1 hstart
  have hrun : ((hookedStart env suppliedStart).bind fun s₀ =>
      Run.run (countedStep env) (s₀, 0) [.hooked none (.init sampleInit) none]).map
        (fun x => (x.2, x.1.stackHeights)) = some (1, [0, 0, 0, 0]) := by decide
  rw [hs₀, Option.bind_some, Option.map_eq_some_iff] at hrun
  obtain ⟨⟨s, n⟩, hr, hx⟩ := hrun
  obtain ⟨rfl, hheights⟩ := Prod.ext_iff.1 hx
  have hzero := h env suppliedStart _ s₀ s _ hs₀ hr 0 (by simp_all)
  cases hzero

end Run

end MegaEvm
