import MegaEvm.ExceededStart
import MegaEvm.HookClosed

/-!
# Why a transaction halted

The reason of a halt is built at the end of the transaction, from its last
result and from the trackers as they are then. A transaction halts by itself
when it cannot pay for its initial gas or its first frame ends in an error, and
for a limit when an exceed is flagged first. An exceed that is only found after
the error takes its place in the report. A deposit that halts is reported to
have failed, for a limit or not.
-/

set_option autoImplicit false

namespace MegaEvm

open AdditionalLimit

section Definitions

variable (env : Env)

def innerError (s : State) (input : FrameInput) (ev : InitEvent) : Option InstructionResult :=
  if ((detected env s input).limit.openFrame input ev.targetEmpty).exceeded then none
  else match (frameInit env s input ev).map State.phase with
    | some (.last p) =>
      if p.result.instructionResult.isError then some p.result.instructionResult else none
    | _ => none

/-- The first frame ends in an error at once, and whether an exceed was flagged before. -/
def initHalt (s : State) (input : FrameInput) (ev : InitEvent) :
    Option (InstructionResult × Bool) :=
  match input with
  | .call i =>
    if isKeylessCall env s i then
      if i.gasLimit < constants.KEYLESS_DEPLOY_OVERHEAD_GAS then
        some (.outOfGas, s.limit.exceeded)
      else none
    else (innerError env s (.call i) ev).map (·, false)
  | .create i => (innerError env s (.create i) ev).map (·, false)

def exceedsOnReturn (s : State) (f : Frame) (a : InterpreterResult) : Bool :=
  (s.limit.countOutput f.isCreate (.return (storageCharged f.isCreate a))).checkLimit.exceeded

/-- A frame that no limit has stopped returns an error, and whether the check
that follows will find an exceed. -/
def returnHalt (s : State) (f : Frame) (a : InterpreterResult) :
    Option (InstructionResult × Bool) :=
  let r := (processReturn env f (storageCharged f.isCreate a) s.journal).1.instructionResult
  if !s.limit.exceeded && r.isError then some (r, exceedsOnReturn s f a) else none

def selfHalt (s : State) : Event → Option (InstructionResult × Bool)
  | .init ev =>
    match s.phase, s.frames with
    | .init input, [] => initHalt env s input ev
    | _, _ => none
  | .tau =>
    match s.phase, s.frames with
    | .action (.return a), [f] => returnHalt env s f a
    | _, _ => none
  | .op _ => none

def selfHalts : State → List Event → Option (InstructionResult × Bool)
  | _, [] => none
  | s, e :: es => (selfHalt env s e).or ((step env s e).bind fun s' => selfHalts s' es)

/-- The error a transaction halts with by itself, and whether an exceed hides it. -/
def ownHalt (s₀ : State) (es : List Event) : Option (InstructionResult × Bool) :=
  match s₀.phase with
  | .done _ => some (.outOfGas, s₀.limit.exceeded)
  | _ => selfHalts env s₀ es

def LimitCheck.byDetention (txLimit : ℕ) : LimitCheck → Bool
  | .exceedsLimit .computeGas limit _ _ => decide (limit < txLimit)
  | _ => false

def MegaHaltReason.isVolatile : MegaHaltReason → Bool
  | volatileDataAccessOutOfGas .. => true
  | _ => false

/-- The reason is what the transaction halted for: its own error, with which a
deposit failed, or the limit of the transaction that was exceeded, a detained one
by its own name. -/
def Attributed (env : Env) (own : Option (InstructionResult × Bool)) (l : AdditionalLimit)
    (reason : MegaHaltReason) : Prop :=
  match own with
  | some (r, _) => reason = if env.isDeposit then .failedDeposit else .base r
  | none => l.TxExceeded ∧
      if l.hasExceededLimit.byDetention l.computeGas.frameTracker.txLimit then
        reason.isVolatile = true
      else some reason = l.hasExceededLimit.maybeHaltReason

/-- No exceed hides the error of the transaction. Where compute gas exceeded a
detained limit, this transaction accessed volatile data; where another limit was
exceeded, compute gas is not above a detained limit as well. A deposit tells
nothing of a limit. -/
def Discernible (env : Env) (own : Option (InstructionResult × Bool)) (s : State) : Prop :=
  match own with
  | some (_, hidden) => env.isDeposit = true ∨ hidden = false
  | none => env.isDeposit = false ∧
    if s.limit.hasExceededLimit.byDetention s.limit.computeGas.frameTracker.txLimit then
      s.volatile.getVolatileDataInfo.isSome = true
    else s.volatile.getVolatileDataInfo.isSome = true →
      s.limit.computeGas.isDetainedExceed = false

/-- A flagged exceed of compute gas is still there: the usage has not gone down
since, nor the limit up. -/
def FlagStands (l : AdditionalLimit) : Prop :=
  l.computeGas.Persistent ∧ ∀ limit used,
    l.hasExceededLimit = .exceedsLimit .computeGas limit used false →
      l.computeGas.txLimit ≤ limit ∧ limit < l.computeGas.txUsage

/-- A result that has no frame left to go to, and the error it halted with. -/
inductive Ruled (l : AdditionalLimit) (r : InstructionResult) :
    Option (InstructionResult × Bool) → Prop
  | itself (hw : l.exceeded = false) (hs : l.Settled) : Ruled l r (some (r, false))
  | limit {own : Option (InstructionResult × Bool)} (hno : ∀ r', own ≠ some (r', false))
      (h : r.isError = true → l.TxExceeded ∧ r = .outOfGas) : Ruled l r own

end Definitions

section Flag

variable {env : Env} {s s' : State} {l l' : AdditionalLimit} {input : FrameInput} {ev : InitEvent}

theorem FlagStands.mono (h : FlagStands l) (hp : l'.computeGas.Persistent)
    (hf : l'.hasExceededLimit = l.hasExceededLimit)
    (hl : l'.computeGas.txLimit ≤ l.computeGas.txLimit)
    (hu : l.computeGas.txUsage ≤ l'.computeGas.txUsage) : FlagStands l' := by
  refine ⟨hp, fun limit used hflag => ?_⟩
  obtain ⟨hle, hlt⟩ := h.2 limit used (hf ▸ hflag)
  exact ⟨hl.trans hle, hlt.trans_le hu⟩

theorem FlagStands.of_eq (h : FlagStands l) (hc : l'.computeGas = l.computeGas)
    (hf : l'.hasExceededLimit = l.hasExceededLimit) : FlagStands l' := by
  refine h.mono ?_ hf ?_ ?_
  · rw [hc]
    exact h.1
  · rw [hc]
  · rw [hc]

theorem examine_computeGas {limit used : ℕ}
    (h : l.examine = .exceedsLimit .computeGas limit used false) :
    limit = l.computeGas.txLimit ∧ l.computeGas.txLimit < l.computeGas.txUsage := by
  have hcompute : l.computeGas.checkLimit l.rex4 = .exceedsLimit .computeGas limit used false := by
    unfold examine at h
    split at h
    · cases (FrameLimitTracker.checkLimitBy_eq_exceeds h).1
    · split at h
      · cases (FrameLimitTracker.checkLimitBy_eq_exceeds h).1
      · split at h
        · exact h
        · split at h
          · cases (FrameLimitTracker.checkLimitBy_eq_exceeds h).1
          · cases h
  refine ⟨?_, (ComputeGasTracker.checkLimit_eq_exceeds hcompute).2.2 rfl⟩
  unfold ComputeGasTracker.checkLimit at hcompute
  split at hcompute
  · cases (FrameLimitTracker.exceedsCurrentFrameLimit_eq_exceeds hcompute).2.1
  · unfold ComputeGasTracker.checkTxLimit at hcompute
    split at hcompute
    · simp only [LimitCheck.exceedsLimit.injEq] at hcompute
      exact hcompute.2.1.symm
    · cases hcompute

theorem FlagStands.checkLimit (h : FlagStands l) : FlagStands l.checkLimit := by
  by_cases hx : l.exceeded = true
  · rwa [checkLimit_of_exceeded hx]
  · have hw : l.hasExceededLimit = .withinLimit := exceeded_eq_false.1 (by simpa using hx)
    rw [checkLimit_of_within hw]
    refine ⟨h.1, fun limit used hflag => ?_⟩
    obtain ⟨rfl, hlt⟩ := examine_computeGas hflag
    exact ⟨le_rfl, hlt⟩

theorem FlagStands.recordComputeGas (h : FlagStands l) (g : ℕ) :
    FlagStands (l.recordComputeGas g) := by
  refine FlagStands.checkLimit (h.mono ?_ rfl ?_ ?_)
  · exact h.1.recordGasUsed g
  · exact (ComputeGasTracker.txLimit_recordGasUsed g).le
  · exact ComputeGasTracker.txUsage_le_recordGasUsed g

theorem FlagStands.setComputeGasLimit (h : FlagStands l) (cap : ℕ) :
    FlagStands (l.setComputeGasLimit cap) :=
  h.mono h.1 rfl (min_le_min le_rfl (min_le_left _ _)) le_rfl

theorem FlagStands.pushed (h : FlagStands l) (hc : l'.computeGas = l.computeGas.pushFrame l.rex4)
    (hf : l'.hasExceededLimit = l.hasExceededLimit) : FlagStands l' := by
  refine h.mono ?_ hf ?_ ?_
  · rw [hc]
    exact h.1.pushFrame
  · rw [hc, ComputeGasTracker.txLimit_pushFrame]
  · rw [hc, ComputeGasTracker.txUsage_pushFrame]

theorem FlagStands.closeFrame (h : FlagStands l) (b : Bool) : FlagStands (l.closeFrame b) := by
  refine FlagStands.checkLimit (h.mono ?_ rfl ?_ ?_)
  · exact h.1.popFrame b
  · exact (ComputeGasTracker.txLimit_popFrame b).le
  · exact (h.1.txUsage_popFrame b).ge

theorem FlagStands.beforeFrameReturnResult (h : FlagStands l) (b : Bool) (r : FrameResult) :
    FlagStands (l.beforeFrameReturnResult b r).1 := by
  have hclose := h.closeFrame r.instructionResult.isOk
  rcases beforeFrameReturnResult_cases (l := l) b r with
    ⟨-, hb⟩ | ⟨-, -, hb⟩ | ⟨-, -, hb⟩ | ⟨-, -, hb⟩
  · rw [hb]
    exact hclose
  · rw [hb]
    exact hclose
  · rw [hb]
    exact ⟨hclose.1, nofun⟩
  · rw [hb]
    exact hclose

theorem flagStands_closed : HookClosed FlagStands where
  recordComputeGas l g h := h.recordComputeGas g
  setComputeGasLimit l cap h := h.setComputeGasLimit cap
  onSstore l r h := FlagStands.checkLimit (h.of_eq rfl rfl)
  onLog l topics size h := FlagStands.checkLimit (h.of_eq rfl rfl)
  checkLimit l h := h.checkLimit
  openFrame l input te h := FlagStands.checkLimit (h.pushed rfl rfl)
  pushEmptyFrame l h := h.pushed rfl rfl
  afterFrameInitItem l created h := h.of_eq rfl rfl
  returnLimit l isCreate r h := by
    unfold returnLimit
    split
    · exact FlagStands.checkLimit (h.of_eq rfl rfl)
    · exact h
  tryRescueGas l g h := by
    refine h.checkLimit.of_eq ?_ (tryRescueGas_hasExceededLimit l g)
    rw [tryRescueGas_computeGas, checkLimit_computeGas]
  beforeFrameReturnResult l last r h := h.beforeFrameReturnResult last r

theorem flagStands_start {e : StartEvent} (hstart : start env e = some s) :
    FlagStands s.limit := by
  rw [start_limit hstart, onNewTx_eq]
  have hfresh : FlagStands (newTxTrackers env e) :=
    ⟨(restorable_newTxTrackers env e).computeGas.persistent, fun _ _ hflag => by cases hflag⟩
  exact hfresh.checkLimit.recordComputeGas _

theorem FlagStands.detained (h : FlagStands l) (hx : l.TxExceeded)
    (hd : l.hasExceededLimit.byDetention l.computeGas.frameTracker.txLimit = true) :
    l.computeGas.isDetainedExceed = true := by
  cases hflag : l.hasExceededLimit with
  | withinLimit =>
    rw [hflag] at hd
    cases hd
  | exceedsLimit kind limit used frameLocal =>
    have hlocal := hx.2
    rw [hflag, LimitCheck.isFrameLocal_exceedsLimit] at hlocal
    subst hlocal
    cases kind with
    | dataSize | kvUpdate | stateGrowth =>
      rw [hflag] at hd
      cases hd
    | computeGas =>
      rw [hflag] at hd
      have hlt : limit < l.computeGas.frameTracker.txLimit := of_decide_eq_true hd
      obtain ⟨hle, hused⟩ := h.2 limit used hflag
      unfold ComputeGasTracker.txLimit at hle
      simp only [ComputeGasTracker.isDetainedExceed, Bool.and_eq_true, decide_eq_true_eq]
      omega

end Flag

section Reason

theorem haltReason_isSome (env : Env) (l : AdditionalLimit) (v : VolatileDataAccessTracker)
    (r : InstructionResult) : (haltReason env l v r).isSome = true := by
  unfold haltReason
  split
  · rfl
  · split
    case isTrue h =>
      rw [Bool.and_eq_true] at h
      have hsome : l.checkLimit.hasExceededLimit.maybeHaltReason.isSome = true := by
        rw [LimitCheck.maybeHaltReason_isSome]
        exact h.2
      cases v.getVolatileDataInfo with
      | none => exact hsome
      | some accessType =>
        dsimp only
        split
        · rfl
        · exact hsome
    case isFalse => rfl

theorem maybeHaltReason_not_volatile {c : LimitCheck} {reason : MegaHaltReason}
    (h : c.maybeHaltReason = some reason) : reason.isVolatile = false := by
  cases c with
  | withinLimit => cases h
  | exceedsLimit kind limit used frameLocal =>
    cases kind
    all_goals
      cases h
      rfl

variable {env : Env} {l : AdditionalLimit} {v : VolatileDataAccessTracker}

theorem haltReason_limit (hdep : env.isDeposit = false) (hx : l.TxExceeded) :
    ∃ reason, haltReason env l v .outOfGas = some reason ∧ reason.isLimit = true ∧
      (reason.isVolatile = (v.getVolatileDataInfo.isSome && l.computeGas.isDetainedExceed)) ∧
      (reason.isVolatile = false → some reason = l.hasExceededLimit.maybeHaltReason) := by
  have hcheck : l.checkLimit = l := checkLimit_of_exceeded hx.1
  obtain ⟨plain, hplain⟩ : ∃ reason, l.hasExceededLimit.maybeHaltReason = some reason := by
    rw [← Option.isSome_iff_exists, LimitCheck.maybeHaltReason_isSome]
    exact hx.1
  have hlimit := maybeHaltReason_isLimit hplain
  have hvolatile := maybeHaltReason_not_volatile hplain
  unfold haltReason
  rw [hcheck, hx.1]
  simp only [hdep, Bool.false_eq_true, if_false, beq_self_eq_true, Bool.and_self, if_true]
  cases v.getVolatileDataInfo with
  | none => exact ⟨plain, hplain, hlimit, hvolatile, fun _ => hplain.symm⟩
  | some accessType =>
    dsimp only
    cases hd : l.computeGas.isDetainedExceed with
    | false => exact ⟨plain, hplain, hlimit, hvolatile, fun _ => hplain.symm⟩
    | true => exact ⟨_, rfl, rfl, rfl, nofun⟩

theorem attributed_deposit_iff {s : State} {r : InstructionResult}
    {own : Option (InstructionResult × Bool)} (hdep : env.isDeposit = true) :
    (∃ reason, haltReason env s.limit s.volatile r = some reason ∧
      Attributed env own s.limit reason) ↔ Discernible env own s := by
  have hreason : haltReason env s.limit s.volatile r = some .failedDeposit := by
    simp [haltReason, hdep]
  rw [hreason]
  simp only [Option.some.injEq, exists_eq_left']
  cases own with
  | some o => simp [Attributed, Discernible, hdep]
  | none =>
    simp only [Attributed, Discernible, hdep, Bool.true_eq_false, false_and, iff_false]
    rintro ⟨-, hnamed⟩
    split at hnamed
    · cases hnamed
    · cases maybeHaltReason_isLimit hnamed.symm

theorem Ruled.attributed_iff {s : State} {r : InstructionResult}
    {own : Option (InstructionResult × Bool)} (h : Ruled s.limit r own)
    (hflag : FlagStands s.limit) (he : r.isError = true) :
    (∃ reason, haltReason env s.limit s.volatile r = some reason ∧
      Attributed env own s.limit reason) ↔ Discernible env own s := by
  by_cases hdeposit : env.isDeposit = true
  · exact attributed_deposit_iff hdeposit
  have hdep : env.isDeposit = false := by simpa using hdeposit
  cases h with
  | itself hw hs =>
    have hcheck : s.limit.checkLimit.exceeded = false := by
      rw [checkLimit_eq_self (exceeded_eq_false.1 hw) hs]
      exact hw
    have hreason : haltReason env s.limit s.volatile r = some (.base r) := by
      simp [haltReason, hdep, hcheck]
    exact ⟨fun _ => .inr rfl, fun _ => ⟨_, hreason, by simp [Attributed, hdep]⟩⟩
  | limit hno h =>
    obtain ⟨hx, rfl⟩ := h he
    obtain ⟨reason, hreason, hlimit, hvolatile, hplain⟩ :=
      haltReason_limit (v := s.volatile) hdep hx
    rw [hreason]
    simp only [Option.some.injEq, exists_eq_left']
    cases own with
    | some o =>
      obtain ⟨r', hidden⟩ := o
      cases hidden with
      | false => exact absurd rfl (hno r')
      | true =>
        simp only [Attributed, Discernible, hdep, Bool.false_eq_true, Bool.true_eq_false, if_false,
          or_self, iff_false]
        rintro rfl
        cases hlimit
    | none =>
      simp only [Attributed, Discernible, hdep, true_and]
      by_cases hd : s.limit.hasExceededLimit.byDetention s.limit.computeGas.frameTracker.txLimit =
          true
      · rw [if_pos hd, if_pos hd, hvolatile, hflag.detained hx hd, Bool.and_true]
        exact and_iff_right hx
      · rw [if_neg hd, if_neg hd]
        constructor
        · rintro ⟨-, hsame⟩ hinfo
          have hno := maybeHaltReason_not_volatile hsame.symm
          rwa [hvolatile, hinfo, Bool.true_and] at hno
        · intro hclear
          refine ⟨hx, hplain ?_⟩
          rw [hvolatile]
          cases hinfo : s.volatile.getVolatileDataInfo.isSome with
          | false => rfl
          | true => rw [hclear hinfo, Bool.and_false]

end Reason

section Ended

variable {env : Env} {s s' : State} {l : AdditionalLimit} {e : Event}
  {own : Option (InstructionResult × Bool)}

theorem Ruled.settled {r : InstructionResult} (hw : l.exceeded = false) (hs : l.Settled) :
    Ruled l.checkLimit r (some (r, false)) := by
  rw [checkLimit_eq_self (exceeded_eq_false.1 hw) hs]
  exact .itself hw hs

theorem Ruled.hand {r : FrameResult} (h : Ruled l r.instructionResult own) (ha : l.Aligned 1)
    (hres : ¬ l.TxExceeded → l.Restorable) (b : Bool) :
    Ruled (l.beforeFrameReturnResult b r).1 (l.beforeFrameReturnResult b r).2.instructionResult
      own := by
  cases h with
  | itself hw hs =>
    have hnot : ¬ l.TxExceeded := fun ht => ht.not_within hw
    have hclose := closeFrame_within (hres hnot) hs ha hw r.instructionResult.isOk
    have hset : (l.closeFrame r.instructionResult.isOk).Settled := settled_of_unflagged hclose
    rcases beforeFrameReturnResult_cases (l := l) b r with
      ⟨-, hb⟩ | ⟨-, hx, -⟩ | ⟨-, hx, -⟩ | ⟨-, hx, -⟩
    · rw [hb]
      exact .itself hclose hset
    · rw [hclose] at hx
      cases hx
    · rw [exceeded, LimitCheck.exceeded_of_frameLocal hx] at hclose
      cases hclose
    · exact absurd hclose fun hw => hx.not_within hw
  | limit hno h =>
    refine .limit hno fun he => ?_
    rcases beforeFrameReturnResult_cases (l := l) b r with
      ⟨hx, hb⟩ | ⟨hd, -⟩ | ⟨-, -, hb⟩ | ⟨-, hx, hb⟩
    · rw [hb] at he
      exact absurd hx fun hx => (txExceeded_closeFrame (h he).1).not_within hx
    · rw [not_duplicate ha] at hd
      cases hd
    · rw [hb] at he
      cases he
    · rw [hb]
      exact ⟨hx, rfl⟩

theorem Ruled.checked {r : InstructionResult} (h : Ruled l r own) : Ruled l.checkLimit r own := by
  cases h with
  | itself hw hs => exact .settled hw hs
  | limit hno h => exact .limit hno fun he => ⟨txExceeded_checkLimit (h he).1, (h he).2⟩

def State.Ended (own : Option (InstructionResult × Bool)) (s : State) : Prop :=
  match s.phase with
  | .result p | .handed p | .last p =>
    s.frames = [] ∧ Ruled s.limit p.result.instructionResult own
  | .done p => Ruled s.limit p.result.instructionResult own
  | _ => False

def State.Going (s : State) : Prop :=
  match s.phase with
  | .init _ | .run | .interp | .action _ => True
  | .result _ | .handed _ => s.frames ≠ []
  | .last _ | .done _ => False

/-- Once the first frame has ended no other error comes up. -/
theorem State.Ended.step (hsound : Sound env s) (h : s.Ended own)
    (hs : MegaEvm.step env s e = some s') : s'.Ended own ∧ selfHalt env s e = none := by
  have hframed := hsound.framed
  cases step_spec hs with
  | init hp | stopped hp | resumed hp | op hp | opened hp | returned hp =>
    simp [State.Ended, hp] at h
  | @hand p hp =>
    simp only [State.Ended, hp] at h
    simp only [State.Framed, hp, h.1] at hframed
    exact ⟨⟨h.1, h.2.hand hframed.1 hframed.2.restorable false⟩, by simp [selfHalt, hp]⟩
  | @insert p hp hn =>
    simp only [State.Ended, hp] at h
    rw [insertResult_nil env p h.1]
    exact ⟨h, by simp [selfHalt, hp]⟩
  | @finish p hp hn =>
    simp only [State.Ended, hp] at h
    simp only [State.Framed, hp] at hframed
    refine ⟨?_, by simp [selfHalt, hp]⟩
    rcases hframed.2 with ⟨ha, hans⟩ | ⟨ha, -⟩
    · exact h.2.hand ha hans.restorable true
    · have hlast := beforeFrameReturnResult_duplicate ha p.result
      show Ruled (s.limit.beforeFrameReturnResult true p.result).1
        (s.limit.beforeFrameReturnResult true p.result).2.instructionResult own
      rw [hlast]
      exact h.2.checked

end Ended

section Init

variable {env : Env} {s s' : State} {input : FrameInput} {ev : InitEvent} {l : AdditionalLimit}
  {p : Pending} {r : FrameResult}

theorem answer_last {opened : List JournalEntry} (hf : s.frames = []) :
    (s.answer ⟨r, opened⟩).phase = .last ⟨r, opened⟩ := by
  simp [State.answer, hf]

theorem ended_answer {own : Option (InstructionResult × Bool)} (hf : s.frames = [])
    (h : Ruled s.limit p.result.instructionResult own) : (s.answer p).Ended own := by
  unfold State.answer State.Ended
  simp only [hf, List.isEmpty_nil, if_true]
  exact ⟨trivial, h⟩

theorem answerInner_last {opened : List JournalEntry}
    (hp : (s.answerInner r opened).phase = .last p) : p = ⟨r, opened⟩ := by
  unfold State.answerInner State.answer at hp
  dsimp only at hp
  split at hp
  · rw [Phase.last.injEq] at hp
    exact hp.symm
  · cases hp

theorem precompileResult_unspent {gasLimit : ℕ} {o : PrecompileOutcome}
    (h : precompileResult gasLimit o = some r) (he : r.instructionResult.isError = true) :
    r.gas.spent = 0 := by
  cases o with
  | ok gasUsed output | reverted gasUsed output =>
    simp only [precompileResult, Option.map_eq_some_iff] at h
    obtain ⟨g, -, rfl⟩ := h
    cases he
  | oog | error =>
    obtain rfl := Option.some.inj h
    exact Nat.sub_self _

theorem makeCallFrame_unspent {i : CallInputs} (h : makeCallFrame s i ev = some s')
    (hp : s'.phase = .last p) (he : p.result.instructionResult.isError = true) :
    p.result.gas.spent = 0 := by
  unfold makeCallFrame at h
  split at h
  · obtain rfl := Option.some.inj h
    rw [answerInner_last hp]
    exact Nat.sub_self _
  · cases hc : ev.call with
    | transferFailed err =>
      simp only [hc, Option.some.injEq] at h
      subst h
      rw [answerInner_last hp]
      exact Nat.sub_self _
    | emptyCode =>
      simp only [hc, Option.some.injEq] at h
      subst h
      rw [answerInner_last hp]
      exact Nat.sub_self _
    | enter =>
      simp only [hc, Option.some.injEq] at h
      subst h
      cases hp
    | precompile o =>
      simp only [hc, Option.map_eq_some_iff] at h
      obtain ⟨r, hr, rfl⟩ := h
      rw [answerInner_last hp] at he ⊢
      exact precompileResult_unspent hr he

theorem makeCreateFrame_unspent {i : CreateInputs} (h : makeCreateFrame env s i ev = some s')
    (hp : s'.phase = .last p) : p.result.gas.spent = 0 := by
  have hanswered : ∀ {s₁ : State} {res : InstructionResult} {opened : List JournalEntry},
      (s₁.answerInner ⟨true, ⟨res, [], .new i.gasLimit⟩⟩ opened).phase = .last p →
      p.result.gas.spent = 0 := fun hp => by
    rw [answerInner_last hp]
    exact Nat.sub_self _
  unfold makeCreateFrame at h
  simp only at h
  split at h
  · obtain rfl := Option.some.inj h
    exact hanswered hp
  · cases hc : ev.create with
    | outOfFunds | nonceOverflow =>
      simp only [hc] at h
      split at h
      · cases h
      · obtain rfl := Option.some.inj h
        exact hanswered hp
    | checkpointFailed err =>
      simp only [hc, Option.some.injEq] at h
      subst h
      exact hanswered hp
    | enter created =>
      simp only [hc, Option.some.injEq] at h
      subst h
      cases hp

theorem innerError_unspent (h : frameInit env s input ev = some s') (hp : s'.phase = .last p)
    (hk : ∀ i, input = .call i → isKeylessCall env s i = false)
    (hx : ((detected env s input).limit.openFrame input ev.targetEmpty).exceeded = false)
    (he : p.result.instructionResult.isError = true) : p.result.gas.spent = 0 := by
  unfold frameInit at h
  cases input with
  | create i =>
    simp only [beforeFrameInit_within hx] at h
    exact makeCreateFrame_unspent h hp
  | call i =>
    simp only at h
    cases hd : dispatchSystemContractInterceptors env (detected env s (.call i)) i ev.keyless with
    | panicked =>
      rw [hd] at h
      cases h
    | answered s₁ r =>
      rw [hd] at h
      simp only [Option.some.injEq] at h
      subst h
      have hr : p.result = r := by
        unfold State.answer at hp
        dsimp only at hp
        split at hp
        · cases hp
          rfl
        · cases hp
      rcases dispatch_answered hd with ⟨-, hk', -⟩ | ⟨-, -, -, hg, -⟩
      · have hno : isKeylessCall env (detected env s (.call i)) i = false := by
          rw [detected, isKeylessCall_detectOracle]
          exact hk i rfl
        rw [hno] at hk'
        cases hk'
      · rw [hr, hg]
        exact Nat.sub_self _
    | no =>
      rw [hd] at h
      simp only [beforeFrameInit_within hx] at h
      exact makeCallFrame_unspent h hp he

theorem exceeding_error (he : l.exceedingInstructionResult.isError = true)
    (hx : l.exceeded = true) : l.TxExceeded ∧ l.exceedingInstructionResult = .outOfGas := by
  unfold exceedingInstructionResult at he ⊢
  cases hf : l.hasExceededLimit.isFrameLocal with
  | true =>
    rw [if_pos hf] at he
    cases he
  | false =>
    rw [if_neg (by simp)]
    exact ⟨⟨hx, hf⟩, rfl⟩

theorem ruled_keyless {i : CallInputs} {s₁ : State} (ho : Opening s.limit)
    (ha : s.limit.Aligned 0) (hkey : isKeylessCall env s i = true)
    (hk : KeylessCall env s i ev.keyless s₁ r) :
    Ruled s₁.limit.pushEmptyFrame r.instructionResult (initHalt env s (.call i) ev) := by
  have hgas : constants.KEYLESS_DEPLOY_OVERHEAD_GAS ≤ i.gasLimit →
      initHalt env s (.call i) ev = none := fun hg => by
    simp [initHalt, hkey, Nat.not_lt.2 hg]
  cases hk with
  | outOfGas hg =>
    have hown : initHalt env s (.call i) ev = some (.outOfGas, s.limit.exceeded) := by
      simp [initHalt, hkey, hg]
    rw [hown]
    cases hx : s.limit.exceeded with
    | false => exact .itself hx (ho.settled hx).pushEmptyFrame
    | true =>
      refine .limit (by simp) fun _ => ⟨?_, rfl⟩
      exact (txExceeded_congr rfl).2 (ho.halting hx)
  | halted hg h3 hx =>
    rw [hgas hg]
    refine .limit (by simp) fun _ => ⟨?_, rfl⟩
    exact (txExceeded_congr rfl).2 ((ho.keylessLimit ha).halting hx)
  | insufficient output g hc =>
    exfalso
    obtain ⟨-, hframe, -⟩ := ComputeGasTracker.checkLimit_eq_exceeds hc
    obtain ⟨-, e, rest, hs, -⟩ := hframe rfl
    have haligned : (keylessLimit env s.limit).Aligned 0 := keylessLimit_aligned ha
    have hempty := haligned.computeGas
    rw [FrameLimitTracker.height, hs] at hempty
    cases hempty
  | rejected output hg hx =>
    rw [hgas hg]
    exact .limit (by simp) fun he => absurd he Bool.false_ne_true
  | completed output signer signerNonce hc hg hx =>
    rw [hgas hg]
    exact .limit (by simp) fun he => absurd he Bool.false_ne_true

theorem going_or_ended_init (hsound : Sound env s) (hp : s.phase = .init input)
    (hf : s.frames = []) (h : frameInit env s input ev = some s') :
    (s'.Going ∧ selfHalt env s (.init ev) = none) ∨ s'.Ended (selfHalt env s (.init ev)) := by
  have hframed := hsound.framed
  simp only [State.Framed, hp, hf, List.length_nil] at hframed
  obtain ⟨ha, ho, -⟩ := hframed
  have hown : selfHalt env s (.init ev) = initHalt env s input ev := by
    simp [selfHalt, hp, hf]
  have hinner : (∀ i, input = .call i → isKeylessCall env s i = false) →
      initHalt env s input ev = (innerError env s input ev).map (·, false) := fun hk => by
    cases input with
    | create i => rfl
    | call i => simp [initHalt, hk i rfl]
  rw [hown]
  have herror : ∀ q, s'.phase = .last q →
      innerError env s input ev =
        if ((detected env s input).limit.openFrame input ev.targetEmpty).exceeded then none
        else if q.result.instructionResult.isError then some q.result.instructionResult
        else none := fun q hq => by
    simp [innerError, h, hq]
  cases frameInit_step h with
  | @keyless i s₁ r hi hf' h2 hk =>
    subst hi
    right
    have hf₁ : s₁.frames = [] := by
      cases hk with
      | outOfGas | halted | insufficient | rejected | completed => exact hf
    exact ended_answer hf₁ (ruled_keyless ho ha h2 hk)
  | @control i v r hi h4 hk hd hg hr =>
    right
    have hlast := @answer_last { s with volatile := v, limit := s.limit.pushEmptyFrame } r
      s.journal hf
    have herr : r.instructionResult.isError = false := by
      by_contra he
      rw [Bool.not_eq_false, InstructionResult.isError_iff, hr] at he
      cases he
    refine ended_answer hf (.limit (fun r' => ?_) fun he => ?_)
    · rw [hinner (fun j hj => by rw [hi] at hj; cases hj; exact hk), herror _ hlast, herr]
      simp
    · rw [herr] at he
      cases he
  | @refused v l hd hx =>
    right
    have hnone : innerError env s input ev = none := by
      unfold innerError
      rw [hd.limit, if_pos hx]
    refine ended_answer hf ?_
    rw [hinner hd.passed, hnone]
    refine .limit (by simp) fun he => ?_
    have hflag := exceeding_error he hx
    exact ⟨txExceeded_tryRescueGas.2 (txExceeded_checkLimit hflag.1), hflag.2⟩
  | @answered v l r opened journal nonce hd hx hin =>
    right
    have hlast := @answer_last { s with
      volatile := v
      limit := ((l.openFrame input ev.targetEmpty).recordComputeGas
        r.gas.spent).afterFrameInitResult r
      journal := journal
      senderNonce := nonce } r opened hf
    have hx' : ((detected env s input).limit.openFrame input ev.targetEmpty).exceeded = false := by
      rw [hd.limit]
      exact hx
    refine ended_answer hf ?_
    rw [hinner hd.passed, herror _ hlast, hx', if_neg Bool.false_ne_true]
    dsimp only
    cases he : r.instructionResult.isError with
    | false => exact .limit (by simp) fun he' => absurd (he.symm.trans he') (by simp)
    | true =>
      have hspent : r.gas.spent = 0 := innerError_unspent h hlast hd.passed hx' he
      have hset := openFrame_settled hx
      rw [hspent, recordComputeGas_zero, openFrame_checkLimit]
      have hkept : ((l.openFrame input ev.targetEmpty).afterFrameInitResult r).exceeded =
          false := by
        rw [afterFrameInitResult, exceeded_tryRescueGas, openFrame_checkLimit]
        exact hx
      exact .itself hkept (settled_tryRescueGas.2 hset)
  | @entered v l target created opened nonce hd hx hop hn =>
    left
    refine ⟨trivial, ?_⟩
    rw [hinner hd.passed]
    simp [innerError, h]

end Init

section Return

variable {env : Env} {s s' : State} {f : Frame} {a : InterpreterResult} {l : AdditionalLimit}

theorem Processed.depositGas_of_failed {r : InterpreterResult} {journal journal' : List JournalEntry}
    {fr : FrameResult} (h : Processed f r journal fr journal')
    (hr : fr.instructionResult.isOk = false) : depositGas r fr = 0 := by
  cases h with
  | call hf hok => exact Nat.sub_self _
  | callReverted hf hok => exact Nat.sub_self _
  | create hf hok hg => cases hr
  | createReverted hf hok hg =>
    simp only [depositGas, FrameResult.gas, hg]
    exact Nat.sub_self _

theorem checked_returnLimit : (returnLimit s.limit f.isCreate
    (storageCharged f.isCreate a)).checkLimit.exceeded = exceedsOnReturn s f a := by
  unfold exceedsOnReturn returnLimit
  cases f.isCreate with
  | true => rw [if_pos rfl, checkLimit_idem]
  | false => rfl

theorem ruled_return {r₂ : InterpreterResult} {fr : FrameResult} {journal' : List JournalEntry}
    (hr : r₂ = returnResult s.limit f.isCreate (storageCharged f.isCreate a))
    (hfr : processReturn env f r₂ s.journal = (fr, journal'))
    (hpr : Processed f r₂ s.journal fr journal') :
    Ruled ((depositLimit (returnLimit s.limit f.isCreate (storageCharged f.isCreate a))
        r₂ fr).tryRescueGas fr.gas)
      (depositResult (returnLimit s.limit f.isCreate (storageCharged f.isCreate a))
        r₂ fr).instructionResult (returnHalt env s f a) := by
  set l₁ := returnLimit s.limit f.isCreate (storageCharged f.isCreate a) with hl₁
  -- an unflagged return leaves the result to the frame, and an error records no gas
  have hplain : l₁.exceeded = false → returnHalt env s f a =
      if !s.limit.exceeded && fr.instructionResult.isError then
        some (fr.instructionResult, exceedsOnReturn s f a)
      else none := fun hw => by
    have hsame : r₂ = storageCharged f.isCreate a := by
      rw [hr, returnResult, ← hl₁, hw, Bool.and_false, if_neg Bool.false_ne_true]
    rw [returnHalt, ← hsame, hfr]
  have hfailed : fr.instructionResult.isError = true →
      (depositLimit l₁ r₂ fr).exceeded = exceedsOnReturn s f a := fun he => by
    rw [depositLimit, hpr.depositGas_of_failed (InstructionResult.isOk_of_isError he),
      recordComputeGas_zero, hl₁, checked_returnLimit]
  cases hx : (depositLimit l₁ r₂ fr).exceeded with
  | true =>
    rw [depositResult, if_pos hx]
    refine .limit (fun r' hown => ?_) fun he => ?_
    · have hhidden : exceedsOnReturn s f a = false := by
        simp only [returnHalt] at hown
        split at hown
        · simp only [Option.some.injEq, Prod.mk.injEq] at hown
          exact hown.2
        · cases hown
      have hw : l₁.exceeded = false := by
        refine exceeded_of_checkLimit ?_
        rw [hl₁, checked_returnLimit, hhidden]
      rw [hplain hw] at hown
      split at hown
      case isTrue he =>
        rw [Bool.and_eq_true] at he
        rw [hfailed he.2, hhidden] at hx
        cases hx
      case isFalse => cases hown
    · have hflag := exceeding_error he hx
      exact ⟨txExceeded_tryRescueGas.2 (txExceeded_checkLimit hflag.1), hflag.2⟩
  | false =>
    have hw : l₁.exceeded = false := exceeded_of_recordComputeGas hx
    have hs : s.limit.exceeded = false := by
      by_contra hf
      have hsticky := returnLimit_sticky (r := storageCharged f.isCreate a)
        (by simpa using hf : s.limit.exceeded = true) f.isCreate
      rw [exceeded, hl₁, hsticky] at hw
      exact hf hw
    rw [depositResult, hx, if_neg Bool.false_ne_true, hplain hw, hs]
    cases he : fr.instructionResult.isError with
    | false => exact .limit (by simp) fun he' => absurd (he.symm.trans he') (by simp)
    | true =>
      rw [← hfailed he, hx]
      have hkept : ((depositLimit l₁ r₂ fr).tryRescueGas fr.gas).exceeded = false := by
        rw [exceeded_tryRescueGas, depositLimit, recordComputeGas_checkLimit]
        exact hx
      exact .itself hkept (settled_tryRescueGas.2 (settled_recordComputeGas hx))

end Return

section Run

variable {env : Env} {s s' s₀ : State} {e : Event} {es : List Event} {p : Pending}
  {own : Option (InstructionResult × Bool)}

theorem going_answer (hf : s.frames ≠ []) (p : Pending) : (s.answer p).Going := by
  unfold State.answer State.Going
  simp only [List.isEmpty_iff, hf, if_false]
  exact hf

theorem going_init {input : FrameInput} {ev : InitEvent} (hf : s.frames ≠ [])
    (h : InitStep env s input ev s') : s'.Going := by
  cases h with
  | keyless hi hf' => exact absurd hf' hf
  | control => exact going_answer hf _
  | refused => exact going_answer hf _
  | answered => exact going_answer hf _
  | entered => trivial

theorem State.Going.step (hsound : Sound env s) (h : s.Going)
    (hs : MegaEvm.step env s e = some s') :
    (s'.Going ∧ selfHalt env s e = none) ∨ s'.Ended (selfHalt env s e) := by
  cases step_spec hs with
  | @init input ev _ hp hi =>
    have hinit : frameInit env s input ev = some s' := by simpa [MegaEvm.step, hp] using hs
    cases hf : s.frames with
    | nil => exact going_or_ended_init hsound hp hf hinit
    | cons f rest => exact .inl ⟨going_init (by simp [hf]) hi, by simp [selfHalt, hp, hf]⟩
  | stopped hp hf hx | resumed hp hf hx =>
    exact .inl ⟨trivial, by simp [selfHalt, hp]⟩
  | @op f rest ev hp hf =>
    refine .inl ⟨?_, rfl⟩
    cases hact : (instruction env ev (s.ctx f)).action with
    | none => simp [State.Going, interpStep, hact]
    | some a => simp [State.Going, interpStep, hact]
  | opened hp hf => exact .inl ⟨trivial, by simp [selfHalt, hp]⟩
  | @returned f rest r r₂ fr journal' hp hf hr hfr hpr =>
    cases rest with
    | nil =>
      right
      have hown : selfHalt env s .tau = returnHalt env s f r := by simp [selfHalt, hp, hf]
      rw [hown]
      exact ⟨rfl, ruled_return hr hfr hpr⟩
    | cons g rest => exact .inl ⟨by simp [State.Going], by simp [selfHalt, hp, hf]⟩
  | @hand p hp =>
    simp only [State.Going, hp] at h
    exact .inl ⟨h, by simp [selfHalt, hp]⟩
  | @insert p hp hn =>
    simp only [State.Going, hp] at h
    left
    cases hf : s.frames with
    | nil => exact absurd hf h
    | cons f rest =>
      rw [insertResult_cons env p hf]
      exact ⟨trivial, by simp [selfHalt, hp]⟩
  | finish hp hn => simp [State.Going, hp] at h

theorem State.Ended.run (hsound : Sound env s) (h : s.Ended own)
    (hr : Run.run (MegaEvm.step env) s es = some s') :
    s'.Ended own ∧ selfHalts env s es = none := by
  induction es generalizing s with
  | nil =>
    obtain rfl : s = s' := by simpa [Run.run] using hr
    exact ⟨h, rfl⟩
  | cons e es ih =>
    obtain ⟨m, hm, hr⟩ := Run.run_cons.1 hr
    obtain ⟨hended, hnone⟩ := h.step hsound hm
    obtain ⟨hlast, hrest⟩ := ih (hsound.step hm) hended hr
    exact ⟨hlast, by simp [selfHalts, hnone, hm, hrest]⟩

/-- A run ends with the error that its first frame halted with. -/
theorem State.Going.run (hsound : Sound env s) (h : s.Going)
    (hr : Run.run (MegaEvm.step env) s es = some s') (hp : s'.phase = .done p) :
    s'.Ended (selfHalts env s es) := by
  induction es generalizing s with
  | nil =>
    obtain rfl : s = s' := by simpa [Run.run] using hr
    simp [State.Going, hp] at h
  | cons e es ih =>
    obtain ⟨m, hm, hr⟩ := Run.run_cons.1 hr
    rcases h.step hsound hm with ⟨hgoing, hnone⟩ | hended
    · have hlast := ih (hsound.step hm) hgoing hr
      simpa [selfHalts, hnone, hm] using hlast
    · obtain ⟨hlast, hrest⟩ := hended.run (hsound.step hm) hr
      simpa [selfHalts, hm, hrest] using hlast

theorem start_phase {ev : StartEvent} (hstart : start env ev = some s₀) :
    (∃ input, s₀.phase = .init input) ∨
      ∃ q, s₀.phase = .done q ∧ q.result.instructionResult = .outOfGas := by
  unfold start at hstart
  split at hstart
  · cases hstart
  · simp only [Option.map_eq_some_iff] at hstart
    obtain ⟨storageGas, -, rfl⟩ := hstart
    split
    · exact .inr ⟨_, rfl, rfl⟩
    · exact .inl ⟨_, rfl⟩

theorem ruled_of_run {ev : StartEvent} (hstart : start env ev = some s₀)
    (hr : Run.run (MegaEvm.step env) s₀ es = some s) (hp : s.phase = .done p) :
    Ruled s.limit p.result.instructionResult (ownHalt env s₀ es) := by
  have hsound := sound_start hstart
  rcases start_phase hstart with ⟨input, hi⟩ | ⟨q, hd, hq⟩
  · have hended := State.Going.run hsound (by simp [State.Going, hi]) hr hp
    simp only [State.Ended, hp] at hended
    simpa [ownHalt, hi] using hended
  · obtain ⟨-, hsame⟩ := run_after_done hd hr
    rw [hsame] at hp ⊢
    rw [hd, Phase.done.injEq] at hp
    subst hp
    have hown : ownHalt env s₀ es = some (.outOfGas, s₀.limit.exceeded) := by
      simp [ownHalt, hd]
    rw [hown, hq]
    cases hx : s₀.limit.exceeded with
    | false =>
      refine .itself hx ?_
      rw [start_limit hstart] at hx ⊢
      exact settled_recordComputeGas hx
    | true =>
      have hframed := hsound.framed
      simp only [State.Framed, hd] at hframed
      exact .limit (by simp) fun _ => ⟨⟨hx, hframed⟩, rfl⟩

/-- Whatever a transaction halts with, its reason can be built, and names what
it halted for exactly when that can be told from the trackers. -/
theorem halt_reason_attributed_iff {ev : StartEvent} (hstart : start env ev = some s₀)
    (hr : Run.run (MegaEvm.step env) s₀ es = some s) (hp : s.phase = .done p)
    (hh : p.result.instructionResult.isError = true) :
    (haltReason env s.limit s.volatile p.result.instructionResult).isSome = true ∧
      ((∃ reason, haltReason env s.limit s.volatile p.result.instructionResult = some reason ∧
        Attributed env (ownHalt env s₀ es) s.limit reason) ↔
          Discernible env (ownHalt env s₀ es) s) :=
  ⟨haltReason_isSome _ _ _ _, (ruled_of_run hstart hr hp).attributed_iff
    (Run.invariant' (fun _ _ _ h hs => flagStands_closed.step h hs) (flagStands_start hstart) hr) hh⟩

end Run

section Sample

def spentEvents : List Event :=
  [.init sampleInit, .tau, .op (samplePlain 2000000), .tau, .tau, .tau, .tau]

theorem halt_reason_attributed_spent : ∃ s₀ s p,
    start (sampleEnv .rex (.call 3) .other 1000000)
      (sampleStart .rex (by decide)) = some s₀ ∧ s.phase = .done p ∧
    Run.run (MegaEvm.step (sampleEnv .rex (.call 3) .other 1000000)) s₀ spentEvents = some s ∧
    ∃ reason, haltReason (sampleEnv .rex (.call 3) .other 1000000) s.limit s.volatile
        p.result.instructionResult = some reason ∧
      Attributed (sampleEnv .rex (.call 3) .other 1000000)
        (ownHalt (sampleEnv .rex (.call 3) .other 1000000) s₀ spentEvents) s.limit reason := by
  let env := sampleEnv .rex (.call 3) .other 1000000
  have hrun : (execute env (sampleStart .rex (by decide)) spentEvents).map State.phase =
      some (.done ⟨callResult .outOfGas [] ⟨1000000, 0⟩, []⟩) := by decide
  obtain ⟨s, ⟨s₀, hstart, hr⟩, hp⟩ := exists_execution hrun
  have hown : (start env (sampleStart .rex (by decide))).map
      (fun s₀ => ownHalt env s₀ spentEvents) = some (some (.outOfGas, false)) := by decide
  rw [hstart, Option.map_some, Option.some.injEq] at hown
  refine ⟨s₀, s, _, hstart, hp, hr, (halt_reason_attributed_iff hstart hr hp rfl).2.2 ?_⟩
  rw [hown]
  exact .inr rfl

theorem rex3_computeGas_fits : EvmTxRuntimeLimits.rex3.txComputeGasLimit ≤ u64Max := by
  decide

/-- A create that cannot pay for its account, in a transaction of more than 100 bytes. -/
def unpaidCreate : StartEvent :=
  { sampleCreateStart { EvmTxRuntimeLimits.rex3 with txDataSizeLimit := 100 }
      rex3_computeGas_fits with
    storageGas := some 992000 }

/-- It is out of gas before it runs, and reported to exceed the data size. -/
theorem out_of_gas_reported_as_limit :
    ¬ ∀ env ev s₀ es s p, env.isDeposit = false → start env ev = some s₀ →
      Run.run (MegaEvm.step env) s₀ es = some s → s.phase = .done p →
      p.result.instructionResult.isError = true →
      ∃ reason, haltReason env s.limit s.volatile p.result.instructionResult = some reason ∧
        Attributed env (ownHalt env s₀ es) s.limit reason := by
  intro h
  let env := sampleEnv .rex3 .create .other 1000000
  have hrun : (start env unpaidCreate).map (fun s => (s.phase, ownHalt env s [],
      haltReason env s.limit s.volatile .outOfGas)) =
      some (.done ⟨⟨true, ⟨.outOfGas, [], ⟨1000000, 0⟩⟩⟩, []⟩, some (.outOfGas, true),
        some (.dataLimitExceeded 100 150)) := by decide
  obtain ⟨s₀, hstart, hf⟩ := Option.map_eq_some_iff.1 hrun
  simp only [Prod.mk.injEq] at hf
  obtain ⟨hp, hown, hreason⟩ := hf
  obtain ⟨reason, hr, hattributed⟩ := h env unpaidCreate s₀ [] s₀ _ rfl hstart rfl hp rfl
  rw [hown] at hattributed
  have hbase : reason = .base .outOfGas := hattributed
  rw [hbase] at hr
  cases hreason.symm.trans hr

end Sample

end MegaEvm
