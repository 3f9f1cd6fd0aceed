import MegaEvm.BlockedAccess
import MegaEvm.ComputeHalt
import MegaEvm.HookClosed

/-!
# When a marked access takes effect

A history beside the run records every access that is marked: the compute gas
used by then and the cap. An access is on time if the detained limit is within
its allowance before another instruction runs. The wrapper that applies the cap
sees to that when its opcode's own instruction succeeds; where the transaction's
sender or recipient is marked, where an opcode without such a wrapper marks, and
where the marking instruction fails, the limit stays as it was.
-/

set_option autoImplicit false

namespace MegaEvm

open AdditionalLimit Detention

variable {env : Env} {s s' : State} {l : AdditionalLimit}

section History

def callsOracle (env : Env) : FrameInput → Bool
  | .call i =>
    let detect := match i.scheme with
      | .call => true
      | .staticCall => env.spec.isEnabled .rex
      | .callCode | .delegateCall => false
    !env.spec.isEnabled .rex3 && detect && i.caller != MEGA_SYSTEM_ADDRESS &&
      i.targetAddress == ORACLE_CONTRACT_ADDRESS
  | .create _ => false

/-- The accesses a step marks: the compute gas used with the step, and the cap. -/
def marksOf (env : Env) (s : State) (e : Event) (s' : State) : List (ℕ × ℕ) :=
  match s.phase, e, s.frames with
  | .init input, .init _, _ =>
    if callsOracle env input then
      [(s'.limit.computeGas.txUsage, s.volatile.capOf .oracle)]
    else []
  | .interp, .op ev, f :: _ =>
    match accessOf env ev (s.ctx f) with
    | some a => [(s'.limit.computeGas.txUsage, s.volatile.capOf a)]
    | none => []
  | _, _, _ => []

def watchStep (env : Env) (x : State × List (ℕ × ℕ)) (e : Event) :
    Option (State × List (ℕ × ℕ)) :=
  (step env x.1 e).map fun s' => (s', marksOf env x.1 e s' ++ x.2)

def startMarks (env : Env) (ev : StartEvent) : List (ℕ × ℕ) :=
  let sender := decide (env.tx.caller = env.beneficiary)
  let recipient := match env.tx.kind with
    | .call target => decide (target = env.beneficiary)
    | .create => false
  if sender || recipient then [(0, ev.limits.blockEnvAccessComputeGasLimit)] else []

/-- Every marked access has lowered the limit to its allowance. -/
def OnTime (s : State) (marks : List (ℕ × ℕ)) : Prop :=
  ∀ m ∈ marks, s.limit.computeGas.detainedLimit ≤ allowance s.limit.rex4 m

/-- What makes a marking step take effect at once: the opcode has a detaining wrapper
and its own instruction succeeds, or the limit is low enough already. -/
def Timely (env : Env) (s : State) (e : Event) : Prop :=
  match s.phase, e, s.frames with
  | .interp, .op ev, f :: _ =>
    ∀ a ∈ accessOf env ev (s.ctx f),
      (ev.opcode.detains env.spec = true ∧ (completedCost ev f.gas).isSome = true) ∨
        s.limit.computeGas.detainedLimit ≤
          allowance s.limit.rex4 (s.limit.computeGas.txUsage, s.volatile.capOf a)
  | _, _, _ => True

instance (env : Env) (s : State) (e : Event) : Decidable (Timely env s e) := by
  unfold Timely
  split <;> infer_instance

def TimelyStart (env : Env) (ev : StartEvent) (s : State) : Prop :=
  OnTime s (startMarks env ev)

end History

section Lowered

theorem InitStep.detainedLimit {input : FrameInput} {ev : InitEvent}
    (h : InitStep env s input ev s') :
    s'.limit.computeGas.detainedLimit =
      (detected env s input).limit.computeGas.detainedLimit := by
  cases h with
  | @keyless i s₁ r hi hf h2 hk =>
    have hne : i.targetAddress ≠ ORACLE_CONTRACT_ADDRESS := by
      simp only [isKeylessCall, Bool.and_eq_true, beq_iff_eq] at h2
      rw [h2.1.2]
      decide
    have hkeyless : (keylessLimit env s.limit).computeGas.detainedLimit =
        s.limit.computeGas.detainedLimit := by
      unfold keylessLimit
      split
      · exact recordComputeGas_detainedLimit _ _
      · rfl
    have hs₁ : s₁.limit.computeGas.detainedLimit = s.limit.computeGas.detainedLimit := by
      cases hk with
      | outOfGas => rfl
      | halted | insufficient | rejected | completed => exact hkeyless
    rw [hi, detected, detectOracle_of_ne hne]
    exact hs₁
  | control v hi h4 => rw [detected_rex4 h4]; rfl
  | @refused v l hd hx =>
    rw [hd.limit]
    show ((l.openFrame input ev.targetEmpty).tryRescueGas _).computeGas.detainedLimit = _
    rw [tryRescueGas_computeGas, openFrame_computeGas]
    rfl
  | @answered v l r opened journal nonce hd hx ha =>
    rw [hd.limit]
    show (((l.openFrame input ev.targetEmpty).recordComputeGas _).tryRescueGas
      _).computeGas.detainedLimit = _
    rw [tryRescueGas_computeGas, recordComputeGas_detainedLimit, openFrame_computeGas]
    rfl
  | @entered v l target created opened nonce hd hx ho hn =>
    rw [hd.limit]
    show (l.openFrame input ev.targetEmpty).computeGas.detainedLimit = _
    rw [openFrame_computeGas]
    rfl

theorem mark_le_capOf (v : VolatileDataAccessTracker) (a : VolatileAccess) :
    ∃ cap, (v.mark a).computeGasLimit = some cap ∧ cap ≤ v.capOf a := by
  refine ⟨_, v.mark_computeGasLimit a, ?_⟩
  cases v.computeGasLimit with
  | none => exact le_rfl
  | some current => exact min_le_right _ _

theorem setComputeGasLimit_le (l : AdditionalLimit) {cap bound : ℕ} (h : cap ≤ bound) :
    (l.setComputeGasLimit cap).computeGas.detainedLimit ≤
      allowance l.rex4 (l.computeGas.txUsage, bound) := by
  apply (min_le_right _ _).trans
  cases hr : l.rex4 with
  | true =>
    show saturatingAdd _ _ ≤ _ + _
    apply (min_le_left _ _).trans
    exact Nat.add_le_add_left h _
  | false => exact h

theorem detectOracle_eq (env : Env) (s : State) (i : CallInputs) : detectOracle env s i =
    if callsOracle env (.call i) then
      { s with
        volatile := s.volatile.checkAndMarkOracleAccess i.targetAddress
        limit := match (s.volatile.checkAndMarkOracleAccess i.targetAddress).computeGasLimit with
          | some limit => s.limit.setComputeGasLimit limit
          | none => s.limit }
    else s := rfl

theorem detected_callsOracle {input : FrameInput} (h : callsOracle env input = true)
    (hr : s.limit.rex4 = false) (used : ℕ) :
    (detected env s input).limit.computeGas.detainedLimit ≤
      allowance s.limit.rex4 (used, s.volatile.capOf .oracle) := by
  cases input with
  | create i => cases h
  | call i =>
    obtain ⟨cap, hcap, hle⟩ := mark_le_capOf s.volatile .oracle
    have htarget : i.targetAddress = ORACLE_CONTRACT_ADDRESS := by
      simp only [callsOracle, Bool.and_eq_true, beq_iff_eq] at h
      exact h.2
    have hmark : s.volatile.checkAndMarkOracleAccess i.targetAddress = s.volatile.mark .oracle := by
      rw [htarget]
      rfl
    rw [detected, detectOracle_eq, h, if_pos rfl]
    simp only [hmark, hcap]
    have hset := setComputeGasLimit_le s.limit hle
    rw [hr] at hset ⊢
    exact hset

theorem beforeFrameReturnResult_detainedLimit (b : Bool) (r : FrameResult) :
    (l.beforeFrameReturnResult b r).1.computeGas.detainedLimit =
      l.computeGas.detainedLimit := by
  rw [beforeFrameReturnResult_computeGas, closeFrame_computeGas]
  rfl

theorem detainedLimit_closed (bound : ℕ) :
    ComputeGasTracker.Closed fun t => t.detainedLimit ≤ bound where
  recordGasUsed t g h := by rwa [recordGasUsed_detainedLimit]
  setDetainedLimit t rex4 cap h := (min_le_left _ _).trans h
  pushFrame t rex4 h := h
  popFrame t success h := h

theorem step_detainedLimit_le {e : Event} (h : step env s e = some s') :
    s'.limit.computeGas.detainedLimit ≤ s.limit.computeGas.detainedLimit :=
  (detainedLimit_closed _).hooks.step le_rfl h

end Lowered

section OnTime

theorem OnTime.mono {marks : List (ℕ × ℕ)} (h : OnTime s marks)
    (hle : s'.limit.computeGas.detainedLimit ≤ s.limit.computeGas.detainedLimit)
    (hr : s'.limit.rex4 = s.limit.rex4) : OnTime s' marks := by
  intro m hm
  rw [hr]
  exact hle.trans (h m hm)

theorem onTime_append {marks marks' : List (ℕ × ℕ)} (h : OnTime s marks) (h' : OnTime s marks') :
    OnTime s (marks ++ marks') := by
  intro m hm
  rcases List.mem_append.1 hm with hm | hm
  · exact h m hm
  · exact h' m hm

theorem passes_of_accessOf {ev : OpEvent} {c : Ctx} {a : VolatileAccess}
    (h : accessOf env ev c = some a) :
    passes env ev c = true ∧ ev.hostCalled = true ∧ hostAccess env ev c.target = some a := by
  unfold accessOf at h
  split at h
  · next hx =>
    simp only [Bool.and_eq_true] at hx
    exact ⟨hx.2, hx.1, h⟩
  · cases h

theorem instruction_applies {ev : OpEvent} {c : Ctx} {a : VolatileAccess} (ha : c.action = none)
    (hd : ev.opcode.detains env.spec = true) (hcost : (completedCost ev c.gas).isSome = true)
    (hacc : accessOf env ev c = some a) :
    (instruction env ev c).limit.TxExceeded ∨
      (instruction env ev c).limit.computeGas.detainedLimit ≤
        allowance c.limit.rex4 ((instruction env ev c).limit.computeGas.txUsage,
          c.volatile.capOf a) := by
  obtain ⟨hp, hh, hhost⟩ := passes_of_accessOf hacc
  have hwrap := @wrap_completed env ev c ha (detains_opensFrame hd)
  obtain ⟨cost, hsome⟩ := Option.isSome_iff_exists.1 hcost
  rw [hsome] at hwrap
  obtain ⟨hlimit, herr⟩ := hwrap
  rw [instruction_of_detains hd, hp, if_pos rfl, runInnerOrAbort]
  by_cases hx : (c.limit.recordComputeGas cost).TxExceeded
  · left
    rw [if_pos (herr.2 hx), hlimit]
    exact hx
  · right
    have hok : (ComputeGasExt.wrap env ev c).isError = false := by
      simpa using fun h => hx (herr.1 h)
    obtain ⟨cap, hcap, hle⟩ := mark_le_capOf c.volatile a
    have hvolatile : (ComputeGasExt.wrap env ev c).volatile = c.volatile.mark a := by
      rw [wrap_volatile, hh, hhost]
      rfl
    have hset := setComputeGasLimit_le (ComputeGasExt.wrap env ev c).limit hle
    have hrex4 : (ComputeGasExt.wrap env ev c).limit.rex4 = c.limit.rex4 := by
      rw [hlimit, recordComputeGas_rex4]
    rw [hok, if_neg Bool.false_ne_true, applyLimit_instruction, applyLimit, hvolatile, hcap,
      ← hrex4]
    exact hset

theorem onTime_init {input : FrameInput} {ev : InitEvent} (hspec : s.limit.spec = env.spec)
    (h : InitStep env s input ev s') (hc : callsOracle env input = true) (used : ℕ) :
    s'.limit.computeGas.detainedLimit ≤
      allowance s.limit.rex4 (used, s.volatile.capOf .oracle) := by
  have h3 : env.spec.isEnabled .rex3 = false := by
    cases input with
    | create i => cases hc
    | call i =>
      simp only [callsOracle, Bool.and_eq_true, Bool.not_eq_true'] at hc
      exact hc.1.1.1
  rw [h.detainedLimit]
  exact detected_callsOracle hc (rex4_of_rex3 hspec h3) used

theorem instruction_txUsage_le (env : Env) (ev : OpEvent) (c : Ctx) :
    c.limit.computeGas.txUsage ≤ (instruction env ev c).limit.computeGas.txUsage := by
  have hclosed : InstructionClosed env ev fun c' =>
      c.limit.computeGas.txUsage ≤ c'.limit.computeGas.txUsage := by
    apply InstructionClosed.of_limit
      (Q := fun l => c.limit.computeGas.txUsage ≤ l.computeGas.txUsage)
    · intro l g hl
      rw [recordComputeGas_computeGas]
      exact hl.trans (ComputeGasTracker.txUsage_le_recordGasUsed g)
    · intro l r hl
      rw [onSstore_computeGas]
      exact hl
    · intro l n d hl
      rw [onLog_computeGas]
      exact hl
    · exact fun l cap hl => hl
  exact hclosed.instruction le_rfl

/-- A timely step keeps every access on time, or exceeds a limit of the transaction. -/
theorem onTime_step {e : Event} {marks : List (ℕ × ℕ)} (hsound : Sound env s)
    (ht : Timely env s e) (hm : OnTime s marks) (hs : step env s e = some s') :
    s'.limit.TxExceeded ∨ OnTime s' (marksOf env s e s' ++ marks) := by
  have hrex4 : s'.limit.rex4 = s.limit.rex4 := by
    rw [AdditionalLimit.rex4, AdditionalLimit.rex4, (hsound.step hs).spec, hsound.spec]
  have hold := hm.mono (step_detainedLimit_le hs) hrex4
  have hle := step_detainedLimit_le hs
  cases step_spec hs with
  | @init input ev s' hp hi =>
    right
    apply onTime_append _ hold
    intro m hm
    simp only [marksOf, hp] at hm
    split at hm
    · next hc =>
      obtain rfl := List.mem_singleton.1 hm
      rw [hrex4]
      exact onTime_init hsound.spec hi hc _
    · cases hm
  | @op f rest ev hp hf =>
    cases hacc : accessOf env ev (s.ctx f) with
    | none =>
      right
      simp only [marksOf, hp, hf, hacc]
      exact hold
    | some a =>
      have htimely := ht
      simp only [Timely, hp, hf] at htimely
      have hmarks (h : (interpStep env s f rest ev).limit.computeGas.detainedLimit ≤
          allowance s.limit.rex4 ((interpStep env s f rest ev).limit.computeGas.txUsage,
            s.volatile.capOf a)) :
          OnTime (interpStep env s f rest ev)
            (marksOf env s (.op ev) (interpStep env s f rest ev) ++ marks) := by
        simp only [marksOf, hp, hf, hacc]
        apply onTime_append _ hold
        intro m hm
        obtain rfl := List.mem_singleton.1 hm
        rw [hrex4]
        exact h
      rcases htimely a hacc with ⟨hd, hcost⟩ | hlow
      · rcases instruction_applies (c := s.ctx f) rfl hd hcost hacc with hx | happlied
        · exact .inl hx
        · exact .inr (hmarks happlied)
      · right
        apply hmarks
        apply hle.trans (hlow.trans _)
        exact allowance_mono (instruction_txUsage_le env ev (s.ctx f)) _
  | stopped hp | resumed hp | opened hp | returned hp | hand hp | insert hp | finish hp =>
    right
    simp only [marksOf, hp]
    exact hold

theorem onTime_run {es : List Event} {marks : List (ℕ × ℕ)} {x : State × List (ℕ × ℕ)}
    (hsound : Sound env s) (hm : s.limit.TxExceeded ∨ OnTime s marks)
    (hg : Run.Guarded (step env) (Timely env) s es)
    (hr : Run.run (watchStep env) (s, marks) es = some x) :
    Sound env x.1 ∧ (x.1.limit.TxExceeded ∨ OnTime x.1 x.2) := by
  induction es generalizing s marks with
  | nil =>
    obtain rfl : (s, marks) = x := by simpa [Run.run] using hr
    exact ⟨hsound, hm⟩
  | cons e es ih =>
    obtain ⟨m, hstep, hr⟩ := Run.run_cons.1 hr
    obtain ⟨s', hs, rfl⟩ := Option.map_eq_some_iff.1 hstep
    apply ih (hsound.step hs) _ (hg.2 s' hs) hr
    rcases hm with hx | hm
    · exact .inl (hsound.txExceeded_step hx hs).1
    · exact onTime_step hsound hg.1 hm hs

/-- In a transaction all of whose steps are timely, every access marked so far has
lowered the limit to its allowance when an instruction is about to run. -/
theorem detention_on_time {ev : StartEvent} {es : List Event} {s₀ : State}
    {x : State × List (ℕ × ℕ)} (hstart : start env ev = some s₀)
    (hts : TimelyStart env ev s₀) (hg : Run.Guarded (step env) (Timely env) s₀ es)
    (hr : Run.run (watchStep env) (s₀, startMarks env ev) es = some x)
    (hp : x.1.phase = .interp) :
    ∀ m ∈ x.2, x.1.limit.computeGas.detainedLimit ≤
      if env.spec.isEnabled .rex4 then m.1 + m.2 else m.2 := by
  obtain ⟨hsound, hx⟩ := onTime_run (sound_start hstart) (.inr hts) hg hr
  have hframed := hsound.framed
  simp only [State.Framed, hp] at hframed
  rcases hx with hx | hx
  · exact absurd hframed.2.within fun hw => hx.not_within hw
  · intro m hm
    have hrex4 : x.1.limit.rex4 = env.spec.isEnabled .rex4 := by
      rw [AdditionalLimit.rex4, hsound.spec]
    have hbound := hx m hm
    rw [hrex4] at hbound
    exact hbound

def timestampEnv : Env := sampleEnv .rex4 (.call 3) .other 1000000

def timestampEvents : List Event :=
  [.init sampleInit, .tau, .op
    { samplePlain 2 with
      opcode := .blockEnv .timestamp
      hostCalled := true
      opens := nofun
      ends := nofun }]

/-- TIMESTAMP at 21002 compute gas leaves its cap of 20000000 to go. -/
theorem detention_on_time_timestamp :
    ∃ x : State × List (ℕ × ℕ), x.2 = [(21002, 20000000)] ∧
      x.1.limit.computeGas.detainedLimit ≤ 20021002 := by
  have hstart : (start timestampEnv suppliedStart).isSome = true := by decide
  obtain ⟨s₀, hs₀⟩ := Option.isSome_iff_exists.1 hstart
  have hrun : ((start timestampEnv suppliedStart).bind fun s₀ =>
      Run.run (watchStep timestampEnv) (s₀, startMarks timestampEnv suppliedStart)
        timestampEvents).map (fun x => (x.2, x.1.phase)) =
      some ([(21002, 20000000)], .interp) := by decide
  have hchecks : (start timestampEnv suppliedStart).map
      (fun s => Run.checks (step timestampEnv) (fun s e => decide (Timely timestampEnv s e)) s
        timestampEvents) = some true := by decide
  rw [hs₀, Option.bind_some, Option.map_eq_some_iff] at hrun
  obtain ⟨x, hr, hx⟩ := hrun
  obtain ⟨hmarks, hp⟩ : x.2 = [(21002, 20000000)] ∧ x.1.phase = .interp := Prod.ext_iff.1 hx
  rw [hs₀, Option.map_some, Option.some.injEq] at hchecks
  have hguard : Run.Guarded (step timestampEnv) (Timely timestampEnv) s₀ timestampEvents :=
    (Run.guarded_of_checks hchecks).mono fun _ _ h => of_decide_eq_true h
  have hunmarked : startMarks timestampEnv suppliedStart = [] := by decide
  have hts : TimelyStart timestampEnv suppliedStart s₀ := by
    intro m hm
    rw [hunmarked] at hm
    cases hm
  have htime := detention_on_time hs₀ hts hguard hr hp (21002, 20000000) (by rw [hmarks]; simp)
  exact ⟨x, hmarks, htime⟩

/-- A call of the beneficiary, which is warm. -/
def beneficiaryCallEvents : List Event :=
  [.init sampleInit, .tau] ++ samplePushes ++ [.op
    { sampleCall with
      stack := [500000, 1, 0, 0, 0, 0, 0]
      inner := .newFrame 100 500000 (.call ⟨.call, 3, 1, .transfer 0, .other, 0⟩) []
      opens := fun _ => rfl
      ends := nofun }, .tau, .init sampleInit, .tau]

/-- CALL marks the beneficiary and applies no cap: the code of the beneficiary
starts with the limit of the transaction. -/
theorem detention_delayed :
    ¬ ∀ env ev es s₀ x, start env ev = some s₀ →
      Run.run (watchStep env) (s₀, startMarks env ev) es = some x → x.1.phase = .interp →
      ∀ m ∈ x.2, x.1.limit.computeGas.detainedLimit ≤
        if env.spec.isEnabled .rex4 then m.1 + m.2 else m.2 := by
  intro h
  have hstart : (start timestampEnv suppliedStart).isSome = true := by decide
  obtain ⟨s₀, hs₀⟩ := Option.isSome_iff_exists.1 hstart
  have hrun : ((start timestampEnv suppliedStart).bind fun s₀ =>
      Run.run (watchStep timestampEnv) (s₀, startMarks timestampEnv suppliedStart)
        beneficiaryCallEvents).map (fun x => (x.2, x.1.phase,
          x.1.limit.computeGas.detainedLimit)) =
      some ([(21121, 20000000)], .interp, 200000000) := by decide
  rw [hs₀, Option.bind_some, Option.map_eq_some_iff] at hrun
  obtain ⟨x, hr, hx⟩ := hrun
  simp only [Prod.mk.injEq] at hx
  obtain ⟨hmarks, hp, hlimit⟩ := hx
  have hle := h timestampEnv suppliedStart beneficiaryCallEvents s₀ x hs₀ hr hp
    (21121, 20000000) (by rw [hmarks]; simp)
  rw [hlimit] at hle
  exact absurd hle (by decide)

end OnTime

end MegaEvm
