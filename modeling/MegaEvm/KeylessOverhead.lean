import MegaEvm.ExceededStart

/-!
# The overhead of a keyless deployment

From REX3 on the overhead of a keyless deployment is recorded as compute gas. If
that reports an exceed, the deployment looks for it in the compute gas alone,
although the flag may have been set by another limit before the first frame.
-/

set_option autoImplicit false

namespace MegaEvm

open AdditionalLimit

section Reached

variable {env : Env} {ev : StartEvent} {es : List Event} {s s' : State}

theorem Started.run_kept (h : Started s) (hr : Run.run (MegaEvm.step env) s es = some s') :
    Started s' :=
  Run.invariant' (fun _ _ _ hm hs => (hm.step hs).1) h hr

theorem Execution.first (h : Execution env ev es s) {input : FrameInput}
    (hp : s.phase = .init input) (hf : s.frames = []) : start env ev = some s := by
  obtain ⟨s₀, hstart, hr⟩ := h
  cases es with
  | nil =>
    have heq : s₀ = s := by simpa [Run.run] using hr
    rw [← heq, hstart]
  | cons e rest =>
    exfalso
    obtain ⟨m, hm, hrest⟩ := Run.run_cons.1 hr
    have hstarted : Started m := by
      obtain ⟨-, hphase⟩ := start_cases hstart
      have hinit : (∃ first, s₀.phase = .init first) ∨ ∃ p, s₀.phase = .done p := by
        rcases hphase with ⟨-, ⟨i, hi⟩ | ⟨p, hd, -⟩⟩ | ⟨-, ⟨i, hi⟩ | ⟨p, hd, -⟩⟩
        · exact .inl ⟨_, hi⟩
        · exact .inr ⟨p, hd⟩
        · exact .inl ⟨_, hi⟩
        · exact .inr ⟨p, hd⟩
      rcases hinit with ⟨first, hi⟩ | ⟨p, hd⟩
      · cases step_spec hm with
        | init hp' hinit => exact started_init hinit
        | _ => simp_all
      · simp [MegaEvm.step, hd] at hm
    exact hstarted.run_kept hrest input hp hf

end Reached

section Flag

variable {env : Env} {ev : StartEvent} {s : State} {l : AdditionalLimit}

theorem examine_frameless (h4 : l.rex4 = true) (hd : l.dataSize.frameStack = [])
    (hk : l.kvUpdate.frameStack = []) (hg : l.stateGrowth.frameStack = [])
    (hc : l.computeGas.frameTracker.frameStack = []) :
    l.examine.exceededLimit = decide (l.computeGas.txUsage > l.computeGas.txLimit) := by
  have hby : ∀ {ι : Type} (k : LimitKind) (t : FrameLimitTracker ι), t.frameStack = [] →
      (t.checkLimitBy true k).exceededLimit = false := fun k t ht => by
    simp [FrameLimitTracker.checkLimitBy, FrameLimitTracker.exceedsCurrentFrameLimit, ht]
  have hcompute : (l.computeGas.checkLimit true).exceededLimit =
      decide (l.computeGas.txUsage > l.computeGas.txLimit) := by
    unfold ComputeGasTracker.checkLimit ComputeGasTracker.checkTxLimit
    by_cases h : l.computeGas.txUsage > l.computeGas.txLimit
    · simp [h, FrameLimitTracker.exceedsCurrentFrameLimit, hc]
    · simp [h, FrameLimitTracker.exceedsCurrentFrameLimit, hc]
  unfold examine DataSizeTracker.checkLimit KVUpdateTracker.checkLimit StateGrowthTracker.checkLimit
  rw [h4, hby _ _ hd, hby _ _ hk, hby _ _ hg, hcompute]
  by_cases h : l.computeGas.txUsage > l.computeGas.txLimit
  · simp [h, hcompute]
  · simp [h]

theorem keylessLimit_computeGas (h3 : env.spec.isEnabled .rex3 = true)
    (hstart : start env ev = some s) :
    (keylessLimit env s.limit).computeGas.txUsage =
        ev.intrinsicGas + constants.KEYLESS_DEPLOY_OVERHEAD_GAS ∧
      (keylessLimit env s.limit).computeGas.txLimit = startComputeGasLimit env ev ∧
      (keylessLimit env s.limit).computeGas.frameTracker.frameStack = [] := by
  rw [keylessLimit, if_pos h3, start_limit hstart, onNewTx_eq]
  simp only [recordComputeGas, checkLimit_computeGas]
  refine ⟨?_, rfl, rfl⟩
  simp [newTxTrackers, ComputeGasTracker.recordGasUsed, ComputeGasTracker.reset,
    FrameLimitTracker.reset, FrameLimitTracker.hasActiveFrame, ComputeGasTracker.txUsage,
    FrameLimitTracker.netUsage, FrameLimitTracker.totalUsed, FrameLimitTracker.totalRefund,
    FrameLimitTracker.modifyTx, FrameLimitTracker.new, FrameLimitEntry.new, FrameLimitEntry.used]

theorem keylessLimit_check (h3 : env.spec.isEnabled .rex3 = true)
    (hstart : start env ev = some s) (rex4 : Bool) :
    (keylessLimit env s.limit).computeGas.checkLimit rex4 = .withinLimit ↔
      ev.intrinsicGas + constants.KEYLESS_DEPLOY_OVERHEAD_GAS ≤ startComputeGasLimit env ev := by
  obtain ⟨husage, hlimit, hframes⟩ := keylessLimit_computeGas h3 hstart
  have hframe : ((keylessLimit env s.limit).computeGas.frameTracker.exceedsCurrentFrameLimit
      .computeGas).exceededLimit = false := by
    simp [FrameLimitTracker.exceedsCurrentFrameLimit, hframes]
  rw [ComputeGasTracker.checkLimit, hframe, Bool.and_false, if_neg Bool.false_ne_true,
    ComputeGasTracker.checkTxLimit_eq_within, husage, hlimit]

theorem start_exceeded_rex4 (h4 : env.spec.isEnabled .rex4 = true)
    (hstart : start env ev = some s) :
    s.limit.exceeded = decide (ev.intrinsicGas > startComputeGasLimit env ev) := by
  obtain ⟨-, -, -, hlimit, husage⟩ := start_usage env ev
  have hrex4 : (newTxTrackers env ev).rex4 = true := h4
  have hzero : (newTxTrackers env ev).computeGas.txUsage = 0 := rfl
  have hfresh : (newTxTrackers env ev).exceeded = false := rfl
  have hrecorded : ((newTxTrackers env ev).computeGas.recordGasUsed ev.intrinsicGas).txLimit =
      (newTxTrackers env ev).computeGas.txLimit := rfl
  have hfirst : (newTxTrackers env ev).checkLimit.exceeded = false := by
    rw [exceeded_checkLimit, hfresh, examine_frameless hrex4 rfl rfl rfl rfl, hzero]
    simp
  rw [start_limit hstart, onNewTx_eq, recordComputeGas, exceeded_checkLimit]
  have hflag : ({ (newTxTrackers env ev).checkLimit with
      computeGas := (newTxTrackers env ev).checkLimit.computeGas.recordGasUsed
        ev.intrinsicGas } : AdditionalLimit).exceeded = false := hfirst
  rw [hflag, examine_frameless]
  · simp only [checkLimit_computeGas, husage, hrecorded, hlimit, Bool.false_or]
  · show (newTxTrackers env ev).checkLimit.rex4 = true
    rw [checkLimit_rex4, hrex4]
  · show (newTxTrackers env ev).checkLimit.dataSize.frameStack = []
    rw [checkLimit_dataSize]
    rfl
  · show (newTxTrackers env ev).checkLimit.kvUpdate.frameStack = []
    rw [checkLimit_kvUpdate]
    rfl
  · show (newTxTrackers env ev).checkLimit.stateGrowth.frameStack = []
    rw [checkLimit_stateGrowth]
    rfl
  · simp only [checkLimit_computeGas]
    rfl

theorem keylessLimit_trackers (h3 : env.spec.isEnabled .rex3 = true)
    (hstart : start env ev = some s) :
    (keylessLimit env s.limit).exceeded = (s.limit.exceeded ||
      ({ s.limit with computeGas := (keylessLimit env s.limit).computeGas } :
        AdditionalLimit).examine.exceededLimit) ∧
      s.limit.rex4 = env.spec.isEnabled .rex4 ∧
      s.limit.dataSize = (newTxTrackers env ev).dataSize ∧
      s.limit.kvUpdate = (newTxTrackers env ev).kvUpdate ∧
      s.limit.stateGrowth = (newTxTrackers env ev).stateGrowth := by
  have hl := start_limit hstart
  rw [onNewTx_eq, recordComputeGas] at hl
  refine ⟨?_, ?_, ?_, ?_, ?_⟩
  · simp only [keylessLimit, if_pos h3, recordComputeGas, exceeded_checkLimit,
      checkLimit_computeGas]
    rfl
  all_goals simp only [hl, checkLimit_rex4, checkLimit_dataSize, checkLimit_kvUpdate,
    checkLimit_stateGrowth]
  rfl

theorem keylessLimit_exceeded (h3 : env.spec.isEnabled .rex3 = true)
    (hstart : start env ev = some s)
    (hc : ev.intrinsicGas + constants.KEYLESS_DEPLOY_OVERHEAD_GAS ≤ startComputeGasLimit env ev) :
    (keylessLimit env s.limit).exceeded = (!env.spec.isEnabled .rex4 &&
      (decide (intrinsicDataSize env > ev.limits.txDataSizeLimit) ||
        decide (intrinsicKvUpdates env > ev.limits.txKvUpdatesLimit))) := by
  obtain ⟨hflag, hrex4, hd, hk, hg⟩ := keylessLimit_trackers h3 hstart
  obtain ⟨husage, hlimit, hframes⟩ := keylessLimit_computeGas h3 hstart
  obtain ⟨hdata, hkv, hgrowth, -, -⟩ := start_usage env ev
  have hin : ¬ ev.intrinsicGas > startComputeGasLimit env ev := by omega
  have hin' : ¬ ev.intrinsicGas + constants.KEYLESS_DEPLOY_OVERHEAD_GAS >
      startComputeGasLimit env ev := by omega
  rw [hflag]
  cases h4 : env.spec.isEnabled .rex4 with
  | false =>
    have hdataLimit : (newTxTrackers env ev).dataSize.txLimit = ev.limits.txDataSizeLimit := rfl
    have hkvLimit : (newTxTrackers env ev).kvUpdate.txLimit = ev.limits.txKvUpdatesLimit := rfl
    have hold : ({ s.limit with computeGas := (keylessLimit env s.limit).computeGas } :
        AdditionalLimit).rex4 = false := hrex4.trans h4
    rw [start_exceeded h4 hstart, examine_exceeded hold, exceedsAtStart]
    simp only [hd, hk, hg, hdata, hkv, hgrowth, hdataLimit, hkvLimit, husage, hlimit, hin, hin',
      decide_false, Bool.or_false, Nat.not_lt_zero, gt_iff_lt, Bool.not_false, Bool.true_and,
      Bool.or_self]
  | true =>
    have hnew : ({ s.limit with computeGas := (keylessLimit env s.limit).computeGas } :
        AdditionalLimit).rex4 = true := hrex4.trans h4
    rw [start_exceeded_rex4 h4 hstart, examine_frameless hnew]
    · simp [husage, hlimit, hin, hin']
    · show s.limit.dataSize.frameStack = []
      rw [hd]
      rfl
    · show s.limit.kvUpdate.frameStack = []
      rw [hk]
      rfl
    · show s.limit.stateGrowth.frameStack = []
      rw [hg]
      rfl
    · exact hframes

end Flag

section Panic

variable {env : Env} {ev : StartEvent} {es : List Event} {s : State} {i : CallInputs}

/-- REX3, gas for the overhead, a transaction that by itself exceeds the data size or the KV
updates, and compute gas left for the overhead. -/
def PanicsOnOverhead (env : Env) (ev : StartEvent) (gasLimit : ℕ) : Prop :=
  env.spec.isEnabled .rex3 = true ∧ env.spec.isEnabled .rex4 = false ∧
    constants.KEYLESS_DEPLOY_OVERHEAD_GAS ≤ gasLimit ∧
    (intrinsicDataSize env > ev.limits.txDataSizeLimit ∨
      intrinsicKvUpdates env > ev.limits.txKvUpdatesLimit) ∧
    ev.intrinsicGas + constants.KEYLESS_DEPLOY_OVERHEAD_GAS ≤ startComputeGasLimit env ev

theorem executeKeylessDeployCall_panicked (outcome : KeylessOutcome) :
    executeKeylessDeployCall env s i outcome = .panicked ↔
      constants.KEYLESS_DEPLOY_OVERHEAD_GAS ≤ i.gasLimit ∧ env.spec.isEnabled .rex3 = true ∧
        (keylessLimit env s.limit).exceeded = true ∧
        (keylessLimit env s.limit).computeGas.checkLimit (keylessLimit env s.limit).rex4 =
          .withinLimit := by
  by_cases hg : constants.KEYLESS_DEPLOY_OVERHEAD_GAS ≤ i.gasLimit
  · rw [executeKeylessDeployCall_eq outcome hg]
    by_cases hx : (env.spec.isEnabled .rex3 && (keylessLimit env s.limit).exceeded) = true
    · rw [if_pos hx]
      rw [Bool.and_eq_true] at hx
      cases hc : (keylessLimit env s.limit).computeGas.checkLimit
          (keylessLimit env s.limit).rex4 with
      | withinLimit => simp [hg, hx.1, hx.2]
      | exceedsLimit kind lim used frameLocal => cases frameLocal <;> simp
    · rw [if_neg hx]
      have hnot : ¬ (env.spec.isEnabled .rex3 = true ∧ (keylessLimit env s.limit).exceeded = true) := by
        rwa [Bool.and_eq_true] at hx
      constructor
      · intro h
        split at h
        · cases h
        · cases outcome <;> cases h
      · rintro ⟨-, h3, he, -⟩
        exact absurd ⟨h3, he⟩ hnot
  · constructor
    · intro h
      have hnone : (Gas.new i.gasLimit).recordCost constants.KEYLESS_DEPLOY_OVERHEAD_GAS = none := by
        rw [Gas.recordCost_eq_none]
        exact Nat.not_le.1 hg
      simp [executeKeylessDeployCall, hnone] at h
    · rintro ⟨h, -⟩
      exact absurd h hg

/-- In every reachable state an intercepted keyless deployment hits the unreachable arm
exactly for these transactions. -/
theorem keyless_overhead_panics_iff (h : Execution env ev es s) (hp : s.phase = .init (.call i))
    (hk : isKeylessCall env s i = true) (outcome : KeylessOutcome) :
    dispatchSystemContractInterceptors env (detected env s (.call i)) i outcome ≠ .panicked ↔
      ¬ PanicsOnOverhead env ev i.gasLimit := by
  have hframes : s.frames = [] := by
    simp only [isKeylessCall, Bool.and_eq_true, beq_iff_eq] at hk
    exact List.length_eq_zero_iff.1 hk.1.1.2
  have hstart := h.first hp hframes
  have ht : i.targetAddress ≠ ORACLE_CONTRACT_ADDRESS := by
    simp only [isKeylessCall, Bool.and_eq_true, beq_iff_eq] at hk
    rw [hk.1.2]
    decide
  have hd : dispatchSystemContractInterceptors env (detected env s (.call i)) i outcome =
      executeKeylessDeployCall env s i outcome := by
    rw [detected, detectOracle_of_ne ht, dispatchSystemContractInterceptors, if_pos hk]
  rw [hd, Ne, executeKeylessDeployCall_panicked, not_iff_not]
  constructor
  · rintro ⟨hg, h3, hx, hc⟩
    rw [keylessLimit_check h3 hstart] at hc
    rw [keylessLimit_exceeded h3 hstart hc] at hx
    simp only [Bool.and_eq_true, Bool.not_eq_true', Bool.or_eq_true, decide_eq_true_eq] at hx
    exact ⟨h3, hx.1, hg, hx.2, hc⟩
  · rintro ⟨h3, h4, hg, hx, hc⟩
    refine ⟨hg, h3, ?_, (keylessLimit_check h3 hstart _).2 hc⟩
    rw [keylessLimit_exceeded h3 hstart hc, h4]
    simpa using hx

end Panic

section Sample

/-- A keyless deployment within all limits. -/
theorem keyless_overhead_panics_not : ∃ s,
    Execution (sampleEnv .rex3 (.call KEYLESS_DEPLOY_ADDRESS) .keylessDeploy 1000000)
        (sampleStart .rex3 (by decide)) [] s ∧
      dispatchSystemContractInterceptors
        (sampleEnv .rex3 (.call KEYLESS_DEPLOY_ADDRESS) .keylessDeploy 1000000)
        (detected (sampleEnv .rex3 (.call KEYLESS_DEPLOY_ADDRESS) .keylessDeploy 1000000) s
          (firstFrameInput
            (sampleEnv .rex3 (.call KEYLESS_DEPLOY_ADDRESS) .keylessDeploy 1000000) 940000))
        ⟨.call, 2, KEYLESS_DEPLOY_ADDRESS, .transfer 0, .keylessDeploy, 940000⟩
        (.rejected []) ≠ .panicked := by
  let env := sampleEnv .rex3 (.call KEYLESS_DEPLOY_ADDRESS) .keylessDeploy 1000000
  have hrun : (execute env (sampleStart .rex3 (by decide)) []).map
      (fun s => (s.phase, s.frames)) = some (.init (firstFrameInput env 940000), []) := by
    decide
  obtain ⟨s, hs, hf⟩ := exists_execution hrun
  have hp : s.phase = .init (firstFrameInput env 940000) := (Prod.ext_iff.1 hf).1
  have hframes : s.frames = [] := (Prod.ext_iff.1 hf).2
  have hk : isKeylessCall env s
      ⟨.call, 2, KEYLESS_DEPLOY_ADDRESS, .transfer 0, .keylessDeploy, 940000⟩ = true := by
    unfold isKeylessCall State.depth
    rw [hframes]
    decide
  refine ⟨s, hs, (keyless_overhead_panics_iff hs hp hk _).2 ?_⟩
  rintro ⟨-, -, -, hx | hx, -⟩
  · exact absurd hx (by decide)
  · exact absurd hx (by decide)

/-- With a data size limit of 100 bytes, which every transaction exceeds. -/
theorem keyless_overhead_panics : ¬ ∀ env ev es s i outcome, Execution env ev es s →
    s.phase = .init (.call i) → isKeylessCall env s i = true →
    dispatchSystemContractInterceptors env (detected env s (.call i)) i outcome ≠ .panicked := by
  intro h
  let env := sampleEnv .rex3 (.call KEYLESS_DEPLOY_ADDRESS) .keylessDeploy 1000000
  let i : CallInputs := ⟨.call, 2, KEYLESS_DEPLOY_ADDRESS, .transfer 0, .keylessDeploy, 940000⟩
  have hrun : (execute env smallDataStart []).map (fun s => (s.phase, s.frames)) =
      some (.init (.call i), []) := by decide
  obtain ⟨s, hs, hf⟩ := exists_execution hrun
  have hp : s.phase = .init (.call i) := (Prod.ext_iff.1 hf).1
  have hframes : s.frames = [] := (Prod.ext_iff.1 hf).2
  have hk : isKeylessCall env s i = true := by
    unfold isKeylessCall State.depth
    rw [hframes]
    decide
  have hstart := hs.first hp hframes
  have hcompute : smallDataStart.intrinsicGas + constants.KEYLESS_DEPLOY_OVERHEAD_GAS ≤
      startComputeGasLimit env smallDataStart := by decide
  have hnot := h env smallDataStart [] s i (.rejected []) hs hp hk
  have ht : i.targetAddress ≠ ORACLE_CONTRACT_ADDRESS := by decide
  rw [detected, detectOracle_of_ne ht, dispatchSystemContractInterceptors, if_pos hk] at hnot
  apply hnot
  rw [executeKeylessDeployCall_panicked]
  refine ⟨by decide, rfl, ?_, (keylessLimit_check rfl hstart _).2 hcompute⟩
  rw [keylessLimit_exceeded rfl hstart hcompute]
  decide

end Sample

end MegaEvm
