import MegaEvm.ComputeHalt
import MegaEvm.GasConservation
import MegaEvm.Nonce

/-!
# A limit exceeded before the first frame

What a transaction uses before it runs anything can exceed a limit by itself.
Without frame budgets such a transaction is stopped when its first frame is
initialised: nothing happens and all the gas of the frame is given back. The
interceptor of a keyless deployment comes before that check and is stopped by
it too late.
-/

set_option autoImplicit false

namespace MegaEvm

open AdditionalLimit

section Intrinsic

variable (env : Env) (ev : StartEvent)

/-- Data size before the first frame: the transaction itself and the accounts
it writes in any case. -/
def intrinsicDataSize : ℕ :=
  constants.BASE_TX_SIZE + env.tx.inputLen + env.tx.accessListSize +
    env.tx.authorities.length * constants.AUTHORIZATION_SIZE +
    (env.tx.authorities.filter id).length * constants.ACCOUNT_INFO_WRITE_SIZE +
    constants.ACCOUNT_INFO_WRITE_SIZE

def intrinsicKvUpdates : ℕ := (env.tx.authorities.filter id).length + 1

/-- The compute gas limit a transaction starts with; before REX1 a detained
limit outlives its transaction. -/
def startComputeGasLimit : ℕ :=
  min ev.limits.txComputeGasLimit
    (if env.spec.isEnabled .rex1 then ev.limits.txComputeGasLimit else ev.detainedLimit)

def exceedsAtStart : Bool :=
  decide (intrinsicDataSize env > ev.limits.txDataSizeLimit) ||
    decide (intrinsicKvUpdates env > ev.limits.txKvUpdatesLimit) ||
    decide (ev.intrinsicGas > startComputeGasLimit env ev)

end Intrinsic

section HaltReason

/-- `execution_result`: why the transaction halted. An exceed that a detained
compute gas limit brought about is reported as one of volatile data. A deposit
leaves it with an error before that, which `catch_error` reports. -/
def haltReason (env : Env) (limit : AdditionalLimit) (volatile : VolatileDataAccessTracker)
    (reason : InstructionResult) : Option MegaHaltReason :=
  if env.isDeposit then some .failedDeposit
  else if reason == .outOfGas && limit.checkLimit.exceeded then
    match volatile.getVolatileDataInfo with
    | some accessType =>
      if limit.computeGas.isDetainedExceed then
        some (.volatileDataAccessOutOfGas accessType limit.computeGas.detainedLimit
          limit.computeGas.txUsage)
      else limit.checkLimit.hasExceededLimit.maybeHaltReason
    | none => limit.checkLimit.hasExceededLimit.maybeHaltReason
  else some (.base reason)

def MegaHaltReason.isLimit : MegaHaltReason → Bool
  | base _ | failedDeposit => false
  | _ => true

theorem maybeHaltReason_isLimit {c : LimitCheck} {reason : MegaHaltReason}
    (h : c.maybeHaltReason = some reason) : reason.isLimit = true := by
  cases c with
  | withinLimit => cases h
  | exceedsLimit kind limit used frameLocal =>
    cases kind
    all_goals
      cases h
      rfl

theorem haltReason_exceeded {env : Env} (hdep : env.isDeposit = false) {l : AdditionalLimit}
    (hx : l.exceeded = true) (v : VolatileDataAccessTracker) :
    ∃ reason, haltReason env l v .outOfGas = some reason ∧ reason.isLimit = true := by
  have hcheck : l.checkLimit.exceeded = true := by rwa [checkLimit_of_exceeded hx]
  have hsome : ∃ reason, l.checkLimit.hasExceededLimit.maybeHaltReason = some reason := by
    rw [← Option.isSome_iff_exists, LimitCheck.maybeHaltReason_isSome]
    exact hcheck
  obtain ⟨reason, hreason⟩ := hsome
  unfold haltReason
  simp only [hdep, Bool.false_eq_true, if_false, beq_self_eq_true, hcheck, Bool.and_self, if_true]
  cases v.getVolatileDataInfo with
  | none => exact ⟨reason, hreason, maybeHaltReason_isLimit hreason⟩
  | some accessType =>
    dsimp only
    split
    · exact ⟨_, rfl, rfl⟩
    · exact ⟨reason, hreason, maybeHaltReason_isLimit hreason⟩

end HaltReason

section Start

variable {env : Env} {ev : StartEvent} {s₀ : State}

theorem exceeded_checkLimit (l : AdditionalLimit) :
    l.checkLimit.exceeded = (l.exceeded || l.examine.exceededLimit) := by
  unfold checkLimit exceeded
  split
  case isTrue h => simp [h]
  case isFalse h => simp [h]

theorem examine_exceeded {l : AdditionalLimit} (h4 : l.rex4 = false) :
    l.examine.exceededLimit = (decide (l.dataSize.netUsage > l.dataSize.txLimit) ||
      decide (l.kvUpdate.netUsage > l.kvUpdate.txLimit) ||
      decide (l.computeGas.txUsage > l.computeGas.txLimit) ||
      decide (l.stateGrowth.netUsage > l.stateGrowth.txLimit)) := by
  have hby : ∀ {ι : Type} (k : LimitKind) (t : FrameLimitTracker ι),
      (t.checkLimitBy false k).exceededLimit = decide (t.netUsage > t.txLimit) := fun k t => by
    unfold FrameLimitTracker.checkLimitBy
    by_cases h : t.netUsage > t.txLimit
    · simp [h]
    · simp [h]
  have hcompute : (l.computeGas.checkLimit false).exceededLimit =
      decide (l.computeGas.txUsage > l.computeGas.txLimit) := by
    unfold ComputeGasTracker.checkLimit ComputeGasTracker.checkTxLimit
    by_cases h : l.computeGas.txUsage > l.computeGas.txLimit
    · simp [h]
    · simp [h]
  unfold examine DataSizeTracker.checkLimit KVUpdateTracker.checkLimit StateGrowthTracker.checkLimit
  simp only [h4, hby, hcompute]
  by_cases hd : l.dataSize.netUsage > l.dataSize.txLimit
  · simp [hd, hby]
  · by_cases hk : l.kvUpdate.netUsage > l.kvUpdate.txLimit
    · simp [hd, hk, hby]
    · by_cases hc : l.computeGas.txUsage > l.computeGas.txLimit
      · simp [hd, hk, hc, hcompute]
      · by_cases hg : l.stateGrowth.netUsage > l.stateGrowth.txLimit
        · simp [hd, hk, hc, hg, hby]
        · simp [hd, hk, hc, hg]

theorem start_limit (hstart : start env ev = some s₀) :
    s₀.limit = (onNewTx env ev).recordComputeGas ev.intrinsicGas := by
  unfold start at hstart
  split at hstart
  · cases hstart
  · rw [Option.map_eq_some_iff] at hstart
    obtain ⟨storageGas, -, rfl⟩ := hstart
    dsimp only
    split
    · rfl
    · rfl

theorem start_usage (env : Env) (ev : StartEvent) :
    (newTxTrackers env ev).dataSize.netUsage = intrinsicDataSize env ∧
      (newTxTrackers env ev).kvUpdate.netUsage = intrinsicKvUpdates env ∧
      (newTxTrackers env ev).stateGrowth.netUsage = 0 ∧
      (newTxTrackers env ev).computeGas.txLimit = startComputeGasLimit env ev ∧
      ∀ gas, ((newTxTrackers env ev).computeGas.recordGasUsed gas).txUsage = gas := by
  refine ⟨?_, ?_, rfl, rfl, fun gas => ?_⟩
  · simp [newTxTrackers, DataSizeTracker.beforeTxStart, FrameLimitTracker.netUsage,
      FrameLimitTracker.totalUsed, FrameLimitTracker.totalRefund, FrameLimitTracker.modifyTx,
      FrameLimitTracker.new, FrameLimitEntry.new, FrameLimitEntry.used, intrinsicDataSize]
  · simp [newTxTrackers, KVUpdateTracker.beforeTxStart, FrameLimitTracker.netUsage,
      FrameLimitTracker.totalUsed, FrameLimitTracker.totalRefund, FrameLimitTracker.modifyTx,
      FrameLimitTracker.new, FrameLimitEntry.new, FrameLimitEntry.used, intrinsicKvUpdates]
  · simp [newTxTrackers, ComputeGasTracker.recordGasUsed, ComputeGasTracker.reset,
      FrameLimitTracker.reset, FrameLimitTracker.hasActiveFrame, ComputeGasTracker.txUsage,
      FrameLimitTracker.netUsage, FrameLimitTracker.totalUsed, FrameLimitTracker.totalRefund,
      FrameLimitTracker.modifyTx, FrameLimitTracker.new, FrameLimitEntry.new,
      FrameLimitEntry.used]

theorem start_exceeded (h4 : env.spec.isEnabled .rex4 = false)
    (hstart : start env ev = some s₀) : s₀.limit.exceeded = exceedsAtStart env ev := by
  obtain ⟨hdata, hkv, hgrowth, hlimit, husage⟩ := start_usage env ev
  have hzero : (newTxTrackers env ev).computeGas.txUsage = 0 := rfl
  have hdataLimit : (newTxTrackers env ev).dataSize.txLimit = ev.limits.txDataSizeLimit := rfl
  have hkvLimit : (newTxTrackers env ev).kvUpdate.txLimit = ev.limits.txKvUpdatesLimit := rfl
  have hfresh : (newTxTrackers env ev).exceeded = false := rfl
  have hrex4 : (newTxTrackers env ev).rex4 = false := h4
  have hrecorded : ((newTxTrackers env ev).computeGas.recordGasUsed ev.intrinsicGas).txLimit =
      (newTxTrackers env ev).computeGas.txLimit := rfl
  -- flagged by the transaction's own size, or when its intrinsic gas is recorded
  rw [start_limit hstart, onNewTx_eq, recordComputeGas, exceeded_checkLimit]
  have hflag : ({ (newTxTrackers env ev).checkLimit with
      computeGas := (newTxTrackers env ev).checkLimit.computeGas.recordGasUsed
        ev.intrinsicGas } : AdditionalLimit).exceeded =
      ((newTxTrackers env ev).exceeded || (newTxTrackers env ev).examine.exceededLimit) :=
    exceeded_checkLimit _
  rw [hflag, hfresh, examine_exceeded hrex4, examine_exceeded (by
    show (newTxTrackers env ev).checkLimit.rex4 = false
    rw [checkLimit_rex4, hrex4])]
  simp only [checkLimit_dataSize, checkLimit_kvUpdate, checkLimit_computeGas,
    checkLimit_stateGrowth, hdata, hkv, hgrowth, hlimit, husage, hzero, hdataLimit, hkvLimit,
    hrecorded, exceedsAtStart]
  grind

end Start

section Stop

variable {env : Env} {ev : StartEvent} {s s₀ s' : State} {input : FrameInput} {p : Pending}

/-- The transaction halts for a limit, its journal is the one it started with,
and the gas of its first frame is given back. -/
structure NoEffects (env : Env) (s₀ : State) (input : FrameInput) (s : State)
    (p : Pending) : Prop where
  halts : p.result.instructionResult = .outOfGas
  reason : ∃ reason, haltReason env s.limit s.volatile p.result.instructionResult = some reason ∧
    reason.isLimit = true
  unchanged : s.journal = s₀.journal
  returned : unspentGas env p.result = input.gasLimit

/-- Whatever its target, the transaction ends in two steps and without effects. -/
structure StopsAtStart (env : Env) (s₀ : State) (input : FrameInput) : Prop where
  completes : ∀ e, ∃ s p, Run.run (step env) s₀ [.init e, .tau] = some s ∧ s.phase = .done p
  withoutEffects : ∀ es s p, Run.run (step env) s₀ es = some s → s.phase = .done p →
    NoEffects env s₀ input s p

def interceptedAtStart (env : Env) (s₀ : State) : FrameInput → Bool
  | .call i => isKeylessCall env s₀ i && i.gasLimit != 0
  | .create _ => false

theorem beforeFrameReturnResult_exceeded {l : AdditionalLimit} {n : ℕ} (b : Bool)
    (r : FrameResult) (ha : l.Aligned (n + 1)) (ht : l.TxExceeded) :
    l.beforeFrameReturnResult b r =
      (l.closeFrame r.instructionResult.isOk, r.markAsExceedingLimit .outOfGas []) := by
  have hclose : (l.closeFrame r.instructionResult.isOk).TxExceeded := txExceeded_closeFrame ht
  rcases beforeFrameReturnResult_cases (l := l) b r with
    ⟨hx, -⟩ | ⟨hd, -⟩ | ⟨-, hx, -⟩ | ⟨-, -, hb⟩
  · exact absurd hx fun hx => hclose.not_within hx
  · rw [not_duplicate ha] at hd
    cases hd
  · rw [hclose.2] at hx
    cases hx
  · exact hb

theorem finished_exceeded (env : Env) (p : Pending) (ha : s.limit.Aligned 1)
    (ht : s.limit.TxExceeded) :
    (finalResult env s p).instructionResult = .outOfGas ∧
      (finalResult env s p).gas.remaining = s.limit.rescuedGas ∧
      (lastFrameResult env s p).limit.exceeded = true := by
  have hclose : (s.limit.closeFrame p.result.instructionResult.isOk).TxExceeded :=
    txExceeded_closeFrame ht
  have hmarked := beforeFrameReturnResult_exceeded true p.result ha ht
  refine ⟨?_, ?_, ?_⟩
  · rw [finalResult_instructionResult, hmarked]
    rfl
  · have hgas : (finalResult env s p).gas =
        finalGas env (s.limit.closeFrame p.result.instructionResult.isOk)
          (p.result.markAsExceedingLimit .outOfGas []) := by
      unfold finalResult
      rw [hmarked]
      rfl
    have hhalt : (p.result.markAsExceedingLimit .outOfGas []).instructionResult.isOkOrRevert =
        false := rfl
    rw [hgas, finalGas_remaining, hhalt, closeFrame_rescuedGas]
    simp
  · rw [lastFrameResult_limit, hmarked]
    exact hclose.1

theorem run_answered {es : List Event} (hi : s₀.phase = .init input)
    (hdet : ∀ e s', frameInit env s₀ input e = some s' →
      ∃ p, s'.phase = .last p ∧ isFatal p = false)
    (hr : Run.run (step env) s₀ es = some s) (hp : s.phase = .done p) :
    ∃ e s₁ p₁, frameInit env s₀ input e = some s₁ ∧ s₁.phase = .last p₁ ∧
      s = lastFrameResult env s₁ p₁ ∧ p = ⟨finalResult env s₁ p₁, p₁.opened⟩ := by
  obtain ⟨e, rest, s₁, rfl, hinit, -⟩ := run_first hi hr hp
  obtain ⟨p₁, hlast, hn⟩ := hdet e s₁ hinit
  obtain ⟨m, hm, hrest⟩ := Run.run_cons.1 hr
  have hfirst : m = s₁ := by
    have hstep : step env s₀ (.init e) = some s₁ := by simpa [step, hi] using hinit
    rw [hstep, Option.some.injEq] at hm
    exact hm.symm
  subst hfirst
  cases rest with
  | nil =>
    obtain rfl : m = s := by simpa [Run.run] using hrest
    rw [hlast] at hp
    cases hp
  | cons e' rest =>
    obtain ⟨m', hm', hlater⟩ := Run.run_cons.1 hrest
    cases e' with
    | init | op => simp [step, hlast] at hm'
    | tau =>
      have hfinish : m' = lastFrameResult env m p₁ := by
        simp only [step, hlast, hn, Bool.false_eq_true, if_false, Option.some.injEq] at hm'
        exact hm'.symm
      have hdone : m'.phase = .done ⟨finalResult env m p₁, p₁.opened⟩ := by
        rw [hfinish, lastFrameResult_phase]
      obtain ⟨-, rfl⟩ := run_after_done hdone hlater
      rw [hdone, Phase.done.injEq] at hp
      exact ⟨e, m, p₁, hinit, hlast, hfinish, hp.symm⟩

structure StartExceeded (env : Env) (s : State) : Prop where
  frames : s.frames = []
  rex4 : env.spec.isEnabled .rex4 = false
  aligned : s.limit.Aligned 0
  rescuedGas : s.limit.rescuedGas = 0
  exceeded : s.limit.TxExceeded

theorem startExceeded (h4 : env.spec.isEnabled .rex4 = false) (hstart : start env ev = some s₀)
    (hx : exceedsAtStart env ev = true) : StartExceeded env s₀ := by
  obtain ⟨-, hrescued, haligned, hopening⟩ := opening_start env ev
  rw [← start_limit hstart] at hrescued haligned hopening
  rw [← start_exceeded h4 hstart] at hx
  exact
    { frames := (start_cases hstart).1
      rex4 := h4
      aligned := haligned
      rescuedGas := hrescued
      exceeded := hopening.halting hx }

theorem State.answer_last (hf : s.frames = []) (p : Pending) :
    s.answer p = { s with phase := .last p } := by
  unfold State.answer
  rw [hf]
  rfl

theorem detected_uncalled (hk : ∀ i, input = .call i → isKeylessCall env s i = false) :
    ∃ v l, detected env s input = { s with volatile := v, limit := l } ∧
      Detected env s input l := by
  cases input with
  | create i => exact ⟨s.volatile, s.limit, rfl, detected_create env s i⟩
  | call i => exact detectOracle_detected (hk i rfl)

theorem dispatch_no (h4 : env.spec.isEnabled .rex4 = false) {i : CallInputs}
    (hk : isKeylessCall env s i = false) (outcome : KeylessOutcome) :
    dispatchSystemContractInterceptors env s i outcome = .no := by
  simp [dispatchSystemContractInterceptors, hk, h4]

theorem StartExceeded.refused (h : StartExceeded env s)
    (hk : ∀ i, input = .call i → isKeylessCall env s i = false) (e : InitEvent) :
    ∃ s' p, frameInit env s input e = some s' ∧ s'.phase = .last p ∧
      p.result.instructionResult = .outOfGas ∧ s'.journal = s.journal ∧ s'.limit.Aligned 1 ∧
      s'.limit.TxExceeded ∧ s'.limit.rescuedGas = input.gasLimit := by
  obtain ⟨v, l, heq, hd⟩ := detected_uncalled hk
  have ht : (l.openFrame input e.targetEmpty).TxExceeded :=
    txExceeded_openFrame ((txExceeded_congr hd.flag).2 h.exceeded)
  have hinit : frameInit env s input e = some
      ({ s with
        volatile := v
        limit := (l.openFrame input e.targetEmpty).tryRescueGas (.new input.gasLimit) }.answer
          ⟨(l.openFrame input e.targetEmpty).exceedingFrameResult input, s.journal⟩) := by
    unfold frameInit
    rw [heq]
    cases input with
    | create i =>
      dsimp only
      rw [beforeFrameInit_exceeded ht.1]
    | call i =>
      have hno := dispatch_no (s := { s with volatile := v, limit := l }) h.rex4 (hk i rfl)
        e.keyless
      dsimp only
      rw [hno]
      dsimp only
      rw [beforeFrameInit_exceeded ht.1]
  have hresult : ((l.openFrame input e.targetEmpty).exceedingFrameResult input).instructionResult
      = .outOfGas := by
    show (l.openFrame input e.targetEmpty).exceedingInstructionResult = .outOfGas
    simp [exceedingInstructionResult, ht.2, EXCEEDING_LIMIT_INSTRUCTION_RESULT]
  have haligned : l.Aligned 0 := h.aligned.of_eq hd.budgets
  rw [State.answer_last (by exact h.frames)] at hinit
  refine ⟨_, _, hinit, rfl, hresult, rfl, ?_, ?_, ?_⟩
  · exact aligned_tryRescueGas.2 haligned.openFrame
  · exact txExceeded_tryRescueGas.2 (txExceeded_checkLimit ht)
  · dsimp only
    rw [tryRescueGas_rescuedGas, if_pos (txExceeded_checkLimit ht), openFrame_rescuedGas,
      hd.rescuedGas, h.rescuedGas]
    simp

theorem StartExceeded.intercepted (h : StartExceeded env s) {i : CallInputs}
    (hi : input = .call i) (hk : isKeylessCall env s i = true) {e : InitEvent}
    (hs : frameInit env s input e = some s') :
    ∃ p, s'.phase = .last p ∧ isFatal p = false ∧ s'.limit.Aligned 1 ∧ s'.limit.TxExceeded ∧
      s'.limit.rescuedGas = 0 ∧
      (i.gasLimit < constants.KEYLESS_DEPLOY_OVERHEAD_GAS → s'.journal = s.journal) := by
  subst hi
  cases frameInit_step hs with
  | @keyless i' s₁ r hi hf h2 hk' =>
    cases hi
    have hlimit : s₁.limit = s.limit ∨ s₁.limit = keylessLimit env s.limit := by
      cases hk' with
      | outOfGas => exact .inl rfl
      | halted | insufficient | rejected | completed => exact .inr rfl
    have hframes : s₁.frames = [] := by
      cases hk' with
      | outOfGas | halted | insufficient | rejected | completed => exact hf
    have hnot : isFatal ⟨r, s.journal⟩ = false := by
      cases hk' with
      | outOfGas | halted | insufficient | rejected | completed => rfl
    have hjournal : i.gasLimit < constants.KEYLESS_DEPLOY_OVERHEAD_GAS →
        s₁.journal = s.journal := fun hlt => by
      cases hk' with
      | completed output signer nonce ho hle => omega
      | outOfGas | halted | insufficient | rejected => rfl
    have hkept : s₁.limit.Aligned 0 ∧ s₁.limit.rescuedGas = 0 := by
      obtain heq | heq := hlimit
      · rw [heq]
        exact ⟨h.aligned, h.rescuedGas⟩
      · rw [heq, keylessLimit_rescuedGas]
        exact ⟨keylessLimit_aligned h.aligned, h.rescuedGas⟩
    have ht : s₁.limit.TxExceeded := txExceeded_keylessCall h.exceeded hk'
    rw [State.answer_last (by exact hframes)]
    exact ⟨_, rfl, hnot, hkept.1.pushEmptyFrame, ht, hkept.2, hjournal⟩
  | control v hi h4 =>
    rw [h.rex4] at h4
    cases h4
  | refused hd | answered hd | entered hd =>
    have hpassed := hd.passed i rfl
    rw [hk] at hpassed
    cases hpassed

theorem completes_of_answered {e : InitEvent} (hi : s₀.phase = .init input)
    (hs : frameInit env s₀ input e = some s') (hp : s'.phase = .last p)
    (hn : isFatal p = false) :
    ∃ s p, Run.run (step env) s₀ [.init e, .tau] = some s ∧ s.phase = .done p := by
  refine ⟨lastFrameResult env s' p, _, ?_, lastFrameResult_phase env s' p⟩
  have hfirst : step env s₀ (.init e) = some s' := by simpa [step, hi] using hs
  have hlast : step env s' .tau = some (lastFrameResult env s' p) := by simp [step, hp, hn]
  simp [Run.run, hfirst, hlast]

theorem noEffects_of_answered (hdep : env.isDeposit = false) (ha : s.limit.Aligned 1)
    (ht : s.limit.TxExceeded) (hj : s.journal = s₀.journal)
    (hg : s.limit.rescuedGas = input.gasLimit) :
    NoEffects env s₀ input (lastFrameResult env s p) ⟨finalResult env s p, p.opened⟩ := by
  obtain ⟨hhalts, hgas, hx⟩ := finished_exceeded env p ha ht
  exact
    { halts := hhalts
      reason := by
        rw [hhalts]
        exact haltReason_exceeded hdep hx _
      unchanged := hj
      returned := (unspentGas_eq hdep _).trans (hgas.trans hg) }

theorem stopsAtStart_of_answered (hdep : env.isDeposit = false) (hi : s₀.phase = .init input)
    (hsome : ∀ e, ∃ s', frameInit env s₀ input e = some s')
    (hanswer : ∀ e s', frameInit env s₀ input e = some s' → ∃ p, s'.phase = .last p ∧
      isFatal p = false ∧ s'.limit.Aligned 1 ∧ s'.limit.TxExceeded ∧
      s'.journal = s₀.journal ∧ s'.limit.rescuedGas = input.gasLimit) :
    StopsAtStart env s₀ input := by
  constructor
  · intro e
    obtain ⟨s', hs⟩ := hsome e
    obtain ⟨p, hp, hn, -⟩ := hanswer e s' hs
    exact completes_of_answered hi hs hp hn
  · intro es s p hr hp
    have hdet : ∀ e s', frameInit env s₀ input e = some s' →
        ∃ p, s'.phase = .last p ∧ isFatal p = false := fun e s' hs => by
      obtain ⟨p, hp, hn, -⟩ := hanswer e s' hs
      exact ⟨p, hp, hn⟩
    obtain ⟨e, s₁, p₁, hs, hlast, rfl, rfl⟩ := run_answered hi hdet hr hp
    obtain ⟨q, hq, -, ha, ht, hj, hg⟩ := hanswer e s₁ hs
    exact noEffects_of_answered hdep ha ht hj hg

theorem frameInit_unpaid {i : CallInputs} (hk : isKeylessCall env s i = true)
    (hg : i.gasLimit < constants.KEYLESS_DEPLOY_OVERHEAD_GAS) (e : InitEvent) :
    ∃ s', frameInit env s (.call i) e = some s' := by
  have hk' : isKeylessCall env (detectOracle env s i) i = true := by
    rw [isKeylessCall_detectOracle, hk]
  have hnone : (Gas.new i.gasLimit).recordCost constants.KEYLESS_DEPLOY_OVERHEAD_GAS = none :=
    Gas.recordCost_eq_none.2 hg
  simp only [frameInit, detected, dispatchSystemContractInterceptors, hk', if_true,
    executeKeylessDeployCall, hnone]
  exact ⟨_, rfl⟩

theorem StopsAtStart.not_deposit (h : StopsAtStart env s₀ input) : env.isDeposit = false := by
  obtain ⟨s, p, hr, hp⟩ := h.completes sampleInit
  obtain ⟨reason, hreason, hlimit⟩ := (h.withoutEffects _ s p hr hp).reason
  by_contra hdep
  rw [haltReason, if_pos (by simpa using hdep), Option.some.injEq] at hreason
  subst hreason
  cases hlimit

/-- A transaction that exceeds a limit before its first frame is stopped without
effects, unless it is a deposit or that frame is a keyless deployment. -/
theorem no_effects_iff (h4 : env.spec.isEnabled .rex4 = false) (hstart : start env ev = some s₀)
    (hi : s₀.phase = .init input) (hx : exceedsAtStart env ev = true) :
    StopsAtStart env s₀ input ↔
      env.isDeposit = false ∧ interceptedAtStart env s₀ input = false := by
  have h := startExceeded h4 hstart hx
  constructor
  · intro hstops
    have hdep := hstops.not_deposit
    refine ⟨hdep, ?_⟩
    by_contra hintercepted
    cases input with
    | create i => exact hintercepted rfl
    | call i =>
      simp only [interceptedAtStart, Bool.not_eq_false, Bool.and_eq_true, bne_iff_ne,
        ne_eq] at hintercepted
      obtain ⟨hk, hgas⟩ := hintercepted
      obtain ⟨s, p, hr, hp⟩ := hstops.completes sampleInit
      have hdet : ∀ e s', frameInit env s₀ (.call i) e = some s' →
          ∃ p, s'.phase = .last p ∧ isFatal p = false := fun e s' hs => by
        obtain ⟨p, hp, hn, -⟩ := h.intercepted rfl hk hs
        exact ⟨p, hp, hn⟩
      obtain ⟨e, s₁, p₁, hs, hlast, rfl, rfl⟩ := run_answered hi hdet hr hp
      obtain ⟨q, hq, -, ha, ht, hg, -⟩ := h.intercepted rfl hk hs
      obtain ⟨-, hremaining, -⟩ := finished_exceeded env p₁ ha ht
      have hreturned := (hstops.withoutEffects _ _ _ hr hp).returned
      rw [unspentGas_eq hdep] at hreturned
      exact hgas (hreturned.symm.trans (hremaining.trans hg))
  · rintro ⟨hdep, hfree⟩
    by_cases hk : ∃ i, input = .call i ∧ isKeylessCall env s₀ i = true
    · obtain ⟨i, rfl, hk⟩ := hk
      have hzero : i.gasLimit = 0 := by simpa [interceptedAtStart, hk] using hfree
      have hlow : i.gasLimit < constants.KEYLESS_DEPLOY_OVERHEAD_GAS := by
        rw [hzero]
        decide
      refine stopsAtStart_of_answered hdep hi (fun e => frameInit_unpaid hk hlow e) fun e s' hs => ?_
      obtain ⟨p, hp, hn, ha, ht, hg, hj⟩ := h.intercepted rfl hk hs
      exact ⟨p, hp, hn, ha, ht, hj hlow, hg.trans hzero.symm⟩
    · have hnot : ∀ i, input = .call i → isKeylessCall env s₀ i = false := fun i hcall => by
        by_contra hkeyless
        exact hk ⟨i, hcall, by simpa using hkeyless⟩
      refine stopsAtStart_of_answered hdep hi (fun e => ?_) fun e s' hs => ?_
      · obtain ⟨s', p, hs, -⟩ := h.refused hnot e
        exact ⟨s', hs⟩
      · obtain ⟨s'', p, hs', hp, hr, hj, ha, ht, hg⟩ := h.refused hnot e
        rw [hs, Option.some.injEq] at hs'
        subst hs'
        refine ⟨p, hp, ?_, ha, ht, hj, hg⟩
        simp [isFatal, hr]

end Stop

section Sample

def smallDataStart : StartEvent :=
  sampleStart { EvmTxRuntimeLimits.rex3 with txDataSizeLimit := 100 } (by decide)

/-- A call of a contract. -/
theorem no_effects_call :
    ∃ s₀, start (sampleEnv .rex3 (.call 3) .other 1000000) smallDataStart = some s₀ ∧
      StopsAtStart (sampleEnv .rex3 (.call 3) .other 1000000) s₀
        (firstFrameInput (sampleEnv .rex3 (.call 3) .other 1000000) 940000) := by
  have hstart : (start (sampleEnv .rex3 (.call 3) .other 1000000) smallDataStart).map
      (fun s => s.phase) = some (.init
        (firstFrameInput (sampleEnv .rex3 (.call 3) .other 1000000) 940000)) := by decide
  obtain ⟨s₀, hs, hi⟩ := Option.map_eq_some_iff.1 hstart
  refine ⟨s₀, hs, (no_effects_iff rfl hs hi (by decide)).2 ⟨rfl, ?_⟩⟩
  simp [interceptedAtStart, firstFrameInput, sampleEnv, isKeylessCall, KEYLESS_DEPLOY_ADDRESS]

/-- The sandbox of a keyless deployment has run, and its state stays. -/
theorem sandbox_state_persists :
    ¬ ∀ env ev s₀ input, env.spec.isEnabled .rex4 = false → start env ev = some s₀ →
      s₀.phase = .init input → exceedsAtStart env ev = true → StopsAtStart env s₀ input := by
  intro h
  let env := sampleEnv .rex2 (.call KEYLESS_DEPLOY_ADDRESS) .keylessDeploy 1000000
  let e : InitEvent := { sampleInit with keyless := .completed [] 5 1 }
  have hstart : (start env smallDataStart).map (fun s => (s.phase, s.journal)) =
      some (.init (firstFrameInput env 940000), []) := by decide
  obtain ⟨s₀, hs, hi⟩ := Option.map_eq_some_iff.1 hstart
  have hrun : (execute env smallDataStart [.init e, .tau]).map (fun s => (s.phase, s.journal)) =
      some (.done ⟨callResult .outOfGas [] ⟨1000000, 0⟩, []⟩, [.sandboxMerged]) := by
    decide
  obtain ⟨s, ⟨s₁, hs₁, hr⟩, hf⟩ := exists_execution hrun
  rw [hs, Option.some.injEq] at hs₁
  subst hs₁
  have hstops := h env smallDataStart s₀ _ rfl hs (Prod.ext_iff.1 hi).1 (by decide)
  have hkept := (hstops.withoutEffects _ _ _ hr (Prod.ext_iff.1 hf).1).unchanged
  have hempty : s₀.journal = [] := (Prod.ext_iff.1 hi).2
  have hmerged : s.journal = [.sandboxMerged] := (Prod.ext_iff.1 hf).2
  rw [hempty, hmerged] at hkept
  cases hkept

end Sample

end MegaEvm
