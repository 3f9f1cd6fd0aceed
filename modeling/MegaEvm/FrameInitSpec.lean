import MegaEvm.Machine
import MegaEvm.FrameHooks

/-!
# How a frame is initialised

Frame initialisation ends in one of five ways: a system contract's interceptor
answers, for a keyless deployment or for a control call; the limits refuse the
frame; the interpreter's own initialisation answers; the frame is entered.
Every invariant of the frame loop is taken from these five cases.
-/

set_option autoImplicit false

namespace MegaEvm

open AdditionalLimit

variable {env : Env} {s s' : State}

/-- What the oracle detection leaves of the limits, for a call that no interceptor
answers. -/
structure Detected (env : Env) (s : State) (input : FrameInput) (l : AdditionalLimit) : Prop where
  limit : (detected env s input).limit = l
  passed : ∀ i, input = .call i → isKeylessCall env s i = false
  detained : l = s.limit ∨
    env.spec.isEnabled .rex3 = false ∧ ∃ cap, l = s.limit.setComputeGasLimit cap

def keylessLimit (env : Env) (l : AdditionalLimit) : AdditionalLimit :=
  if env.spec.isEnabled .rex3 then l.recordComputeGas constants.KEYLESS_DEPLOY_OVERHEAD_GAS else l

inductive KeylessCall (env : Env) (s : State) (i : CallInputs) (outcome : KeylessOutcome) :
    State → FrameResult → Prop
  | outOfGas (hg : i.gasLimit < constants.KEYLESS_DEPLOY_OVERHEAD_GAS) :
      KeylessCall env s i outcome s (callResult .outOfGas [] (.newSpent i.gasLimit))
  | halted (hg : constants.KEYLESS_DEPLOY_OVERHEAD_GAS ≤ i.gasLimit)
      (h3 : env.spec.isEnabled .rex3 = true) (hx : (keylessLimit env s.limit).exceeded = true) :
      KeylessCall env s i outcome { s with limit := keylessLimit env s.limit }
        (callResult .outOfGas [] (.newSpent i.gasLimit))
  | insufficient (output : Bytes) (g : Gas) {lim used : ℕ}
      (hc : (keylessLimit env s.limit).computeGas.checkLimit (keylessLimit env s.limit).rex4 =
        .exceedsLimit .computeGas lim used true) :
      KeylessCall env s i outcome { s with limit := keylessLimit env s.limit }
        (callResult .revert output g)
  | rejected (output : Bytes) (hg : constants.KEYLESS_DEPLOY_OVERHEAD_GAS ≤ i.gasLimit)
      (hx : env.spec.isEnabled .rex3 = true → (keylessLimit env s.limit).exceeded = false) :
      KeylessCall env s i outcome { s with limit := keylessLimit env s.limit }
        (callResult .revert output
          ⟨i.gasLimit, i.gasLimit - constants.KEYLESS_DEPLOY_OVERHEAD_GAS⟩)
  | completed (output : Bytes) (signer : Address) (signerNonce : ℕ)
      (ho : outcome = .completed output signer signerNonce)
      (hg : constants.KEYLESS_DEPLOY_OVERHEAD_GAS ≤ i.gasLimit)
      (hx : env.spec.isEnabled .rex3 = true → (keylessLimit env s.limit).exceeded = false) :
      KeylessCall env s i outcome
        { s with
          limit := keylessLimit env s.limit
          journal := .sandboxMerged :: s.journal
          senderNonce := if signer = env.tx.caller then signerNonce else s.senderNonce }
        (callResult .return output
          ⟨i.gasLimit, i.gasLimit - constants.KEYLESS_DEPLOY_OVERHEAD_GAS⟩)

/-- The nonce a top-level create of a validated sender leaves, and every other
initialisation of the interpreter. -/
structure NonceKept (env : Env) (s : State) (input : FrameInput) (nonce : ℕ) : Prop where
  kept : input.isCreate = false ∨ s.frames ≠ [] → nonce = s.senderNonce
  bumped : input.isCreate = true → s.frames = [] → env.isDeposit = false →
    nonce = s.senderNonce + 1

/-- What the interpreter's own initialisation answered: an answer that is not ok
leaves the journal as it was at the checkpoint. -/
structure InnerAnswer (env : Env) (s : State) (input : FrameInput) (ev : InitEvent)
    (r : FrameResult) (opened journal : List JournalEntry) (nonce : ℕ) : Prop where
  above : s.journal <:+ opened
  reverted : r.instructionResult.isOk = false → journal = opened
  grown : opened <:+ journal
  limit : r.gas.limit = input.gasLimit
  remaining : r.gas.remaining ≤ input.gasLimit
  notFatal : r.instructionResult ≠ .fatalExternalError
  charged : r.instructionResult.isOk = true → r.gas.spent = 0 ∨
    ∃ i output, input = .call i ∧ ev.call = .precompile (.ok r.gas.spent output)
  nonce : NonceKept env s input nonce

inductive InitStep (env : Env) (s : State) (input : FrameInput) (ev : InitEvent) : State → Prop
  | keyless {i : CallInputs} {s₁ : State} {r : FrameResult} (hi : input = .call i)
      (hf : s.frames = []) (h2 : isKeylessCall env s i = true)
      (hk : KeylessCall env s i ev.keyless s₁ r) :
      InitStep env s input ev
        ({ s₁ with limit := s₁.limit.pushEmptyFrame }.answer ⟨r, s.journal⟩)
  | control {i : CallInputs} (v : VolatileDataAccessTracker) {r : FrameResult}
      (hi : input = .call i) (h4 : env.spec.isEnabled .rex4 = true)
      (hk : isKeylessCall env s i = false)
      (hd : dispatchSystemContractInterceptors env s i ev.keyless ≠ .no)
      (hg : r.gas = .new i.gasLimit) (hr : r.instructionResult.isOkOrRevert = true) :
      InitStep env s input ev
        ({ s with volatile := v, limit := s.limit.pushEmptyFrame }.answer ⟨r, s.journal⟩)
  | refused {v : VolatileDataAccessTracker} {l : AdditionalLimit} (hd : Detected env s input l)
      (hx : (l.openFrame input ev.targetEmpty).exceeded = true) :
      InitStep env s input ev
        ({ s with
          volatile := v
          limit := (l.openFrame input ev.targetEmpty).tryRescueGas (.new input.gasLimit) }.answer
            ⟨(l.openFrame input ev.targetEmpty).exceedingFrameResult input, s.journal⟩)
  | answered {v : VolatileDataAccessTracker} {l : AdditionalLimit} {r : FrameResult}
      {opened journal : List JournalEntry} {nonce : ℕ} (hd : Detected env s input l)
      (hx : (l.openFrame input ev.targetEmpty).exceeded = false)
      (ha : InnerAnswer env s input ev r opened journal nonce) :
      InitStep env s input ev
        ({ s with
          volatile := v
          limit := ((l.openFrame input ev.targetEmpty).recordComputeGas
            r.gas.spent).afterFrameInitResult r
          journal := journal
          senderNonce := nonce }.answer ⟨r, opened⟩)
  | entered {v : VolatileDataAccessTracker} {l : AdditionalLimit} {target : Address}
      {created : Option Address} {opened : List JournalEntry} {nonce : ℕ}
      (hd : Detected env s input l) (hx : (l.openFrame input ev.targetEmpty).exceeded = false)
      (ho : s.journal <:+ opened) (hn : NonceKept env s input nonce) :
      InitStep env s input ev
        { s with
          volatile := v
          limit := (l.openFrame input ev.targetEmpty).afterFrameInitItem created
          journal := ev.writes ++ opened
          frames := ⟨input.isCreate, target, .new input.gasLimit, opened.length, opened⟩ :: s.frames
          senderNonce := nonce
          phase := .run }

section Oracle

theorem detectOracle_of_ne {i : CallInputs} (h : i.targetAddress ≠ ORACLE_CONTRACT_ADDRESS) :
    detectOracle env s i = s := by
  have hne : (i.targetAddress == ORACLE_CONTRACT_ADDRESS) = false := by simpa using h
  simp [detectOracle, hne]

theorem detectOracle_cases (env : Env) (s : State) (i : CallInputs) : ∃ v l,
    detectOracle env s i = { s with volatile := v, limit := l } ∧
      (l = s.limit ∨
        env.spec.isEnabled .rex3 = false ∧ ∃ cap, l = s.limit.setComputeGasLimit cap) := by
  unfold detectOracle
  extract_lets detect volatile
  by_cases h : (!env.spec.isEnabled .rex3 && detect && i.caller != MEGA_SYSTEM_ADDRESS &&
      i.targetAddress == ORACLE_CONTRACT_ADDRESS) = true
  · rw [if_pos h]
    have h3 : env.spec.isEnabled .rex3 = false := by
      simp only [Bool.and_eq_true, Bool.not_eq_true'] at h
      exact h.1.1.1
    cases volatile.computeGasLimit with
    | none => exact ⟨_, _, rfl, .inl rfl⟩
    | some cap => exact ⟨_, _, rfl, .inr ⟨h3, cap, rfl⟩⟩
  · rw [if_neg h]
    exact ⟨s.volatile, s.limit, rfl, .inl rfl⟩

theorem isKeylessCall_detectOracle (i : CallInputs) :
    isKeylessCall env (detectOracle env s i) i = isKeylessCall env s i := by
  obtain ⟨v, l, heq, -⟩ := detectOracle_cases env s i
  rw [heq]
  rfl

theorem detectOracle_detected {i : CallInputs} (hk : isKeylessCall env s i = false) : ∃ v l,
    detectOracle env s i = { s with volatile := v, limit := l } ∧
      Detected env s (.call i) l := by
  obtain ⟨v, l, heq, hl⟩ := detectOracle_cases env s i
  refine ⟨v, l, heq, by rw [detected, heq], fun i' hi => ?_, hl⟩
  cases hi
  exact hk

theorem detected_create (env : Env) (s : State) (i : CreateInputs) :
    Detected env s (.create i) s.limit := ⟨rfl, nofun, .inl rfl⟩

end Oracle

section Intercept

theorem executeKeylessDeployCall_eq {i : CallInputs} (outcome : KeylessOutcome)
    (hg : constants.KEYLESS_DEPLOY_OVERHEAD_GAS ≤ i.gasLimit) :
    executeKeylessDeployCall env s i outcome =
      if (env.spec.isEnabled .rex3 && (keylessLimit env s.limit).exceeded) = true then
        match (keylessLimit env s.limit).computeGas.checkLimit (keylessLimit env s.limit).rex4 with
        | .withinLimit => .panicked
        | .exceedsLimit _ lim used true =>
          .answered { s with limit := keylessLimit env s.limit }
            (callResult .revert (insufficientComputeGasRevertData lim used)
              ⟨i.gasLimit, i.gasLimit - constants.KEYLESS_DEPLOY_OVERHEAD_GAS⟩)
        | .exceedsLimit _ _ _ false =>
          .answered { s with limit := keylessLimit env s.limit }
            (callResult .outOfGas [] (.newSpent i.gasLimit))
      else if (i.value.get != 0) = true then
        .answered { s with limit := keylessLimit env s.limit }
          (callResult .revert NO_ETHER_TRANSFER_REVERT_DATA
            ⟨i.gasLimit, i.gasLimit - constants.KEYLESS_DEPLOY_OVERHEAD_GAS⟩)
      else match outcome with
        | .rejected output =>
          .answered { s with limit := keylessLimit env s.limit }
            (callResult .revert output
              ⟨i.gasLimit, i.gasLimit - constants.KEYLESS_DEPLOY_OVERHEAD_GAS⟩)
        | .completed output signer signerNonce =>
          .answered
            { s with
              limit := keylessLimit env s.limit
              journal := .sandboxMerged :: s.journal
              senderNonce := if signer = env.tx.caller then signerNonce else s.senderNonce }
            (callResult .return output
              ⟨i.gasLimit, i.gasLimit - constants.KEYLESS_DEPLOY_OVERHEAD_GAS⟩) := by
  have hrec : (Gas.new i.gasLimit).recordCost constants.KEYLESS_DEPLOY_OVERHEAD_GAS =
      some ⟨i.gasLimit, i.gasLimit - constants.KEYLESS_DEPLOY_OVERHEAD_GAS⟩ :=
    Gas.recordCost_eq_some.2 ⟨hg, rfl⟩
  unfold executeKeylessDeployCall
  rw [hrec]
  rfl

theorem executeKeylessDeployCall_answered {i : CallInputs} {outcome : KeylessOutcome}
    {s₁ : State} {r : FrameResult}
    (h : executeKeylessDeployCall env s i outcome = .answered s₁ r) :
    KeylessCall env s i outcome s₁ r := by
  by_cases hg : constants.KEYLESS_DEPLOY_OVERHEAD_GAS ≤ i.gasLimit
  · rw [executeKeylessDeployCall_eq outcome hg] at h
    by_cases hx : (env.spec.isEnabled .rex3 && (keylessLimit env s.limit).exceeded) = true
    · rw [if_pos hx, Bool.and_eq_true] at *
      cases hc : (keylessLimit env s.limit).computeGas.checkLimit
          (keylessLimit env s.limit).rex4 with
      | withinLimit => simp [hc] at h
      | exceedsLimit kind lim used frameLocal =>
        obtain ⟨rfl, -, -⟩ := ComputeGasTracker.checkLimit_eq_exceeds hc
        cases frameLocal with
        | true =>
          simp only [hc, Intercepted.answered.injEq] at h
          obtain ⟨rfl, rfl⟩ := h
          exact .insufficient _ _ hc
        | false =>
          simp only [hc, Intercepted.answered.injEq] at h
          obtain ⟨rfl, rfl⟩ := h
          exact .halted hg hx.1 hx.2
    · have hclear : env.spec.isEnabled .rex3 = true →
          (keylessLimit env s.limit).exceeded = false := by
        intro h3
        simpa [h3] using hx
      rw [if_neg hx] at h
      by_cases hv : (i.value.get != 0) = true
      · rw [if_pos hv, Intercepted.answered.injEq] at h
        obtain ⟨rfl, rfl⟩ := h
        exact .rejected _ hg hclear
      · rw [if_neg hv] at h
        cases outcome with
        | rejected output =>
          simp only [Intercepted.answered.injEq] at h
          obtain ⟨rfl, rfl⟩ := h
          exact .rejected output hg hclear
        | completed output signer signerNonce =>
          simp only [Intercepted.answered.injEq] at h
          obtain ⟨rfl, rfl⟩ := h
          exact .completed output signer signerNonce rfl hg hclear
  · have hnone : (Gas.new i.gasLimit).recordCost constants.KEYLESS_DEPLOY_OVERHEAD_GAS = none :=
      Gas.recordCost_eq_none.2 (by simpa using hg)
    unfold executeKeylessDeployCall at h
    simp only [hnone, Intercepted.answered.injEq] at h
    obtain ⟨rfl, rfl⟩ := h
    exact .outOfGas (by simpa using hg)

theorem executeKeylessDeployCall_ne_no {i : CallInputs} {outcome : KeylessOutcome} :
    executeKeylessDeployCall env s i outcome ≠ .no := by
  by_cases hg : constants.KEYLESS_DEPLOY_OVERHEAD_GAS ≤ i.gasLimit
  · rw [executeKeylessDeployCall_eq outcome hg]
    split
    · split
      all_goals nofun
    · split
      · nofun
      · cases outcome with
        | rejected | completed => nofun
  · have hnone : (Gas.new i.gasLimit).recordCost constants.KEYLESS_DEPLOY_OVERHEAD_GAS = none :=
      Gas.recordCost_eq_none.2 (by simpa using hg)
    simp [executeKeylessDeployCall, hnone]

theorem rejectNonZeroTransfer_some {i : CallInputs} {r : FrameResult}
    (h : rejectNonZeroTransfer i = some r) :
    r.gas = .new i.gasLimit ∧ r.instructionResult.isOkOrRevert = true := by
  unfold rejectNonZeroTransfer at h
  split at h
  · split at h
    · cases h
      exact ⟨rfl, rfl⟩
    · cases h
  · cases h

theorem accessControlIntercept_answered {i : CallInputs} {s₁ : State} {r : FrameResult}
    (h : accessControlIntercept s i = .answered s₁ r) :
    (∃ v, s₁ = { s with volatile := v }) ∧ r.gas = .new i.gasLimit ∧
      r.instructionResult.isOkOrRevert = true := by
  unfold accessControlIntercept at h
  simp only at h
  split at h
  case h_1 =>
    cases hr : rejectNonZeroTransfer i with
    | some r' =>
      simp only [hr, Intercepted.answered.injEq] at h
      obtain ⟨rfl, rfl⟩ := h
      exact ⟨⟨s.volatile, rfl⟩, rejectNonZeroTransfer_some hr⟩
    | none =>
      simp only [hr, Intercepted.answered.injEq] at h
      obtain ⟨rfl, rfl⟩ := h
      exact ⟨⟨_, rfl⟩, rfl, rfl⟩
  case h_2 =>
    cases hr : rejectNonZeroTransfer i with
    | some r' =>
      simp only [hr, Intercepted.answered.injEq] at h
      obtain ⟨rfl, rfl⟩ := h
      exact ⟨⟨s.volatile, rfl⟩, rejectNonZeroTransfer_some hr⟩
    | none =>
      simp only [hr, Intercepted.answered.injEq] at h
      obtain ⟨rfl, rfl⟩ := h
      refine ⟨⟨_, rfl⟩, ?_⟩
      split
      · exact ⟨rfl, rfl⟩
      · exact ⟨rfl, rfl⟩
  case h_3 =>
    cases hr : rejectNonZeroTransfer i with
    | some r' =>
      simp only [hr, Intercepted.answered.injEq] at h
      obtain ⟨rfl, rfl⟩ := h
      exact ⟨⟨s.volatile, rfl⟩, rejectNonZeroTransfer_some hr⟩
    | none =>
      simp only [hr, Intercepted.answered.injEq] at h
      obtain ⟨rfl, rfl⟩ := h
      exact ⟨⟨s.volatile, rfl⟩, rfl, rfl⟩
  case h_4 => cases h

theorem limitControlIntercept_answered {i : CallInputs} {s₁ : State} {r : FrameResult}
    (h : limitControlIntercept s i = .answered s₁ r) :
    s₁ = s ∧ r.gas = .new i.gasLimit ∧ r.instructionResult.isOkOrRevert = true := by
  unfold limitControlIntercept at h
  split at h
  · cases hr : rejectNonZeroTransfer i with
    | some r' =>
      simp only [hr, Intercepted.answered.injEq] at h
      obtain ⟨rfl, rfl⟩ := h
      exact ⟨rfl, rejectNonZeroTransfer_some hr⟩
    | none =>
      simp only [hr, Intercepted.answered.injEq] at h
      obtain ⟨rfl, rfl⟩ := h
      exact ⟨rfl, rfl, rfl⟩
  · cases h

theorem dispatch_ne_oracle {i : CallInputs} {outcome : KeylessOutcome}
    (h : dispatchSystemContractInterceptors env s i outcome ≠ .no) :
    i.targetAddress ≠ ORACLE_CONTRACT_ADDRESS := by
  intro ht
  apply h
  have hk : (ORACLE_CONTRACT_ADDRESS == KEYLESS_DEPLOY_ADDRESS) = false := by decide
  have ha : (ORACLE_CONTRACT_ADDRESS == ACCESS_CONTROL_ADDRESS) = false := by decide
  have hl : (ORACLE_CONTRACT_ADDRESS == LIMIT_CONTROL_ADDRESS) = false := by decide
  simp [dispatchSystemContractInterceptors, isKeylessCall, ht, hk, ha, hl]

theorem dispatch_detectOracle {i : CallInputs} {outcome : KeylessOutcome}
    (h : dispatchSystemContractInterceptors env (detectOracle env s i) i outcome ≠ .no) :
    detectOracle env s i = s :=
  detectOracle_of_ne (dispatch_ne_oracle h)

/-- The interceptors answer for a keyless deployment at the top level, or for a
control call, which changes the access tracker at most. -/
theorem dispatch_answered {i : CallInputs} {outcome : KeylessOutcome} {s₁ : State}
    {r : FrameResult} (h : dispatchSystemContractInterceptors env s i outcome = .answered s₁ r) :
    (s.frames = [] ∧ isKeylessCall env s i = true ∧ KeylessCall env s i outcome s₁ r) ∨
    (env.spec.isEnabled .rex4 = true ∧ isKeylessCall env s i = false ∧
      (∃ v, s₁ = { s with volatile := v }) ∧
      r.gas = .new i.gasLimit ∧ r.instructionResult.isOkOrRevert = true) := by
  unfold dispatchSystemContractInterceptors at h
  split at h
  case isTrue hk =>
    have hf : s.frames = [] := by
      simp only [isKeylessCall, Bool.and_eq_true, beq_iff_eq, State.depth] at hk
      exact List.eq_nil_of_length_eq_zero hk.1.1.2
    exact .inl ⟨hf, hk, executeKeylessDeployCall_answered h⟩
  case isFalse hk =>
    have hk' : isKeylessCall env s i = false := by simpa using hk
    split at h
    case isTrue ha =>
      simp only [Bool.and_eq_true] at ha
      exact .inr ⟨ha.1, hk', accessControlIntercept_answered h⟩
    case isFalse =>
      split at h
      case isTrue hl =>
        simp only [Bool.and_eq_true] at hl
        obtain ⟨rfl, hr⟩ := limitControlIntercept_answered h
        exact .inr ⟨hl.1, hk', ⟨s₁.volatile, rfl⟩, hr⟩
      case isFalse => cases h

end Intercept

section Inner

theorem checkpointRevert_append (writes opened : List JournalEntry) :
    checkpointRevert (writes ++ opened) opened.length = opened := by
  simp [checkpointRevert]

variable {input : FrameInput} {ev : InitEvent} {v : VolatileDataAccessTracker}
  {l : AdditionalLimit}

theorem recordComputeGas_spent_new (hx : l.exceeded = false) (hs : l.Settled) (n : ℕ) :
    l.recordComputeGas (Gas.new n).spent = l := by
  have hspent : (Gas.new n).spent = 0 := by simp [Gas.spent]
  rw [hspent, recordComputeGas_zero, checkLimit_eq_self (exceeded_eq_false.1 hx) hs]

theorem openFrame_settled (hx : (l.openFrame input ev.targetEmpty).exceeded = false) :
    (l.openFrame input ev.targetEmpty).Settled :=
  settled_of_unflagged (l := { l with
    stateGrowth := StateGrowthTracker.beforeFrameInit l.rex4 l.stateGrowth input ev.targetEmpty
    dataSize := DataSizeTracker.beforeFrameInit l.rex4 l.dataSize input
    kvUpdate := KVUpdateTracker.beforeFrameInit l.rex4 l.kvUpdate input
    computeGas := l.computeGas.pushFrame l.rex4 }) hx

theorem InitStep.of_unspent {r : FrameResult} {opened journal : List JournalEntry} {nonce : ℕ}
    (hd : Detected env s input l) (hx : (l.openFrame input ev.targetEmpty).exceeded = false)
    (hg : r.gas = .new input.gasLimit) (ho : s.journal <:+ opened)
    (hr : r.instructionResult.isOk = false → journal = opened) (hj : opened <:+ journal)
    (hfatal : r.instructionResult ≠ .fatalExternalError) (hn : NonceKept env s input nonce) :
    InitStep env s input ev
      ({ s with
        volatile := v
        limit := (l.openFrame input ev.targetEmpty).afterFrameInitResult r
        journal := journal
        senderNonce := nonce }.answer ⟨r, opened⟩) := by
  have hrec := recordComputeGas_spent_new hx (openFrame_settled hx) input.gasLimit
  have ha : InnerAnswer env s input ev r opened journal nonce :=
    { above := ho
      reverted := hr
      grown := hj
      limit := by rw [hg]; rfl
      remaining := by rw [hg]; exact le_rfl
      notFatal := hfatal
      charged := fun _ => .inl (by rw [hg]; simp [Gas.spent])
      nonce := hn }
  have h := InitStep.answered (v := v) hd hx ha
  rw [hg, hrec] at h
  exact h

theorem nonceKept_call (i : CallInputs) : NonceKept env s (.call i) s.senderNonce :=
  ⟨fun _ => rfl, fun h => absurd h (by simp [FrameInput.isCreate])⟩

theorem precompileResult_charged {g : ℕ} {o : PrecompileOutcome} {r : FrameResult}
    (h : precompileResult g o = some r) (hok : r.instructionResult.isOk = true) :
    ∃ output, o = .ok r.gas.spent output := by
  cases o with
  | ok used output =>
    simp only [precompileResult, Option.map_eq_some_iff] at h
    obtain ⟨g', hg', rfl⟩ := h
    obtain ⟨hle, rfl⟩ := Gas.recordCost_eq_some.1 hg'
    have hused : g - (g - used) = used := Nat.sub_sub_self hle
    refine ⟨output, ?_⟩
    simp [callResult, FrameResult.gas, Gas.spent, hused]
  | reverted used output =>
    simp only [precompileResult, Option.map_eq_some_iff] at h
    obtain ⟨g', -, rfl⟩ := h
    cases hok
  | oog | error =>
    simp only [precompileResult, Option.some.injEq] at h
    subst h
    cases hok

theorem precompileResult_some {g : ℕ} {o : PrecompileOutcome} {r : FrameResult}
    (h : precompileResult g o = some r) : r.gas.limit = g ∧ r.gas.remaining ≤ g ∧
      r.instructionResult ≠ .fatalExternalError := by
  cases o with
  | ok used output | reverted used output =>
    simp only [precompileResult, Option.map_eq_some_iff] at h
    obtain ⟨g', hg', rfl⟩ := h
    obtain ⟨-, rfl⟩ := Gas.recordCost_eq_some.1 hg'
    exact ⟨rfl, Nat.sub_le _ _, by simp [callResult, FrameResult.instructionResult]⟩
  | oog | error =>
    simp only [precompileResult, Option.some.injEq] at h
    subst h
    exact ⟨rfl, le_rfl, by simp [callResult, FrameResult.instructionResult]⟩

theorem TransferError.toInstructionResult_ne_fatal (err : TransferError) :
    err.toInstructionResult ≠ .fatalExternalError := by
  cases err <;> decide

theorem makeCallFrame_step {i : CallInputs} (hd : Detected env s (.call i) l)
    (hx : (l.openFrame (.call i) ev.targetEmpty).exceeded = false)
    (h : makeCallFrame { s with volatile := v
                                limit := l.openFrame (.call i) ev.targetEmpty } i ev = some s') :
    InitStep env s (.call i) ev s' := by
  have habove : s.journal <:+ ev.before ++ s.journal := List.suffix_append _ _
  have hgrown : ev.before ++ s.journal <:+ ev.writes ++ (ev.before ++ s.journal) :=
    List.suffix_append _ _
  unfold makeCallFrame at h
  split at h
  · cases h
    exact .of_unspent hd hx rfl List.suffix_rfl (fun _ => rfl) List.suffix_rfl
      nofun (nonceKept_call i)
  · cases hc : ev.call with
    | transferFailed err =>
      simp only [hc, Option.some.injEq, checkpointRevert_append] at h
      subst h
      exact .of_unspent hd hx rfl habove (fun _ => rfl) List.suffix_rfl
        err.toInstructionResult_ne_fatal (nonceKept_call i)
    | emptyCode =>
      simp only [hc, Option.some.injEq] at h
      subst h
      exact .of_unspent hd hx rfl habove (fun hf => absurd hf (by simp [callResult,
        FrameResult.instructionResult, InstructionResult.isOk])) hgrown nofun
        (nonceKept_call i)
    | enter =>
      simp only [hc, Option.some.injEq] at h
      subst h
      exact .entered hd hx habove (nonceKept_call i)
    | precompile o =>
      simp only [hc, Option.map_eq_some_iff, checkpointRevert_append] at h
      obtain ⟨r, hr, rfl⟩ := h
      obtain ⟨hlim, hrem, hfatal⟩ := precompileResult_some hr
      refine .answered hd hx ⟨habove, ?_, ?_, hlim, hrem, hfatal, fun hok => ?_,
        nonceKept_call i⟩
      · intro hf
        rw [if_neg (by simp [hf])]
      · split
        · exact hgrown
        · exact List.suffix_rfl
      · obtain ⟨output, ho⟩ := precompileResult_charged hr hok
        exact .inr ⟨i, output, rfl, by rw [hc, ho]⟩

theorem bumpNonce_kept (i : CreateInputs) : NonceKept env s (.create i)
    (if s.frames.isEmpty then s.senderNonce + 1 else s.senderNonce) := by
  constructor
  · intro h
    rcases h with h | h
    · cases h
    · have hne : s.frames.isEmpty = false := by simpa using h
      simp [hne]
  · intro _ hf _
    simp [hf]

theorem nonceKept_create (i : CreateInputs) (hv : createFundsValidated env s = false) :
    NonceKept env s (.create i) s.senderNonce := by
  refine ⟨fun _ => rfl, fun _ hf hd => ?_⟩
  simp [createFundsValidated, hf, hd] at hv

theorem makeCreateFrame_step {i : CreateInputs} (hd : Detected env s (.create i) l)
    (hx : (l.openFrame (.create i) ev.targetEmpty).exceeded = false)
    (h : makeCreateFrame env { s with volatile := v
                                      limit := l.openFrame (.create i) ev.targetEmpty } i ev =
      some s') : InitStep env s (.create i) ev s' := by
  have habove : s.journal <:+ ev.before ++ s.journal := List.suffix_append _ _
  unfold makeCreateFrame at h
  simp only at h
  split at h
  case isTrue hdeep =>
    have hne : createFundsValidated env s = false := by
      have hf : s.frames ≠ [] := by
        intro hf
        simp [State.depth, hf] at hdeep
      simp [createFundsValidated, hf]
    cases h
    exact .of_unspent hd hx rfl List.suffix_rfl (fun _ => rfl) List.suffix_rfl
      nofun (nonceKept_create i hne)
  case isFalse =>
    cases hc : ev.create with
    | outOfFunds =>
      by_cases hv : createFundsValidated env s = true
      · simp [hc, createFundsValidated] at h hv
        simp [hv] at h
      · have hf : createFundsValidated env s = false := by simpa using hv
        have hs : createFundsValidated env { s with
            volatile := v, limit := l.openFrame (.create i) ev.targetEmpty } = false := hf
        simp only [hc, hs, Bool.false_eq_true, if_false, Option.some.injEq] at h
        subst h
        exact .of_unspent hd hx rfl List.suffix_rfl (fun _ => rfl) List.suffix_rfl
          nofun (nonceKept_create i hf)
    | nonceOverflow =>
      by_cases hv : createFundsValidated env s = true
      · simp [hc, createFundsValidated] at h hv
        simp [hv] at h
      · have hf : createFundsValidated env s = false := by simpa using hv
        have hs : createFundsValidated env { s with
            volatile := v, limit := l.openFrame (.create i) ev.targetEmpty } = false := hf
        simp only [hc, hs, Bool.false_eq_true, if_false, Option.some.injEq] at h
        subst h
        exact .of_unspent hd hx rfl List.suffix_rfl (fun _ => rfl) List.suffix_rfl
          nofun (nonceKept_create i hf)
    | checkpointFailed err =>
      simp only [hc, Option.some.injEq] at h
      subst h
      exact .of_unspent hd hx rfl habove (fun _ => rfl) List.suffix_rfl
        err.toInstructionResult_ne_fatal (bumpNonce_kept i)
    | enter created =>
      simp only [hc, Option.some.injEq] at h
      subst h
      exact .entered hd hx habove (bumpNonce_kept i)

end Inner

section FrameInit

theorem beforeFrameInit_exceeded {l : AdditionalLimit} {input : FrameInput} {te : Bool}
    (h : (l.openFrame input te).exceeded = true) : l.beforeFrameInit input te =
      ((l.openFrame input te).tryRescueGas (.new input.gasLimit),
        some ((l.openFrame input te).exceedingFrameResult input)) := by
  unfold beforeFrameInit
  simp only
  rw [if_pos h]
  rfl

theorem beforeFrameInit_within {l : AdditionalLimit} {input : FrameInput} {te : Bool}
    (h : (l.openFrame input te).exceeded = false) :
    l.beforeFrameInit input te = (l.openFrame input te, none) := by
  unfold beforeFrameInit
  simp only
  rw [if_neg (by simp [h])]

theorem frameInit_step {input : FrameInput} {ev : InitEvent}
    (h : frameInit env s input ev = some s') : InitStep env s input ev s' := by
  unfold frameInit at h
  cases input with
  | create i =>
    simp only [detected] at h
    by_cases hx : (s.limit.openFrame (.create i) ev.targetEmpty).exceeded = true
    · rw [beforeFrameInit_exceeded hx] at h
      cases h
      exact .refused (detected_create env s i) hx
    · have hf : (s.limit.openFrame (.create i) ev.targetEmpty).exceeded = false := by
        simpa using hx
      rw [beforeFrameInit_within hf] at h
      exact makeCreateFrame_step (detected_create env s i) hf h
  | call i =>
    simp only [detected] at h
    by_cases hn : dispatchSystemContractInterceptors env (detectOracle env s i) i ev.keyless = .no
    · rw [hn] at h
      have hk : isKeylessCall env s i = false := by
        by_contra hk
        have hk' : isKeylessCall env (detectOracle env s i) i = true := by
          rw [isKeylessCall_detectOracle]
          simpa using hk
        rw [dispatchSystemContractInterceptors, if_pos hk'] at hn
        exact executeKeylessDeployCall_ne_no hn
      obtain ⟨v, l, heq, hd⟩ := detectOracle_detected hk
      simp only [heq] at h
      by_cases hx : (l.openFrame (.call i) ev.targetEmpty).exceeded = true
      · rw [beforeFrameInit_exceeded hx] at h
        cases h
        exact .refused hd hx
      · have hf : (l.openFrame (.call i) ev.targetEmpty).exceeded = false := by simpa using hx
        rw [beforeFrameInit_within hf] at h
        exact makeCallFrame_step hd hf h
    · rw [dispatch_detectOracle hn] at h hn
      cases hi : dispatchSystemContractInterceptors env s i ev.keyless with
      | no => exact absurd hi hn
      | panicked =>
        rw [hi] at h
        cases h
      | answered s₁ r =>
        rw [hi] at h
        simp only [Option.some.injEq] at h
        subst h
        rcases dispatch_answered hi with ⟨hf, h2, hk⟩ | ⟨h4, hk, ⟨v, rfl⟩, hg, hr⟩
        · exact .keyless rfl hf h2 hk
        · exact .control v rfl h4 hk hn hg hr

end FrameInit

end MegaEvm
