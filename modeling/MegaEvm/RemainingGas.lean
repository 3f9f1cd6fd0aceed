import MegaEvm.AccessScope
import MegaEvm.DualGas
import MegaEvm.ExceededStart
import MegaEvm.HookClosed
import MegaEvm.VolatileMarks
import Mathlib.Algebra.Order.BigOperators.Group.List

/-!
# The remaining compute gas of a call

A contract may ask how much compute gas its call has left. What it is told is
computed from the open frame and the detained limit, apart from the check that
enforces them. The two agree because the tracker of compute gas only ever adds:
it refunds nothing, it drops nothing when a frame fails, and a detained limit is
never above the transaction's own.
-/

set_option autoImplicit false

namespace MegaEvm

open AdditionalLimit

namespace ComputeGasTracker

/-- The tracker only adds, and a detained limit only lowers the transaction's. -/
structure Metered (t : ComputeGasTracker) : Prop where
  additive : t.Additive
  detained : t.detainedLimit ≤ t.frameTracker.txLimit

variable {t : ComputeGasTracker}

section Metered

theorem frameTxLimit_recordGasUsed (t : ComputeGasTracker) (g : ℕ) :
    (t.recordGasUsed g).frameTracker.txLimit = t.frameTracker.txLimit := by
  unfold recordGasUsed
  split
  · rw [FrameLimitTracker.txLimit_modifyFrame]
  · rfl

theorem Metered.txLimit_eq (h : t.Metered) : t.txLimit = t.detainedLimit := min_eq_right h.detained

theorem Metered.txUsage_recordGasUsed (h : t.Metered) (g : ℕ) :
    (t.recordGasUsed g).txUsage = t.txUsage + g :=
  Detention.txUsage_recordGasUsed h.additive.1 h.additive.2 g

theorem metered_closed : Closed Metered where
  recordGasUsed t g h := by
    constructor
    · exact h.additive.recordGasUsed g
    · rw [recordGasUsed_detainedLimit, frameTxLimit_recordGasUsed]
      exact h.detained
  setDetainedLimit t rex4 cap h := by
    constructor
    · exact h.additive
    · exact (min_le_left _ _).trans h.detained
  pushFrame t rex4 h := by
    constructor
    · exact h.additive.pushFrame rex4
    · rw [ComputeGasTracker.pushFrame, FrameLimitTracker.txLimit_pushFrameBy]
      exact h.detained
  popFrame t success h := by
    constructor
    · exact h.additive.popFrame success
    · rw [ComputeGasTracker.popFrame, FrameLimitTracker.txLimit_popFrame]
      exact h.detained

def CountersFit (t : ComputeGasTracker) : Prop :=
  t.frameTracker.txEntry.used ≤ u64Max ∧ ∀ e ∈ t.frameTracker.frameStack, e.used ≤ u64Max

/-- No counter of the tracker is above the sum of all of them, so that recording
overflows no word that the usage itself does not. -/
theorem Metered.counters_fit (h : t.Metered) {g : ℕ}
    (hg : t.txUsage + g ≤ u64Max) : (t.recordGasUsed g).CountersFit := by
  have ha := h.additive.recordGasUsed g
  have hrefund := Detention.totalRefund_eq_zero ha.1 ha.2
  have hsum : (t.recordGasUsed g).frameTracker.txEntry.used +
      ((t.recordGasUsed g).frameTracker.frameStack.map (·.used)).sum = t.txUsage + g := by
    rw [← h.txUsage_recordGasUsed, txUsage, FrameLimitTracker.netUsage, hrefund]
    rfl
  constructor
  · omega
  · intro e he
    have hmem : e.used ∈ (t.recordGasUsed g).frameTracker.frameStack.map (·.used) :=
      List.mem_map.2 ⟨e, he, rfl⟩
    have hle := List.single_le_sum (fun n _ => Nat.zero_le n) e.used hmem
    omega

end Metered

section Remaining

theorem Metered.currentCallRemaining_eq (h : t.Metered) :
    t.currentCallRemaining true =
      min t.frameTracker.currentFrameRemaining (t.detainedLimit - t.txUsage) := by
  rw [currentCallRemaining, h.txLimit_eq]
  rfl

theorem Metered.remaining_of_nil (h : t.Metered) (hnil : t.frameTracker.frameStack = []) :
    t.frameTracker.currentFrameRemaining = t.frameTracker.txLimit - t.txUsage := by
  have hrefund := h.additive.2
  simp [FrameLimitTracker.currentFrameRemaining, hnil, FrameLimitEntry.remaining, hrefund,
    FrameLimitTracker.txLimit, txUsage, FrameLimitTracker.netUsage, FrameLimitTracker.totalUsed,
    FrameLimitTracker.totalRefund]

theorem Metered.topWithin_recordGasUsed (h : t.Metered) (hw : t.frameTracker.TopWithin)
    {e : FrameLimitEntry Unit} {rest : List (FrameLimitEntry Unit)}
    (hcons : t.frameTracker.frameStack = e :: rest) (g : ℕ) :
    (t.recordGasUsed g).frameTracker.TopWithin ↔ g ≤ t.frameTracker.currentFrameRemaining := by
  obtain ⟨hdiscardable, hrefund⟩ := h.additive.1 e (by simp [hcons])
  have he : e.Within := hw e (by simp [hcons])
  simp only [FrameLimitEntry.Within, FrameLimitEntry.net, FrameLimitEntry.used, hdiscardable,
    hrefund] at he
  simp only [recordGasUsed, FrameLimitTracker.hasActiveFrame, FrameLimitTracker.modifyFrame,
    FrameLimitTracker.TopWithin, FrameLimitTracker.currentFrameRemaining, hcons,
    List.isEmpty_cons, Bool.not_false, if_true, List.head?_cons, Option.mem_some_iff, forall_eq',
    FrameLimitEntry.Within, FrameLimitEntry.net, FrameLimitEntry.used, FrameLimitEntry.remaining,
    hdiscardable, hrefund]
  omega

/-- The remainder is exact: what fits into it leaves the tracker within its limits,
and nothing more does. -/
theorem Metered.settled_recordGasUsed (h : t.Metered) (hs : t.Settled true) (g : ℕ) :
    (t.recordGasUsed g).Settled true ↔ g ≤ t.currentCallRemaining true := by
  have hlimit := h.txLimit_eq
  have hdetained := h.detained
  have htx := hs.tx
  have husage : (t.recordGasUsed g).txUsage ≤ (t.recordGasUsed g).txLimit ↔
      g ≤ t.detainedLimit - t.txUsage := by
    rw [h.txUsage_recordGasUsed, txLimit_recordGasUsed]
    omega
  have hframe : (t.recordGasUsed g).frameTracker.TopWithin ∧ g ≤ t.detainedLimit - t.txUsage ↔
      g ≤ t.frameTracker.currentFrameRemaining ∧ g ≤ t.detainedLimit - t.txUsage := by
    cases hstack : t.frameTracker.frameStack with
    | nil =>
      have hremaining := h.remaining_of_nil hstack
      have hnone : (t.recordGasUsed g).frameTracker.TopWithin := by
        simp [recordGasUsed, FrameLimitTracker.hasActiveFrame, FrameLimitTracker.modifyTx,
          FrameLimitTracker.TopWithin, hstack]
      simp only [hnone, true_and]
      omega
    | cons e rest => rw [h.topWithin_recordGasUsed (hs.frame rfl) hstack g]
  calc (t.recordGasUsed g).Settled true
      ↔ (t.recordGasUsed g).frameTracker.TopWithin ∧ g ≤ t.detainedLimit - t.txUsage := by
        rw [← husage]
        exact ⟨fun hset => ⟨hset.frame rfl, hset.tx⟩, fun hset => ⟨fun _ => hset.1, hset.2⟩⟩
    _ ↔ g ≤ t.frameTracker.currentFrameRemaining ∧ g ≤ t.detainedLimit - t.txUsage := hframe
    _ ↔ g ≤ t.currentCallRemaining true := by
        rw [h.currentCallRemaining_eq, le_min_iff]

end Remaining

end ComputeGasTracker

section Run

open ComputeGasTracker

variable {env : Env} {ev : StartEvent} {s s₀ : State}

theorem metered_start (h1 : env.spec.isEnabled .rex1 = true) (hstart : start env ev = some s₀) :
    s₀.limit.computeGas.Metered := by
  rw [start_limit hstart]
  constructor
  · exact (start_records env ev).1
  · rw [recordComputeGas_detainedLimit, recordComputeGas_computeGas, frameTxLimit_recordGasUsed,
      onNewTx_eq, checkLimit_computeGas]
    simp only [newTxTrackers, ComputeGasTracker.reset, h1, if_true]
    exact le_rfl

theorem Execution.metered {es : List Event} (h : Execution env ev es s)
    (h4 : env.spec.isEnabled .rex4 = true) : s.limit.computeGas.Metered := by
  have h1 : env.spec.isEnabled .rex1 = true :=
    MegaSpecId.isEnabled_mono (a := .rex1) (b := .rex4) (by decide) h4
  obtain ⟨s₀, hstart, hr⟩ := h
  exact Run.invariant' (fun _ _ _ hm hs => metered_closed.hooks.step hm hs)
    (metered_start h1 hstart) hr

end Run

section Exact

open ComputeGasTracker

variable {env : Env} {ev : StartEvent} {es : List Event} {s : State} {l : AdditionalLimit}

def AdditionalLimit.ExceedsComputeGas (l : AdditionalLimit) : Prop :=
  ∃ limit used frameLocal, l.hasExceededLimit = .exceedsLimit .computeGas limit used frameLocal

theorem recordComputeGas_hasExceededLimit (hx : l.checkLimit.exceeded = false) (g : ℕ) :
    (l.recordComputeGas g).hasExceededLimit =
      (l.computeGas.recordGasUsed g).checkLimit l.rex4 := by
  have hwithin : l.hasExceededLimit = .withinLimit :=
    exceeded_eq_false.1 (exceeded_of_checkLimit hx)
  have hset : l.Settled := (checkLimit_within_iff.1 (exceeded_eq_false.1 hx)).2
  obtain ⟨hdata, hkv, -, hgrowth⟩ := examine_exceededLimit.1
    (LimitCheck.exceededLimit_eq_false.2 (examine_eq_within.2 hset))
  have hcheck := checkLimit_of_within
    (l := { l with computeGas := l.computeGas.recordGasUsed g }) hwithin
  have hrex4 : ({ l with computeGas := l.computeGas.recordGasUsed g } : AdditionalLimit).rex4 =
      l.rex4 := rfl
  rw [recordComputeGas, hcheck]
  simp only [examine, hrex4, hdata, hkv, hgrowth, Bool.false_eq_true, if_false]
  split
  · rfl
  · next hno =>
    rw [eq_comm, ← LimitCheck.exceededLimit_eq_false]
    simpa using hno

theorem exceedsComputeGas_iff (h4 : l.rex4 = true) (hm : l.computeGas.Metered)
    (hx : l.checkLimit.exceeded = false) (g : ℕ) :
    (l.recordComputeGas g).ExceedsComputeGas ↔ l.currentCallRemainingComputeGas < g := by
  have hset : l.computeGas.Settled true := by
    have hl : l.Settled := (checkLimit_within_iff.1 (exceeded_eq_false.1 hx)).2
    rw [← h4]
    exact hl.computeGas
  have hexact := hm.settled_recordGasUsed hset g
  unfold ExceedsComputeGas
  rw [recordComputeGas_hasExceededLimit hx, h4, currentCallRemainingComputeGas, h4, ← not_le,
    ← hexact, ← checkLimit_eq_within]
  cases hc : (l.computeGas.recordGasUsed g).checkLimit true with
  | withinLimit => simp
  | exceedsLimit kind limit used frameLocal =>
    obtain ⟨rfl, -, -⟩ := checkLimit_eq_exceeds hc
    simp

theorem Execution.exceedsComputeGas_iff (h : Execution env ev es s)
    (h4 : env.spec.isEnabled .rex4 = true) (hx : s.limit.checkLimit.exceeded = false) (g : ℕ) :
    (s.limit.recordComputeGas g).ExceedsComputeGas ↔
      s.limit.currentCallRemainingComputeGas < g := by
  have hrex4 : s.limit.rex4 = true := by
    rw [AdditionalLimit.rex4, h.sound.spec]
    exact h4
  exact MegaEvm.exceedsComputeGas_iff hrex4 (h.metered h4) hx g

/-- With frame budgets, in whatever state a run reaches without an exceed: the
remaining compute gas of the current call is the most that can still be recorded.
The counters are words, and do not wrap while the usage fits in one. -/
theorem remaining_compute_gas_exact (h : Execution env ev es s)
    (h4 : env.spec.isEnabled .rex4 = true) (hx : s.limit.checkLimit.exceeded = false) (g : ℕ) :
    ((s.limit.recordComputeGas g).ExceedsComputeGas ↔
        s.limit.currentCallRemainingComputeGas < g) ∧
      s.limit.currentCallRemainingComputeGas =
        min s.limit.computeGas.frameTracker.currentFrameRemaining
          (s.limit.computeGas.detainedLimit - s.limit.computeGas.txUsage) ∧
      (s.limit.computeGas.txUsage + g ≤ u64Max →
        (s.limit.computeGas.recordGasUsed g).CountersFit) := by
  refine ⟨h.exceedsComputeGas_iff h4 hx g, ?_, fun hg => (h.metered h4).counters_fit hg⟩
  rw [currentCallRemainingComputeGas, AdditionalLimit.rex4, h.sound.spec, h4]
  exact (h.metered h4).currentCallRemaining_eq

/-- Inside a called frame, whose budget is all it may use. -/
theorem remaining_compute_gas_paying :
    ∃ s, Execution payingEnv payingStart (payingRun.take 12) s ∧
      ((s.limit.recordComputeGas 195966366).ExceedsComputeGas ↔ 195966365 < 195966366) ∧
      195966365 = min s.limit.computeGas.frameTracker.currentFrameRemaining
        (s.limit.computeGas.detainedLimit - s.limit.computeGas.txUsage) ∧
      (s.limit.computeGas.recordGasUsed 195966366).CountersFit := by
  have hrun : (execute payingEnv payingStart (payingRun.take 12)).map (fun s =>
      (s.limit.checkLimit.exceeded, s.limit.currentCallRemainingComputeGas,
        s.limit.computeGas.txUsage)) = some (false, 195966365, 55321) := by decide
  obtain ⟨s, hexec, hf⟩ := exists_execution hrun
  rw [Prod.mk.injEq, Prod.mk.injEq] at hf
  obtain ⟨hx, hremaining, husage⟩ := hf
  have hexact := remaining_compute_gas_exact hexec rfl hx 195966366
  have hfits : s.limit.computeGas.txUsage + 195966366 ≤ u64Max := by
    rw [husage, u64Max]
    omega
  rw [hremaining] at hexact
  exact ⟨s, hexec, hexact.1, hexact.2.1, hexact.2.2 hfits⟩

/-- A call that asks for the remaining compute gas and sends nothing along. -/
def asksRemaining (i : CallInputs) : Bool :=
  i.targetAddress == LIMIT_CONTROL_ADDRESS && i.input == .remainingComputeGas &&
    (rejectNonZeroTransfer i).isNone

theorem dispatch_asksRemaining (h4 : env.spec.isEnabled .rex4 = true) {i : CallInputs}
    (hi : asksRemaining i = true) (outcome : KeylessOutcome) :
    dispatchSystemContractInterceptors env s i outcome =
      .answered s (callResult .return (abiWord s.limit.currentCallRemainingComputeGas)
        (.new i.gasLimit)) := by
  simp only [asksRemaining, Bool.and_eq_true, beq_iff_eq, Option.isNone_iff_eq_none] at hi
  obtain ⟨⟨ht, hin⟩, hnone⟩ := hi
  have hkeyless : (LIMIT_CONTROL_ADDRESS == KEYLESS_DEPLOY_ADDRESS) = false := by decide
  have haccess : (LIMIT_CONTROL_ADDRESS == ACCESS_CONTROL_ADDRESS) = false := by decide
  simp [dispatchSystemContractInterceptors, isKeylessCall, ht, hkeyless, haccess, h4,
    limitControlIntercept, hin, hnone]

/-- Such a call is answered before a frame of its own is pushed, so that it is told
about the frame of its caller, whose limits are as they were. -/
theorem step_asksRemaining (h4 : env.spec.isEnabled .rex4 = true) {i : CallInputs}
    (hp : s.phase = .init (.call i)) (hi : asksRemaining i = true) (e : InitEvent) :
    step env s (.init e) = some ({ s with limit := s.limit.pushEmptyFrame }.answer
      ⟨callResult .return (abiWord s.limit.currentCallRemainingComputeGas) (.new i.gasLimit),
        s.journal⟩) := by
  simp only [step, hp, frameInit, detected_rex4 h4, dispatch_asksRemaining h4 hi]

/-- What the contract is told is the most that its caller can still use. -/
theorem Execution.told_remaining (h : Execution env ev es s)
    (h4 : env.spec.isEnabled .rex4 = true) (hx : s.limit.checkLimit.exceeded = false)
    {i : CallInputs} (hp : s.phase = .init (.call i)) (hi : asksRemaining i = true)
    (e : InitEvent) :
    ∃ remaining, step env s (.init e) = some ({ s with limit := s.limit.pushEmptyFrame }.answer
        ⟨callResult .return (abiWord remaining) (.new i.gasLimit), s.journal⟩) ∧
      ∀ g, (s.limit.recordComputeGas g).ExceedsComputeGas ↔ remaining < g :=
  ⟨_, step_asksRemaining h4 hp hi e, h.exceedsComputeGas_iff h4 hx⟩

end Exact

end MegaEvm
