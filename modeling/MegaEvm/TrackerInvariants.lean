import MegaEvm.Trackers

/-!
# What the trackers keep

A tracker is settled when its own check passes, and restorable when popping
its newest frame settles it again: because the frame was settled and merges,
or because it failed and is dropped. Every hook keeps a tracker restorable;
only pushing a frame asks for a settled one.
-/

set_option autoImplicit false

namespace MegaEvm

namespace FrameLimitTracker

variable {ι : Type} {rex4 : Bool} {t : FrameLimitTracker ι}

def Settled (rex4 : Bool) (t : FrameLimitTracker ι) : Prop :=
  if rex4 then t.TopWithin else t.TxWithin

structure Restorable (rex4 : Bool) (t : FrameLimitTracker ι) : Prop where
  discardable : t.Discardable
  nested : rex4 = true → t.Nested
  floors : rex4 = false → Floors t.txEntry t.frameStack

theorem checkLimitBy_eq_within {kind : LimitKind} :
    t.checkLimitBy rex4 kind = .withinLimit ↔ t.Settled rex4 := by
  unfold checkLimitBy Settled TxWithin
  cases rex4 with
  | true => exact exceedsCurrentFrameLimit_eq_within t kind
  | false => simp

/-- An exceed of such a tracker names its own kind and is frame-local exactly
when frame budgets are on; then it is the open frame's budget that is exceeded. -/
theorem checkLimitBy_eq_exceeds {kind k : LimitKind} {l u : ℕ} {b : Bool}
    (h : t.checkLimitBy rex4 kind = .exceedsLimit k l u b) :
    k = kind ∧ b = rex4 ∧
      (rex4 = true → ∃ e rest, t.frameStack = e :: rest ∧ e.limit = l ∧ l < e.net) := by
  unfold checkLimitBy at h
  cases rex4 with
  | true =>
    obtain ⟨hk, hb, he⟩ := exceedsCurrentFrameLimit_eq_exceeds h
    exact ⟨hk, hb, fun _ => he⟩
  | false =>
    by_cases hx : t.netUsage > t.txLimit
    · simp only [Bool.false_eq_true, if_false, if_pos hx, LimitCheck.exceedsLimit.injEq] at h
      exact ⟨h.1.symm, h.2.2.2.symm, fun hf => absurd hf (by simp)⟩
    · simp [hx] at h

@[simp] theorem budgets_pushFrameBy (i : ι) :
    (t.pushFrameBy rex4 i).budgets = t.forwardLimit rex4 :: t.budgets := by
  unfold pushFrameBy forwardLimit
  cases rex4 with
  | true => rfl
  | false => rfl

@[simp] theorem netUsage_pushFrameBy (i : ι) : (t.pushFrameBy rex4 i).netUsage = t.netUsage := by
  unfold pushFrameBy
  split <;> simp

@[simp] theorem txLimit_pushFrameBy (i : ι) : (t.pushFrameBy rex4 i).txLimit = t.txLimit := by
  unfold pushFrameBy
  split <;> rfl

theorem Restorable.pushFrameBy (h : t.Restorable rex4) (hs : t.Settled rex4) (i : ι) :
    (t.pushFrameBy rex4 i).Restorable rex4 := by
  cases rex4 with
  | true =>
    exact ⟨h.discardable.pushFrameWithLimit _ i, fun _ => (h.nested rfl).pushFrame hs i,
      fun hf => absurd hf (by simp)⟩
  | false =>
    exact ⟨h.discardable.pushFrameWithLimit _ i, fun hf => absurd hf (by simp),
      fun _ => floors_pushFrameWithLimit (h.floors rfl) hs _ i⟩

theorem Settled.pushFrameBy (hs : t.Settled rex4) (i : ι) :
    (t.pushFrameBy rex4 i).Settled rex4 := by
  cases rex4 with
  | true => exact topWithin_pushFrame t i
  | false =>
    show (t.pushFrameBy false i).TxWithin
    rw [TxWithin, netUsage_pushFrameBy, txLimit_pushFrameBy]
    exact hs

theorem Restorable.modifyFrame (h : t.Restorable rex4)
    {f : FrameLimitEntry ι → FrameLimitEntry ι} (hl : ∀ e, (f e).limit = e.limit)
    (hp : ∀ e, (f e).persistentUsage = e.persistentUsage) :
    (t.modifyFrame f).Restorable rex4 :=
  ⟨h.discardable.modifyFrame hp, fun hr => (h.nested hr).modifyFrame hl,
    fun hr => floors_modifyFrame (h.floors hr) f⟩

theorem Restorable.recordDiscardable (h : t.Restorable rex4) (n : ℕ) :
    (t.recordDiscardable n).Restorable rex4 :=
  h.modifyFrame (fun _ => rfl) (fun _ => rfl)

theorem Restorable.recordRefund (h : t.Restorable rex4) (n : ℕ) :
    (t.recordRefund n).Restorable rex4 :=
  h.modifyFrame (fun _ => rfl) (fun _ => rfl)

theorem Restorable.popFrame (h : t.Restorable rex4) (b : Bool) :
    (t.popFrame b).Restorable rex4 :=
  ⟨h.discardable.popFrame b, fun hr => (h.nested hr).popFrame b,
    fun hr => floors_popFrame (h.floors hr) b⟩

theorem Restorable.settled_popFrame (h : t.Restorable rex4) {b : Bool}
    (hs : b = true → t.Settled rex4) (hne : 0 < t.height) :
    (t.popFrame b).Settled rex4 := by
  have hstack : t.frameStack ≠ [] := List.ne_nil_of_length_pos hne
  cases rex4 with
  | true =>
    cases b with
    | true => exact (h.nested rfl).topWithin_popFrame_true (hs rfl)
    | false => exact (h.nested rfl).topWithin_popFrame_false h.discardable
  | false =>
    cases b with
    | true => exact txWithin_popFrame_true (hs rfl)
    | false => exact txWithin_popFrame_false (h.floors rfl) h.discardable hstack

end FrameLimitTracker

namespace AccountTracker

open FrameLimitTracker

variable {rex4 : Bool} {t : AccountTracker} {unit : ℕ}

@[simp] theorem budgets_recordIf (b : Bool) (n : ℕ) : (recordIf b n t).budgets = t.budgets := by
  cases b <;> simp [recordIf]

theorem restorable_recordIf (h : t.Restorable rex4) (b : Bool) (n : ℕ) :
    (recordIf b n t).Restorable rex4 := by
  cases b with
  | true => exact h.recordDiscardable n
  | false => exact h

@[simp] theorem budgets_beforeFrameInitBy (input : FrameInput) :
    (beforeFrameInitBy unit rex4 t input).budgets = t.forwardLimit rex4 :: t.budgets := by
  cases input with
  | call i => simp only [beforeFrameInitBy]; split <;> simp
  | create i => simp [beforeFrameInitBy]

@[simp] theorem budgets_afterFrameInitOnFrameBy (a : Option Address) :
    (afterFrameInitOnFrameBy unit t a).budgets = t.budgets := by
  cases a with
  | none => rfl
  | some a => exact budgets_modifyFrame t fun _ => rfl

@[simp] theorem budgets_afterSstoreBy (r : SStoreResult) :
    (afterSstoreBy unit t r).budgets = t.budgets := by
  unfold afterSstoreBy
  split <;> split <;> simp

theorem restorable_beforeFrameInitBy (h : t.Restorable rex4) (hs : t.Settled rex4)
    (input : FrameInput) : (beforeFrameInitBy unit rex4 t input).Restorable rex4 := by
  cases input with
  | call i =>
    have hp := h.pushFrameBy hs ⟨some i.targetAddress, i.transfersValue⟩
    simp only [beforeFrameInitBy]
    split
    · exact (restorable_recordIf hp _ unit).recordDiscardable unit
    · exact hp
  | create i => exact restorable_recordIf (h.pushFrameBy hs ⟨none, true⟩) _ unit

theorem restorable_afterFrameInitOnFrameBy (h : t.Restorable rex4) (a : Option Address) :
    (afterFrameInitOnFrameBy unit t a).Restorable rex4 := by
  cases a with
  | none => exact h
  | some a => exact h.modifyFrame (fun _ => rfl) (fun _ => rfl)

theorem restorable_afterSstoreBy (h : t.Restorable rex4) (r : SStoreResult) :
    (afterSstoreBy unit t r).Restorable rex4 := by
  unfold afterSstoreBy
  split
  · split
    · exact h.recordDiscardable unit
    · exact h
  · split
    · exact h.recordRefund unit
    · exact h

end AccountTracker

namespace DataSizeTracker

open FrameLimitTracker

variable {rex4 : Bool} {t : AccountTracker}

@[simp] theorem budgets_afterFrameRun (c : Bool) (a : InterpreterAction) :
    (afterFrameRun t c a).budgets = t.budgets := by
  cases a with
  | newFrame => rfl
  | «return» r => cases c <;> simp [afterFrameRun]

@[simp] theorem budgets_afterLog (n d : ℕ) : (afterLog t n d).budgets = t.budgets :=
  budgets_recordDiscardable _ _

theorem restorable_afterFrameRun (h : t.Restorable rex4) (c : Bool) (a : InterpreterAction) :
    (afterFrameRun t c a).Restorable rex4 := by
  cases a with
  | newFrame => exact h
  | «return» r =>
    cases c with
    | true => exact h.recordDiscardable _
    | false => exact h

end DataSizeTracker

namespace StateGrowthTracker

open FrameLimitTracker

variable {rex4 : Bool} {t : StateGrowthTracker}

@[simp] theorem budgets_beforeFrameInit (input : FrameInput) (te : Bool) :
    (beforeFrameInit rex4 t input te).budgets = t.forwardLimit rex4 :: t.budgets := by
  cases input with
  | call i => simp only [beforeFrameInit]; split <;> simp
  | create i => simp [beforeFrameInit]

@[simp] theorem budgets_afterSstore (r : SStoreResult) :
    (afterSstore t r).budgets = t.budgets := by
  unfold afterSstore
  split <;> simp

theorem restorable_beforeFrameInit (h : t.Restorable rex4) (hs : t.Settled rex4)
    (input : FrameInput) (te : Bool) : (beforeFrameInit rex4 t input te).Restorable rex4 := by
  have hp := h.pushFrameBy hs ()
  cases input with
  | call i =>
    simp only [beforeFrameInit]
    split
    · exact hp.recordDiscardable 1
    · exact hp
  | create i => exact hp.recordDiscardable 1

theorem restorable_afterSstore (h : t.Restorable rex4) (r : SStoreResult) :
    (afterSstore t r).Restorable rex4 := by
  unfold afterSstore
  split
  · exact h.recordDiscardable 1
  · exact h.recordRefund 1
  · exact h

end StateGrowthTracker

namespace ComputeGasTracker

open FrameLimitTracker

variable {rex4 : Bool} {t : ComputeGasTracker}

def height (t : ComputeGasTracker) : ℕ := t.frameTracker.height

/-- Compute gas is never discarded and never refunded. -/
def Persistent (t : ComputeGasTracker) : Prop :=
  ∀ e ∈ t.frameTracker.frameStack, e.discardableUsage = 0 ∧ e.refund = 0

structure Restorable (rex4 : Bool) (t : ComputeGasTracker) : Prop where
  persistent : t.Persistent
  nested : rex4 = true → t.frameTracker.Nested
  u64 : t.frameTracker.txLimit ≤ u64Max

structure Settled (rex4 : Bool) (t : ComputeGasTracker) : Prop where
  frame : rex4 = true → t.frameTracker.TopWithin
  tx : t.txUsage ≤ t.txLimit

theorem checkTxLimit_eq_within : t.checkTxLimit = .withinLimit ↔ t.txUsage ≤ t.txLimit := by
  unfold checkTxLimit
  by_cases h : t.txUsage > t.txLimit
  · simp [h]
  · simp only [if_neg h, true_iff]
    omega

theorem checkLimit_eq_within : t.checkLimit rex4 = .withinLimit ↔ t.Settled rex4 := by
  have hiff := exceedsCurrentFrameLimit_eq_within t.frameTracker .computeGas
  unfold checkLimit
  split
  case isTrue h =>
    simp only [Bool.and_eq_true] at h
    constructor
    · intro hc
      simp [hc] at h
    · intro hs
      exact hiff.2 (hs.frame h.1)
  case isFalse h =>
    rw [checkTxLimit_eq_within]
    constructor
    · intro hu
      refine ⟨fun hr => hiff.1 ?_, hu⟩
      rw [← LimitCheck.exceededLimit_eq_false]
      simpa [hr] using h
    · intro hs
      exact hs.tx

theorem checkLimit_eq_exceeds {k : LimitKind} {l u : ℕ} {b : Bool}
    (h : t.checkLimit rex4 = .exceedsLimit k l u b) :
    k = .computeGas ∧ (b = true → rex4 = true ∧
      ∃ e rest, t.frameTracker.frameStack = e :: rest ∧ e.limit = l ∧ l < e.net) ∧
      (b = false → t.txLimit < t.txUsage) := by
  unfold checkLimit at h
  split at h
  case isTrue hx =>
    simp only [Bool.and_eq_true] at hx
    obtain ⟨hk, hb, he⟩ := exceedsCurrentFrameLimit_eq_exceeds h
    exact ⟨hk, fun _ => ⟨hx.1, he⟩, fun hf => absurd (hb.symm.trans hf) (by simp)⟩
  case isFalse hx =>
    unfold checkTxLimit at h
    by_cases hu : t.txUsage > t.txLimit
    · simp only [if_pos hu, LimitCheck.exceedsLimit.injEq] at h
      exact ⟨h.1.symm, fun hb => absurd (h.2.2.2.trans hb) (by simp), fun _ => hu⟩
    · simp [hu] at h

@[simp] theorem budgets_pushFrame : (t.pushFrame rex4).frameTracker.budgets =
    t.frameTracker.forwardLimit rex4 :: t.frameTracker.budgets := by
  simp [ComputeGasTracker.pushFrame]

@[simp] theorem budgets_popFrame (b : Bool) :
    (t.popFrame b).frameTracker.budgets = t.frameTracker.budgets.tail := by
  simp [ComputeGasTracker.popFrame]

@[simp] theorem budgets_recordGasUsed (g : ℕ) :
    (t.recordGasUsed g).frameTracker.budgets = t.frameTracker.budgets := by
  unfold recordGasUsed
  split
  · exact budgets_modifyFrame _ fun _ => rfl
  · rfl

@[simp] theorem txLimit_recordGasUsed (g : ℕ) : (t.recordGasUsed g).txLimit = t.txLimit := by
  unfold recordGasUsed txLimit
  split
  · simp
  · rfl

@[simp] theorem txLimit_pushFrame : (t.pushFrame rex4).txLimit = t.txLimit := by
  simp [txLimit, ComputeGasTracker.pushFrame]

@[simp] theorem txUsage_pushFrame : (t.pushFrame rex4).txUsage = t.txUsage := by
  simp [txUsage, ComputeGasTracker.pushFrame]

@[simp] theorem txLimit_popFrame (b : Bool) : (t.popFrame b).txLimit = t.txLimit := by
  simp [txLimit, ComputeGasTracker.popFrame]

theorem txUsage_le_recordGasUsed (g : ℕ) : t.txUsage ≤ (t.recordGasUsed g).txUsage := by
  obtain ⟨d, tx, stack⟩ := t
  cases stack with
  | nil =>
    simp only [txUsage, recordGasUsed, hasActiveFrame, netUsage, totalUsed, totalRefund,
      modifyTx, FrameLimitEntry.used]
    simp
    omega
  | cons e rest =>
    simp only [txUsage, recordGasUsed, hasActiveFrame, netUsage, totalUsed, totalRefund,
      FrameLimitTracker.modifyFrame, FrameLimitEntry.used]
    simp
    omega

theorem recordGasUsed_zero : t.recordGasUsed 0 = t := by
  obtain ⟨d, tx, stack⟩ := t
  cases stack <;> simp [recordGasUsed, hasActiveFrame, modifyTx, FrameLimitTracker.modifyFrame]

theorem Persistent.recordGasUsed (h : t.Persistent) (g : ℕ) : (t.recordGasUsed g).Persistent := by
  obtain ⟨d, tx, stack⟩ := t
  cases stack with
  | nil => exact h
  | cons e rest =>
    intro e' he'
    simp only [ComputeGasTracker.recordGasUsed, hasActiveFrame, FrameLimitTracker.modifyFrame,
      List.isEmpty_cons, Bool.not_false, if_true, List.mem_cons] at he'
    rcases he' with rfl | he'
    · exact h e (by simp)
    · exact h e' (by simp [he'])

theorem Restorable.recordGasUsed (h : t.Restorable rex4) (g : ℕ) :
    (t.recordGasUsed g).Restorable rex4 := by
  refine ⟨h.persistent.recordGasUsed g, fun hr => ?_, ?_⟩
  · have hn := h.nested hr
    unfold ComputeGasTracker.recordGasUsed
    split
    · exact hn.modifyFrame (fun _ => rfl)
    · exact hn
  · unfold ComputeGasTracker.recordGasUsed
    split
    · rw [txLimit_modifyFrame]
      exact h.u64
    · exact h.u64

theorem Restorable.setDetainedLimit (h : t.Restorable rex4) (c : ℕ) :
    (t.setDetainedLimit rex4 c).Restorable rex4 := ⟨h.persistent, h.nested, h.u64⟩

theorem Restorable.txWithin_setDetainedLimit (h : t.Restorable true)
    (hs : t.txUsage ≤ t.txLimit) (c : ℕ) :
    (t.setDetainedLimit true c).txUsage ≤ (t.setDetainedLimit true c).txLimit := by
  have hu := h.u64
  simp only [txUsage, txLimit, ComputeGasTracker.setDetainedLimit, saturatingAdd, if_true] at *
  omega

theorem Persistent.pushFrame (h : t.Persistent) : (t.pushFrame rex4).Persistent := by
  intro e he
  have hmem : e ∈ (t.frameTracker.pushFrameBy rex4 ()).frameStack := he
  unfold FrameLimitTracker.pushFrameBy at hmem
  split at hmem
  all_goals
    rcases List.mem_cons.1 hmem with rfl | hmem
    · exact ⟨rfl, rfl⟩
    · exact h e hmem

theorem Restorable.pushFrame (h : t.Restorable rex4)
    (hs : rex4 = true → t.frameTracker.TopWithin) : (t.pushFrame rex4).Restorable rex4 := by
  constructor
  · exact h.persistent.pushFrame
  · intro hr
    subst hr
    exact (h.nested rfl).pushFrame (hs rfl) ()
  · rw [ComputeGasTracker.pushFrame, txLimit_pushFrameBy]
    exact h.u64

theorem Settled.pushFrame (hs : t.Settled rex4) : (t.pushFrame rex4).Settled rex4 := by
  constructor
  · intro hr
    subst hr
    exact topWithin_pushFrame t.frameTracker ()
  · rw [txUsage_pushFrame, txLimit_pushFrame]
    exact hs.tx

theorem Persistent.popFrame_eq (h : t.Persistent) (b : Bool) : t.popFrame b = t.popFrame true := by
  obtain ⟨d, tx, stack⟩ := t
  match stack with
  | [] => rfl
  | [e] =>
    obtain ⟨h1, h2⟩ := h e (by simp)
    cases b <;>
      simp [ComputeGasTracker.popFrame, FrameLimitTracker.popFrame, FrameLimitEntry.absorb, h1, h2]
  | e :: p :: rest =>
    obtain ⟨h1, h2⟩ := h e (by simp)
    cases b <;>
      simp [ComputeGasTracker.popFrame, FrameLimitTracker.popFrame, FrameLimitEntry.absorb, h1, h2]

theorem Persistent.txUsage_popFrame (h : t.Persistent) (b : Bool) :
    (t.popFrame b).txUsage = t.txUsage := by
  rw [h.popFrame_eq b]
  exact netUsage_popFrame_true t.frameTracker

theorem Persistent.popFrame (h : t.Persistent) (b : Bool) : (t.popFrame b).Persistent := by
  obtain ⟨d, tx, stack⟩ := t
  match stack with
  | [] => exact h
  | [e] =>
    intro e' he'
    simp [ComputeGasTracker.popFrame, FrameLimitTracker.popFrame] at he'
  | e :: p :: rest =>
    intro e' he'
    obtain ⟨h1, h2⟩ := h e (by simp)
    rcases List.mem_cons.1 he' with rfl | he'
    · obtain ⟨h3, h4⟩ := h p (by simp)
      simp [FrameLimitEntry.absorb, h1, h2, h3, h4]
    · exact h e' (by simp [he'])

theorem Restorable.popFrame (h : t.Restorable rex4) (b : Bool) :
    (t.popFrame b).Restorable rex4 := by
  refine ⟨h.persistent.popFrame b, fun hr => (h.nested hr).popFrame b, ?_⟩
  rw [ComputeGasTracker.popFrame, FrameLimitTracker.txLimit_popFrame]
  exact h.u64

theorem Restorable.settled_popFrame (h : t.Restorable rex4) (hs : t.Settled rex4) (b : Bool) :
    (t.popFrame b).Settled rex4 := by
  constructor
  · intro hr
    rw [h.persistent.popFrame_eq b]
    exact (h.nested hr).topWithin_popFrame_true (hs.frame hr)
  · rw [h.persistent.txUsage_popFrame b, txLimit_popFrame]
    exact hs.tx

end ComputeGasTracker

end MegaEvm
