import MegaEvm.FrameLimit
import MegaEvm.Library.FrameHistory

/-!
# The tracker against its history

What a frame tracker reports is a function of everything that was recorded since it
was reset: all persistent usage, and of the discardable usage and the refunds what
was recorded in frames that have not failed, nor the frames around them. The
tracker forgets the history and keeps one entry for each open frame.
-/

set_option autoImplicit false

namespace MegaEvm

open Checkpoint

inductive UsageKind where
  | persistent
  | discardable
  | refund
  deriving DecidableEq, Repr

def FrameLimitEntry.record {ι : Type} (e : FrameLimitEntry ι) (n : ℕ) :
    UsageKind → FrameLimitEntry ι
  | .persistent => { e with persistentUsage := e.persistentUsage + n }
  | .discardable => { e with discardableUsage := e.discardableUsage + n }
  | .refund => { e with refund := e.refund + n }

/-- A use of the tracker; a frame is pushed with its share of the parent's budget, or
with a limit that is given. -/
inductive TrackerOp (ι : Type) where
  | push (limit : Option ℕ) (info : ι)
  | record (kind : UsageKind) (n : ℕ)
  | pop (success : Bool)
  deriving DecidableEq, Repr

namespace TrackerOp

variable {ι : Type}

def recorded : TrackerOp ι → ℕ
  | record _ n => n
  | _ => 0

def persistent : TrackerOp ι → ℕ
  | record .persistent n => n
  | _ => 0

/-- What the frames are told of it; persistent usage is not theirs to lose. -/
def toLedger : TrackerOp ι → List LedgerOp
  | push _ _ => [.push]
  | record .persistent _ => []
  | record .discardable n => [.post n]
  | record .refund n => [.post (-n)]
  | pop success => [.pop success]

end TrackerOp

namespace FrameLimitTracker

variable {ι : Type}

/-- Recorded in the current frame, and for the transaction where there is none. -/
def record (t : FrameLimitTracker ι) (kind : UsageKind) (n : ℕ) : FrameLimitTracker ι :=
  if t.hasActiveFrame then t.modifyFrame fun e => e.record n kind
  else t.modifyTx fun e => e.record n kind

/-- A pop without a frame does nothing. -/
def perform (t : FrameLimitTracker ι) : TrackerOp ι → FrameLimitTracker ι
  | .push none info => t.pushFrame info
  | .push (some limit) info => t.pushFrameWithLimit limit info
  | .record kind n => t.record kind n
  | .pop success => t.popFrame success

/-- The net usage the history accounts for, before it is clamped. -/
def reference (ops : List (TrackerOp ι)) : ℤ :=
  ((ops.map TrackerOp.persistent).sum : ℕ) +
    ((ops.flatMap TrackerOp.toLedger).foldl History.step .empty).surviving

section Entries

def totalPersistent (t : FrameLimitTracker ι) : ℕ :=
  t.txEntry.persistentUsage + (t.frameStack.map (·.persistentUsage)).sum

/-- What the entries stand to lose, refunds being taken off. -/
def discardLedger (t : FrameLimitTracker ι) : Ledger :=
  ⟨(t.txEntry.discardableUsage : ℤ) - t.txEntry.refund,
    t.frameStack.map fun e => (e.discardableUsage : ℤ) - e.refund⟩

variable {t : FrameLimitTracker ι}

theorem used_sub_refund (t : FrameLimitTracker ι) :
    (t.totalUsed : ℤ) - t.totalRefund = t.totalPersistent + t.discardLedger.total := by
  have hsum : ∀ es : List (FrameLimitEntry ι),
      (((es.map (·.used)).sum : ℕ) : ℤ) - ((es.map (·.refund)).sum : ℕ) =
        ((es.map (·.persistentUsage)).sum : ℕ) +
          (es.map fun e => (e.discardableUsage : ℤ) - e.refund).sum := by
    intro es
    induction es with
    | nil => rfl
    | cons e es ih =>
      simp only [List.map_cons, List.sum_cons, FrameLimitEntry.used] at ih ⊢
      omega
  have hstack := hsum t.frameStack
  simp only [totalUsed, totalRefund, totalPersistent, discardLedger, Ledger.total,
    FrameLimitEntry.used] at hstack ⊢
  omega

theorem netUsage_eq_max (t : FrameLimitTracker ι) :
    (t.netUsage : ℤ) = max 0 (t.totalPersistent + t.discardLedger.total) := by
  rw [← used_sub_refund, netUsage]
  omega

theorem totalPersistent_popFrame (success : Bool) :
    (t.popFrame success).totalPersistent = t.totalPersistent := by
  obtain ⟨tx, stack⟩ := t
  match stack with
  | [] => rfl
  | [e] => simp [popFrame, totalPersistent, FrameLimitEntry.absorb]
  | e :: p :: rest =>
    simp only [popFrame, totalPersistent, FrameLimitEntry.absorb, List.map_cons, List.sum_cons]
    ring

theorem totalPersistent_perform (op : TrackerOp ι) :
    (t.perform op).totalPersistent = t.totalPersistent + op.persistent := by
  obtain ⟨tx, stack⟩ := t
  cases op with
  | push limit info =>
    cases limit <;>
      simp [perform, pushFrame, pushFrameWithLimit, totalPersistent, TrackerOp.persistent,
        FrameLimitEntry.new]
  | record kind n =>
    cases stack with
    | nil =>
      cases kind <;>
        simp [perform, record, hasActiveFrame, modifyTx, totalPersistent, TrackerOp.persistent,
          FrameLimitEntry.record]
    | cons e rest =>
      have hactive : hasActiveFrame ⟨tx, e :: rest⟩ = true := rfl
      simp only [perform, record, if_pos hactive, modifyFrame, totalPersistent, List.map_cons,
        List.sum_cons]
      cases kind with
      | persistent =>
        simp only [FrameLimitEntry.record, TrackerOp.persistent]
        ring
      | discardable | refund => rfl
  | pop success => exact totalPersistent_popFrame success

theorem discardLedger_record (kind : UsageKind) (n : ℕ) :
    (t.record kind n).discardLedger =
      (TrackerOp.record kind n : TrackerOp ι).toLedger.foldl Ledger.step t.discardLedger := by
  obtain ⟨tx, stack⟩ := t
  cases stack with
  | nil =>
    cases kind with
    | persistent => rfl
    | discardable =>
      simp [record, hasActiveFrame, modifyTx, discardLedger, FrameLimitEntry.record,
        TrackerOp.toLedger, Ledger.step, Ledger.post]
      ring
    | refund =>
      simp [record, hasActiveFrame, modifyTx, discardLedger, FrameLimitEntry.record,
        TrackerOp.toLedger, Ledger.step, Ledger.post]
      ring
  | cons e rest =>
    cases kind with
    | persistent => rfl
    | discardable =>
      simp [record, hasActiveFrame, modifyFrame, discardLedger, FrameLimitEntry.record,
        TrackerOp.toLedger, Ledger.step, Ledger.post]
      ring
    | refund =>
      simp [record, hasActiveFrame, modifyFrame, discardLedger, FrameLimitEntry.record,
        TrackerOp.toLedger, Ledger.step, Ledger.post]
      ring

theorem discardLedger_popFrame (success : Bool) :
    (t.popFrame success).discardLedger = t.discardLedger.pop success := by
  obtain ⟨tx, stack⟩ := t
  match stack with
  | [] => rfl
  | [e] =>
    cases success with
    | true =>
      simp only [popFrame, discardLedger, FrameLimitEntry.absorb, Ledger.pop, List.map_cons,
        List.map_nil, if_true]
      push_cast
      congr 1
      ring
    | false => simp [popFrame, discardLedger, FrameLimitEntry.absorb, Ledger.pop]
  | e :: p :: rest =>
    cases success with
    | true =>
      simp only [popFrame, discardLedger, FrameLimitEntry.absorb, Ledger.pop, List.map_cons,
        if_true]
      push_cast
      congr 2
      ring
    | false => simp [popFrame, discardLedger, FrameLimitEntry.absorb, Ledger.pop]

theorem discardLedger_perform (op : TrackerOp ι) :
    (t.perform op).discardLedger = op.toLedger.foldl Ledger.step t.discardLedger := by
  cases op with
  | push limit info =>
    cases limit <;>
      simp [perform, pushFrame, pushFrameWithLimit, discardLedger, TrackerOp.toLedger, Ledger.step,
        Ledger.push, FrameLimitEntry.new]
  | record kind n => exact discardLedger_record kind n
  | pop success => exact discardLedger_popFrame success

theorem totals_popFrame (success : Bool) :
    (t.popFrame success).totalUsed + (t.popFrame success).totalRefund ≤
      t.totalUsed + t.totalRefund := by
  obtain ⟨tx, stack⟩ := t
  match stack with
  | [] => exact Nat.le_refl _
  | [e] =>
    cases success <;>
      simp [popFrame, totalUsed, totalRefund, FrameLimitEntry.absorb, FrameLimitEntry.used] <;>
      omega
  | e :: p :: rest =>
    cases success <;>
      simp [popFrame, totalUsed, totalRefund, FrameLimitEntry.absorb, FrameLimitEntry.used] <;>
      omega

theorem totals_perform (op : TrackerOp ι) :
    (t.perform op).totalUsed + (t.perform op).totalRefund ≤
      t.totalUsed + t.totalRefund + op.recorded := by
  obtain ⟨tx, stack⟩ := t
  cases op with
  | push limit info =>
    cases limit <;>
      simp [perform, pushFrame, pushFrameWithLimit, totalUsed, totalRefund, TrackerOp.recorded]
  | record kind n =>
    cases stack with
    | nil =>
      cases kind <;>
        simp [perform, record, hasActiveFrame, modifyTx, totalUsed, totalRefund, TrackerOp.recorded,
          FrameLimitEntry.record, FrameLimitEntry.used] <;> omega
    | cons e rest =>
      cases kind <;>
        simp [perform, record, hasActiveFrame, modifyFrame, totalUsed, totalRefund,
          TrackerOp.recorded, FrameLimitEntry.record, FrameLimitEntry.used] <;> omega
  | pop success => exact totals_popFrame success

end Entries

section Run

variable {t : FrameLimitTracker ι}

theorem totalPersistent_run (ops : List (TrackerOp ι)) :
    (ops.foldl perform t).totalPersistent =
      t.totalPersistent + (ops.map TrackerOp.persistent).sum := by
  induction ops generalizing t with
  | nil => rfl
  | cons op ops ih =>
    rw [List.foldl_cons, ih, totalPersistent_perform, List.map_cons, List.sum_cons, Nat.add_assoc]

theorem discardLedger_run (ops : List (TrackerOp ι)) :
    (ops.foldl perform t).discardLedger =
      (ops.flatMap TrackerOp.toLedger).foldl Ledger.step t.discardLedger := by
  induction ops generalizing t with
  | nil => rfl
  | cons op ops ih =>
    rw [List.foldl_cons, ih, discardLedger_perform, List.flatMap_cons, List.foldl_append]

theorem totals_run (ops : List (TrackerOp ι)) :
    (ops.foldl perform t).totalUsed + (ops.foldl perform t).totalRefund ≤
      t.totalUsed + t.totalRefund + (ops.map TrackerOp.recorded).sum := by
  induction ops generalizing t with
  | nil => exact Nat.le_refl _
  | cons op ops ih =>
    have hstep := @totals_perform ι t op
    have hrest := @ih (t.perform op)
    simp only [List.foldl_cons, List.map_cons, List.sum_cons]
    omega

/-- After any uses of a tracker that was reset, the net usage is what its history
accounts for, and nothing it adds up has left 64 bits. -/
theorem net_usage_reference (t : FrameLimitTracker ι) (ops : List (TrackerOp ι))
    (hsums : (ops.map TrackerOp.recorded).sum ≤ u64Max) :
    ((ops.foldl perform t.reset).netUsage : ℤ) = max 0 (reference ops) ∧
      (ops.foldl perform t.reset).totalUsed ≤ u64Max ∧
      (ops.foldl perform t.reset).totalRefund ≤ u64Max := by
  have htotals := @totals_run ι t.reset ops
  have hnone : t.reset.totalUsed = 0 ∧ t.reset.totalRefund = 0 := ⟨rfl, rfl⟩
  refine ⟨?_, by omega, by omega⟩
  rw [netUsage_eq_max, totalPersistent_run, discardLedger_run, reference,
    ← History.total_eq_surviving]
  have hpersistent : t.reset.totalPersistent = 0 := rfl
  have hledger : t.reset.discardLedger = ⟨0, []⟩ := rfl
  rw [hpersistent, hledger, Nat.zero_add]

/-- A grandchild's refund is lost with the frame around its own. -/
theorem net_usage_of_failed_parent :
    ((([.record .persistent 110, .push none (), .record .discardable 40, .push none (),
      .record .discardable 7, .push (some 1000) (), .record .refund 5, .pop true, .pop false,
      .record .refund 3, .pop true] :
        List (TrackerOp Unit)).foldl perform (new 1000)).netUsage : ℤ) = max 0 147 :=
  (net_usage_reference (new 1000)
    [.record .persistent 110, .push none (), .record .discardable 40, .push none (),
      .record .discardable 7, .push (some 1000) (), .record .refund 5, .pop true, .pop false,
      .record .refund 3, .pop true] (by decide)).1

end Run

end FrameLimitTracker

end MegaEvm
