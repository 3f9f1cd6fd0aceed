import MegaEvm.FrameHooks
import MegaEvm.Library.Checkpoint

/-!
# The trackers as ledgers

A tracker clamps what it has used, less its refunds, at zero. Without the clamp
it is a ledger: a hook posts an amount to the open frame, and popping a frame
passes its amount on or drops it.
-/

set_option autoImplicit false

namespace MegaEvm

open Checkpoint

namespace FrameLimitEntry

variable {ι : Type}

def signed (e : FrameLimitEntry ι) : ℤ := (e.used : ℤ) - e.refund

@[simp] theorem signed_new (l : ℕ) (i : ι) : (new l i).signed = 0 := by
  simp [signed]

theorem signed_absorb_true {κ : Type} (p : FrameLimitEntry κ) (c : FrameLimitEntry ι) :
    (p.absorb c true).signed = p.signed + c.signed := by
  simp only [signed, used, absorb, if_true]
  push_cast
  ring

end FrameLimitEntry

namespace FrameLimitTracker

variable {ι : Type} {t : FrameLimitTracker ι}

def ledger (t : FrameLimitTracker ι) : Ledger :=
  ⟨t.txEntry.signed, t.frameStack.map (·.signed)⟩

theorem length_ledger (t : FrameLimitTracker ι) : t.ledger.frames.length = t.height := by
  simp [ledger, height]

theorem total_ledger (t : FrameLimitTracker ι) :
    t.ledger.total = (t.totalUsed : ℤ) - t.totalRefund := by
  have hsum : ∀ es : List (FrameLimitEntry ι), (es.map (·.signed)).sum =
      (((es.map (·.used)).sum : ℕ) : ℤ) - ((es.map (·.refund)).sum : ℕ) := by
    intro es
    induction es with
    | nil => rfl
    | cons e es ih =>
      simp only [List.map_cons, List.sum_cons]
      rw [ih, FrameLimitEntry.signed]
      push_cast
      ring
  simp only [Ledger.total, ledger, hsum, totalUsed, totalRefund]
  rw [FrameLimitEntry.signed]
  push_cast
  ring

theorem netUsage_of_total {n : ℕ} (h : t.ledger.total = n) : t.netUsage = n := by
  rw [total_ledger] at h
  unfold netUsage
  omega

theorem total_le_netUsage (t : FrameLimitTracker ι) : t.ledger.total ≤ t.netUsage := by
  rw [total_ledger]
  unfold netUsage
  omega

@[simp] theorem ledger_pushFrameWithLimit (l : ℕ) (i : ι) :
    (t.pushFrameWithLimit l i).ledger = t.ledger.push := by
  simp [ledger, pushFrameWithLimit, Ledger.push]

@[simp] theorem ledger_pushFrameBy (rex4 : Bool) (i : ι) :
    (t.pushFrameBy rex4 i).ledger = t.ledger.push := by
  unfold pushFrameBy pushFrame
  split <;> exact ledger_pushFrameWithLimit _ i

theorem ledger_popFrame (h : t.Discardable) (success : Bool) :
    (t.popFrame success).ledger = t.ledger.pop success := by
  obtain ⟨tx, stack⟩ := t
  match stack with
  | [] => rfl
  | [e] =>
    have hp := h e (by simp)
    cases success with
    | true => simp [ledger, popFrame, Ledger.pop, FrameLimitEntry.signed_absorb_true]
    | false => simp [ledger, popFrame, Ledger.pop, FrameLimitEntry.absorb_failed hp]
  | e :: p :: rest =>
    have hp := h e (by simp)
    cases success with
    | true => simp [ledger, popFrame, Ledger.pop, FrameLimitEntry.signed_absorb_true]
    | false => simp [ledger, popFrame, Ledger.pop, FrameLimitEntry.absorb_failed hp]

theorem ledger_modifyFrame (hne : t.frameStack ≠ []) {f : FrameLimitEntry ι → FrameLimitEntry ι}
    {amount : ℤ} (hf : ∀ e, (f e).signed = e.signed + amount) :
    (t.modifyFrame f).ledger = t.ledger.post amount := by
  obtain ⟨tx, stack⟩ := t
  cases stack with
  | nil => exact absurd rfl hne
  | cons e rest => simp [ledger, modifyFrame, Ledger.post, hf]

theorem ledger_recordDiscardable (hne : t.frameStack ≠ []) (n : ℕ) :
    (t.recordDiscardable n).ledger = t.ledger.post n := by
  apply ledger_modifyFrame hne
  intro e
  simp only [FrameLimitEntry.signed, FrameLimitEntry.used]
  push_cast
  ring

theorem ledger_recordRefund (hne : t.frameStack ≠ []) (n : ℕ) :
    (t.recordRefund n).ledger = t.ledger.post (-n) := by
  apply ledger_modifyFrame hne
  intro e
  simp only [FrameLimitEntry.signed, FrameLimitEntry.used]
  push_cast
  ring

end FrameLimitTracker

namespace AccountTracker

open FrameLimitTracker

variable {t : AccountTracker}

def slotAmount (r : SStoreResult) : ℤ :=
  (if r.newValue = r.originalValue then 0 else 1) -
    (if r.presentValue = r.originalValue then 0 else 1)

theorem ledger_afterSstoreBy (hne : t.frameStack ≠ []) (unit : ℕ) (r : SStoreResult) :
    (afterSstoreBy unit t r).ledger = t.ledger.post (unit * slotAmount r) := by
  unfold afterSstoreBy slotAmount SStoreResult.isOriginalEqPresent SStoreResult.isOriginalEqNew
  by_cases hp : r.presentValue = r.originalValue
  · by_cases hn : r.newValue = r.originalValue
    · simp [hp, hn, Ledger.post_zero]
    · have hn' : ¬ r.originalValue = r.newValue := fun h => hn h.symm
      simp [hp, hn, hn', ledger_recordDiscardable hne]
  · have hp' : ¬ r.originalValue = r.presentValue := fun h => hp h.symm
    by_cases hn : r.newValue = r.originalValue
    · simp [hp', hp, hn, ledger_recordRefund hne]
    · have hn' : ¬ r.originalValue = r.newValue := fun h => hn h.symm
      simp [hp', hp, hn, hn', Ledger.post_zero]

end AccountTracker

namespace StateGrowthTracker

open FrameLimitTracker

variable {t : StateGrowthTracker}

def slotAmount (r : SStoreResult) : ℤ :=
  if r.originalValue = 0 then
    (if r.newValue = 0 then 0 else 1) - (if r.presentValue = 0 then 0 else 1)
  else 0

theorem ledger_afterSstore (hne : t.frameStack ≠ []) (r : SStoreResult) :
    (afterSstore t r).ledger = t.ledger.post (slotAmount r) := by
  have hcharge := ledger_recordDiscardable hne 1
  have hrefund := ledger_recordRefund hne 1
  obtain ⟨original, present, new⟩ := r
  cases original with
  | succ => simp [afterSstore, slotAmount, Ledger.post_zero]
  | zero =>
    cases present with
    | zero =>
      cases new with
      | zero => simp [afterSstore, slotAmount, Ledger.post_zero]
      | succ => simpa [afterSstore, slotAmount] using hcharge
    | succ =>
      cases new with
      | zero => simpa [afterSstore, slotAmount] using hrefund
      | succ => simp [afterSstore, slotAmount, Ledger.post_zero]

end StateGrowthTracker

end MegaEvm
