import MegaEvm.LimitCheck
import Mathlib.Data.List.Chain

/-!
# The frame-aware limit tracker

One entry per open call frame above an entry for the transaction itself. A
child receives 98/100 of its parent's remaining budget, and its usage is
merged into the parent when it is popped. The top of the stack is the head of
the list.

Two facts carry every later result about budgets. A child's budget fits into
what its parent has left, so a child that stayed within its budget cannot push
the parent over its own. And a failed child takes its discardable usage and
its refunds with it, so popping it restores the usage its parent had.
-/

set_option autoImplicit false

namespace MegaEvm

structure CallFrameInfo where
  targetAddress : Option Address
  targetUpdated : Bool
  deriving DecidableEq, Repr

structure FrameLimitEntry (ι : Type) where
  limit : ℕ
  persistentUsage : ℕ
  discardableUsage : ℕ
  refund : ℕ
  info : ι
  deriving DecidableEq, Repr

namespace FrameLimitEntry

variable {ι : Type}

def new (limit : ℕ) (info : ι) : FrameLimitEntry ι := ⟨limit, 0, 0, 0, info⟩

def used (e : FrameLimitEntry ι) : ℕ := e.persistentUsage + e.discardableUsage

def remaining (e : FrameLimitEntry ι) : ℕ := e.limit - (e.used - e.refund)

def net (e : FrameLimitEntry ι) : ℕ := e.used - e.refund

def Within (e : FrameLimitEntry ι) : Prop := e.net ≤ e.limit

instance (e : FrameLimitEntry ι) : Decidable e.Within := by
  unfold Within
  infer_instance

/-- What `pop_frame` adds to the entry below. -/
def absorb {κ : Type} (parent : FrameLimitEntry κ) (child : FrameLimitEntry ι)
    (success : Bool) : FrameLimitEntry κ :=
  { parent with
    persistentUsage := parent.persistentUsage + child.persistentUsage
    discardableUsage := parent.discardableUsage + if success then child.discardableUsage else 0
    refund := parent.refund + if success then child.refund else 0 }

@[simp] theorem new_limit (l : ℕ) (i : ι) : (new l i).limit = l := rfl
@[simp] theorem new_used (l : ℕ) (i : ι) : (new l i).used = 0 := rfl
@[simp] theorem new_net (l : ℕ) (i : ι) : (new l i).net = 0 := rfl
@[simp] theorem new_refund (l : ℕ) (i : ι) : (new l i).refund = 0 := rfl
@[simp] theorem absorb_limit {κ : Type} (p : FrameLimitEntry κ) (c : FrameLimitEntry ι)
    (b : Bool) : (p.absorb c b).limit = p.limit := rfl

theorem new_within (l : ℕ) (i : ι) : (new l i).Within := Nat.zero_le _

theorem remaining_eq (e : FrameLimitEntry ι) : e.remaining = e.limit - e.net := rfl

theorem absorb_within {κ : Type} {p : FrameLimitEntry κ} {c : FrameLimitEntry ι}
    (hp : p.Within) (hfit : c.limit ≤ p.remaining) (hc : c.Within) :
    (p.absorb c true).Within := by
  simp only [Within, net, used, remaining, absorb, if_true] at *
  omega

theorem absorb_failed {κ : Type} {p : FrameLimitEntry κ} {c : FrameLimitEntry ι}
    (hc : c.persistentUsage = 0) : p.absorb c false = p := by
  simp [absorb, hc]

end FrameLimitEntry

structure FrameLimitTracker (ι : Type) where
  txEntry : FrameLimitEntry Unit
  frameStack : List (FrameLimitEntry ι)
  deriving DecidableEq, Repr

namespace FrameLimitTracker

variable {ι : Type}

def new (txLimit : ℕ) : FrameLimitTracker ι := ⟨.new txLimit (), []⟩

def txLimit (t : FrameLimitTracker ι) : ℕ := t.txEntry.limit

def reset (t : FrameLimitTracker ι) : FrameLimitTracker ι := ⟨.new t.txEntry.limit (), []⟩

def currentFrameRemaining (t : FrameLimitTracker ι) : ℕ :=
  match t.frameStack with
  | e :: _ => e.remaining
  | [] => t.txEntry.remaining

def maxForwardLimit (t : FrameLimitTracker ι) : ℕ :=
  match t.frameStack with
  | e :: _ => e.remaining * constants.FRAME_LIMIT_NUMERATOR / constants.FRAME_LIMIT_DENOMINATOR
  | [] => t.txEntry.limit

def pushFrameWithLimit (t : FrameLimitTracker ι) (limit : ℕ) (info : ι) : FrameLimitTracker ι :=
  { t with frameStack := .new limit info :: t.frameStack }

def pushFrame (t : FrameLimitTracker ι) (info : ι) : FrameLimitTracker ι :=
  t.pushFrameWithLimit t.maxForwardLimit info

def popFrame (t : FrameLimitTracker ι) (success : Bool) : FrameLimitTracker ι :=
  match t.frameStack with
  | [] => t
  | [child] => { txEntry := t.txEntry.absorb child success, frameStack := [] }
  | child :: parent :: rest => { t with frameStack := parent.absorb child success :: rest }

def exceedsCurrentFrameLimit (t : FrameLimitTracker ι) (kind : LimitKind) : LimitCheck :=
  match t.frameStack with
  | e :: _ => if e.used - e.refund > e.limit
      then .exceedsLimit kind e.limit e.used true else .withinLimit
  | [] => .withinLimit

/-- `tx_mut`. -/
def modifyTx (t : FrameLimitTracker ι) (f : FrameLimitEntry Unit → FrameLimitEntry Unit) :
    FrameLimitTracker ι :=
  { t with txEntry := f t.txEntry }

/-- `frame_mut`: without an open frame nothing is recorded. -/
def modifyFrame (t : FrameLimitTracker ι) (f : FrameLimitEntry ι → FrameLimitEntry ι) :
    FrameLimitTracker ι :=
  match t.frameStack with
  | e :: rest => { t with frameStack := f e :: rest }
  | [] => t

def hasActiveFrame (t : FrameLimitTracker ι) : Bool := !t.frameStack.isEmpty

def totalUsed (t : FrameLimitTracker ι) : ℕ :=
  t.txEntry.used + (t.frameStack.map (·.used)).sum

def totalRefund (t : FrameLimitTracker ι) : ℕ :=
  t.txEntry.refund + (t.frameStack.map (·.refund)).sum

def netUsage (t : FrameLimitTracker ι) : ℕ := t.totalUsed - t.totalRefund

def recordDiscardable (t : FrameLimitTracker ι) (n : ℕ) : FrameLimitTracker ι :=
  t.modifyFrame fun e => { e with discardableUsage := e.discardableUsage + n }

def recordRefund (t : FrameLimitTracker ι) (n : ℕ) : FrameLimitTracker ι :=
  t.modifyFrame fun e => { e with refund := e.refund + n }

def budgets (t : FrameLimitTracker ι) : List ℕ := t.frameStack.map (·.limit)

def height (t : FrameLimitTracker ι) : ℕ := t.frameStack.length

section Shape

theorem length_budgets (t : FrameLimitTracker ι) : t.budgets.length = t.height := by
  simp [budgets, height]

@[simp] theorem budgets_pushFrameWithLimit (t : FrameLimitTracker ι) (l : ℕ) (i : ι) :
    (t.pushFrameWithLimit l i).budgets = l :: t.budgets := rfl

@[simp] theorem budgets_popFrame (t : FrameLimitTracker ι) (b : Bool) :
    (t.popFrame b).budgets = t.budgets.tail := by
  unfold popFrame budgets
  split <;> simp_all

theorem budgets_modifyFrame (t : FrameLimitTracker ι)
    {f : FrameLimitEntry ι → FrameLimitEntry ι} (hf : ∀ e, (f e).limit = e.limit) :
    (t.modifyFrame f).budgets = t.budgets := by
  unfold modifyFrame budgets
  split
  · next e rest h => simp [h, hf]
  · rfl

@[simp] theorem budgets_recordDiscardable (t : FrameLimitTracker ι) (n : ℕ) :
    (t.recordDiscardable n).budgets = t.budgets := budgets_modifyFrame t fun _ => rfl

@[simp] theorem budgets_recordRefund (t : FrameLimitTracker ι) (n : ℕ) :
    (t.recordRefund n).budgets = t.budgets := budgets_modifyFrame t fun _ => rfl

@[simp] theorem txLimit_pushFrameWithLimit (t : FrameLimitTracker ι) (l : ℕ) (i : ι) :
    (t.pushFrameWithLimit l i).txLimit = t.txLimit := rfl

@[simp] theorem txLimit_popFrame (t : FrameLimitTracker ι) (b : Bool) :
    (t.popFrame b).txLimit = t.txLimit := by
  unfold popFrame
  split <;> rfl

@[simp] theorem txLimit_modifyFrame (t : FrameLimitTracker ι)
    (f : FrameLimitEntry ι → FrameLimitEntry ι) : (t.modifyFrame f).txLimit = t.txLimit := by
  unfold modifyFrame
  split <;> rfl

theorem hasActiveFrame_iff (t : FrameLimitTracker ι) :
    t.hasActiveFrame = true ↔ 0 < t.height := by
  unfold hasActiveFrame height
  cases t.frameStack <;> simp

end Shape

section Usage

@[simp] theorem netUsage_pushFrameWithLimit (t : FrameLimitTracker ι) (l : ℕ) (i : ι) :
    (t.pushFrameWithLimit l i).netUsage = t.netUsage := by
  simp [netUsage, totalUsed, totalRefund, pushFrameWithLimit]

@[simp] theorem netUsage_pushFrame (t : FrameLimitTracker ι) (i : ι) :
    (t.pushFrame i).netUsage = t.netUsage := netUsage_pushFrameWithLimit _ _ _

theorem netUsage_popFrame_true (t : FrameLimitTracker ι) :
    (t.popFrame true).netUsage = t.netUsage := by
  unfold popFrame
  split
  case h_1 => rfl
  case h_2 child h =>
    simp only [netUsage, totalUsed, totalRefund, FrameLimitEntry.used, FrameLimitEntry.absorb,
      h, List.map_cons, List.map_nil, List.sum_cons, List.sum_nil, if_true]
    omega
  case h_3 child parent rest h =>
    simp only [netUsage, totalUsed, totalRefund, FrameLimitEntry.used, FrameLimitEntry.absorb,
      h, List.map_cons, List.sum_cons, if_true]
    omega

end Usage

section Budget

def TopWithin (t : FrameLimitTracker ι) : Prop := ∀ e ∈ t.frameStack.head?, e.Within

instance (t : FrameLimitTracker ι) : Decidable t.TopWithin :=
  match h : t.frameStack with
  | [] => isTrue (by simp [TopWithin, h])
  | e :: _ => decidable_of_iff e.Within (by simp [TopWithin, h])

/-- Every waiting frame is within its budget, and the budget of the frame above
it fits into what it has left. -/
def Nested (t : FrameLimitTracker ι) : Prop :=
  t.frameStack.IsChain fun child parent => child.limit ≤ parent.remaining ∧ parent.Within

theorem exceedsCurrentFrameLimit_eq_within (t : FrameLimitTracker ι) (kind : LimitKind) :
    t.exceedsCurrentFrameLimit kind = .withinLimit ↔ t.TopWithin := by
  unfold exceedsCurrentFrameLimit TopWithin FrameLimitEntry.Within FrameLimitEntry.net
  cases t.frameStack with
  | nil => simp
  | cons e rest => simp

theorem exceedsCurrentFrameLimit_eq_exceeds {t : FrameLimitTracker ι} {kind k : LimitKind}
    {l u : ℕ} {b : Bool} (h : t.exceedsCurrentFrameLimit kind = .exceedsLimit k l u b) :
    k = kind ∧ b = true ∧ ∃ e rest, t.frameStack = e :: rest ∧ e.limit = l ∧ l < e.net := by
  unfold exceedsCurrentFrameLimit at h
  cases ht : t.frameStack with
  | nil => simp [ht] at h
  | cons e rest =>
    simp only [ht] at h
    split at h
    case isTrue hgt =>
      simp only [LimitCheck.exceedsLimit.injEq] at h
      obtain ⟨rfl, rfl, -, rfl⟩ := h
      exact ⟨rfl, rfl, e, rest, rfl, rfl, hgt⟩
    case isFalse => simp at h

theorem maxForwardLimit_le (e : FrameLimitEntry ι) (rest : List (FrameLimitEntry ι))
    (tx : FrameLimitEntry Unit) :
    maxForwardLimit ⟨tx, e :: rest⟩ ≤ e.remaining := by
  simp only [maxForwardLimit, constants.FRAME_LIMIT_NUMERATOR, constants.FRAME_LIMIT_DENOMINATOR]
  omega

theorem topWithin_pushFrame (t : FrameLimitTracker ι) (i : ι) : (t.pushFrame i).TopWithin := by
  simp [TopWithin, pushFrame, pushFrameWithLimit, FrameLimitEntry.new_within]

theorem Nested.pushFrame {t : FrameLimitTracker ι} (h : t.Nested) (htop : t.TopWithin) (i : ι) :
    (t.pushFrame i).Nested := by
  obtain ⟨tx, stack⟩ := t
  cases stack with
  | nil => simp [Nested, FrameLimitTracker.pushFrame, pushFrameWithLimit]
  | cons e rest =>
    simp only [Nested, FrameLimitTracker.pushFrame, pushFrameWithLimit,
      List.isChain_cons_cons, FrameLimitEntry.new_limit]
    exact ⟨⟨maxForwardLimit_le e rest tx, htop e rfl⟩, h⟩

theorem Nested.modifyFrame {t : FrameLimitTracker ι} (h : t.Nested)
    {f : FrameLimitEntry ι → FrameLimitEntry ι} (hf : ∀ e, (f e).limit = e.limit) :
    (t.modifyFrame f).Nested := by
  obtain ⟨tx, stack⟩ := t
  match stack with
  | [] => exact h
  | [e] => simp [Nested, FrameLimitTracker.modifyFrame]
  | e :: p :: rest =>
    simp only [Nested, FrameLimitTracker.modifyFrame, List.isChain_cons_cons, hf] at h ⊢
    exact h

theorem Nested.popFrame {t : FrameLimitTracker ι} (h : t.Nested) (b : Bool) :
    (t.popFrame b).Nested := by
  obtain ⟨tx, stack⟩ := t
  match stack with
  | [] => exact h
  | [e] => simp [Nested, FrameLimitTracker.popFrame]
  | [e, p] => simp [Nested, FrameLimitTracker.popFrame]
  | e :: p :: g :: rest =>
    simp only [Nested, FrameLimitTracker.popFrame, List.isChain_cons_cons,
      FrameLimitEntry.absorb_limit] at h ⊢
    exact h.2

theorem Nested.topWithin_popFrame_true {t : FrameLimitTracker ι} (h : t.Nested)
    (htop : t.TopWithin) : (t.popFrame true).TopWithin := by
  obtain ⟨tx, stack⟩ := t
  match stack with
  | [] => exact htop
  | [e] => simp [TopWithin, FrameLimitTracker.popFrame]
  | e :: p :: rest =>
    simp only [Nested, List.isChain_cons_cons] at h
    have hp := FrameLimitEntry.absorb_within h.1.2 h.1.1 (htop e rfl)
    simpa [TopWithin, FrameLimitTracker.popFrame] using hp

theorem Nested.topWithin_popFrame_false {t : FrameLimitTracker ι} (h : t.Nested)
    (hd : ∀ e ∈ t.frameStack, e.persistentUsage = 0) : (t.popFrame false).TopWithin := by
  obtain ⟨tx, stack⟩ := t
  match stack with
  | [] => simp [TopWithin, FrameLimitTracker.popFrame]
  | [e] => simp [TopWithin, FrameLimitTracker.popFrame]
  | e :: p :: rest =>
    simp only [Nested, List.isChain_cons_cons] at h
    simp only [TopWithin, FrameLimitTracker.popFrame, List.head?_cons, Option.mem_some_iff,
      forall_eq']
    rw [FrameLimitEntry.absorb_failed (hd e (by simp))]
    exact h.1.2

end Budget

section Floor

/-- Without the newest frame, and without any more of the newest frames, the
transaction was within its limit. -/
def Floors (tx : FrameLimitEntry Unit) : List (FrameLimitEntry ι) → Prop
  | [] => True
  | _ :: rest => netUsage ⟨tx, rest⟩ ≤ tx.limit ∧ Floors tx rest

def TxWithin (t : FrameLimitTracker ι) : Prop := t.netUsage ≤ t.txLimit

instance (t : FrameLimitTracker ι) : Decidable t.TxWithin := by
  unfold TxWithin
  infer_instance

theorem floors_pushFrameWithLimit {t : FrameLimitTracker ι} (h : Floors t.txEntry t.frameStack)
    (hw : t.TxWithin) (l : ℕ) (i : ι) :
    Floors (t.pushFrameWithLimit l i).txEntry (t.pushFrameWithLimit l i).frameStack :=
  ⟨hw, h⟩

theorem floors_modifyFrame {t : FrameLimitTracker ι} (h : Floors t.txEntry t.frameStack)
    (f : FrameLimitEntry ι → FrameLimitEntry ι) :
    Floors (t.modifyFrame f).txEntry (t.modifyFrame f).frameStack := by
  obtain ⟨tx, stack⟩ := t
  cases stack with
  | nil => exact h
  | cons e rest => exact h

theorem floors_popFrame {t : FrameLimitTracker ι} (h : Floors t.txEntry t.frameStack) (b : Bool) :
    Floors (t.popFrame b).txEntry (t.popFrame b).frameStack := by
  obtain ⟨tx, stack⟩ := t
  match stack with
  | [] => exact h
  | [e] => trivial
  | e :: p :: rest => exact h.2

theorem txWithin_popFrame_true {t : FrameLimitTracker ι} (h : t.TxWithin) :
    (t.popFrame true).TxWithin := by
  rw [TxWithin, netUsage_popFrame_true, txLimit_popFrame]
  exact h

theorem txWithin_popFrame_false {t : FrameLimitTracker ι} (h : Floors t.txEntry t.frameStack)
    (hd : ∀ e ∈ t.frameStack, e.persistentUsage = 0) (hne : t.frameStack ≠ []) :
    (t.popFrame false).TxWithin := by
  obtain ⟨tx, stack⟩ := t
  match stack with
  | [] => exact absurd rfl hne
  | [e] =>
    have he : tx.absorb e false = tx := FrameLimitEntry.absorb_failed (hd e (by simp))
    simpa [TxWithin, FrameLimitTracker.popFrame, he, netUsage, totalUsed, totalRefund,
      txLimit] using h.1
  | e :: p :: rest =>
    have he : p.absorb e false = p := FrameLimitEntry.absorb_failed (hd e (by simp))
    simpa [TxWithin, FrameLimitTracker.popFrame, he, txLimit] using h.1

end Floor

section Discardable

/-- Frames of this tracker only ever record discardable usage and refunds. -/
def Discardable (t : FrameLimitTracker ι) : Prop := ∀ e ∈ t.frameStack, e.persistentUsage = 0

theorem Discardable.pushFrameWithLimit {t : FrameLimitTracker ι} (h : t.Discardable)
    (l : ℕ) (i : ι) : (t.pushFrameWithLimit l i).Discardable := by
  intro e he
  rcases List.mem_cons.1 he with rfl | he
  · rfl
  · exact h e he

theorem Discardable.modifyFrame {t : FrameLimitTracker ι} (h : t.Discardable)
    {f : FrameLimitEntry ι → FrameLimitEntry ι}
    (hf : ∀ e, (f e).persistentUsage = e.persistentUsage) : (t.modifyFrame f).Discardable := by
  obtain ⟨tx, stack⟩ := t
  cases stack with
  | nil => exact h
  | cons e rest =>
    intro e' he'
    rcases List.mem_cons.1 he' with rfl | he'
    · rw [hf]
      exact h e (by simp)
    · exact h e' (by simp [he'])

theorem Discardable.popFrame {t : FrameLimitTracker ι} (h : t.Discardable) (b : Bool) :
    (t.popFrame b).Discardable := by
  obtain ⟨tx, stack⟩ := t
  match stack with
  | [] => exact h
  | [e] =>
    intro e' he'
    simp [FrameLimitTracker.popFrame] at he'
  | e :: p :: rest =>
    intro e' he'
    rcases List.mem_cons.1 he' with rfl | he'
    · have h1 := h e (by simp)
      have h2 := h p (by simp)
      simp [FrameLimitEntry.absorb, h1, h2]
    · exact h e' (by simp [he'])

end Discardable

end FrameLimitTracker

end MegaEvm
