import MegaEvm.FrameLimit
import MegaEvm.Library.Run

/-!
# Nested budgets bound the transaction

From the last spec on no tracker with discardable usage compares the usage of
the whole transaction with its limit: a frame is compared with the budget it
was given when it was pushed, and nothing else is. While every open frame stays
within that budget, the budgets below it have room for it, so the usage of all
open frames together fits into the limit of the transaction.
-/

set_option autoImplicit false

namespace MegaEvm

namespace FrameLimitTracker

variable {ι : Type}

inductive FrameOp (ι : Type) where
  | push (info : ι)
  | record (n : ℕ)
  | refund (n : ℕ)
  | pop (success : Bool)
  deriving DecidableEq, Repr

def apply (t : FrameLimitTracker ι) : FrameOp ι → FrameLimitTracker ι
  | .push info => t.pushFrame info
  | .record n => t.recordDiscardable n
  | .refund n => t.recordRefund n
  | .pop success => t.popFrame success

def AllWithin (t : FrameLimitTracker ι) : Prop := ∀ e ∈ t.frameStack, e.Within

instance (t : FrameLimitTracker ι) : Decidable t.AllWithin := by
  unfold AllWithin
  infer_instance

/-- The tracker, how many top-level frames were pushed, and the usage outside of
the newest of them: what the transaction's own entry held when it was pushed. -/
structure Scope (ι : Type) where
  tracker : FrameLimitTracker ι
  topFrames : ℕ
  intrinsic : ℕ
  deriving DecidableEq, Repr

def Scope.start (tx : FrameLimitEntry Unit) : Scope ι := ⟨⟨tx, []⟩, 0, tx.net⟩

def Scope.apply (s : Scope ι) (op : FrameOp ι) : Scope ι :=
  match op, s.tracker.frameStack with
  | .push info, [] => ⟨s.tracker.pushFrame info, s.topFrames + 1, s.tracker.txEntry.net⟩
  | op, _ => { s with tracker := s.tracker.apply op }

def scopeStep (s : Scope ι) (op : FrameOp ι) : Option (Scope ι) := some (s.apply op)

@[simp] theorem Scope.apply_tracker (s : Scope ι) (op : FrameOp ι) :
    (s.apply op).tracker = s.tracker.apply op := by
  unfold Scope.apply
  split <;> rfl

section Sum

/-- What is used above a frame fits into that frame's remainder, hence into the
budget of the lowest frame. The induction moves the lower edge down one frame at
a time and adds that frame's own usage. -/
theorem sum_net_le_bottom (e : FrameLimitEntry ι) (rest : List (FrameLimitEntry ι)) (x : ℕ)
    (hx : x ≤ e.limit)
    (hc : (e :: rest).IsChain fun child parent => child.limit ≤ parent.remaining ∧ parent.Within)
    {b : FrameLimitEntry ι} (hb : b ∈ (e :: rest).getLast?) :
    x + (rest.map (·.net)).sum ≤ b.limit := by
  induction rest generalizing e x with
  | nil =>
    obtain rfl : e = b := by simpa using hb
    simpa using hx
  | cons p rest ih =>
    rw [List.isChain_cons_cons] at hc
    have hroom : x + p.net ≤ p.limit := by
      have hfit := hc.1.1
      have hw := hc.1.2
      rw [FrameLimitEntry.remaining_eq] at hfit
      unfold FrameLimitEntry.Within at hw
      omega
    have hrest := ih p (x + p.net) hroom hc.2 (by simpa using hb)
    rw [List.map_cons, List.sum_cons]
    omega

theorem sum_used_le (l : List (FrameLimitEntry ι)) :
    (l.map (·.used)).sum ≤ (l.map (·.net)).sum + (l.map (·.refund)).sum := by
  induction l with
  | nil => simp
  | cons e l ih =>
    simp only [List.map_cons, List.sum_cons]
    have he : e.used ≤ e.net + e.refund := by
      unfold FrameLimitEntry.net
      omega
    omega

theorem sum_signed_le (l : List (FrameLimitEntry ι)) :
    (l.map fun e => (e.used : ℤ) - e.refund).sum ≤ (l.map (·.net)).sum := by
  induction l with
  | nil => simp
  | cons e l ih =>
    simp only [List.map_cons, List.sum_cons, Nat.cast_add]
    have he : (e.used : ℤ) - e.refund ≤ e.net := by
      unfold FrameLimitEntry.net
      omega
    omega

end Sum

structure Scope.Bounded (limit : ℕ) (s : Scope ι) : Prop where
  limit_eq : s.tracker.txLimit = limit
  nested : s.tracker.Nested
  discardable : s.tracker.Discardable
  within : s.tracker.AllWithin
  bottom : ∀ b ∈ s.tracker.frameStack.getLast?, b.limit = limit
  outside : s.tracker.frameStack ≠ [] → s.tracker.txEntry.net = s.intrinsic
  closed : s.tracker.frameStack = [] → s.tracker.netUsage ≤ s.intrinsic + limit
  first : s.topFrames = 0 → s.tracker.frameStack = []

section Bounded

variable {limit : ℕ} {s : Scope ι}

theorem Scope.Bounded.sum_net_le (h : s.Bounded limit) :
    (s.tracker.frameStack.map (·.net)).sum ≤ limit := by
  have hn := h.nested
  unfold Nested at hn
  cases hs : s.tracker.frameStack with
  | nil => simp
  | cons e rest =>
    rw [hs] at hn
    have hlast : ((e :: rest).getLast (by simp)) ∈ (e :: rest).getLast? := by
      rw [List.getLast?_eq_getLast_of_ne_nil (by simp)]
      rfl
    have he : e.net ≤ e.limit := h.within e (by simp [hs])
    have hsum := sum_net_le_bottom e rest e.net he hn hlast
    have hb := h.bottom
    rw [hs] at hb
    rw [hb _ hlast] at hsum
    simpa using hsum

theorem Scope.Bounded.netUsage_le (h : s.Bounded limit) :
    s.tracker.netUsage ≤ s.intrinsic + limit := by
  by_cases hs : s.tracker.frameStack = []
  · exact h.closed hs
  · have hout := h.outside hs
    have hsum := h.sum_net_le
    have hused := sum_used_le s.tracker.frameStack
    unfold FrameLimitEntry.net at hout
    unfold netUsage totalUsed totalRefund
    omega

theorem Scope.Bounded.allWithin_popFrame (h : s.Bounded limit) (success : Bool) :
    (s.tracker.popFrame success).AllWithin := by
  have hn := h.nested
  have hw := h.within
  have hd := h.discardable
  unfold Nested at hn
  unfold Discardable at hd
  unfold AllWithin popFrame at *
  cases hs : s.tracker.frameStack with
  | nil => simp [hs]
  | cons e rest =>
    rw [hs] at hn hw hd
    cases rest with
    | nil => simp
    | cons p rest =>
      rw [List.isChain_cons_cons] at hn
      have hp : (p.absorb e success).Within := by
        cases success with
        | true => exact FrameLimitEntry.absorb_within hn.1.2 hn.1.1 (hw e (by simp))
        | false =>
          rw [FrameLimitEntry.absorb_failed (hd e (by simp))]
          exact hn.1.2
      intro x hx
      rcases List.mem_cons.1 hx with rfl | hx
      · exact hp
      · exact hw x (by simp [hx])

theorem Scope.bounded_start (tx : FrameLimitEntry Unit) :
    (Scope.start tx : Scope ι).Bounded tx.limit := by
  constructor
  case limit_eq => rfl
  case nested => exact List.isChain_nil
  case closed => exact fun _ => Nat.le_add_right _ _
  case first => exact fun _ => rfl
  all_goals simp [Scope.start, Discardable, AllWithin]

theorem Scope.Bounded.push (h : s.Bounded limit) (info : ι)
    (hw : (s.tracker.pushFrame info).AllWithin) : (s.apply (.push info)).Bounded limit := by
  have hn := h.nested.pushFrame (fun e he => h.within e (List.mem_of_mem_head? he)) info
  have hd := h.discardable.pushFrameWithLimit s.tracker.maxForwardLimit info
  obtain ⟨⟨tx, stack⟩, topFrames, intrinsic⟩ := s
  cases stack with
  | nil =>
    constructor
    case limit_eq => exact h.limit_eq
    case nested => exact hn
    case discardable => exact hd
    case within => exact hw
    case bottom =>
      intro b hb
      have hb' : FrameLimitEntry.new tx.limit info = b := by
        simpa [Scope.apply, pushFrame, pushFrameWithLimit, maxForwardLimit] using hb
      rw [← hb']
      exact h.limit_eq
    case outside => exact fun _ => rfl
    all_goals simp [Scope.apply, pushFrame, pushFrameWithLimit]
  | cons e rest =>
    constructor
    case limit_eq => exact h.limit_eq
    case nested => exact hn
    case discardable => exact hd
    case within => exact hw
    case bottom =>
      intro b hb
      apply h.bottom b
      simpa [Scope.apply, FrameLimitTracker.apply, pushFrame, pushFrameWithLimit] using hb
    case outside => exact fun _ => h.outside (by simp)
    case closed => simp [Scope.apply, FrameLimitTracker.apply, pushFrame, pushFrameWithLimit]
    case first =>
      intro h0
      cases h.first h0

theorem Scope.Bounded.modify (h : s.Bounded limit) {f : FrameLimitEntry ι → FrameLimitEntry ι}
    (hl : ∀ e, (f e).limit = e.limit) (hp : ∀ e, (f e).persistentUsage = e.persistentUsage)
    (hw : (s.tracker.modifyFrame f).AllWithin) :
    Scope.Bounded limit { s with tracker := s.tracker.modifyFrame f } := by
  have hn := h.nested.modifyFrame hl
  have hd := h.discardable.modifyFrame hp
  obtain ⟨⟨tx, stack⟩, topFrames, intrinsic⟩ := s
  cases stack with
  | nil => exact h
  | cons e rest =>
    constructor
    case limit_eq => exact h.limit_eq
    case nested => exact hn
    case discardable => exact hd
    case within => exact hw
    case bottom =>
      have hb := h.bottom
      cases rest with
      | nil => simpa [modifyFrame, hl] using hb
      | cons p rest => simpa [modifyFrame] using hb
    case outside => exact fun _ => h.outside (by simp)
    case closed => simp [modifyFrame]
    case first =>
      intro h0
      cases h.first h0

theorem Scope.Bounded.pop (h : s.Bounded limit) (success : Bool) :
    Scope.Bounded limit { s with tracker := s.tracker.popFrame success } := by
  have hn := h.nested.popFrame success
  have hd := h.discardable.popFrame success
  have hw := h.allWithin_popFrame success
  have hu := h.netUsage_le
  obtain ⟨⟨tx, stack⟩, topFrames, intrinsic⟩ := s
  match stack with
  | [] => exact h
  | [e] =>
    constructor
    case limit_eq => exact h.limit_eq
    case nested => exact hn
    case discardable => exact hd
    case within => exact hw
    case closed =>
      intro _
      cases success with
      | true =>
        rw [netUsage_popFrame_true]
        exact hu
      | false =>
        have hout : tx.net = intrinsic := h.outside (by simp)
        have hsame := FrameLimitEntry.absorb_failed (p := tx) (h.discardable e (by simp))
        simp only [popFrame, hsame, netUsage, totalUsed, totalRefund, List.map_nil, List.sum_nil]
        unfold FrameLimitEntry.net at hout
        omega
    all_goals simp [popFrame]
  | e :: p :: rest =>
    constructor
    case limit_eq => exact h.limit_eq
    case nested => exact hn
    case discardable => exact hd
    case within => exact hw
    case bottom =>
      have hb := h.bottom
      cases rest with
      | nil => simpa [popFrame] using hb
      | cons g rest => simpa [popFrame] using hb
    case outside => exact fun _ => h.outside (by simp)
    case closed => simp [popFrame]
    case first =>
      intro h0
      cases h.first h0

theorem Scope.Bounded.apply (h : s.Bounded limit) {op : FrameOp ι}
    (hw : (s.apply op).tracker.AllWithin) : (s.apply op).Bounded limit := by
  rw [Scope.apply_tracker] at hw
  cases op with
  | push info => exact h.push info hw
  | record n => exact h.modify (fun _ => rfl) (fun _ => rfl) hw
  | refund n => exact h.modify (fun _ => rfl) (fun _ => rfl) hw
  | pop success => exact h.pop success

end Bounded

section Intrinsic

/-- Until a second top-level frame is pushed, what was used outside of the newest
one is the intrinsic usage of the transaction. -/
def Scope.FirstFrame (tx : FrameLimitEntry Unit) (s : Scope ι) : Prop :=
  (s.topFrames = 0 → s.tracker = ⟨tx, []⟩) ∧ (s.topFrames ≤ 1 → s.intrinsic = tx.net)

theorem Scope.FirstFrame.apply {tx : FrameLimitEntry Unit} {s : Scope ι} (h : s.FirstFrame tx)
    (op : FrameOp ι) : (s.apply op).FirstFrame tx := by
  obtain ⟨h0, h1⟩ := h
  constructor
  · intro hn
    cases op with
    | push info =>
      cases hs : s.tracker.frameStack with
      | nil => simp [Scope.apply, hs] at hn
      | cons e rest =>
        simp only [Scope.apply, hs] at hn
        simp [h0 hn] at hs
    | record n => exact congrArg (·.recordDiscardable n) (h0 hn)
    | refund n => exact congrArg (·.recordRefund n) (h0 hn)
    | pop success => exact congrArg (·.popFrame success) (h0 hn)
  · intro hn
    cases op with
    | push info =>
      cases hs : s.tracker.frameStack with
      | nil =>
        simp only [Scope.apply, hs] at hn ⊢
        rw [h0 (by omega)]
      | cons e rest =>
        simp only [Scope.apply, hs] at hn ⊢
        exact h1 hn
    | record n => exact h1 hn
    | refund n => exact h1 hn
    | pop success => exact h1 hn

end Intrinsic

/-- While every open frame stays within the budget it was given, all open frames
together use at most the limit of the transaction, closing a frame keeps its
parent within its own budget, and the transaction uses at most its intrinsic
usage and its limit. -/
theorem nested_budgets_bound_total {tx : FrameLimitEntry Unit} {ops : List (FrameOp ι)}
    {s : Scope ι}
    (hw : Run.Guarded scopeStep (fun s op => (s.apply op).tracker.AllWithin) (.start tx) ops)
    (hr : Run.run scopeStep (.start tx) ops = some s) :
    (s.tracker.frameStack.map fun e => (e.used : ℤ) - e.refund).sum ≤ tx.limit ∧
      (∀ success, (s.tracker.popFrame success).AllWithin) ∧
      s.tracker.netUsage ≤ s.intrinsic + tx.limit ∧ (s.topFrames ≤ 1 → s.intrinsic = tx.net) := by
  have hb : s.Bounded tx.limit := by
    apply Run.invariant (I := Scope.Bounded tx.limit) _ (Scope.bounded_start tx) hw hr
    intro s op s' hI hok hs
    obtain rfl : s.apply op = s' := Option.some.inj hs
    exact hI.apply hok
  have hf : s.FirstFrame tx := by
    apply Run.invariant' (I := Scope.FirstFrame tx) _ ⟨fun _ => rfl, fun _ => rfl⟩ hr
    intro s op s' hI hs
    obtain rfl : s.apply op = s' := Option.some.inj hs
    exact hI.apply op
  have hsum := sum_signed_le s.tracker.frameStack
  have hnet := hb.sum_net_le
  exact ⟨by omega, hb.allWithin_popFrame, hb.netUsage_le, hf.2⟩

/-- A child refunds usage of its parent. -/
def refundingOps : List (FrameOp Unit) :=
  [.push (), .record 40, .push (), .refund 30, .pop true, .pop true]

/-- The usage of both stays within 100. -/
theorem nested_budgets_bound_refund :
    ∃ s, Run.run scopeStep (.start ⟨100, 10, 0, 0, ()⟩) refundingOps = some s ∧
      s.tracker = ⟨⟨100, 10, 40, 30, ()⟩, []⟩ ∧ s.intrinsic = 10 ∧
      s.tracker.netUsage ≤ s.intrinsic + 100 := by
  have hrun : Run.run scopeStep (.start ⟨100, 10, 0, 0, ()⟩) refundingOps =
      some ⟨⟨⟨100, 10, 40, 30, ()⟩, []⟩, 1, 10⟩ := by decide
  have hchecks : Run.checks scopeStep
      (fun (s : Scope Unit) op => decide (s.apply op).tracker.AllWithin)
      (.start ⟨100, 10, 0, 0, ()⟩) refundingOps = true := by decide
  have hbound := nested_budgets_bound_total
    ((Run.guarded_of_checks hchecks).mono fun _ _ => of_decide_eq_true) hrun
  exact ⟨_, hrun, rfl, rfl, hbound.2.2.1⟩

end FrameLimitTracker

end MegaEvm
