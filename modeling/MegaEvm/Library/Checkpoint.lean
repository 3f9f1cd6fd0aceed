import Mathlib.Algebra.BigOperators.Group.List.Basic
import Mathlib.Algebra.BigOperators.Ring.List
import Mathlib.Tactic.Ring

/-!
# A ledger under checkpoints

A level that can be rolled back to a checkpoint, and a ledger of it: every frame
above a checkpoint holds what was posted since, and takes it along when the
checkpoint is rolled back. `Slack D` says of the ledger and the level, now and at
every open checkpoint, that their difference meets `D`: that it is zero, say, or
that it is not negative. A posting that keeps `D` where it is made keeps it
everywhere.
-/

set_option autoImplicit false

namespace Checkpoint

/-- `base` was posted outside of every frame; the newest frame comes first. -/
structure Ledger where
  base : ℤ
  frames : List ℤ
  deriving DecidableEq, Repr

namespace Ledger

def total (l : Ledger) : ℤ := l.base + l.frames.sum

def push (l : Ledger) : Ledger := { l with frames := 0 :: l.frames }

def pop (l : Ledger) (keep : Bool) : Ledger :=
  match l.frames with
  | [] => l
  | [a] => ⟨l.base + if keep then a else 0, []⟩
  | a :: parent :: rest => { l with frames := (parent + if keep then a else 0) :: rest }

def post (l : Ledger) (amount : ℤ) : Ledger :=
  match l.frames with
  | [] => { l with base := l.base + amount }
  | a :: rest => { l with frames := (a + amount) :: rest }

instance : Sub Ledger :=
  ⟨fun l l' => ⟨l.base - l'.base, List.zipWith (· - ·) l.frames l'.frames⟩⟩

theorem sub_def (l l' : Ledger) :
    l - l' = ⟨l.base - l'.base, List.zipWith (· - ·) l.frames l'.frames⟩ := rfl

section Sub

variable {l l' : Ledger}

theorem push_sub_push (l l' : Ledger) : l.push - l'.push = (l - l').push := by
  simp [sub_def, push]

theorem post_sub_post (h : l.frames.length = l'.frames.length) (a b : ℤ) :
    l.post a - l'.post b = (l - l').post (a - b) := by
  obtain ⟨base, frames⟩ := l
  obtain ⟨base', frames'⟩ := l'
  match frames, frames' with
  | [], [] =>
    simp only [sub_def, post, List.zipWith_nil_left, mk.injEq, and_true]
    ring
  | x :: xs, y :: ys =>
    simp only [sub_def, post, List.zipWith_cons_cons, mk.injEq, List.cons.injEq, and_true,
      true_and]
    ring
  | [], _ :: _ => cases h
  | _ :: _, [] => cases h

theorem pop_sub_pop (h : l.frames.length = l'.frames.length) (keep : Bool) :
    l.pop keep - l'.pop keep = (l - l').pop keep := by
  obtain ⟨base, frames⟩ := l
  obtain ⟨base', frames'⟩ := l'
  match frames, frames' with
  | [], [] => rfl
  | [x], [y] =>
    cases keep with
    | true =>
      simp only [sub_def, pop, List.zipWith_cons_cons, List.zipWith_nil_left, if_true, mk.injEq,
        and_true]
      ring
    | false => simp [sub_def, pop]
  | x :: p :: xs, y :: q :: ys =>
    cases keep with
    | true =>
      simp only [sub_def, pop, List.zipWith_cons_cons, if_true, mk.injEq, List.cons.injEq,
        and_true, true_and]
      ring
    | false => simp [sub_def, pop]
  | [], _ :: _ => cases h
  | _ :: _, [] => cases h
  | [_], _ :: _ :: _ => simp at h
  | _ :: _ :: _, [_] => simp at h

theorem total_sub (h : l.frames.length = l'.frames.length) :
    (l - l').total = l.total - l'.total := by
  have hsum : ∀ xs ys : List ℤ, xs.length = ys.length →
      (List.zipWith (· - ·) xs ys).sum = xs.sum - ys.sum := by
    intro xs
    induction xs with
    | nil =>
      intro ys hlen
      obtain rfl : ys = [] := List.eq_nil_of_length_eq_zero hlen.symm
      simp
    | cons x xs ih =>
      intro ys hlen
      cases ys with
      | nil => cases hlen
      | cons y ys =>
        have hrest := ih ys (by simpa using hlen)
        simp only [List.zipWith_cons_cons, List.sum_cons, hrest]
        ring
  simp only [sub_def, total, hsum _ _ h]
  ring

end Sub

theorem post_zero (l : Ledger) : l.post 0 = l := by
  obtain ⟨base, frames⟩ := l
  cases frames <;> simp [post]

def scale (c : ℤ) (l : Ledger) : Ledger := ⟨c * l.base, l.frames.map (c * ·)⟩

section Scale

variable (c : ℤ) (l : Ledger)

theorem length_scale : (l.scale c).frames.length = l.frames.length := by
  simp [scale]

theorem scale_push : l.push.scale c = (l.scale c).push := by
  simp [scale, push]

theorem scale_post (amount : ℤ) : (l.post amount).scale c = (l.scale c).post (c * amount) := by
  obtain ⟨base, frames⟩ := l
  cases frames with
  | nil => simp [scale, post, mul_add]
  | cons a rest => simp [scale, post, mul_add]

theorem scale_pop (keep : Bool) : (l.pop keep).scale c = (l.scale c).pop keep := by
  obtain ⟨base, frames⟩ := l
  cases frames with
  | nil => rfl
  | cons a rest =>
    cases rest with
    | nil => cases keep <;> simp [scale, pop, mul_add]
    | cons parent rest => cases keep <;> simp [scale, pop, mul_add]

theorem total_scale : (l.scale c).total = c * l.total := by
  have hsum := List.sum_map_mul_left l.frames id c
  rw [List.map_id] at hsum
  show c * l.base + (l.frames.map (c * ·)).sum = c * (l.base + l.frames.sum)
  rw [mul_add, ← hsum]
  rfl

end Scale

end Ledger

/-- What is posted minus the level, for the level and for that at every checkpoint. -/
def SlackFrom (D : ℤ → Prop) (base : ℤ) : List ℤ → List ℤ → ℤ → Prop
  | [], [], level => D (base - level)
  | a :: rest, opened :: checkpoints, level =>
    D (base + (a :: rest).sum - level) ∧ SlackFrom D base rest checkpoints opened
  | _, _, _ => False

/-- `checkpoints` are the levels at the open checkpoints, the newest first. -/
def Ledger.Slack (D : ℤ → Prop) (l : Ledger) (checkpoints : List ℤ) (level : ℤ) : Prop :=
  SlackFrom D l.base l.frames checkpoints level

namespace Ledger

variable {D : ℤ → Prop} {l : Ledger} {checkpoints : List ℤ} {level opened : ℤ}

theorem Slack.length (h : l.Slack D checkpoints level) :
    l.frames.length = checkpoints.length := by
  obtain ⟨base, frames⟩ := l
  have hgen : ∀ frames checkpoints level, SlackFrom D base frames checkpoints level →
      frames.length = checkpoints.length := by
    intro frames
    induction frames with
    | nil =>
      intro checkpoints level h
      cases checkpoints with
      | nil => rfl
      | cons => exact h.elim
    | cons a rest ih =>
      intro checkpoints level h
      cases checkpoints with
      | nil => exact h.elim
      | cons opened checkpoints => simp [ih _ _ h.2]
  exact hgen _ _ _ h

theorem Slack.total (h : l.Slack D checkpoints level) : D (l.total - level) := by
  obtain ⟨base, frames⟩ := l
  match frames, checkpoints with
  | [], [] =>
    have hd : D (base - level) := h
    simpa [Ledger.total] using hd
  | a :: rest, opened :: checkpoints => exact h.1
  | [], _ :: _ => exact h.elim
  | _ :: _, [] => exact h.elim

theorem Slack.push (h : l.Slack D checkpoints level) :
    l.push.Slack D (level :: checkpoints) level := by
  refine ⟨?_, h⟩
  have hd := h.total
  have htotal : l.base + (0 :: l.frames).sum = l.total := by
    simp [Ledger.total]
  rw [← htotal] at hd
  exact hd

/-- What a kept frame posted goes to the frame below; what a dropped one posted goes
with the level it was posted for. -/
theorem Slack.pop (h : l.Slack D (opened :: checkpoints) level) (keep : Bool) :
    (l.pop keep).Slack D checkpoints (if keep then level else opened) := by
  obtain ⟨base, frames⟩ := l
  match frames, checkpoints with
  | [], _ => exact h.elim
  | [a], [] =>
    obtain ⟨hd, hbelow⟩ := h
    cases keep with
    | true =>
      show D (base + a - level)
      simpa using hd
    | false =>
      show D (base + 0 - opened)
      rw [add_zero]
      exact hbelow
  | [a], _ :: _ => exact h.2.elim
  | a :: parent :: rest, [] => exact h.2.elim
  | a :: parent :: rest, o :: checkpoints =>
    obtain ⟨hd, hbelow⟩ := h
    cases keep with
    | true =>
      refine ⟨?_, hbelow.2⟩
      have hsum : base + (a :: parent :: rest).sum = base + ((parent + a) :: rest).sum := by
        simp only [List.sum_cons]
        ring
      rw [hsum] at hd
      exact hd
    | false =>
      have hparent : parent + (if false = true then a else 0) = parent := by simp
      simp only [Ledger.pop, hparent]
      exact hbelow

theorem Slack.post (h : l.Slack D checkpoints level) {gain amount : ℤ}
    (hpost : ∀ x, D x → D (x + (amount - gain))) :
    (l.post amount).Slack D checkpoints (level + gain) := by
  obtain ⟨base, frames⟩ := l
  match frames, checkpoints with
  | [], [] =>
    have hd := hpost _ h
    show D (base + amount - (level + gain))
    have heq : base + amount - (level + gain) = base - level + (amount - gain) := by ring
    rwa [heq]
  | a :: rest, o :: checkpoints =>
    obtain ⟨hd, hbelow⟩ := h
    refine ⟨?_, hbelow⟩
    have hnew := hpost _ hd
    have heq : base + ((a + amount) :: rest).sum - (level + gain) =
        base + (a :: rest).sum - level + (amount - gain) := by
      simp only [List.sum_cons]
      ring
    rw [← heq] at hnew
    exact hnew
  | [], _ :: _ => exact h.elim
  | _ :: _, [] => exact h.elim

end Ledger

end Checkpoint
