import Mathlib.Data.List.Infix
import Mathlib.Data.List.DropRight

/-!
# Splitting a text at a separator

A text is split at the first separator, or at every one, found from the left and
without overlaps. The first separator of a text is the one before which none begins; a
separator whose first letter does not occur in a piece begins nowhere in it.
-/

set_option autoImplicit false

namespace SplitText

variable {α : Type} {sep s a b : List α}

/-! ## Where a separator begins -/

/-- No separator begins in what stands before one. -/
def First (sep a : List α) : Prop := ¬ sep <:+: a ++ sep.dropLast

theorem first_nil (h : sep ≠ []) : First sep [] := by
  intro hinside
  have hle := hinside.length_le
  have hpos := List.length_pos_of_ne_nil h
  simp only [List.nil_append, List.length_dropLast] at hle
  omega

theorem first_cons {c : α} :
    First sep (c :: a) ↔ ¬ sep <+: c :: (a ++ sep.dropLast) ∧ First sep a := by
  simp only [First, List.cons_append, List.infix_cons_iff, not_or]

theorem first_of_notMem {x : α} {t : List α} (h : x ∉ a) : First (x :: t) a := by
  induction a with
  | nil => exact first_nil (List.cons_ne_nil x t)
  | cons c a ih =>
    obtain ⟨hne, hnot⟩ := not_or.1 (mt List.mem_cons.2 h)
    refine first_cons.2 ⟨fun hstarts => hne ?_, ih hnot⟩
    exact (List.cons_prefix_cons.1 hstarts).1

theorem notMem_of_first_singleton {x : α} : First [x] a ↔ x ∉ a := by
  refine ⟨fun h hx => h ?_, first_of_notMem⟩
  obtain ⟨l, r, rfl⟩ := List.append_of_mem hx
  exact ⟨l, r, by simp⟩

theorem prefix_part (h : sep ≠ []) {c : α} (hs : sep <+: c :: (a ++ sep ++ b)) :
    sep <+: c :: (a ++ sep.dropLast) := by
  have hpart : c :: (a ++ sep.dropLast) <+: c :: (a ++ sep ++ b) := by
    refine List.cons_prefix_cons.2 ⟨rfl, ?_⟩
    rw [List.append_assoc]
    refine (List.prefix_append_right_inj a).2 ?_
    exact (List.dropLast_prefix sep).trans (List.prefix_append sep b)
  refine List.prefix_of_prefix_length_le hs hpart ?_
  have hpos := List.length_pos_of_ne_nil h
  simp only [List.length_cons, List.length_append, List.length_dropLast]
  omega

theorem singleton_infix_iff {x : α} : [x] <:+: s ↔ x ∈ s := by
  constructor
  · intro h
    exact h.subset (List.mem_singleton_self x)
  · intro h
    obtain ⟨l, r, rfl⟩ := List.append_of_mem h
    exact ⟨l, r, by simp⟩

theorem not_infix_of_notMem {x : α} {t : List α} (h : x ∉ s) : ¬ (x :: t) <:+: s :=
  fun hinside => h (hinside.subset List.mem_cons_self)

/-! ## Blanks -/

variable {blank : α → Bool}

def trim (blank : α → Bool) (s : List α) : List α := (s.dropWhile blank).rdropWhile blank

theorem trim_of_plain (h : ∀ c ∈ s, blank c = false) : trim blank s = s := by
  have hleft : s.dropWhile blank = s := by
    cases s with
    | nil => rfl
    | cons c cs => rw [List.dropWhile_cons, h c List.mem_cons_self]; rfl
  have hright : s.rdropWhile blank = s := by
    rw [List.rdropWhile_eq_self_iff]
    intro hne hlast
    rw [h _ (List.getLast_mem hne)] at hlast
    exact Bool.false_ne_true hlast
  rw [trim, hleft, hright]

/-! ## The first separator -/

variable [DecidableEq α]

def splitOnce (sep : List α) : List α → Option (List α × List α)
  | [] => none
  | c :: cs =>
    if sep.isPrefixOf (c :: cs) then some ([], (c :: cs).drop sep.length)
    else (splitOnce sep cs).map (Prod.map (c :: ·) id)

/-- The pieces of a text of which `skip` letters still belong to the last separator. -/
def splitFrom (sep : List α) : ℕ → List α → List (List α)
  | _, [] => [[]]
  | skip + 1, _ :: cs => splitFrom sep skip cs
  | 0, c :: cs =>
    if sep.isPrefixOf (c :: cs) then [] :: splitFrom sep (sep.length - 1) cs
    else (splitFrom sep 0 cs).modifyHead (c :: ·)

def split (sep s : List α) : List (List α) := splitFrom sep 0 s

theorem splitOnce_cons_found {c : α} {cs : List α} (h : sep <+: c :: cs) :
    splitOnce sep (c :: cs) = some ([], (c :: cs).drop sep.length) := by
  rw [splitOnce, if_pos (List.isPrefixOf_iff_prefix.2 h)]

theorem splitOnce_cons_passed {c : α} {cs : List α} (h : ¬ sep <+: c :: cs) :
    splitOnce sep (c :: cs) = (splitOnce sep cs).map (Prod.map (c :: ·) id) := by
  rw [splitOnce, if_neg (mt List.isPrefixOf_iff_prefix.1 h)]

theorem splitOnce_eq_some_iff (h : sep ≠ []) :
    splitOnce sep s = some (a, b) ↔ s = a ++ sep ++ b ∧ First sep a := by
  induction s generalizing a with
  | nil =>
    constructor
    · intro hnone
      cases hnone
    · rintro ⟨heq, -⟩
      simp [h] at heq
  | cons c cs ih =>
    by_cases hstarts : sep <+: c :: cs
    · rw [splitOnce_cons_found hstarts]
      obtain ⟨t, ht⟩ := hstarts
      rw [← ht, List.drop_left]
      constructor
      · intro hsome
        obtain ⟨rfl, rfl⟩ := Prod.mk.inj (Option.some.inj hsome)
        exact ⟨rfl, first_nil h⟩
      · rintro ⟨heq, hfirst⟩
        cases a with
        | nil => rw [List.append_cancel_left heq]
        | cons d a =>
          refine absurd (prefix_part (b := b) h ?_) (first_cons.1 hfirst).1
          rw [← List.cons_append, ← List.cons_append, ← heq]
          exact List.prefix_append sep t
    · rw [splitOnce_cons_passed hstarts]
      constructor
      · intro hsome
        obtain ⟨⟨a', b'⟩, hcs, heq⟩ := Option.map_eq_some_iff.1 hsome
        obtain ⟨rfl, rfl⟩ := Prod.mk.inj heq
        obtain ⟨rfl, hfirst⟩ := ih.1 hcs
        refine ⟨rfl, first_cons.2 ⟨fun hp => hstarts ?_, hfirst⟩⟩
        refine hp.trans (List.cons_prefix_cons.2 ⟨rfl, ?_⟩)
        rw [id, List.append_assoc]
        refine (List.prefix_append_right_inj a').2 ?_
        exact (List.dropLast_prefix sep).trans (List.prefix_append sep b')
      · rintro ⟨heq, hfirst⟩
        cases a with
        | nil => exact absurd ⟨b, heq.symm⟩ hstarts
        | cons d a =>
          obtain ⟨rfl, htail⟩ := List.cons.inj heq
          rw [ih.2 ⟨htail, (first_cons.1 hfirst).2⟩]
          rfl

theorem splitOnce_append (h : sep ≠ []) (hfirst : First sep a) (b : List α) :
    splitOnce sep (a ++ sep ++ b) = some (a, b) := (splitOnce_eq_some_iff h).2 ⟨rfl, hfirst⟩

theorem splitOnce_eq_none_iff (h : sep ≠ []) : splitOnce sep s = none ↔ ¬ sep <:+: s := by
  induction s with
  | nil => simp [splitOnce, h]
  | cons c cs ih =>
    rw [List.infix_cons_iff, not_or]
    by_cases hstarts : sep <+: c :: cs
    · simp [splitOnce_cons_found hstarts, hstarts]
    · rw [splitOnce_cons_passed hstarts, Option.map_eq_none_iff, ih]
      exact ⟨fun hnot => ⟨hstarts, hnot⟩, fun hboth => hboth.2⟩

/-! ## Every separator -/

theorem splitFrom_eq_drop (skip : ℕ) : splitFrom sep skip s = split sep (s.drop skip) := by
  induction s generalizing skip with
  | nil => cases skip <;> rfl
  | cons c cs ih =>
    cases skip with
    | zero => rfl
    | succ skip => exact ih skip

theorem split_eq (h : sep ≠ []) (s : List α) :
    split sep s = (splitOnce sep s).elim [s] fun p => p.1 :: split sep p.2 := by
  induction s with
  | nil => rfl
  | cons c cs ih =>
    by_cases hstarts : sep <+: c :: cs
    · obtain ⟨x, t, rfl⟩ := List.exists_cons_of_ne_nil h
      rw [splitOnce_cons_found hstarts, split, splitFrom,
        if_pos (List.isPrefixOf_iff_prefix.2 hstarts), splitFrom_eq_drop]
      rfl
    · rw [splitOnce_cons_passed hstarts, split, splitFrom,
        if_neg (mt List.isPrefixOf_iff_prefix.1 hstarts)]
      rw [split] at ih
      rw [ih]
      cases splitOnce sep cs with
      | none => rfl
      | some p => rfl

theorem split_eq_singleton_iff (h : sep ≠ []) : split sep s = [a] ↔ s = a ∧ ¬ sep <:+: s := by
  rw [split_eq h, ← splitOnce_eq_none_iff h]
  cases hs : splitOnce sep s with
  | none => simp
  | some p =>
    have hne : split sep p.2 ≠ [] := by
      rw [split_eq h]
      cases splitOnce sep p.2 <;> simp
    simp [hne]

theorem split_eq_pair_iff (h : sep ≠ []) :
    split sep s = [a, b] ↔ s = a ++ sep ++ b ∧ First sep a ∧ ¬ sep <:+: b := by
  have hone : split sep s = [a, b] ↔
      ∃ p, splitOnce sep s = some p ∧ p.1 = a ∧ split sep p.2 = [b] := by
    rw [split_eq h s]
    cases splitOnce sep s with
    | none => simp
    | some p => simp
  rw [hone]
  constructor
  · rintro ⟨⟨a', b'⟩, hs, rfl, hb⟩
    obtain ⟨rfl, hfree⟩ := (split_eq_singleton_iff h).1 hb
    obtain ⟨hs, hfirst⟩ := (splitOnce_eq_some_iff h).1 hs
    exact ⟨hs, hfirst, hfree⟩
  · rintro ⟨hs, hfirst, hfree⟩
    exact ⟨(a, b), (splitOnce_eq_some_iff h).2 ⟨hs, hfirst⟩, rfl,
      (split_eq_singleton_iff h).2 ⟨rfl, hfree⟩⟩

def splitPair (sep s : List α) : Option (List α × List α) :=
  match split sep s with
  | [a, b] => some (a, b)
  | _ => none

theorem splitPair_eq_some_iff (h : sep ≠ []) :
    splitPair sep s = some (a, b) ↔ s = a ++ sep ++ b ∧ First sep a ∧ ¬ sep <:+: b := by
  rw [← split_eq_pair_iff h, splitPair]
  constructor
  · intro hpair
    split at hpair
    next a' b' hs =>
      obtain ⟨rfl, rfl⟩ := Prod.mk.inj (Option.some.inj hpair)
      exact hs
    next => cases hpair
  · intro hs
    rw [hs]

/-- A single separator splits as it does in the library. -/
theorem split_singleton (x : α) (s : List α) : split [x] s = s.splitOn x := by
  induction s with
  | nil => rfl
  | cons c cs ih =>
    rw [List.splitOn_cons_eq_if_modifyHead, ← ih, split, splitFrom]
    by_cases hx : x = c
    · subst hx
      simp [split]
    · have hc : (c == x) = false := beq_false_of_ne (Ne.symm hx)
      simp [hx, hc, split]

theorem notMem_of_mem_splitOn {x : α} {t : List α} (h : t ∈ s.splitOn x) : x ∉ t := by
  induction s generalizing t with
  | nil =>
    rw [List.splitOn_nil, List.mem_singleton] at h
    rw [h]
    exact List.not_mem_nil
  | cons c cs ih =>
    rw [List.splitOn_cons_eq_if_modifyHead] at h
    by_cases hc : c = x
    · rw [if_pos (beq_iff_eq.2 hc)] at h
      rcases List.mem_cons.1 h with rfl | htail
      · exact List.not_mem_nil
      · exact ih htail
    · rw [if_neg (mt beq_iff_eq.1 hc)] at h
      obtain ⟨u, us, hus⟩ := List.exists_cons_of_ne_nil (List.splitOn_ne_nil x cs)
      rw [hus, List.modifyHead_cons] at h
      rcases List.mem_cons.1 h with rfl | htail
      · have hu : x ∉ u := ih (by rw [hus]; exact List.mem_cons_self)
        exact fun hx => (List.mem_cons.1 hx).elim (fun heq => hc heq.symm) hu
      · exact ih (by rw [hus]; exact List.mem_cons_of_mem u htail)

/-- The pieces between single letters are joined by them, and have none in them. -/
theorem split_singleton_eq_iff {x : α} {ts : List (List α)} :
    split [x] s = ts ↔ ts ≠ [] ∧ s = [x].intercalate ts ∧ ∀ t ∈ ts, x ∉ t := by
  rw [split_singleton]
  constructor
  · rintro rfl
    exact ⟨List.splitOn_ne_nil x s, (List.intercalate_splitOn x).symm,
      fun t ht => notMem_of_mem_splitOn ht⟩
  · rintro ⟨hne, rfl, hfree⟩
    exact List.splitOn_intercalate x hfree hne

end SplitText
