import Mathlib.Data.Set.Card

/-!
# Counting the points of a function that meet a condition

A function that is changed at one point changes the number of points that meet a
condition by what the new value and the old value there say.
-/

set_option autoImplicit false

namespace PointCount

variable {ι α : Type} {P : ι → α → Prop} {f : ι → α}

/-- How many points meet the condition, where that is finite. -/
noncomputable def count (P : ι → α → Prop) (f : ι → α) : ℕ := {i | P i (f i)}.ncard

open Classical in
noncomputable def weight (P : ι → α → Prop) (i : ι) (v : α) : ℤ := if P i v then 1 else 0

theorem weight_pos {i : ι} {v : α} (h : P i v) : weight P i v = 1 := if_pos h

theorem weight_neg {i : ι} {v : α} (h : ¬ P i v) : weight P i v = 0 := if_neg h

section Compare

variable {g : ι → α}

theorem finite_of_imp (h : {i | P i (f i)}.Finite) (himp : ∀ i, P i (g i) → P i (f i)) :
    {i | P i (g i)}.Finite :=
  h.subset himp

theorem count_le (h : {i | P i (f i)}.Finite) (himp : ∀ i, P i (g i) → P i (f i)) :
    count P g ≤ count P f :=
  Set.ncard_le_ncard himp h

theorem subset_insert (i : ι) (himp : ∀ j, j ≠ i → P j (g j) → P j (f j)) :
    {j | P j (g j)} ⊆ insert i {j | P j (f j)} := by
  intro j hj
  by_cases hji : j = i
  · exact .inl hji
  · exact .inr (himp j hji hj)

theorem finite_of_imp_ne (h : {j | P j (f j)}.Finite) (i : ι)
    (himp : ∀ j, j ≠ i → P j (g j) → P j (f j)) : {j | P j (g j)}.Finite :=
  (h.insert i).subset (subset_insert i himp)

theorem count_le_succ (h : {j | P j (f j)}.Finite) (i : ι)
    (himp : ∀ j, j ≠ i → P j (g j) → P j (f j)) : count P g ≤ count P f + 1 := by
  calc count P g ≤ (insert i {j | P j (f j)}).ncard :=
        Set.ncard_le_ncard (subset_insert i himp) (h.insert i)
    _ ≤ count P f + 1 := Set.ncard_insert_le i _

end Compare

variable [DecidableEq ι]

theorem finite_update (h : {j | P j (f j)}.Finite) (i : ι) (v : α) :
    {j | P j (Function.update f i v j)}.Finite := by
  apply finite_of_imp_ne h i
  intro j hji hp
  rwa [Function.update_of_ne hji] at hp

theorem count_eq_add_weight (h : {j | P j (f j)}.Finite) (i : ι) :
    (count P f : ℤ) = {j | P j (f j) ∧ j ≠ i}.ncard + weight P i (f i) := by
  have hfin : {j | P j (f j) ∧ j ≠ i}.Finite := h.subset fun _ hj => hj.1
  by_cases hi : P i (f i)
  · have hset : {j | P j (f j)} = insert i {j | P j (f j) ∧ j ≠ i} := by
      ext j
      by_cases hji : j = i
      · simp [hji, hi]
      · simp [hji]
    rw [weight_pos hi, count, hset, Set.ncard_insert_of_notMem (by simp) hfin]
    push_cast
    rfl
  · have hset : {j | P j (f j)} = {j | P j (f j) ∧ j ≠ i} := by
      ext j
      by_cases hji : j = i
      · simp [hji, hi]
      · simp [hji]
    rw [weight_neg hi, count, hset, add_zero]

theorem count_update (h : {j | P j (f j)}.Finite) (i : ι) (v : α) :
    (count P (Function.update f i v) : ℤ) = count P f + (weight P i v - weight P i (f i)) := by
  have hset : {j | P j (Function.update f i v j) ∧ j ≠ i} = {j | P j (f j) ∧ j ≠ i} := by
    ext j
    by_cases hji : j = i
    · simp [hji]
    · simp [hji]
  have hbefore := count_eq_add_weight h i
  have hafter := count_eq_add_weight (finite_update h i v) i
  rw [hset, Function.update_self] at hafter
  omega

end PointCount
