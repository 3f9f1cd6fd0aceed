import Mathlib.Data.List.Dedup
import Mathlib.Data.List.Induction
import Mathlib.Data.List.Nodup

/-!
# Settings that overwrite one another

A state is configured by a chain of settings, each of one kind. A setting overwrites an
earlier one of its kind and commutes with those of other kinds, on the states and for the
settings that are allowed. Then the last setting of each kind is all that counts.
-/

set_option autoImplicit false

namespace LastSetting

variable {S O K : Type}

structure Overwrites (act : S → O → S) (kind : O → K) (I : S → Prop) (P : O → Prop) : Prop where
  keeps : ∀ s a, I s → P a → I (act s a)
  commute : ∀ s a b, I s → P a → P b → kind a ≠ kind b → act (act s a) b = act (act s b) a
  overwrite : ∀ s a b, I s → P a → P b → kind a = kind b → act (act s a) b = act s b

variable {kind : O → K} {act : S → O → S} {I : S → Prop} {P : O → Prop}

namespace Overwrites

theorem keeps_foldl (h : Overwrites act kind I P) {s : S} {ops : List O} (hI : I s)
    (hP : ∀ a ∈ ops, P a) : I (ops.foldl act s) := by
  induction ops generalizing s with
  | nil => exact hI
  | cons a ops ih =>
    exact ih (h.keeps s a hI (hP a (by simp))) fun b hb => hP b (by simp [hb])

theorem act_foldl (h : Overwrites act kind I P) {s : S} {a : O} {ops : List O} (hI : I s)
    (ha : P a) (hP : ∀ b ∈ ops, P b) (hkind : ∀ b ∈ ops, kind a ≠ kind b) :
    act (ops.foldl act s) a = ops.foldl act (act s a) := by
  induction ops generalizing s with
  | nil => rfl
  | cons b ops ih =>
    have hb : P b := hP b (by simp)
    have hrest := ih (h.keeps s b hI hb) (fun c hc => hP c (by simp [hc]))
      (fun c hc => hkind c (by simp [hc]))
    show act (ops.foldl act (act s b)) a = ops.foldl act (act (act s a) b)
    rw [hrest, h.commute s a b hI ha hb (hkind b (by simp))]

end Overwrites

variable [DecidableEq K]

def lastOf (kind : O → K) (ops : List O) (k : K) : Option O :=
  (ops.filter fun op => decide (kind op = k)).getLast?

def lasts (kind : O → K) (ops : List O) (ks : List K) : List O := ks.filterMap (lastOf kind ops)

theorem lastOf_eq_some {ops : List O} {k : K} {a : O} (h : lastOf kind ops k = some a) :
    a ∈ ops ∧ kind a = k := by
  have hmem := List.mem_of_getLast? h
  rw [List.mem_filter, decide_eq_true_eq] at hmem
  exact hmem

theorem lastOf_concat_self (ops : List O) (a : O) :
    lastOf kind (ops ++ [a]) (kind a) = some a := by
  simp [lastOf, List.filter_append]

theorem lastOf_concat_ne (ops : List O) {a : O} {k : K} (h : kind a ≠ k) :
    lastOf kind (ops ++ [a]) k = lastOf kind ops k := by
  simp [lastOf, List.filter_append, h]

theorem lasts_concat_ne (ops : List O) {a : O} {ks : List K} (h : kind a ∉ ks) :
    lasts kind (ops ++ [a]) ks = lasts kind ops ks := by
  refine List.filterMap_congr fun k hk => lastOf_concat_ne ops fun heq => ?_
  exact h (heq ▸ hk)

theorem mem_lasts {ops : List O} {ks : List K} {a : O} (h : a ∈ lasts kind ops ks) :
    a ∈ ops ∧ kind a ∈ ks := by
  obtain ⟨k, hk, hlast⟩ := List.mem_filterMap.1 h
  obtain ⟨hmem, rfl⟩ := lastOf_eq_some hlast
  exact ⟨hmem, hk⟩

namespace Overwrites

/-- A chain leaves what the last settings of its kinds leave. -/
theorem foldl_lasts (h : Overwrites act kind I P) {s : S} {ks : List K} (hks : ks.Nodup)
    (hI : I s) (ops : List O) (hP : ∀ a ∈ ops, P a) (hmem : ∀ a ∈ ops, kind a ∈ ks) :
    ops.foldl act s = (lasts kind ops ks).foldl act s := by
  induction ops using List.reverseRecOn with
  | nil =>
    have hnone : lasts kind ([] : List O) ks = [] := List.filterMap_eq_nil_iff.2 fun k _ => rfl
    rw [hnone]
  | append_singleton ops a ih =>
    have hPops : ∀ b ∈ ops, P b := fun b hb => hP b (by simp [hb])
    have ha : P a := hP a (by simp)
    obtain ⟨before, after, rfl⟩ := List.append_of_mem (hmem a (by simp))
    obtain ⟨hbefore, hafter⟩ : kind a ∉ before ∧ kind a ∉ after := by
      have hnodup := List.nodup_middle.1 hks
      rw [List.nodup_cons, List.mem_append, not_or] at hnodup
      exact hnodup.1
    have hIbefore : I ((lasts kind ops before).foldl act s) :=
      h.keeps_foldl hI fun b hb => hPops b (mem_lasts hb).1
    have hrest : ∀ s, I s → act ((lasts kind ops after).foldl act s) a =
        (lasts kind ops after).foldl act (act s a) := fun s hs =>
      h.act_foldl hs ha (fun b hb => hPops b (mem_lasts hb).1)
        fun b hb heq => hafter (heq ▸ (mem_lasts hb).2)
    have hsplit : ∀ l, lasts kind l (before ++ kind a :: after) =
        lasts kind l before ++ ((lastOf kind l (kind a)).toList ++ lasts kind l after) := by
      intro l
      unfold lasts
      rw [List.filterMap_append, List.filterMap_cons]
      cases lastOf kind l (kind a) <;> rfl
    rw [List.foldl_append, ih hPops fun b hb => hmem b (by simp [hb]), hsplit ops,
      hsplit (ops ++ [a]), lasts_concat_ne ops hbefore, lasts_concat_ne ops hafter,
      lastOf_concat_self]
    simp only [List.foldl_append, List.foldl_cons, List.foldl_nil, Option.toList_some]
    cases hlast : lastOf kind ops (kind a) with
    | none => exact hrest _ hIbefore
    | some b =>
      obtain ⟨hb, hkind⟩ := lastOf_eq_some hlast
      have hover := h.overwrite _ b a hIbefore (hPops b hb) ha hkind
      simp only [Option.toList_some, List.foldl_cons, List.foldl_nil]
      rw [hrest _ (h.keeps _ b hIbefore (hPops b hb)), hover]

theorem foldl_eq_of_lastOf (h : Overwrites act kind I P) {s : S} {ops ops' : List O}
    (hI : I s) (hP : ∀ a ∈ ops, P a) (hP' : ∀ a ∈ ops', P a)
    (hlast : ∀ k, lastOf kind ops k = lastOf kind ops' k) :
    ops.foldl act s = ops'.foldl act s := by
  let ks := ((ops ++ ops').map kind).dedup
  have hks : ks.Nodup := List.nodup_dedup _
  have hmem : ∀ a ∈ ops ++ ops', kind a ∈ ks := fun a ha =>
    List.mem_dedup.2 (List.mem_map_of_mem ha)
  have hsame : lasts kind ops ks = lasts kind ops' ks :=
    List.filterMap_congr fun k _ => hlast k
  rw [h.foldl_lasts hks hI ops hP fun a ha => hmem a (by simp [ha]),
    h.foldl_lasts hks hI ops' hP' fun a ha => hmem a (by simp [ha]), hsame]

end Overwrites

end LastSetting
