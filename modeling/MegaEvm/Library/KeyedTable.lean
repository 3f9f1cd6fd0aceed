import Mathlib.Data.List.Basic
import Mathlib.Data.List.Nodup
import Mathlib.Logic.Function.Basic

/-!
# Tables with one entry a key

A table is a list of keyed values that is read from the front. An insertion
overwrites the first entry of its key where it stands, or appends one; a removal
drops every entry of its key. As a function from keys to values the table is
updated at the key and nowhere else, even where a key has several entries.
-/

set_option autoImplicit false

namespace KeyedTable

variable {K V : Type} [DecidableEq K]

def get (t : List (K × V)) (k : K) : Option V :=
  (t.find? fun e => e.1 = k).map Prod.snd

def insert (t : List (K × V)) (k : K) (v : V) : List (K × V) :=
  match t.findIdx? fun e => e.1 = k with
  | some i => t.set i (k, v)
  | none => t ++ [(k, v)]

def remove (t : List (K × V)) (k : K) : List (K × V) := t.filter fun e => e.1 ≠ k

def keys (t : List (K × V)) : List K := t.map Prod.fst

@[simp] theorem get_nil (k : K) : get ([] : List (K × V)) k = none := rfl

theorem get_cons (e : K × V) (t : List (K × V)) (k : K) :
    get (e :: t) k = if e.1 = k then some e.2 else get t k := by
  by_cases h : e.1 = k <;> simp [get, h]

@[simp] theorem insert_nil (k : K) (v : V) : insert [] k v = [(k, v)] := rfl

theorem insert_cons (e : K × V) (t : List (K × V)) (k : K) (v : V) :
    insert (e :: t) k v = if e.1 = k then (k, v) :: t else e :: insert t k v := by
  by_cases h : e.1 = k
  · simp [insert, List.findIdx?_cons, h]
  · cases ht : t.findIdx? fun e => decide (e.1 = k) <;>
      simp [insert, List.findIdx?_cons, h, ht]

theorem get_insert (t : List (K × V)) (k : K) (v : V) :
    get (insert t k v) = Function.update (get t) k (some v) := by
  induction t with
  | nil =>
    funext k'
    by_cases h : k' = k
    · simp [get_cons, h]
    · simp [get_cons, h, Ne.symm h]
  | cons e t ih =>
    funext k'
    rw [insert_cons]
    by_cases he : e.1 = k
    · by_cases h : k' = k
      · simp [get_cons, he, h]
      · simp [get_cons, he, h, Ne.symm h]
    · rw [if_neg he, get_cons, ih]
      by_cases h : k' = k
      · subst h
        simp [he]
      · simp [get_cons, h]

theorem get_remove (t : List (K × V)) (k : K) :
    get (remove t k) = Function.update (get t) k none := by
  induction t with
  | nil =>
    funext k'
    by_cases h : k' = k <;> simp [remove, h]
  | cons e t ih =>
    have hrest : remove (e :: t) k = if e.1 = k then remove t k else e :: remove t k := by
      by_cases he : e.1 = k <;> simp [remove, he]
    funext k'
    rw [hrest]
    by_cases he : e.1 = k
    · rw [if_pos he, ih]
      by_cases h : k' = k
      · simp [h]
      · simp [get_cons, he, h, Ne.symm h]
    · rw [if_neg he, get_cons, ih]
      by_cases h : k' = k
      · subst h
        simp [he]
      · simp [get_cons, h]

theorem keys_insert (t : List (K × V)) (k : K) (v : V) :
    keys (insert t k v) = if k ∈ keys t then keys t else keys t ++ [k] := by
  induction t with
  | nil => simp [keys]
  | cons e t ih =>
    rw [insert_cons]
    by_cases he : e.1 = k
    · simp [keys, he]
    · have hmem : k ∈ keys (e :: t) ↔ k ∈ keys t := by simp [keys, Ne.symm he]
      rw [if_neg he]
      simp only [keys, List.map_cons] at ih hmem ⊢
      rw [ih]
      by_cases hk : k ∈ t.map Prod.fst <;> simp [hk, Ne.symm he]

theorem nodup_insert {t : List (K × V)} (h : (keys t).Nodup) (k : K) (v : V) :
    (keys (insert t k v)).Nodup := by
  rw [keys_insert]
  split
  case isTrue => exact h
  case isFalse hk =>
    rw [List.nodup_append]
    refine ⟨h, List.nodup_singleton k, fun a ha b hb hab => hk ?_⟩
    rwa [← List.mem_singleton.mp hb, ← hab]

theorem nodup_remove {t : List (K × V)} (h : (keys t).Nodup) (k : K) :
    (keys (remove t k)).Nodup :=
  h.sublist (List.filter_sublist.map Prod.fst)

end KeyedTable
