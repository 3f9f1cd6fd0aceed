import MegaEvm.Library.KeyedFold

/-!
# A memo over a source that changes

A memo asks its source for a key once and keeps the answer until it is cleared. The source
may answer differently each time and may fail; a failure is not kept. What the memo holds
is the first answer for the key since it was last cleared.
-/

set_option autoImplicit false

namespace Memo

open KeyedFold

variable {κ υ ε : Type} [DecidableEq κ]

/-- A look-up, with what the source would answer at the time, or a clearing. -/
inductive Op (κ υ ε : Type) where
  | load (key : κ) (answer : Except ε υ)
  | clear

def load (m : Map κ υ) (key : κ) (answer : Except ε υ) : Except ε υ × Map κ υ :=
  match m.lookup key with
  | some value => (.ok value, m)
  | none =>
    match answer with
    | .error e => (.error e, m)
    | .ok value => (.ok value, m.insert key value)

def act (m : Map κ υ) : Op κ υ ε → Map κ υ
  | .load key answer => (load m key answer).2
  | .clear => ∅

def after (m : Map κ υ) (ops : List (Op κ υ ε)) : Map κ υ := ops.foldl act m

def Op.answerFor (key : κ) : Op κ υ ε → Option υ
  | .load key' (.ok value) => if key' = key then some value else none
  | _ => none

/-- The first answer for a key since the last clearing, and `before` if there is neither. -/
def firstAnswer (key : κ) (before : Option υ) : List (Op κ υ ε) → Option υ
  | [] => before
  | .clear :: ops => firstAnswer key none ops
  | .load key' answer :: ops =>
    firstAnswer key (before.or (Op.answerFor key (.load key' answer))) ops

theorem load_fst (m : Map κ υ) (key : κ) (answer : Except ε υ) :
    (load m key answer).1 = (m.lookup key).elim answer .ok := by
  unfold load
  cases m.lookup key with
  | some value => rfl
  | none => cases answer <;> rfl

theorem lookup_load (m : Map κ υ) (key key' : κ) (answer : Except ε υ) :
    (load m key' answer).2.lookup key =
      (m.lookup key).or (Op.answerFor key (.load key' answer : Op κ υ ε)) := by
  unfold load
  cases hm : m.lookup key' with
  | some value =>
    by_cases hk : key' = key
    · subst hk
      simp only [hm, Option.some_or]
    · cases answer with
      | error e => simp [Op.answerFor]
      | ok v => simp [Op.answerFor, hk]
  | none =>
    cases answer with
    | error e => simp [Op.answerFor]
    | ok value =>
      by_cases hk : key' = key
      · subst hk
        simp [Op.answerFor, hm]
      · simp [Op.answerFor, hk, AList.lookup_insert_ne (Ne.symm hk)]

theorem lookup_after (m : Map κ υ) (ops : List (Op κ υ ε)) (key : κ) :
    (after m ops).lookup key = firstAnswer key (m.lookup key) ops := by
  induction ops generalizing m with
  | nil => rfl
  | cons op ops ih =>
    show (after (act m op) ops).lookup key = _
    rw [ih]
    cases op with
    | clear =>
      show firstAnswer key ((∅ : Map κ υ).lookup key) ops = _
      rw [AList.lookup_empty]
      rfl
    | load key' answer =>
      show firstAnswer key ((load m key' answer).2.lookup key) ops = _
      rw [lookup_load]
      rfl

theorem firstAnswer_some (key : κ) (value : υ) {ops : List (Op κ υ ε)} (h : Op.clear ∉ ops) :
    firstAnswer key (some value) ops = some value := by
  induction ops with
  | nil => rfl
  | cons op ops ih =>
    have hrest : Op.clear ∉ ops := fun hm => h (List.mem_cons_of_mem _ hm)
    cases op with
    | clear => exact absurd List.mem_cons_self h
    | load key' answer => exact ih hrest

theorem firstAnswer_append (key : κ) (before : Option υ) (ops ops' : List (Op κ υ ε)) :
    firstAnswer key before (ops ++ ops') = firstAnswer key (firstAnswer key before ops) ops' := by
  induction ops generalizing before with
  | nil => rfl
  | cons op ops ih =>
    cases op with
    | clear => exact ih none
    | load key' answer => exact ih _

end Memo
