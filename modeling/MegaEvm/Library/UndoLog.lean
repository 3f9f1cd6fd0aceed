import Mathlib.Data.List.Basic

/-!
# Undo logs

A log of how to undo what was done since each open checkpoint, the newest first.
`Restores` says that undoing it leads back through the snapshots a copying
implementation would have taken at those checkpoints.
-/

set_option autoImplicit false

namespace UndoLog

variable {ε α β γ : Type}

/-- What is logged before the first checkpoint is never undone. -/
def record (e : ε) : List (List ε) → List (List ε)
  | [] => []
  | top :: rest => (e :: top) :: rest

def commit : List (List ε) → List (List ε)
  | top :: below :: rest => (top ++ below) :: rest
  | _ => []

theorem mem_record {e e' : ε} {entries : List (List ε)} {es : List ε}
    (hes : es ∈ record e entries) (he : e' ∈ es) :
    e' = e ∨ ∃ old ∈ entries, e' ∈ old := by
  cases entries with
  | nil => cases hes
  | cons top rest =>
    rcases List.mem_cons.1 hes with rfl | hes
    · rcases List.mem_cons.1 he with rfl | he
      · exact .inl rfl
      · exact .inr ⟨top, List.mem_cons_self, he⟩
    · exact .inr ⟨es, List.mem_cons_of_mem _ hes, he⟩

theorem mem_commit {e : ε} {entries : List (List ε)} {es : List ε}
    (hes : es ∈ commit entries) (he : e ∈ es) : ∃ old ∈ entries, e ∈ old := by
  match entries with
  | [] | [_] => cases hes
  | top :: below :: rest =>
    rcases List.mem_cons.1 hes with rfl | hes
    · rcases List.mem_append.1 he with he | he
      · exact ⟨top, List.mem_cons_self, he⟩
      · exact ⟨below, by simp, he⟩
    · exact ⟨es, by simp [hes], he⟩

/-- A value, and its snapshot at every open checkpoint, the newest first. -/
structure Snapshots (α : Type) where
  current : α
  opened : List α

namespace Snapshots

variable (s : Snapshots α)

def set (a : α) : Snapshots α := { s with current := a }

def checkpoint : Snapshots α := ⟨s.current, s.current :: s.opened⟩

def commit : Snapshots α := ⟨s.current, s.opened.tail⟩

def revert : Snapshots α :=
  match s.opened with
  | [] => s
  | a :: rest => ⟨a, rest⟩

def map (f : α → β) : Snapshots β := ⟨f s.current, s.opened.map f⟩

def All (P : α → Prop) : Prop := P s.current ∧ ∀ a ∈ s.opened, P a

@[simp] theorem map_current (f : α → β) : (s.map f).current = f s.current := rfl

@[simp] theorem map_set (f : α → β) (a : α) : (s.set a).map f = (s.map f).set (f a) := rfl

@[simp] theorem map_checkpoint (f : α → β) : s.checkpoint.map f = (s.map f).checkpoint := rfl

@[simp] theorem map_commit (f : α → β) : s.commit.map f = (s.map f).commit := by
  simp [commit, map]

@[simp] theorem map_revert (f : α → β) : s.revert.map f = (s.map f).revert := by
  obtain ⟨current, opened⟩ := s
  cases opened with
  | nil => rfl
  | cons a rest => rfl

theorem map_map (f : α → β) (g : β → γ) : (s.map f).map g = s.map fun a => g (f a) := by
  simp [map]

theorem map_congr {f g : α → β} (h : s.All fun a => f a = g a) : s.map f = s.map g := by
  have hopened : s.opened.map f = s.opened.map g := List.map_congr_left h.2
  simp [map, h.1, hopened]

variable {s} {P : α → Prop}

theorem All.mono {Q : α → Prop} (h : s.All P) (hPQ : ∀ a, P a → Q a) : s.All Q :=
  ⟨hPQ _ h.1, fun a ha => hPQ a (h.2 a ha)⟩

theorem All.set (h : s.All P) {a : α} (ha : P a) : (s.set a).All P := ⟨ha, h.2⟩

theorem All.checkpoint (h : s.All P) : s.checkpoint.All P := by
  constructor
  · exact h.1
  · intro a ha
    rcases List.mem_cons.1 ha with rfl | ha
    · exact h.1
    · exact h.2 a ha

theorem All.commit (h : s.All P) : s.commit.All P :=
  ⟨h.1, fun a ha => h.2 a (List.mem_of_mem_tail ha)⟩

theorem All.revert (h : s.All P) : s.revert.All P := by
  obtain ⟨current, opened⟩ := s
  cases opened with
  | nil => exact h
  | cons a rest =>
    constructor
    · exact h.2 a List.mem_cons_self
    · exact fun b hb => h.2 b (List.mem_cons_of_mem _ hb)

theorem all_map {f : α → β} {Q : β → Prop} (h : s.All fun a => Q (f a)) : (s.map f).All Q := by
  constructor
  · exact h.1
  · intro b hb
    obtain ⟨a, ha, rfl⟩ := List.mem_map.1 hb
    exact h.2 a ha

end Snapshots

variable (undo : ε → α → α)

def undoAll (es : List ε) (a : α) : α := es.foldl (fun a e => undo e a) a

def RestoresFrom : List (List ε) → α → List α → Prop
  | [], _, [] => True
  | top :: rest, a, b :: opened => undoAll undo top a = b ∧ RestoresFrom rest b opened
  | _, _, _ => False

def Restores (entries : List (List ε)) (s : Snapshots α) : Prop :=
  RestoresFrom undo entries s.current s.opened

namespace Restores

variable {undo} {entries : List (List ε)} {s : Snapshots α}

theorem record (h : Restores undo entries s) {e : ε} {a : α} (he : undo e a = s.current) :
    Restores undo (record e entries) (s.set a) := by
  obtain ⟨current, opened⟩ := s
  obtain rfl : undo e a = current := he
  match entries, opened with
  | [], [] => trivial
  | top :: rest, b :: opened => exact h
  | [], _ :: _ => exact h.elim
  | _ :: _, [] => exact h.elim

theorem checkpoint (h : Restores undo entries s) : Restores undo ([] :: entries) s.checkpoint :=
  ⟨rfl, h⟩

theorem commit (h : Restores undo entries s) : Restores undo (commit entries) s.commit := by
  obtain ⟨current, opened⟩ := s
  match entries, opened with
  | [], [] => trivial
  | [_], [_] => trivial
  | top :: below :: rest, b :: c :: opened =>
    obtain ⟨htop, hbelow, hrest⟩ := h
    constructor
    · show undoAll undo (top ++ below) current = c
      unfold undoAll at htop hbelow ⊢
      rw [List.foldl_append, htop]
      exact hbelow
    · exact hrest
  | [], _ :: _ => exact h.elim
  | _ :: _, [] => exact h.elim
  | [_], _ :: _ :: _ => exact h.2.elim
  | _ :: _ :: _, [_] => exact h.2.elim

theorem revert {top : List ε} (h : Restores undo (top :: entries) s) :
    undoAll undo top s.current = s.revert.current ∧ Restores undo entries s.revert := by
  obtain ⟨current, opened⟩ := s
  cases opened with
  | nil => exact h.elim
  | cons b opened => exact h

theorem revert_nil (h : Restores undo [] s) : s.revert = s := by
  obtain ⟨current, opened⟩ := s
  cases opened with
  | nil => rfl
  | cons b opened => exact h.elim

/-- A change that no entry is about is made to every snapshot. -/
theorem map {f : α → α} (h : Restores undo entries s)
    (hf : ∀ es ∈ entries, ∀ e ∈ es, ∀ a, undo e (f a) = f (undo e a)) :
    Restores undo entries (s.map f) := by
  obtain ⟨current, opened⟩ := s
  have hall : ∀ (es : List ε) (a : α), (∀ e ∈ es, ∀ a, undo e (f a) = f (undo e a)) →
      undoAll undo es (f a) = f (undoAll undo es a) := by
    intro es
    induction es with
    | nil => exact fun a _ => rfl
    | cons e es ih =>
      intro a he
      have hhead := he e List.mem_cons_self a
      have htail := ih (undo e a) fun e' he' => he e' (List.mem_cons_of_mem _ he')
      simpa [undoAll, hhead] using htail
  have hgen : ∀ (entries : List (List ε)) (a : α) (opened : List α),
      RestoresFrom undo entries a opened →
      (∀ es ∈ entries, ∀ e ∈ es, ∀ a, undo e (f a) = f (undo e a)) →
      RestoresFrom undo entries (f a) (opened.map f) := by
    intro entries
    induction entries with
    | nil =>
      intro a opened h _
      cases opened with
      | nil => trivial
      | cons b opened => exact h.elim
    | cons top rest ih =>
      intro a opened h hf
      cases opened with
      | nil => exact h.elim
      | cons b opened =>
        obtain ⟨htop, hrest⟩ := h
        constructor
        · rw [hall top a (hf top List.mem_cons_self), htop]
        · exact ih b opened hrest fun es hes => hf es (List.mem_cons_of_mem _ hes)
  exact hgen entries current opened h hf

end Restores

end UndoLog
