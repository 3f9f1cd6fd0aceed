import Mathlib.Logic.Relation
import Mathlib.Data.Finset.Card
import Mathlib.Data.Finset.SDiff

/-!
# Walks along a partial map

A map that leads from a point to at most one other, and may fail. A walk stops
where the map ends or is about to return to a point it has left, the start
among these.
-/

set_option autoImplicit false

namespace PartialWalk

variable {α ε : Type}

abbrev Next (α ε : Type) := α → Except ε (Option α)

def Leads (next : Next α ε) (a b : α) : Prop := next a = .ok (some b)

def Reaches (next : Next α ε) : α → α → Prop := Relation.ReflTransGen (Leads next)

def OnCycle (next : Next α ε) (a : α) : Prop := Relation.TransGen (Leads next) a a

/-- What a walk from a point should find: the end of the chain, a point of the
cycle it runs into, or the error of a point it reaches. -/
def Finds (next : Next α ε) (start : α) : Except ε α → Prop
  | .error e => ∃ a, Reaches next start a ∧ next a = .error e
  | .ok a => Reaches next start a ∧ (next a = .ok none ∨ OnCycle next a)

section Graph

variable {next : Next α ε} {a b c : α}

theorem Leads.unique (hb : Leads next a b) (hc : Leads next a c) : b = c := by
  have h : some b = some c := Except.ok.inj (hb.symm.trans hc)
  exact Option.some.inj h

theorem Reaches.eq_of_end (h : Reaches next a b) (ha : ∀ c, ¬ Leads next a c) : b = a := by
  induction h using Relation.ReflTransGen.head_induction_on with
  | refl => rfl
  | head hl _ _ => exact absurd hl (ha _)

theorem OnCycle.step (h : OnCycle next a) (hb : Leads next a b) : OnCycle next b := by
  obtain ⟨c, hc, hca⟩ := Relation.TransGen.head'_iff.1 h
  rw [Leads.unique hc hb] at hca
  exact Relation.TransGen.tail' hca hb

theorem OnCycle.of_reaches (h : OnCycle next a) (hb : Reaches next a b) : OnCycle next b := by
  induction hb with
  | refl => exact h
  | tail _ hl ih => exact ih.step hl

theorem OnCycle.leads (h : OnCycle next a) : ∃ b, Leads next a b := by
  obtain ⟨b, hb, _⟩ := Relation.TransGen.head'_iff.1 h
  exact ⟨b, hb⟩

theorem Reaches.comparable (hb : Reaches next a b) (hc : Reaches next a c) :
    Reaches next b c ∨ Reaches next c b :=
  Relation.ReflTransGen.total_of_right_unique (fun _ _ _ => Leads.unique) hb hc

theorem Finds.eq_of_end (h : Finds next a (.ok b)) (hc : Reaches next a c)
    (hend : ∀ d, ¬ Leads next c d) : b = c := by
  rcases h.1.comparable hc with hbc | hcb
  · rcases h.2 with hb | hb
    · exact (hbc.eq_of_end fun d hl => by cases hl.symm.trans hb).symm
    · obtain ⟨d, hd⟩ := (hb.of_reaches hbc).leads
      exact absurd hd (hend d)
  · exact hcb.eq_of_end hend

end Graph

section Walk

/-- `none` where the fuel is used up. -/
def walk [DecidableEq α] (next : Next α ε) : ℕ → α → List α → Option (Except ε α)
  | 0, _, _ => none
  | fuel + 1, current, visited =>
    match next current with
    | .error e => some (.error e)
    | .ok none => some (.ok current)
    | .ok (some following) =>
      if following ∈ visited then some (.ok current)
      else walk next fuel following (visited ++ [current])

variable {next : Next α ε} {start current : α} {visited : List α} {res : Except ε α}

/-- What holds each time round: the walk has come from every point it has left,
and it stands on one of them only where the map leads to itself. -/
structure Walking (next : Next α ε) (start current : α) (visited : List α) : Prop where
  reached : Reaches next start current
  left : ∀ a ∈ visited, Relation.TransGen (Leads next) a current
  back : current ∈ visited → Leads next current current

theorem Walking.first (h : Leads next start current) : Walking next start current [start] where
  reached := .single h
  left := by
    intro a ha
    rw [List.mem_singleton.1 ha]
    exact .single h
  back := by
    intro ha
    rw [List.mem_singleton.1 ha] at h ⊢
    exact h

theorem Walking.step {following : α} (h : Walking next start current visited)
    (hn : Leads next current following) (hv : following ∉ visited) :
    Walking next start following (visited ++ [current]) where
  reached := h.reached.tail hn
  left := by
    intro a ha
    rcases List.mem_append.1 ha with ha | ha
    · exact (h.left a ha).tail hn
    · rw [List.mem_singleton.1 ha]
      exact .single hn
  back := by
    intro ha
    rcases List.mem_append.1 ha with ha | ha
    · exact absurd ha hv
    · rw [← List.mem_singleton.1 ha] at hn
      exact hn

theorem Walking.finds [DecidableEq α] {fuel : ℕ} (h : Walking next start current visited)
    (hw : walk next fuel current visited = some res) : Finds next start res := by
  induction fuel generalizing current visited with
  | zero => cases hw
  | succ fuel ih =>
    rw [walk] at hw
    split at hw
    · rename_i e hn
      cases hw
      exact ⟨current, h.reached, hn⟩
    · rename_i hn
      cases hw
      exact ⟨h.reached, .inl hn⟩
    · rename_i following hn
      by_cases hv : following ∈ visited
      · rw [if_pos hv] at hw
        cases hw
        exact ⟨h.reached, .inr (.head hn (h.left following hv))⟩
      · rw [if_neg hv] at hw
        exact ih (h.step hn hv) hw

theorem Walking.stops [DecidableEq α] {points : Finset α} (hp : ∀ a b, Leads next a b → a ∈ points) {fuel : ℕ}
    (h : Walking next start current visited)
    (hf : (points \ visited.toFinset).card < fuel) :
    ∃ res, walk next fuel current visited = some res := by
  induction fuel generalizing current visited with
  | zero => omega
  | succ fuel ih =>
    rw [walk]
    split
    · exact ⟨_, rfl⟩
    · exact ⟨_, rfl⟩
    · rename_i following hn
      by_cases hv : following ∈ visited
      · rw [if_pos hv]
        exact ⟨_, rfl⟩
      · rw [if_neg hv]
        have hc : current ∉ visited := by
          intro hc
          rw [Leads.unique hn (h.back hc)] at hv
          exact hv hc
        have hlt : points \ (visited ++ [current]).toFinset ⊂ points \ visited.toFinset := by
          rw [Finset.ssubset_iff_of_subset]
          · exact ⟨current, by simp [hp _ _ hn, hc], by simp⟩
          · intro a ha
            simp only [Finset.mem_sdiff, List.mem_toFinset, List.mem_append, not_or] at ha ⊢
            exact ⟨ha.1, ha.2.1⟩
        have hcard := Finset.card_lt_card hlt
        exact ih (h.step hn hv) (by omega)

end Walk

section Hidden

/-!
A walk along a map that stops short of another at some points.
-/

variable {next shown : Next α ε} {start a b : α} {res : Except ε α}

/-- What is shown of a map: its answer, or that it ends. -/
def Shows (next shown : Next α ε) : Prop := ∀ a, shown a = next a ∨ shown a = .ok none

theorem Shows.leads (h : Shows next shown) (hl : Leads shown a b) : Leads next a b := by
  rcases h a with ha | ha
  · exact ha.symm.trans hl
  · cases ha.symm.trans hl

theorem Shows.reaches (h : Shows next shown) (hr : Reaches shown a b) : Reaches next a b :=
  Relation.ReflTransGen.mono (fun _ _ hl => h.leads hl) a b hr

theorem Shows.error (h : Shows next shown) {e : ε} (he : shown a = .error e) :
    next a = .error e := by
  rcases h a with ha | ha
  · exact ha.symm.trans he
  · cases ha.symm.trans he

theorem Shows.reaches_end (h : Shows next shown) (hb : Reaches shown start b)
    (ha : Reaches next start a) (hend : shown a = .ok none) : Reaches next b a := by
  induction hb using Relation.ReflTransGen.head_induction_on with
  | refl => exact ha
  | @head s c hl _ ih =>
    rcases Relation.ReflTransGen.cases_head ha with rfl | ⟨c', hl', hr⟩
    · cases hl.symm.trans hend
    · rw [← Leads.unique (h.leads hl) hl'] at hr
      exact ih hr

theorem Shows.finds_iff (h : Shows next shown) (hf : Finds shown start res) :
    Finds next start res ↔
      ∀ a, Reaches next start a → ¬ OnCycle next a → shown a = next a := by
  constructor
  · intro hn a hr hc
    rcases h a with ha | ha
    · exact ha
    · cases res with
      | error e =>
        obtain ⟨b, hb, he⟩ := hf
        have hend : ∀ c, ¬ Leads next b c := fun c hl => by cases hl.symm.trans (h.error he)
        have hab : a = b := (h.reaches_end hb hr ha).eq_of_end hend
        rw [hab, h.error he, he]
      | ok r =>
        have hra := h.reaches_end hf.1 hr ha
        rcases hn.2 with hend | hcycle
        · have har : a = r := hra.eq_of_end fun c hl => by cases hl.symm.trans hend
          rw [ha, har, hend]
        · exact absurd (hcycle.of_reaches hra) hc
  · intro hall
    cases res with
    | error e =>
      obtain ⟨b, hb, he⟩ := hf
      exact ⟨b, h.reaches hb, h.error he⟩
    | ok r =>
      have hr := h.reaches hf.1
      refine ⟨hr, ?_⟩
      by_cases hc : OnCycle next r
      · exact .inr hc
      · rcases hf.2 with hend | hcycle
        · exact .inl ((hall r hr hc).symm.trans hend)
        · exact absurd (Relation.TransGen.mono (fun _ _ hl => h.leads hl) r r hcycle) hc

end Hidden

end PartialWalk
