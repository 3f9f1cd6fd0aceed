import MegaEvm.Library.Reading

/-!
# Programs over a state

A handler answers the reads of a program from a state that each of them may change.
Two handlers whose states are related run a program in lockstep as long as their
answers agree. A ghost follows a run without taking part in it.
-/

set_option autoImplicit false

namespace Reading

variable {ρ : Type} {Val : ρ → Type} {α σ τ κ : Type}

abbrev Handler (Val : ρ → Type) (σ : Type) := ∀ r, σ → Val r × σ

def exec (h : Handler Val σ) : Prog Val α → σ → α × σ
  | .done a, s => (a, s)
  | .read r next, s => exec h (next (h r s).1) (h r s).2

def trace (h : Handler Val σ) : Prog Val α → σ → List (Σ r, Val r)
  | .done _, _ => []
  | .read r next, s => ⟨r, (h r s).1⟩ :: trace h (next (h r s).1) (h r s).2

def Steps (h : Handler Val σ) (Ok : σ → ρ → Prop) : Prog Val α → σ → Prop
  | .done _, _ => True
  | .read r next, s => Ok s r ∧ Steps h Ok (next (h r s).1) (h r s).2

/-- `Ok` decides whether related states give the same answer, and related they stay. -/
structure Lockstep (h : Handler Val σ) (h' : Handler Val τ) (R : σ → τ → Prop)
    (Ok : σ → ρ → Prop) : Prop where
  answer : ∀ r s t, R s t → ((h' r t).1 = (h r s).1 ↔ Ok s r)
  keeps : ∀ r s t, R s t → Ok s r → R (h r s).2 (h' r t).2

namespace Lockstep

variable {h : Handler Val σ} {h' : Handler Val τ} {R : σ → τ → Prop} {Ok : σ → ρ → Prop}
  {p : Prog Val α} {s : σ} {t : τ}

theorem exec_eq (hl : Lockstep h h' R Ok) (hR : R s t) (hok : Steps h Ok p s) :
    (exec h' p t).1 = (exec h p s).1 ∧ R (exec h p s).2 (exec h' p t).2 := by
  induction p generalizing s t with
  | done a => exact ⟨rfl, hR⟩
  | read r next ih =>
    obtain ⟨hr, hrest⟩ := hok
    have hanswer := (hl.answer r s t hR).2 hr
    have hkept := hl.keeps r s t hR hr
    simp only [exec, hanswer]
    exact ih _ hkept hrest

theorem trace_eq_iff (hl : Lockstep h h' R Ok) (hR : R s t) :
    trace h' p t = trace h p s ↔ Steps h Ok p s := by
  induction p generalizing s t with
  | done a => simp [trace, Steps]
  | read r next ih =>
    simp only [trace, Steps, List.cons.injEq, Sigma.mk.injEq, heq_eq_eq, true_and]
    rw [hl.answer r s t hR]
    constructor
    · rintro ⟨hr, hrest⟩
      have hanswer := (hl.answer r s t hR).2 hr
      rw [hanswer] at hrest
      exact ⟨hr, (ih _ (hl.keeps r s t hR hr)).1 hrest⟩
    · rintro ⟨hr, hrest⟩
      have hanswer := (hl.answer r s t hR).2 hr
      rw [hanswer]
      exact ⟨hr, (ih _ (hl.keeps r s t hR hr)).2 hrest⟩

end Lockstep

section Ghost

def ghost (h : Handler Val σ) (next : ρ → κ → κ) : Handler Val (σ × κ) :=
  fun r s => ((h r s.1).1, (h r s.1).2, next r s.2)

theorem exec_ghost (h : Handler Val σ) (next : ρ → κ → κ) (p : Prog Val α) (s : σ) (g : κ) :
    (exec (ghost h next) p (s, g)).1 = (exec h p s).1 ∧
      (exec (ghost h next) p (s, g)).2.1 = (exec h p s).2 := by
  induction p generalizing s g with
  | done a => exact ⟨rfl, rfl⟩
  | read r follow ih => exact ih _ _ _

theorem trace_ghost (h : Handler Val σ) (next : ρ → κ → κ) (p : Prog Val α) (s : σ) (g : κ) :
    trace (ghost h next) p (s, g) = trace h p s := by
  induction p generalizing s g with
  | done a => rfl
  | read r follow ih =>
    simp only [trace, ghost]
    congr 1
    exact ih _ _ _

end Ghost

end Reading
