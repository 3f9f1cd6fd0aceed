import Mathlib.Data.List.Basic

/-!
# Programs that read a world

A program either is done or reads one cell of its world and goes on with what it
finds. Its run depends on the cells it reads alone, so a world that agrees on
those gives the same run. A handler answers the reads of a program by programs.
-/

set_option autoImplicit false

namespace Reading

variable {ρ : Type} {Val : ρ → Type} {α β : Type}

abbrev World (Val : ρ → Type) := ∀ r, Val r

inductive Prog (Val : ρ → Type) (α : Type) : Type where
  | done (a : α)
  | read (r : ρ) (next : Val r → Prog Val α)

def run (w : World Val) : Prog Val α → α
  | .done a => a
  | .read r next => run w (next (w r))

def reads (w : World Val) : Prog Val α → List ρ
  | .done _ => []
  | .read r next => r :: reads w (next (w r))

def Prog.bind : Prog Val α → (α → Prog Val β) → Prog Val β
  | .done a, f => f a
  | .read r next, f => .read r fun v => (next v).bind f

def Prog.handle (h : ∀ r, Prog Val (Val r)) : Prog Val α → Prog Val α
  | .done a => .done a
  | .read r next => (h r).bind fun v => (next v).handle h

/-- Answer every read by a program that passes a state on. -/
def Prog.thread {ρ' σ : Type} {Val' : ρ' → Type} (h : ∀ r, σ → Prog Val (Val' r × σ)) :
    Prog Val' α → σ → Prog Val (α × σ)
  | .done a, s => .done (a, s)
  | .read r next, s => (h r s).bind fun x => (next x.1).thread h x.2

@[simp] theorem run_done (w : World Val) (a : α) : run w (.done a) = a := rfl

@[simp] theorem reads_done (w : World Val) (a : α) : reads w (.done a : Prog Val α) = [] := rfl

@[simp] theorem run_read (w : World Val) (r : ρ) (next : Val r → Prog Val α) :
    run w (.read r next) = run w (next (w r)) := rfl

@[simp] theorem reads_read (w : World Val) (r : ρ) (next : Val r → Prog Val α) :
    reads w (.read r next) = r :: reads w (next (w r)) := rfl

@[simp] theorem run_bind (w : World Val) (p : Prog Val α) (f : α → Prog Val β) :
    run w (p.bind f) = run w (f (run w p)) := by
  induction p with
  | done a => rfl
  | read r next ih => exact ih (w r)

@[simp] theorem reads_bind (w : World Val) (p : Prog Val α) (f : α → Prog Val β) :
    reads w (p.bind f) = reads w p ++ reads w (f (run w p)) := by
  induction p with
  | done a => rfl
  | read r next ih =>
    simp only [Prog.bind, reads_read, run_read, List.cons_append]
    rw [ih (w r)]

theorem run_handle (w : World Val) (h : ∀ r, Prog Val (Val r)) (p : Prog Val α) :
    run w (p.handle h) = run (fun r => run w (h r)) p := by
  induction p with
  | done a => rfl
  | read r next ih =>
    simp only [Prog.handle, run_bind, run_read]
    exact ih (run w (h r))

theorem mem_reads_handle {w : World Val} {h : ∀ r, Prog Val (Val r)} {p : Prog Val α} {r : ρ}
    (hr : r ∈ reads w (p.handle h)) :
    ∃ q ∈ reads (fun r => run w (h r)) p, r ∈ reads w (h q) := by
  induction p with
  | done a => cases hr
  | read q next ih =>
    simp only [Prog.handle, reads_bind, List.mem_append] at hr
    rcases hr with hr | hr
    · exact ⟨q, List.mem_cons_self .., hr⟩
    · obtain ⟨q', hq', hr'⟩ := ih (run w (h q)) hr
      exact ⟨q', List.mem_cons_of_mem _ hq', hr'⟩

theorem run_congr {w w' : World Val} {p : Prog Val α} (h : ∀ r ∈ reads w p, w' r = w r) :
    run w' p = run w p := by
  induction p with
  | done a => rfl
  | read r next ih =>
    simp only [reads_read, List.mem_cons, forall_eq_or_imp] at h
    simp only [run_read]
    rw [h.1]
    exact ih (w r) h.2

end Reading
