import Mathlib.Data.Int.Basic
import Mathlib.Tactic.Ring

/-!
# Runs of a partial step function

A system is a step function that consumes one event and may be undefined.
A run consumes a list of events. `Guarded` runs are those all of whose steps
meet a condition on the state and the event; the invariant rule and the
accounting rule turn a fact about one guarded step into a fact about the run.
-/

set_option autoImplicit false

namespace Run

variable {σ ε : Type}

def run (step : σ → ε → Option σ) : σ → List ε → Option σ
  | s, [] => some s
  | s, e :: es => (step s e).bind fun s' => run step s' es

/-- Every step of the run that starts at `s` meets `Ok`. -/
def Guarded (step : σ → ε → Option σ) (Ok : σ → ε → Prop) : σ → List ε → Prop
  | _, [] => True
  | s, e :: es => Ok s e ∧ ∀ s', step s e = some s' → Guarded step Ok s' es

def Occurs (step : σ → ε → Option σ) (P : σ → ε → Prop) : σ → List ε → Prop
  | _, [] => False
  | s, e :: es => P s e ∨ ∃ s', step s e = some s' ∧ Occurs step P s' es

/-- `Guarded` for a condition that can be computed. -/
def checks (step : σ → ε → Option σ) (ok : σ → ε → Bool) : σ → List ε → Bool
  | _, [] => true
  | s, e :: es =>
    ok s e && match step s e with
      | some s' => checks step ok s' es
      | none => true

def total (step : σ → ε → Option σ) (cost : σ → ε → σ → ℤ) : σ → List ε → ℤ
  | _, [] => 0
  | s, e :: es =>
    match step s e with
    | some s' => cost s e s' + total step cost s' es
    | none => 0

variable {step : σ → ε → Option σ} {Ok : σ → ε → Prop}

theorem run_cons {s s' : σ} {e : ε} {es : List ε} :
    run step s (e :: es) = some s' ↔ ∃ m, step s e = some m ∧ run step m es = some s' := by
  simp [run, Option.bind_eq_some_iff]

theorem guarded_of_checks {ok : σ → ε → Bool} {s : σ} {es : List ε}
    (h : checks step ok s es = true) : Guarded step (fun s e => ok s e = true) s es := by
  induction es generalizing s with
  | nil => trivial
  | cons e es ih =>
    simp only [checks, Bool.and_eq_true] at h
    refine ⟨h.1, fun s' hs' => ih ?_⟩
    simpa [hs'] using h.2

theorem Guarded.of_forall (h : ∀ s e, Ok s e) (s : σ) (es : List ε) : Guarded step Ok s es := by
  induction es generalizing s with
  | nil => trivial
  | cons e es ih => exact ⟨h s e, fun s' _ => ih s'⟩

theorem Guarded.mono {Ok' : σ → ε → Prop} (himp : ∀ s e, Ok s e → Ok' s e) {s : σ} {es : List ε}
    (h : Guarded step Ok s es) : Guarded step Ok' s es := by
  induction es generalizing s with
  | nil => trivial
  | cons e es ih => exact ⟨himp _ _ h.1, fun s' hs' => ih (h.2 s' hs')⟩

theorem Guarded.and {Ok' : σ → ε → Prop} {s : σ} {es : List ε} (h : Guarded step Ok s es)
    (h' : Guarded step Ok' s es) : Guarded step (fun s e => Ok s e ∧ Ok' s e) s es := by
  induction es generalizing s with
  | nil => trivial
  | cons e es ih =>
    exact ⟨⟨h.1, h'.1⟩, fun s' hs' => ih (h.2 s' hs') (h'.2 s' hs')⟩

theorem Occurs.mono {P Q : σ → ε → Prop} (himp : ∀ s e, P s e → Q s e) {s : σ} {es : List ε}
    (h : Occurs step P s es) : Occurs step Q s es := by
  induction es generalizing s with
  | nil => exact h
  | cons e es ih =>
    rcases h with hP | ⟨s', hs', h⟩
    · exact .inl (himp s e hP)
    · exact .inr ⟨s', hs', ih h⟩

theorem Guarded.of_not_occurs {P : σ → ε → Prop} {s : σ} {es : List ε}
    (h : ¬ Occurs step P s es) : Guarded step (fun s e => ¬ P s e) s es := by
  induction es generalizing s with
  | nil => trivial
  | cons e es ih =>
    constructor
    · exact fun hP => h (.inl hP)
    · intro s' hs'
      exact ih fun ho => h (.inr ⟨s', hs', ho⟩)

/-- A flag that a step sets when it meets `P`, and that no step clears. -/
theorem flag_iff {I : σ → Prop} {P : σ → ε → Prop}
    (hstep : ∀ s e s', step s e = some s' → (I s' ↔ I s ∨ P s e)) {s s' : σ} {es : List ε}
    (hr : run step s es = some s') : I s' ↔ I s ∨ Occurs step P s es := by
  induction es generalizing s with
  | nil =>
    obtain rfl : s = s' := by simpa [run] using hr
    simp [Occurs]
  | cons e es ih =>
    obtain ⟨m, hm, hr⟩ := run_cons.1 hr
    rw [ih hr, hstep s e m hm]
    simp only [Occurs, hm, Option.some.injEq, exists_eq_left', or_assoc]

theorem invariant {I : σ → Prop}
    (hstep : ∀ s e s', I s → Ok s e → step s e = some s' → I s')
    {s s' : σ} {es : List ε} (hI : I s) (hg : Guarded step Ok s es)
    (hr : run step s es = some s') : I s' := by
  induction es generalizing s with
  | nil =>
    obtain rfl : s = s' := by simpa [run] using hr
    exact hI
  | cons e es ih =>
    obtain ⟨m, hm, hr⟩ := run_cons.1 hr
    exact ih (hstep s e m hI hg.1 hm) (hg.2 m hm) hr

theorem invariant' {I : σ → Prop} (hstep : ∀ s e s', I s → step s e = some s' → I s')
    {s s' : σ} {es : List ε} (hI : I s) (hr : run step s es = some s') : I s' := by
  have hg : Guarded step (fun _ _ => True) s es := Guarded.of_forall (fun _ _ => trivial) s es
  exact invariant (fun s e s' h _ => hstep s e s' h) hI hg hr

/-- What another system can follow in a guarded step, it can follow in a guarded run. -/
theorem simulation {τ : Type} {step' : τ → ε → Option τ} {R : σ → τ → Prop}
    (hstep : ∀ s t e s', R s t → Ok s e → step s e = some s' →
      ∃ t', step' t e = some t' ∧ R s' t')
    {s s' : σ} {t : τ} {es : List ε} (hR : R s t) (hg : Guarded step Ok s es)
    (hr : run step s es = some s') : ∃ t', run step' t es = some t' ∧ R s' t' := by
  induction es generalizing s t with
  | nil =>
    obtain rfl : s = s' := by simpa [run] using hr
    exact ⟨t, rfl, hR⟩
  | cons e es ih =>
    obtain ⟨m, hm, hr⟩ := run_cons.1 hr
    obtain ⟨n, hn, hmn⟩ := hstep s t e m hR hg.1 hm
    obtain ⟨t', ht', hst⟩ := ih hmn (hg.2 m hm) hr
    exact ⟨t', run_cons.2 ⟨n, hn, ht'⟩, hst⟩

/-- A quantity that every guarded step lowers by the step's cost is lowered by
the total cost of a guarded run. -/
theorem account {I : σ → Prop} {cost : σ → ε → σ → ℤ} {Φ : σ → ℤ}
    (hinv : ∀ s e s', I s → Ok s e → step s e = some s' → I s')
    (hcost : ∀ s e s', I s → Ok s e → step s e = some s' → Φ s = cost s e s' + Φ s')
    {s s' : σ} {es : List ε} (hI : I s) (hg : Guarded step Ok s es)
    (hr : run step s es = some s') : Φ s = total step cost s es + Φ s' := by
  induction es generalizing s with
  | nil =>
    obtain rfl : s = s' := by simpa [run] using hr
    simp [total]
  | cons e es ih =>
    obtain ⟨m, hm, hr⟩ := run_cons.1 hr
    have hrest := ih (hinv s e m hI hg.1 hm) (hg.2 m hm) hr
    have hone := hcost s e m hI hg.1 hm
    simp only [total, hm]
    rw [hone, hrest]
    ring

theorem total_add (cost cost' : σ → ε → σ → ℤ) (s : σ) (es : List ε) :
    total step (fun s e s' => cost s e s' + cost' s e s') s es =
      total step cost s es + total step cost' s es := by
  induction es generalizing s with
  | nil => rfl
  | cons e es ih =>
    simp only [total]
    cases step s e with
    | none => rfl
    | some m =>
      simp only [ih m]
      ring

end Run
