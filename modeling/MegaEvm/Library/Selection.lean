import MegaEvm.Library.Run
import Mathlib.Data.List.Basic

/-!
# A run that keeps some of its inputs

A builder takes inputs one by one and keeps what it accepts. A validator is given what
was kept, and nothing else. If what is not kept leaves the two states related, and
what is kept is accepted and leaves them related, the validator ends where the builder
does.
-/

set_option autoImplicit false

namespace Selection

variable {σ τ ι κ : Type}

def buildAll (build : σ → ι → σ × Option κ) : σ → List ι → σ × List κ
  | s, [] => (s, [])
  | s, i :: is =>
    let rest := buildAll build (build s i).1 is
    (rest.1, (build s i).2.toList ++ rest.2)

def validateAll (validate : τ → κ → Option τ) : τ → List κ → Option τ
  | t, [] => some t
  | t, k :: ks => (validate t k).bind fun t' => validateAll validate t' ks

/-- Every input the builder takes meets `Ok` where it is taken. -/
def Takes (build : σ → ι → σ × Option κ) (Ok : σ → ι → Prop) : σ → List ι → Prop :=
  Run.Guarded (fun s i => some (build s i).1) Ok

structure Follows (build : σ → ι → σ × Option κ) (validate : τ → κ → Option τ)
    (Ok : σ → ι → Prop) (R : σ → τ → Prop) : Prop where
  skipped : ∀ s t i, R s t → (build s i).2 = none → R (build s i).1 t
  kept : ∀ s t i k, R s t → Ok s i → (build s i).2 = some k →
    ∃ t', validate t k = some t' ∧ R (build s i).1 t'

variable {build : σ → ι → σ × Option κ} {validate : τ → κ → Option τ} {Ok : σ → ι → Prop}
  {R : σ → τ → Prop}

theorem Follows.all (h : Follows build validate Ok R) {s : σ} {t : τ} {is : List ι} (hR : R s t)
    (ht : Takes build Ok s is) :
    ∃ t', validateAll validate t (buildAll build s is).2 = some t' ∧
      R (buildAll build s is).1 t' := by
  induction is generalizing s t with
  | nil => exact ⟨t, rfl, hR⟩
  | cons i is ih =>
    obtain ⟨hok, hrest⟩ := ht
    have hrest := hrest _ rfl
    simp only [buildAll]
    cases hk : (build s i).2 with
    | none =>
      obtain ⟨t', ht', hR'⟩ := ih (h.skipped s t i hR hk) hrest
      exact ⟨t', ht', hR'⟩
    | some k =>
      obtain ⟨m, hm, hRm⟩ := h.kept s t i k hR hok hk
      obtain ⟨t', ht', hR'⟩ := ih hRm hrest
      refine ⟨t', ?_, hR'⟩
      simpa [validateAll, hm] using ht'

theorem validateAll_append (t : τ) (ks ks' : List κ) :
    validateAll validate t (ks ++ ks') =
      (validateAll validate t ks).bind fun t' => validateAll validate t' ks' := by
  induction ks generalizing t with
  | nil => rfl
  | cons k ks ih =>
    rw [List.cons_append, validateAll, validateAll, Option.bind_assoc]
    exact congrArg _ (funext ih)

end Selection
