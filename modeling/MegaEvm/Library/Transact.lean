import Mathlib.Algebra.Group.Nat.Defs
import Mathlib.Data.List.GetD
import Mathlib.Logic.Function.Basic

/-!
# Steps that happen or leave nothing

A step either succeeds with a new state and a result or fails without one, so
that a failure leaves the caller the state it had. `runAll` runs steps in order
and fails with the first that fails; `commit` is the view of an onlooker, who
sees no change when a step fails. `writeAll` writes a list of cells in order.
-/

set_option autoImplicit false

namespace Transact

variable {σ ι ε ρ : Type}

def runAll (f : ι → σ → Except ε (σ × ρ)) : List ι → σ → Except ε (σ × List ρ)
  | [], s => .ok (s, [])
  | x :: xs, s =>
    match f x s with
    | .error e => .error e
    | .ok (s', r) =>
      match runAll f xs s' with
      | .error e => .error e
      | .ok (s'', rs) => .ok (s'', r :: rs)

def commit (f : ι → σ → Except ε (σ × ρ)) (s : σ) (x : ι) : σ :=
  match f x s with
  | .ok (s', _) => s'
  | .error _ => s

theorem commit_ok {f : ι → σ → Except ε (σ × ρ)} {s s' : σ} {x : ι} {r : ρ}
    (h : f x s = .ok (s', r)) : commit f s x = s' := by
  simp only [commit, h]

theorem commit_error {f : ι → σ → Except ε (σ × ρ)} {s : σ} {x : ι} {e : ε}
    (h : f x s = .error e) : commit f s x = s := by
  simp only [commit, h]

theorem commit_ne {f : ι → σ → Except ε (σ × ρ)} {s : σ} {x : ι} (h : commit f s x ≠ s) :
    ∃ s' r, f x s = .ok (s', r) ∧ s' ≠ s := by
  cases hf : f x s with
  | error e => exact absurd (commit_error hf) h
  | ok p => exact ⟨p.1, p.2, rfl, by rwa [commit_ok hf] at h⟩

variable {f : ι → σ → Except ε (σ × ρ)}

theorem runAll_cons {x : ι} {xs : List ι} {s s' : σ} {rs : List ρ} :
    runAll f (x :: xs) s = .ok (s', rs) ↔
      ∃ m r rs', f x s = .ok (m, r) ∧ runAll f xs m = .ok (s', rs') ∧ rs = r :: rs' := by
  constructor
  · intro h
    simp only [runAll] at h
    split at h
    next => simp at h
    next m r hx =>
      split at h
      next => simp at h
      next s'' rs' hxs =>
        obtain ⟨rfl, rfl⟩ : s'' = s' ∧ r :: rs' = rs := by simpa using h
        exact ⟨m, r, rs', hx, hxs, rfl⟩
  · rintro ⟨m, r, rs', hx, hxs, rfl⟩
    simp [runAll, hx, hxs]

theorem runAll_keeps {P : σ → Prop} {xs : List ι} {s s' : σ} {rs : List ρ}
    (hstep : ∀ x s s' r, f x s = .ok (s', r) → P s → P s')
    (h : runAll f xs s = .ok (s', rs)) (hs : P s) : P s' := by
  induction xs generalizing s rs with
  | nil =>
    obtain ⟨rfl, -⟩ : s = s' ∧ [] = rs := by simpa [runAll] using h
    exact hs
  | cons x xs ih =>
    obtain ⟨m, r, rs', hx, hxs, -⟩ := runAll_cons.1 h
    exact ih hxs (hstep x s m r hx hs)

theorem runAll_commits {xs : List ι} {s s' : σ} {rs : List ρ}
    (h : runAll f xs s = .ok (s', rs)) : xs.foldl (commit f) s = s' := by
  induction xs generalizing s rs with
  | nil => exact (Prod.mk.inj (Except.ok.inj h)).1
  | cons x xs ih =>
    obtain ⟨m, r, rs', hx, hxs, -⟩ := runAll_cons.1 h
    rw [List.foldl_cons, commit_ok hx]
    exact ih hxs

theorem runAll_map {κ : Type} (g : κ → ι) (xs : List κ) (s : σ) :
    runAll f (xs.map g) s = runAll (fun x => f (g x)) xs s := by
  induction xs generalizing s with
  | nil => rfl
  | cons x xs ih => simp only [List.map_cons, runAll, ih]

/-- Steps that change nothing when committed can be left out. -/
theorem foldl_commit_filter (keep : ι → Bool)
    (h : ∀ x s, keep x = false → commit f s x = s) (xs : List ι) (s : σ) :
    xs.foldl (commit f) s = (xs.filter keep).foldl (commit f) s := by
  induction xs generalizing s with
  | nil => rfl
  | cons x xs ih =>
    by_cases hk : keep x = true
    · rw [List.filter_cons_of_pos hk, List.foldl_cons, List.foldl_cons, ih]
    · rw [List.filter_cons_of_neg hk, List.foldl_cons, h x s (by simpa using hk), ih]

/-! ## Writing cells -/

variable {κ ν : Type} [DecidableEq κ]

def writeAll (ws : List (κ × ν)) (cells : κ → ν) : κ → ν :=
  ws.foldl (fun c w => Function.update c w.1 w.2) cells

theorem writeAll_cons (w : κ × ν) (ws : List (κ × ν)) (cells : κ → ν) :
    writeAll (w :: ws) cells = writeAll ws (Function.update cells w.1 w.2) := rfl

theorem writeAll_untouched {ws : List (κ × ν)} {cells : κ → ν} {k : κ}
    (h : ∀ w ∈ ws, w.1 ≠ k) : writeAll ws cells k = cells k := by
  induction ws generalizing cells with
  | nil => rfl
  | cons w ws ih =>
    rw [writeAll_cons, ih fun v hv => h v (List.mem_cons_of_mem w hv)]
    exact Function.update_of_ne (h w List.mem_cons_self).symm _ _

theorem writeAll_last {before after : List (κ × ν)} {k : κ} {v : ν} {cells : κ → ν}
    (h : ∀ w ∈ after, w.1 ≠ k) : writeAll (before ++ (k, v) :: after) cells k = v := by
  induction before generalizing cells with
  | nil =>
    show writeAll after (Function.update cells k v) k = v
    rw [writeAll_untouched h, Function.update_self]
  | cons w ws ih =>
    show writeAll (ws ++ (k, v) :: after) (Function.update cells w.1 w.2) k = v
    exact ih

end Transact
