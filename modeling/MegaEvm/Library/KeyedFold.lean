import Mathlib.Data.List.AList

/-!
# Loops over a finite map

A loop over the entries of a finite map whose body touches only what belongs to
the entry's key. What it leaves at a key depends on the entry of that key alone,
so the order of the entries does not show.
-/

set_option autoImplicit false

namespace KeyedFold

abbrev Map (α β : Type) := AList fun _ : α => β

variable {α β γ σ : Type} [DecidableEq α]

def foldEntries (body : σ → α → β → σ) (s : σ) (m : Map α β) : σ :=
  m.entries.foldl (fun s e => body s e.1 e.2) s

/-- The body changes what `get` reads at its own key, and nothing else of it. -/
structure Local (get : σ → α → γ) (update : β → γ → γ) (body : σ → α → β → σ) : Prop where
  same : ∀ s a b, get (body s a b) a = update b (get s a)
  other : ∀ s a b a', a' ≠ a → get (body s a b) a' = get s a'

theorem foldEntries_insert (body : σ → α → β → σ) (s : σ) {a : α} (b : β) {m : Map α β}
    (h : a ∉ m) : foldEntries body s (m.insert a b) = foldEntries body (body s a b) m := by
  unfold foldEntries
  rw [AList.entries_insert_of_notMem h]
  rfl

theorem Local.get_foldEntries {get : σ → α → γ} {update : β → γ → γ} {body : σ → α → β → σ}
    (h : Local get update body) (s : σ) (m : Map α β) (k : α) :
    get (foldEntries body s m) k = match m.lookup k with
      | some b => update b (get s k)
      | none => get s k := by
  induction m using AList.insertRec generalizing s with
  | H0 => rfl
  | IH a b m hm ih =>
    rw [foldEntries_insert body s b hm, ih]
    by_cases hk : k = a
    · subst hk
      rw [AList.lookup_insert, AList.lookup_eq_none.2 hm, h.same]
    · rw [AList.lookup_insert_ne hk, h.other s a b k hk]

theorem foldEntries_induction {P : σ → Prop} {body : σ → α → β → σ} {m : Map α β}
    (hstep : ∀ s a b, m.lookup a = some b → P s → P (body s a b)) {s : σ} (hs : P s) :
    P (foldEntries body s m) := by
  induction m using AList.insertRec generalizing s with
  | H0 => exact hs
  | IH a b m hm ih =>
    rw [foldEntries_insert body s b hm]
    refine ih (fun s a' b' hb hs => hstep s a' b' ?_ hs) (hstep s a b (AList.lookup_insert m) hs)
    have hne : a' ≠ a := by
      rintro rfl
      rw [AList.lookup_eq_none.2 hm] at hb
      cases hb
    rw [AList.lookup_insert_ne hne]
    exact hb

theorem foldEntries_establish {P : σ → Prop} {body : σ → α → β → σ} {m : Map α β} {k : α} {v : β}
    (hk : m.lookup k = some v) (hset : ∀ s, P (body s k v))
    (hkeep : ∀ s a b, P s → P (body s a b)) (s : σ) : P (foldEntries body s m) := by
  induction m using AList.insertRec generalizing s with
  | H0 => cases hk
  | IH a b m hm ih =>
    rw [foldEntries_insert body s b hm]
    by_cases hak : k = a
    · subst hak
      rw [AList.lookup_insert, Option.some.injEq] at hk
      subst hk
      exact foldEntries_induction (fun s a b _ hs => hkeep s a b hs) (hset s)
    · rw [AList.lookup_insert_ne hak] at hk
      exact ih hk _

def mergeWith (merge : Option β → β → β) (this other : Map α β) : Map α β :=
  foldEntries (fun m a b => m.insert a (merge (m.lookup a) b)) this other

theorem lookup_mergeWith (merge : Option β → β → β) (this other : Map α β) (k : α) :
    (mergeWith merge this other).lookup k = match other.lookup k with
      | some b => some (merge (this.lookup k) b)
      | none => this.lookup k := by
  have hlocal : Local (fun (m : Map α β) k => m.lookup k) (fun b v => some (merge v b))
      (fun m a b => m.insert a (merge (m.lookup a) b)) :=
    { same := fun m a b => AList.lookup_insert m
      other := fun m a b k hk => AList.lookup_insert_ne hk }
  exact hlocal.get_foldEntries this other k

def mapValues (f : β → β) (m : Map α β) : Map α β where
  entries := m.entries.map fun e => ⟨e.1, f e.2⟩
  nodupKeys := by
    have hkeys : (m.entries.map fun e => (⟨e.1, f e.2⟩ : Sigma fun _ : α => β)).keys =
        m.entries.keys := by
      simp [List.keys]
    rw [List.NodupKeys, hkeys]
    exact m.nodupKeys

theorem lookup_mapValues (f : β → β) (m : Map α β) (k : α) :
    (mapValues f m).lookup k = (m.lookup k).map f := by
  change List.dlookup k (m.entries.map fun e => (⟨e.1, f e.2⟩ : Sigma fun _ : α => β)) =
    (List.dlookup k m.entries).map f
  induction m.entries with
  | nil => rfl
  | cons e es ih =>
    obtain ⟨a, b⟩ := e
    simp only [List.map_cons]
    by_cases hk : k = a
    · subst hk
      rw [List.dlookup_cons_eq, List.dlookup_cons_eq]
      rfl
    · have hcons : ∀ (x : β) (l : List (Sigma fun _ : α => β)),
          List.dlookup k (⟨a, x⟩ :: l) = List.dlookup k l := fun x l =>
        List.dlookup_cons_ne l ⟨a, x⟩ hk
      rw [hcons, hcons]
      exact ih

section Collect

variable {ε : Type}

def collect (f : β → γ) (m : Map α β) : Map α γ :=
  foldEntries (fun out a b => out.insert a (f b)) ∅ m

theorem lookup_collect (f : β → γ) (m : Map α β) (k : α) :
    (collect f m).lookup k = (m.lookup k).map f := by
  have hlocal : Local (fun (out : Map α γ) k => out.lookup k) (fun b _ => some (f b))
      (fun out a b => out.insert a (f b)) :=
    { same := fun out a b => AList.lookup_insert out
      other := fun out a b k hk => AList.lookup_insert_ne hk }
  have hget := hlocal.get_foldEntries ∅ m k
  rw [collect, hget]
  cases m.lookup k with
  | some b => rfl
  | none => exact AList.lookup_empty k

def collectSome (f : β → Option γ) (m : Map α β) : Map α γ :=
  foldEntries (fun out a b => match f b with
    | some c => out.insert a c
    | none => out) ∅ m

theorem lookup_collectSome (f : β → Option γ) (m : Map α β) (k : α) :
    (collectSome f m).lookup k = (m.lookup k).bind f := by
  have hlocal : Local (fun (out : Map α γ) k => out.lookup k) (fun b c => (f b).or c)
      (fun out a b => match f b with
        | some c => out.insert a c
        | none => out) := by
    constructor
    case same =>
      intro out a b
      cases f b with
      | some c => exact AList.lookup_insert out
      | none => rfl
    case other =>
      intro out a b k hk
      cases f b with
      | some c => exact AList.lookup_insert_ne hk
      | none => rfl
  have hget := hlocal.get_foldEntries ∅ m k
  rw [collectSome, hget]
  cases m.lookup k with
  | some b => exact (congrArg (f b).or (AList.lookup_empty k)).trans Option.or_none
  | none => exact AList.lookup_empty k

/-- The loop stops at the first value that cannot be converted. -/
def tryCollectFrom (f : β → Except ε γ) (out : Map α γ) (m : Map α β) : Except ε (Map α γ) :=
  m.entries.foldlM (fun out e => (f e.2).map (out.insert e.1)) out

def tryCollect (f : β → Except ε γ) (m : Map α β) : Except ε (Map α γ) := tryCollectFrom f ∅ m

theorem tryCollectFrom_insert (f : β → Except ε γ) (out : Map α γ) {a : α} (b : β) {m : Map α β}
    (h : a ∉ m) : tryCollectFrom f out (m.insert a b) =
      (f b).bind fun c => tryCollectFrom f (out.insert a c) m := by
  unfold tryCollectFrom
  rw [AList.entries_insert_of_notMem h, List.foldlM_cons]
  cases f b with
  | error e | ok c => rfl

theorem tryCollectFrom_ok {f : β → Except ε γ} {out result : Map α γ} {m : Map α β}
    (h : tryCollectFrom f out m = .ok result) (k : α) :
    (m.lookup k = none → result.lookup k = out.lookup k) ∧
      ∀ b, m.lookup k = some b → ∃ c, f b = .ok c ∧ result.lookup k = some c := by
  induction m using AList.insertRec generalizing out with
  | H0 =>
    obtain rfl : out = result := Except.ok.inj h
    refine ⟨fun _ => rfl, fun b hb => ?_⟩
    rw [AList.lookup_empty] at hb
    cases hb
  | IH a b m hm ih =>
    rw [tryCollectFrom_insert f out b hm] at h
    cases hf : f b with
    | error e => simp [hf, Except.bind] at h
    | ok c =>
      rw [hf] at h
      have hrest := ih h
      by_cases hk : k = a
      · subst hk
        rw [AList.lookup_insert]
        refine ⟨fun hnone => absurd hnone (Option.some_ne_none b), fun b' hb' => ?_⟩
        obtain rfl : b = b' := Option.some.inj hb'
        refine ⟨c, hf, ?_⟩
        rw [hrest.1 (AList.lookup_eq_none.2 hm), AList.lookup_insert]
      · rw [AList.lookup_insert_ne hk]
        refine ⟨fun hnone => ?_, hrest.2⟩
        rw [hrest.1 hnone, AList.lookup_insert_ne hk]

theorem tryCollectFrom_total {f : β → Except ε γ} {m : Map α β}
    (h : ∀ k b, m.lookup k = some b → ∃ c, f b = .ok c) (out : Map α γ) :
    ∃ result, tryCollectFrom f out m = .ok result := by
  induction m using AList.insertRec generalizing out with
  | H0 => exact ⟨out, rfl⟩
  | IH a b m hm ih =>
    obtain ⟨c, hc⟩ := h a b (AList.lookup_insert m)
    rw [tryCollectFrom_insert f out b hm, hc]
    refine ih (fun k b' hb' => h k b' ?_) (out.insert a c)
    have hne : k ≠ a := by
      rintro rfl
      rw [AList.lookup_eq_none.2 hm] at hb'
      cases hb'
    rw [AList.lookup_insert_ne hne]
    exact hb'

theorem lookup_tryCollect {f : β → Except ε γ} {m : Map α β} {result : Map α γ}
    (h : tryCollect f m = .ok result) (k : α) :
    (m.lookup k = none → result.lookup k = none) ∧
      ∀ b, m.lookup k = some b → ∃ c, f b = .ok c ∧ result.lookup k = some c := by
  obtain ⟨hnone, hsome⟩ := tryCollectFrom_ok h k
  exact ⟨fun hk => (hnone hk).trans (AList.lookup_empty k), hsome⟩

/-- Values taken to another form and back again: the way back goes through, and ends
at related values, exactly if it does so for each value by itself. -/
theorem tryCollect_collect_iff {δ : Type} {f : β → γ} {g : γ → Except ε δ} {R : β → δ → Prop}
    {m : Map α β} :
    (∃ result, tryCollect g (collect f m) = .ok result ∧
      ∀ k, Option.Rel R (m.lookup k) (result.lookup k)) ↔
      ∀ k b, m.lookup k = some b → ∃ d, g (f b) = .ok d ∧ R b d := by
  have hthere : ∀ k, (collect f m).lookup k = (m.lookup k).map f := lookup_collect f m
  constructor
  · rintro ⟨result, hok, hrel⟩ k b hb
    obtain ⟨-, hback⟩ := lookup_tryCollect hok k
    obtain ⟨d, hd, hl⟩ := hback (f b) (by rw [hthere, hb, Option.map_some])
    have hkey := hrel k
    rw [hb, hl] at hkey
    cases hkey with
    | some h => exact ⟨d, hd, h⟩
  · intro heach
    have htotal : ∀ k c, (collect f m).lookup k = some c → ∃ d, g c = .ok d := by
      intro k c hc
      rw [hthere, Option.map_eq_some_iff] at hc
      obtain ⟨b, hb, rfl⟩ := hc
      obtain ⟨d, hd, -⟩ := heach k b hb
      exact ⟨d, hd⟩
    obtain ⟨result, hresult⟩ := tryCollectFrom_total htotal ∅
    refine ⟨result, hresult, fun k => ?_⟩
    obtain ⟨hnone, hsome⟩ := lookup_tryCollect hresult k
    cases hb : m.lookup k with
    | none =>
      rw [hnone (by rw [hthere, hb, Option.map_none])]
      exact .none
    | some b =>
      obtain ⟨d, hd, hr⟩ := heach k b hb
      obtain ⟨d', hd', hl⟩ := hsome (f b) (by rw [hthere, hb, Option.map_some])
      obtain rfl : d = d' := Except.ok.inj (hd.symm.trans hd')
      rw [hl]
      exact .some hr

end Collect

end KeyedFold
