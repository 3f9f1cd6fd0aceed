import MegaEvm.Library.Checkpoint

/-!
# What survives of a ledger's history

The reference for a ledger under checkpoints: every posting is remembered with the
frames that were open when it was made, every dropped frame is remembered for good,
and what counts in the end are the postings none of whose frames was dropped. The
ledger only keeps one amount for each open frame, and has the same total.
-/

set_option autoImplicit false

namespace Checkpoint

inductive LedgerOp where
  | push
  | post (amount : ℤ)
  | pop (keep : Bool)
  deriving DecidableEq, Repr

def Ledger.step (l : Ledger) : LedgerOp → Ledger
  | .push => l.push
  | .post amount => l.post amount
  | .pop keep => l.pop keep

/-- An amount, and the frames it was posted in, the newest first. -/
structure Posting where
  frames : List ℕ
  amount : ℤ
  deriving DecidableEq, Repr

/-- Frames are numbered as they are opened; `path` holds the open ones, the newest first. -/
structure History where
  opened : ℕ
  path : List ℕ
  dropped : List ℕ
  postings : List Posting
  deriving DecidableEq, Repr

namespace History

def empty : History := ⟨0, [], [], []⟩

def step (h : History) : LedgerOp → History
  | .push => { h with opened := h.opened + 1, path := h.opened :: h.path }
  | .post amount => { h with postings := ⟨h.path, amount⟩ :: h.postings }
  | .pop keep =>
    match h.path with
    | [] => h
    | frame :: path =>
      { h with path := path, dropped := if keep then h.dropped else frame :: h.dropped }

/-- Neither the frame the amount was posted in nor one around it was dropped. -/
def Survives (h : History) (p : Posting) : Prop := ∀ frame ∈ p.frames, frame ∉ h.dropped

instance (h : History) (p : Posting) : Decidable (h.Survives p) :=
  inferInstanceAs (Decidable (∀ frame ∈ p.frames, frame ∉ h.dropped))

def surviving (h : History) : ℤ :=
  ((h.postings.filter fun p => h.Survives p).map (·.amount)).sum

def survivingIn (h : History) (frame : ℕ) : ℤ :=
  ((h.postings.filter fun p => h.Survives p ∧ frame ∈ p.frames).map (·.amount)).sum

structure Nested (h : History) : Prop where
  open_lt : ∀ frame ∈ h.path, frame < h.opened
  dropped_lt : ∀ frame ∈ h.dropped, frame < h.opened
  posted_lt : ∀ p ∈ h.postings, ∀ frame ∈ p.frames, frame < h.opened
  kept : ∀ frame ∈ h.path, frame ∉ h.dropped
  newest : h.path.Pairwise fun inner outer => outer < inner
  inside : ∀ p ∈ h.postings, h.path.Pairwise fun inner outer => inner ∈ p.frames → outer ∈ p.frames

theorem nested_empty : empty.Nested where
  open_lt := by simp [empty]
  dropped_lt := by simp [empty]
  posted_lt := by simp [empty]
  kept := by simp [empty]
  newest := .nil
  inside := by simp [empty]

theorem Nested.push {h : History} (hn : h.Nested) : (h.step .push).Nested where
  open_lt := by
    intro f hf
    rcases List.mem_cons.1 hf with rfl | hf
    · exact Nat.lt_succ_self _
    · exact Nat.lt_succ_of_lt (hn.open_lt f hf)
  dropped_lt := fun f hf => Nat.lt_succ_of_lt (hn.dropped_lt f hf)
  posted_lt := fun p hp f hf => Nat.lt_succ_of_lt (hn.posted_lt p hp f hf)
  kept := by
    intro f hf hd
    rcases List.mem_cons.1 hf with rfl | hf
    · exact Nat.lt_irrefl _ (hn.dropped_lt _ hd)
    · exact hn.kept f hf hd
  newest := List.pairwise_cons.2 ⟨hn.open_lt, hn.newest⟩
  inside := by
    intro p hp
    refine List.pairwise_cons.2 ⟨fun outer _ hf => ?_, hn.inside p hp⟩
    -- nothing was posted in the new frame yet
    exact absurd (hn.posted_lt p hp _ hf) (Nat.lt_irrefl _)

theorem Nested.post {h : History} (hn : h.Nested) (amount : ℤ) :
    (h.step (.post amount)).Nested where
  open_lt := hn.open_lt
  dropped_lt := hn.dropped_lt
  posted_lt := by
    intro p hp
    rcases List.mem_cons.1 hp with rfl | hp
    · exact hn.open_lt
    · exact hn.posted_lt p hp
  kept := hn.kept
  newest := hn.newest
  inside := by
    intro p hp
    rcases List.mem_cons.1 hp with rfl | hp
    · exact List.Pairwise.imp_of_mem (fun _ houter _ _ => houter) hn.newest
    · exact hn.inside p hp

theorem Nested.pop {h : History} (hn : h.Nested) (keep : Bool) : (h.step (.pop keep)).Nested := by
  obtain ⟨opened, path, dropped, postings⟩ := h
  cases path with
  | nil => exact hn
  | cons frame path =>
    have hnewest := List.pairwise_cons.1 hn.newest
    have hdropped : ∀ f ∈ if keep then dropped else frame :: dropped, f = frame ∨ f ∈ dropped := by
      intro f hf
      cases keep with
      | true => exact .inr hf
      | false => exact List.mem_cons.1 hf
    exact
      { open_lt := fun f hf => hn.open_lt f (List.mem_cons_of_mem _ hf)
        dropped_lt := by
          intro f hf
          rcases hdropped f hf with rfl | hf
          · exact hn.open_lt f List.mem_cons_self
          · exact hn.dropped_lt f hf
        posted_lt := hn.posted_lt
        kept := by
          intro f hf hd
          rcases hdropped f hd with rfl | hd
          · exact Nat.lt_irrefl _ (hnewest.1 f hf)
          · exact hn.kept f (List.mem_cons_of_mem _ hf) hd
        newest := hnewest.2
        inside := fun p hp => (List.pairwise_cons.1 (hn.inside p hp)).2 }

theorem Nested.step {h : History} (hn : h.Nested) (op : LedgerOp) : (h.step op).Nested := by
  cases op with
  | push => exact hn.push
  | post amount => exact hn.post amount
  | pop keep => exact hn.pop keep

section Sums

variable {h : History} {frame : ℕ}

theorem Nested.survivingIn_opened (hn : h.Nested) : h.survivingIn h.opened = 0 := by
  have hnone : (h.postings.filter fun p => h.Survives p ∧ h.opened ∈ p.frames) = [] := by
    rw [List.filter_eq_nil_iff]
    intro p hp hdec
    have hmem := (of_decide_eq_true hdec).2
    exact Nat.lt_irrefl _ (hn.posted_lt p hp _ hmem)
  rw [survivingIn, hnone]
  rfl

theorem Nested.surviving_post (hn : h.Nested) (amount : ℤ) :
    (h.step (.post amount)).surviving = amount + h.surviving := by
  have hnew : h.Survives ⟨h.path, amount⟩ := hn.kept
  have hfilter : ((h.step (.post amount)).postings.filter fun p =>
      (h.step (.post amount)).Survives p) =
      ⟨h.path, amount⟩ :: h.postings.filter fun p => h.Survives p :=
    List.filter_cons_of_pos (decide_eq_true hnew)
  rw [surviving, hfilter]
  simp [surviving]

theorem Nested.survivingIn_post (hn : h.Nested) (amount : ℤ) (hopen : frame ∈ h.path) :
    (h.step (.post amount)).survivingIn frame = h.survivingIn frame + amount := by
  have hnew : h.Survives ⟨h.path, amount⟩ ∧ frame ∈ h.path := ⟨hn.kept, hopen⟩
  have hfilter : ((h.step (.post amount)).postings.filter fun p =>
      (h.step (.post amount)).Survives p ∧ frame ∈ p.frames) =
      ⟨h.path, amount⟩ :: h.postings.filter fun p => h.Survives p ∧ frame ∈ p.frames :=
    List.filter_cons_of_pos (decide_eq_true hnew)
  rw [survivingIn, hfilter]
  simp [survivingIn, add_comm]

theorem sum_filter_not_mem (ps : List Posting) (P : Posting → Prop) [DecidablePred P]
    (Q : Posting → Prop) [DecidablePred Q] (himp : ∀ p ∈ ps, Q p → P p) :
    ((ps.filter fun p => P p ∧ ¬ Q p).map (·.amount)).sum =
      ((ps.filter P).map (·.amount)).sum - ((ps.filter Q).map (·.amount)).sum := by
  induction ps with
  | nil => rfl
  | cons p ps ih =>
    have hrest := ih fun q hq => himp q (List.mem_cons_of_mem _ hq)
    have hp := himp p List.mem_cons_self
    by_cases hQ : Q p
    · have hP := hp hQ
      simp only [List.filter_cons, hP, hQ, decide_true, not_true_eq_false, and_false,
        decide_false, Bool.false_eq_true, if_true, if_false, List.map_cons, List.sum_cons, hrest]
      ring
    · by_cases hP : P p
      · simp only [List.filter_cons, hP, hQ, decide_true, not_false_eq_true, and_true,
          decide_false, Bool.false_eq_true, if_true, if_false, List.map_cons, List.sum_cons, hrest]
        ring
      · simp only [List.filter_cons, hP, hQ, false_and, decide_false, Bool.false_eq_true, if_false,
          hrest]

variable {path : List ℕ}

theorem survives_drop (hpath : h.path = frame :: path) (p : Posting) :
    (h.step (.pop false)).Survives p ↔ h.Survives p ∧ frame ∉ p.frames := by
  simp only [step, hpath, Survives, Bool.false_eq_true, if_false, List.mem_cons, not_or]
  constructor
  · intro hs
    exact ⟨fun f hf => (hs f hf).2, fun hf => (hs _ hf).1 rfl⟩
  · rintro ⟨hs, hne⟩ f hf
    exact ⟨fun heq => hne (heq ▸ hf), hs f hf⟩

theorem postings_drop (hpath : h.path = frame :: path) :
    (h.step (.pop false)).postings = h.postings := by
  simp [step, hpath]

theorem surviving_drop (hpath : h.path = frame :: path) :
    (h.step (.pop false)).surviving = h.surviving - h.survivingIn frame := by
  have hsum := sum_filter_not_mem h.postings (fun p => h.Survives p)
    (fun p => h.Survives p ∧ frame ∈ p.frames) fun _ _ hQ => hQ.1
  rw [surviving, postings_drop hpath, surviving, survivingIn, ← hsum]
  congr 2
  apply List.filter_congr
  intro p _
  rw [decide_eq_decide, survives_drop hpath]
  tauto

theorem Nested.survivingIn_drop (hn : h.Nested) (hpath : h.path = frame :: path) {outer : ℕ}
    (houter : outer ∈ path) :
    (h.step (.pop false)).survivingIn outer = h.survivingIn outer - h.survivingIn frame := by
  have hinside : ∀ p ∈ h.postings, frame ∈ p.frames → outer ∈ p.frames := by
    intro p hp hf
    have hpair := hn.inside p hp
    rw [hpath, List.pairwise_cons] at hpair
    exact hpair.1 outer houter hf
  have hsum := sum_filter_not_mem h.postings (fun p => h.Survives p ∧ outer ∈ p.frames)
    (fun p => h.Survives p ∧ frame ∈ p.frames) fun p hp hQ => ⟨hQ.1, hinside p hp hQ.2⟩
  rw [survivingIn, postings_drop hpath, survivingIn, survivingIn, ← hsum]
  congr 2
  apply List.filter_congr
  intro p _
  rw [decide_eq_decide, survives_drop hpath]
  tauto

end Sums

/-- From the newest frame outwards, the amounts of the frames so far, with `above` on
top, add up to what survives in the last of them. -/
def Held (inFrame : ℕ → ℤ) : ℤ → List ℤ → List ℕ → Prop
  | _, [], [] => True
  | above, a :: as, frame :: path =>
    above + a = inFrame frame ∧ Held inFrame (above + a) as path
  | _, _, _ => False

theorem Held.shift {f g : ℕ → ℤ} {amount above : ℤ} {as : List ℤ} {path : List ℕ}
    (h : Held f above as path) (hg : ∀ frame ∈ path, g frame = f frame + amount) :
    Held g (above + amount) as path := by
  induction as generalizing above path with
  | nil =>
    cases path with
    | nil => trivial
    | cons => exact h.elim
  | cons a as ih =>
    cases path with
    | nil => exact h.elim
    | cons frame path =>
      have hswap : above + amount + a = above + a + amount := by ring
      refine ⟨?_, ?_⟩
      · rw [hswap, h.1, hg frame List.mem_cons_self]
      · rw [hswap]
        exact ih h.2 fun f hf => hg f (List.mem_cons_of_mem _ hf)

structure Tied (h : History) (l : Ledger) : Prop where
  total : l.total = h.surviving
  held : Held h.survivingIn 0 l.frames h.path

theorem tied_empty : empty.Tied ⟨0, []⟩ := ⟨rfl, trivial⟩

theorem Tied.push {h : History} {l : Ledger} (ht : h.Tied l) (hn : h.Nested) :
    (h.step .push).Tied l.push := by
  refine ⟨?_, ?_⟩
  · rw [← show h.surviving = (h.step .push).surviving from rfl, ← ht.total]
    simp [Ledger.total, Ledger.push]
  · have hnew : (h.step .push).survivingIn h.opened = 0 := hn.survivingIn_opened
    refine ⟨by rw [hnew, add_zero], ?_⟩
    rw [add_zero]
    exact ht.held

theorem Tied.post {h : History} {l : Ledger} (ht : h.Tied l) (hn : h.Nested) (amount : ℤ) :
    (h.step (.post amount)).Tied (l.post amount) := by
  obtain ⟨base, frames⟩ := l
  have htotal := ht.total
  have hheld := ht.held
  have hin := fun frame => @Nested.survivingIn_post h frame hn amount
  refine ⟨?_, ?_⟩
  · rw [hn.surviving_post, ← htotal]
    cases frames with
    | nil =>
      simp only [Ledger.total, Ledger.post, List.sum_nil]
      ring
    | cons a as =>
      simp only [Ledger.total, Ledger.post, List.sum_cons]
      ring
  · show Held _ 0 ((Ledger.post ⟨base, frames⟩ amount).frames) h.path
    cases frames with
    | nil =>
      cases hpath : h.path with
      | nil => trivial
      | cons => exact absurd hheld (by simp [hpath, Held])
    | cons a as =>
      cases hpath : h.path with
      | nil => exact absurd hheld (by simp [hpath, Held])
      | cons frame path =>
        rw [hpath] at hheld hin
        refine ⟨?_, ?_⟩
        · rw [hin frame List.mem_cons_self, ← hheld.1]
          ring
        · have hshift := hheld.2.shift fun f hf => hin f (List.mem_cons_of_mem _ hf)
          rwa [add_assoc] at hshift

section Pop

variable {opened frame outer : ℕ} {path dropped : List ℕ} {postings : List Posting}
  {base a parent : ℤ} {rest : List ℤ}

theorem Tied.pop_outermost
    (ht : Tied ⟨opened, [frame], dropped, postings⟩ ⟨base, [a]⟩) (keep : Bool) :
    (step ⟨opened, [frame], dropped, postings⟩ (.pop keep)).Tied (Ledger.pop ⟨base, [a]⟩ keep) := by
  have ha : a = survivingIn ⟨opened, [frame], dropped, postings⟩ frame := by
    rw [← ht.held.1, zero_add]
  have hbase : base + a = surviving ⟨opened, [frame], dropped, postings⟩ := by
    rw [← ht.total]
    simp [Ledger.total]
  refine ⟨?_, trivial⟩
  cases keep with
  | true =>
    show (Ledger.pop ⟨base, [a]⟩ true).total = surviving ⟨opened, [frame], dropped, postings⟩
    rw [← hbase]
    simp [Ledger.total, Ledger.pop]
  | false =>
    rw [surviving_drop rfl, ← ha, ← hbase]
    simp [Ledger.total, Ledger.pop]

/-- A frame that is kept hands its amount to the one around it; a frame that is
dropped takes along what the frames around it counted of it. -/
theorem Tied.pop_inner
    (ht : Tied ⟨opened, frame :: outer :: path, dropped, postings⟩ ⟨base, a :: parent :: rest⟩)
    (hn : Nested ⟨opened, frame :: outer :: path, dropped, postings⟩) (keep : Bool) :
    (step ⟨opened, frame :: outer :: path, dropped, postings⟩ (.pop keep)).Tied
      (Ledger.pop ⟨base, a :: parent :: rest⟩ keep) := by
  have htotal := ht.total
  obtain ⟨ha, hparent, hrest⟩ := ht.held
  rw [zero_add] at ha hparent hrest
  cases keep with
  | true =>
    refine ⟨?_, ?_, ?_⟩
    · show _ = surviving ⟨opened, frame :: outer :: path, dropped, postings⟩
      rw [← htotal]
      simp only [Ledger.total, Ledger.pop, if_true, List.sum_cons]
      ring
    · rw [zero_add, add_comm]
      exact hparent
    · rw [zero_add, if_pos rfl, add_comm parent]
      exact hrest
  | false =>
    have hin : ∀ f ∈ outer :: path, survivingIn _ f = survivingIn _ f - survivingIn _ frame :=
      fun f hf => hn.survivingIn_drop rfl hf
    refine ⟨?_, ?_, ?_⟩
    · rw [surviving_drop rfl, ← htotal, ← ha]
      simp only [Ledger.total, Ledger.pop, Bool.false_eq_true, if_false, List.sum_cons]
      ring
    · rw [hin outer List.mem_cons_self, ← ha, ← hparent]
      simp
    · have hshift : Held (survivingIn (step ⟨opened, frame :: outer :: path, dropped, postings⟩
          (.pop false))) (a + parent + -a) rest path := hrest.shift fun f hf => by
        rw [hin f (List.mem_cons_of_mem _ hf), ← ha]
        ring
      have habove : a + parent + -a = 0 + (parent + if false = true then a else 0) := by
        simp
      rwa [habove] at hshift

theorem Tied.pop {h : History} {l : Ledger} (ht : h.Tied l) (hn : h.Nested) (keep : Bool) :
    (h.step (.pop keep)).Tied (l.pop keep) := by
  obtain ⟨base, frames⟩ := l
  obtain ⟨opened, path, dropped, postings⟩ := h
  have hheld := ht.held
  match frames, path with
  | [], [] => exact ht
  | [_], [_] => exact ht.pop_outermost keep
  | _ :: _ :: _, _ :: _ :: _ => exact ht.pop_inner hn keep
  -- there is one amount for each open frame
  | [], _ :: _ => exact hheld.elim
  | _ :: _, [] => exact hheld.elim
  | [_], _ :: _ :: _ => exact hheld.2.elim
  | _ :: _ :: _, [_] => exact hheld.2.elim

end Pop

theorem Tied.step {h : History} {l : Ledger} (ht : h.Tied l) (hn : h.Nested) (op : LedgerOp) :
    (h.step op).Tied (l.step op) := by
  cases op with
  | push => exact ht.push hn
  | post amount => exact ht.post hn amount
  | pop keep => exact ht.pop hn keep

/-- The total of a ledger is what survives of its history. -/
theorem total_eq_surviving (ops : List LedgerOp) :
    (ops.foldl Ledger.step ⟨0, []⟩).total = (ops.foldl step empty).surviving := by
  have hgen : ∀ (ops : List LedgerOp) (h : History) (l : Ledger), h.Nested → h.Tied l →
      (ops.foldl step h).Tied (ops.foldl Ledger.step l) := by
    intro ops
    induction ops with
    | nil => exact fun _ _ _ ht => ht
    | cons op ops ih => exact fun h l hn ht => ih _ _ (hn.step op) (ht.step hn op)
  exact (hgen ops empty ⟨0, []⟩ nested_empty tied_empty).total

end History

end Checkpoint
