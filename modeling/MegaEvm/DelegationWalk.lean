import MegaEvm.JournalInspect
import MegaEvm.Library.PartialWalk

/-!
# The delegation walk

Before the last spec an inspection follows the delegations of accounts to the
end. An account the journal does not hold is looked at as the database hands it
over: without its code it does not seem to delegate, and the walk ends there.
-/

set_option autoImplicit false

namespace MegaEvm

open PartialWalk

namespace Journal

variable {E : Type} (db : Database E)

section Held

def held (journal : Journal) (address : Address) : Except E Account :=
  (inspectAccount db journal address).map Prod.snd

def shown (journal : Journal) : Next Address E :=
  fun address => (held db journal address).map Account.delegatedAddress

/-- Where an account delegates to: its code is loaded if it is not handed over. -/
def delegate (journal : Journal) : Next Address E :=
  fun address =>
    match journal.state.lookup address with
    | some account => (db.loadCode account.info).map (·.code.bind eip7702Address)
    | none =>
      match db.basic address with
      | .error e => .error e
      | .ok none => .ok none
      | .ok (some info) => (db.loadCode info).map (·.code.bind eip7702Address)

/-- The journal holds the account, or the database hands over its code with it, or
the account does not delegate. -/
def HandsOverCode (journal : Journal) (address : Address) : Prop :=
  journal.state.lookup address = none → ∀ info, db.basic address = .ok (some info) →
    info.code = none → delegate db journal address = .ok none

variable {db} {journal journal' : Journal} {address a : Address} {account : Account}

@[simp] theorem lookup_insert (journal : Journal) (address : Address) (account : Account) :
    (journal.insert address account).state.lookup address = some account :=
  AList.lookup_insert _

theorem lookup_insert_ne (journal : Journal) (account : Account) (h : a ≠ address) :
    (journal.insert address account).state.lookup a = journal.state.lookup a :=
  AList.lookup_insert_ne h

theorem loadCode_code {info : AccountInfo} {code : Bytes} (h : info.code = some code) :
    db.loadCode info = .ok info := by
  simp [Database.loadCode, h]

theorem held_eq (h : inspectAccount db journal address = .ok (journal', account)) :
    held db journal address = .ok account := by
  rw [held, h]
  rfl

theorem held_error {e : E} : held db journal address = .error e ↔
    inspectAccount db journal address = .error e := by
  cases h : inspectAccount db journal address <;> simp [held, h, Except.map]

theorem inspectAccount_insert
    (h : inspectAccount db journal address = .ok (journal', account)) :
    journal' = journal.insert address account := by
  unfold inspectAccount at h
  split at h
  · rename_i old _
    cases hl : db.loadCode old.info with
    | error e => simp [hl, Except.map] at h
    | ok info =>
      simp only [hl, Except.map, Except.ok.injEq, Prod.mk.injEq] at h
      rw [← h.1, ← h.2]
  · cases hb : db.basic address with
    | error e => simp [hb, Except.map] at h
    | ok info =>
      simp only [hb, Except.map, Except.ok.injEq, Prod.mk.injEq] at h
      rw [← h.1, ← h.2]

theorem inspectAccount_lookup
    (h : inspectAccount db journal address = .ok (journal', account)) :
    journal'.state.lookup address = some account := by
  rw [inspectAccount_insert h]
  exact lookup_insert _ _ _

theorem held_congr (h : journal'.state.lookup a = journal.state.lookup a)
    (ht : journal'.transactionId = journal.transactionId) :
    held db journal' a = held db journal a := by
  unfold held inspectAccount
  rw [h, ht]
  cases hl : journal.state.lookup a with
  | some account => cases hc : db.loadCode account.info <;> simp [hc, Except.map]
  | none => cases db.basic a <;> simp [Except.map]

theorem loadCode_delegated (db : Database E) (hd : account.delegatedAddress ≠ none) :
    db.loadCode account.info = .ok account.info := by
  cases hc : account.info.code with
  | none => simp [Account.delegatedAddress, hc] at hd
  | some code => exact loadCode_code hc

theorem held_inspected (h : inspectAccount db journal address = .ok (journal', account))
    (hd : account.delegatedAddress ≠ none) : held db journal' = held db journal := by
  ext1 a
  rw [inspectAccount_insert h]
  by_cases ha : a = address
  · subst ha
    rw [held_eq h, held, inspectAccount, lookup_insert]
    simp [loadCode_delegated db hd, Except.map]
  · exact held_congr (lookup_insert_ne journal account ha) rfl

theorem shown_inspected (h : inspectAccount db journal address = .ok (journal', account))
    (hd : account.delegatedAddress ≠ none) : shown db journal' = shown db journal := by
  unfold shown
  rw [held_inspected h hd]

theorem shown_of_held : shown db journal a = match journal.state.lookup a with
    | some account => (db.loadCode account.info).map (·.code.bind eip7702Address)
    | none => (db.basic a).map fun info => info.bind (·.code.bind eip7702Address) := by
  unfold shown held inspectAccount
  cases hl : journal.state.lookup a with
  | some account =>
    cases hc : db.loadCode account.info <;> simp [hc, Except.map, Account.delegatedAddress]
  | none =>
    cases db.basic a with
    | error e => simp [Except.map]
    | ok info => cases info <;> simp [Except.map] <;> rfl

theorem shows_delegate (db : Database E) (journal : Journal) :
    Shows (delegate db journal) (shown db journal) := by
  intro a
  rw [shown_of_held, delegate]
  cases hl : journal.state.lookup a with
  | some account => exact .inl rfl
  | none =>
    cases hb : db.basic a with
    | error e => exact .inl (by simp [Except.map])
    | ok info =>
      cases info with
      | none => exact .inl (by simp [Except.map])
      | some info =>
        cases hc : info.code with
        | none => exact .inr (by simp [Except.map, hc])
        | some code => exact .inl (by simp [Except.map, loadCode_code hc])

theorem shown_eq_delegate_iff :
    shown db journal a = delegate db journal a ↔ HandsOverCode db journal a := by
  constructor
  · intro h hl info hb hc
    rw [← h, shown_of_held, hl]
    simp [hb, hc, Except.map]
  · intro h
    rcases shows_delegate db journal a with ha | ha
    · exact ha
    · rw [ha]
      rw [shown_of_held] at ha
      rw [delegate]
      cases hl : journal.state.lookup a with
      | some account => simpa [hl] using ha.symm
      | none =>
        cases hb : db.basic a with
        | error e => simp [hl, hb, Except.map] at ha
        | ok info =>
          cases info with
          | none => rfl
          | some info =>
            cases hc : info.code with
            | none =>
              have hd := h hl info hb hc
              simpa [delegate, hl, hb] using hd.symm
            | some code =>
              simp only [hl, hb, Except.map, Option.bind_some] at ha
              simp [loadCode_code hc, Except.map, ha]

end Held

section Walk

variable {db} {journal journal' : Journal} {address start a : Address} {account : Account}

def Entered (db : Database E) (journal : Journal) : Except E (Journal × Address) → Prop
  | .error _ => True
  | .ok (journal', address) =>
    ∃ account, held db journal address = .ok account ∧
      journal'.state.lookup address = some account

theorem inspectAccount_ok (h : held db journal address = .ok account) :
    inspectAccount db journal address = .ok (journal.insert address account, account) := by
  cases hi : inspectAccount db journal address with
  | error e => simp [held, hi, Except.map] at h
  | ok r =>
    have ha : account = r.2 := Except.ok.inj (h.symm.trans (held_eq hi))
    rw [ha, ← inspectAccount_insert hi]

theorem Entered.congr {r : Except E (Journal × Address)} (h : Entered db journal' r)
    (hh : held db journal' = held db journal) : Entered db journal r := by
  cases r with
  | error e => trivial
  | ok r => simpa [Entered, hh] using h

theorem entered_insert (h : held db journal address = .ok account) :
    Entered db journal (.ok (journal.insert address account, address)) :=
  ⟨account, h, lookup_insert journal address account⟩

/-- The loop walks along the delegations as they are shown. -/
theorem followDelegation_walk (fuel : ℕ) (journal : Journal) (current : Address)
    (visited : List Address) :
    (followDelegation db fuel journal current visited).map (Except.map Prod.snd) =
      walk (shown db journal) fuel current visited := by
  induction fuel generalizing journal current visited with
  | zero => rfl
  | succ fuel ih =>
    rw [followDelegation, walk, shown]
    cases hh : held db journal current with
    | error e => simp [held_error.1 hh, Except.map]
    | ok account =>
      have hi := inspectAccount_ok hh
      cases hd : account.delegatedAddress with
      | none => simp [hi, hd, Except.map]
      | some next =>
        by_cases hv : next ∈ visited
        · simp [hi, hd, hv, Except.map]
        · have hs := shown_inspected hi (by simp [hd])
          simp only [hi, hd, Except.map, if_neg hv]
          rw [← hs]
          exact ih _ _ _

theorem followDelegation_succ {fuel : ℕ} {visited : List Address}
    {res : Except E (Journal × Address)}
    (h : followDelegation db fuel journal address visited = some res) :
    followDelegation db (fuel + 1) journal address visited = some res := by
  induction fuel generalizing journal address visited with
  | zero => cases h
  | succ fuel ih =>
    rw [followDelegation] at h ⊢
    cases hh : held db journal address with
    | error e => simpa [held_error.1 hh] using h
    | ok account =>
      simp only [inspectAccount_ok hh] at h ⊢
      cases hd : account.delegatedAddress with
      | none => simpa [hd] using h
      | some next =>
        simp only [hd] at h ⊢
        by_cases hv : next ∈ visited
        · simpa [hv] using h
        · rw [if_neg hv] at h ⊢
          exact ih h

theorem followDelegation_le {fuel fuel' : ℕ} {visited : List Address}
    {res : Except E (Journal × Address)} (hf : fuel ≤ fuel')
    (h : followDelegation db fuel journal address visited = some res) :
    followDelegation db fuel' journal address visited = some res := by
  induction hf with
  | refl => exact h
  | step _ ih => exact followDelegation_succ ih

theorem followDelegation_entered {fuel : ℕ} {visited : List Address}
    {res : Except E (Journal × Address)}
    (h : followDelegation db fuel journal address visited = some res) :
    Entered db journal res := by
  induction fuel generalizing journal address visited with
  | zero => cases h
  | succ fuel ih =>
    rw [followDelegation] at h
    cases hh : held db journal address with
    | error e =>
      rw [held_error.1 hh] at h
      cases h
      trivial
    | ok account =>
      simp only [inspectAccount_ok hh] at h
      cases hd : account.delegatedAddress with
      | none =>
        simp only [hd, Option.some.injEq] at h
        rw [← h]
        exact entered_insert hh
      | some next =>
        simp only [hd] at h
        split at h
        · cases h
          exact entered_insert hh
        · exact (ih h).congr (held_inspected (inspectAccount_ok hh) (by simp [hd]))

variable {spec : MegaSpecId}

/-- A walk is right if it finds what the delegations lead to, and returns its account. -/
def WalksRight (db : Database E) (journal : Journal) (start : Address)
    (res : Except E (Journal × Address)) : Prop :=
  Finds (delegate db journal) start (res.map Prod.snd)

theorem inspectAccountDelegated_entered {fuel : ℕ} {res : Except E (Journal × Address)}
    (h : inspectAccountDelegated db spec fuel journal start = some res) :
    Entered db journal res := by
  unfold inspectAccountDelegated at h
  cases hh : held db journal start with
  | error e =>
    rw [held_error.1 hh] at h
    cases h
    trivial
  | ok account =>
    have hi := inspectAccount_ok hh
    simp only [hi] at h
    cases hd : account.delegatedAddress with
    | none =>
      simp only [hd, Option.some.injEq] at h
      rw [← h]
      exact entered_insert hh
    | some delegated =>
      have hheld := held_inspected hi (by simp [hd])
      simp only [hd] at h
      split at h
      · cases hh' : held db (journal.insert start account) delegated with
        | error e =>
          simp only [held_error.1 hh', Except.map, Option.some.injEq] at h
          rw [← h]
          trivial
        | ok account' =>
          simp only [inspectAccount_ok hh', Except.map, Option.some.injEq] at h
          rw [← h]
          exact (entered_insert hh').congr hheld
      · exact (followDelegation_entered h).congr hheld

theorem inspectAccountDelegated_finds (hspec : spec.isEnabled .rex4 = false) {fuel : ℕ}
    {res : Except E (Journal × Address)}
    (h : inspectAccountDelegated db spec fuel journal start = some res) :
    Finds (shown db journal) start (res.map Prod.snd) := by
  unfold inspectAccountDelegated at h
  cases hh : held db journal start with
  | error e =>
    rw [held_error.1 hh] at h
    cases h
    exact ⟨start, .refl, by simp [shown, hh, Except.map]⟩
  | ok account =>
    have hi := inspectAccount_ok hh
    simp only [hi] at h
    cases hd : account.delegatedAddress with
    | none =>
      simp only [hd, Option.some.injEq] at h
      rw [← h]
      exact ⟨.refl, .inl (by simp [shown, hh, hd, Except.map])⟩
    | some first =>
      have hl : Leads (shown db journal) start first := by
        simp [Leads, shown, hh, hd, Except.map]
      simp only [hd, hspec, Bool.false_eq_true, if_false] at h
      have hwalk := @followDelegation_walk _ db fuel (journal.insert start account) first [start]
      rw [shown_inspected hi (by simp [hd]), h] at hwalk
      exact (Walking.first hl).finds hwalk.symm

theorem inspectAccountDelegated_hop (hspec : spec.isEnabled .rex4 = true) {fuel : ℕ}
    {found : Address}
    (h : inspectAccountDelegated db spec fuel journal start = some (.ok (journal', found))) :
    shown db journal start = .ok none ∧ found = start ∨
      shown db journal start = .ok (some found) := by
  unfold inspectAccountDelegated at h
  cases hh : held db journal start with
  | error e =>
    rw [held_error.1 hh] at h
    cases h
  | ok account =>
    simp only [inspectAccount_ok hh] at h
    cases hd : account.delegatedAddress with
    | none =>
      simp only [hd, Option.some.injEq, Except.ok.injEq, Prod.mk.injEq] at h
      exact .inl ⟨by simp [shown, hh, hd, Except.map], h.2.symm⟩
    | some delegated =>
      simp only [hd, hspec, if_true, Option.some.injEq] at h
      cases hi : inspectAccount db (journal.insert start account) delegated with
      | error e => simp [hi, Except.map] at h
      | ok r =>
        simp only [hi, Except.map, Except.ok.injEq, Prod.mk.injEq] at h
        exact .inr (by simp [shown, hh, hd, h.2, Except.map])

def stopAt (spec : MegaSpecId) (next : Next Address E) (fuel : ℕ) (start : Address) :
    Option (Except E Address) :=
  match next start with
  | .error e => some (.error e)
  | .ok none => some (.ok start)
  | .ok (some delegated) =>
    if spec.isEnabled .rex4 then some (.ok delegated) else walk next fuel delegated [start]

theorem inspectAccountDelegated_stopAt {fuel : ℕ} {found : Address}
    (h : inspectAccountDelegated db spec fuel journal start = some (.ok (journal', found))) :
    stopAt spec (shown db journal) fuel start = some (.ok found) := by
  unfold inspectAccountDelegated at h
  cases hh : held db journal start with
  | error e =>
    rw [held_error.1 hh] at h
    cases h
  | ok account =>
    have hi := inspectAccount_ok hh
    have hs : shown db journal start = .ok account.delegatedAddress := by
      simp [shown, hh, Except.map]
    rw [stopAt, hs]
    simp only [hi] at h
    cases hd : account.delegatedAddress with
    | none =>
      simp only [hd, Option.some.injEq, Except.ok.injEq, Prod.mk.injEq] at h
      rw [h.2]
    | some delegated =>
      simp only [hd] at h ⊢
      split at h
      · rename_i hrex4
        rw [if_pos hrex4]
        cases hi' : inspectAccount db (journal.insert start account) delegated with
        | error e => simp [hi', Except.map] at h
        | ok r =>
          simp only [hi', Except.map, Option.some.injEq, Except.ok.injEq, Prod.mk.injEq] at h
          rw [h.2]
      · rename_i hrex4
        have hwalk := @followDelegation_walk _ db fuel (journal.insert start account)
          delegated [start]
        rw [shown_inspected hi (by simp [hd]), h] at hwalk
        rw [if_neg hrex4, ← hwalk]
        rfl

theorem inspectAccountDelegated_stops (hspec : spec.isEnabled .rex4 = false)
    {points : Finset Address} (hp : ∀ a b, Leads (delegate db journal) a b → a ∈ points) :
    ∃ fuel res, ∀ fuel', fuel ≤ fuel' →
      inspectAccountDelegated db spec fuel' journal start = some res := by
  cases hh : held db journal start with
  | error e => exact ⟨0, .error e, fun fuel' _ => by simp [inspectAccountDelegated, held_error.1 hh]⟩
  | ok account =>
    have hi := inspectAccount_ok hh
    cases hd : account.delegatedAddress with
    | none =>
      exact ⟨0, .ok (journal.insert start account, start), fun fuel' _ => by
        simp [inspectAccountDelegated, hi, hd]⟩
    | some first =>
      have hl : Leads (shown db journal) start first := by
        simp [Leads, shown, hh, hd, Except.map]
      have hpoints : ∀ a b, Leads (shown db journal) a b → a ∈ points :=
        fun a b h => hp a b ((shows_delegate db journal).leads h)
      obtain ⟨found, hfound⟩ := (Walking.first hl).stops hpoints (Nat.lt_succ_self _)
      have hwalk := @followDelegation_walk _ db
        ((points \ [start].toFinset).card + 1) (journal.insert start account) first [start]
      rw [shown_inspected hi (by simp [hd]), hfound, Option.map_eq_some_iff] at hwalk
      obtain ⟨res, hres, -⟩ := hwalk
      refine ⟨(points \ [start].toFinset).card + 1, res, fun fuel' hf => ?_⟩
      have hle := followDelegation_le hf hres
      simpa [inspectAccountDelegated, hi, hd, hspec] using hle

/-- On every finite delegation graph the walk ends, with the account it stands on. It is
right iff every account on the chain before a cycle comes with its code. -/
theorem delegation_walk_right_iff (db : Database E) (hspec : spec.isEnabled .rex4 = false)
    (journal : Journal) (start : Address) (points : Finset Address)
    (hp : ∀ a b, Leads (delegate db journal) a b → a ∈ points) :
    ∃ fuel res, (∀ fuel', fuel ≤ fuel' →
        inspectAccountDelegated db spec fuel' journal start = some res) ∧
      Entered db journal res ∧
      (WalksRight db journal start res ↔
        ∀ a, Reaches (delegate db journal) start a → ¬ OnCycle (delegate db journal) a →
          HandsOverCode db journal a) := by
  obtain ⟨fuel, res, hruns⟩ := @inspectAccountDelegated_stops _ db journal start spec hspec _ hp
  have hres := hruns fuel le_rfl
  have hfinds := inspectAccountDelegated_finds hspec hres
  refine ⟨fuel, res, hruns, inspectAccountDelegated_entered hres, ?_⟩
  rw [WalksRight, (shows_delegate db journal).finds_iff hfinds]
  constructor
  · intro h a hr hc
    exact shown_eq_delegate_iff.1 (h a hr hc)
  · intro h a hr hc
    exact shown_eq_delegate_iff.2 (h a hr hc)

def delegationDb (withCode : Bool) (edges : List (Address × Address)) : Database Unit where
  basic a := .ok ((edges.lookup a).map fun b =>
    ⟨0, 1, a, if withCode then some (eip7702Code b) else none⟩)
  codeByHash hash := .ok (((edges.lookup hash).map eip7702Code).getD [])
  storage _ _ := .ok 0

def emptyJournal : Journal := ⟨∅, 0, [], [[]]⟩

theorem delegate_delegationDb {withCode : Bool} {edges : List (Address × Address)} {a b : Address}
    (h : Leads (delegate (delegationDb withCode edges) emptyJournal) a b) :
    a ∈ (edges.map Prod.fst).toFinset := by
  by_contra ha
  have hl : edges.lookup a = none := by
    rw [List.lookup_eq_none_iff]
    intro e he
    simp only [List.mem_toFinset, List.mem_map, not_exists, not_and] at ha
    simpa using fun h => ha e he h.symm
  have hs : emptyJournal.state.lookup a = none := rfl
  simp [Leads, delegate, delegationDb, hl, hs] at h

/-- A cycle entered from outside. -/
theorem delegation_walk_right_cycle : ∃ fuel res, (∀ fuel', fuel ≤ fuel' →
      inspectAccountDelegated (delegationDb true [(1, 2), (2, 3), (3, 2)]) .rex3 fuel'
        emptyJournal 1 = some res) ∧
    Entered (delegationDb true [(1, 2), (2, 3), (3, 2)]) emptyJournal res ∧
    WalksRight (delegationDb true [(1, 2), (2, 3), (3, 2)]) emptyJournal 1 res := by
  obtain ⟨fuel, res, hruns, hentered, hright⟩ := @delegation_walk_right_iff _ .rex3
    (delegationDb true [(1, 2), (2, 3), (3, 2)]) rfl emptyJournal 1 {1, 2, 3}
    (fun a b h => by simpa using delegate_delegationDb h)
  refine ⟨fuel, res, hruns, hentered, hright.2 ?_⟩
  intro a _ _ _ info hb hc
  simp only [delegationDb, Except.ok.injEq, Option.map_eq_some_iff] at hb
  obtain ⟨b, _, rfl⟩ := hb
  cases hc

/-- The walk stops at once at an account whose code the database keeps apart. -/
theorem walk_stops_without_code :
    ¬ ∃ fuel res, (∀ fuel', fuel ≤ fuel' →
        inspectAccountDelegated (delegationDb false [(1, 2)]) .rex3 fuel' emptyJournal 1 =
          some res) ∧
      WalksRight (delegationDb false [(1, 2)]) emptyJournal 1 res := by
  rintro ⟨fuel, res, hruns, hright⟩
  have hres : res.map Prod.snd = .ok 1 := by
    rw [← Option.some.inj (hruns fuel le_rfl)]
    rfl
  rw [WalksRight, hres] at hright
  have h1 : delegate (delegationDb false [(1, 2)]) emptyJournal 1 = .ok (some 2) := by decide
  have h2 : delegate (delegationDb false [(1, 2)]) emptyJournal 2 = .ok none := by decide
  rcases hright.2 with hend | hcycle
  · cases h1.symm.trans hend
  · obtain ⟨b, hb⟩ := (hcycle.step h1).leads
    cases h2.symm.trans hb

end Walk

end Journal

end MegaEvm
