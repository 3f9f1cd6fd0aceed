import MegaEvm.JournalKept

/-!
# New accounts

A transfer to an empty account is charged storage gas and counted as growth. The
gas is decided before the opcode runs, or before the transaction touches the
journal; the growth when the frame is initialised. Both look at an account that
need not be the one the value goes to.
-/

set_option autoImplicit false

namespace MegaEvm

open KeyedFold UndoLog PartialWalk

namespace Journal

section NewAccount

variable {E : Type} (db : Database E) (spec : MegaSpecId) (fuel : ℕ)

def inspectsEmpty (journal : Journal) (address : Address) : Option (Except E (Journal × Bool)) :=
  (inspectAccountDelegated db spec fuel journal address).map fun r => r.map fun r =>
    (r.1, (r.1.state.lookup r.2).any (·.info.isEmpty))

/-- The interpreter's own CALL loads the callee and the account it delegates to. -/
def loadAccountDelegated (journal : Journal) (address : Address) : Except (Fault E) Journal :=
  match journal.loadAccount db address true with
  | .error e => .error e
  | .ok (_, journal) =>
    match (journal.state.lookup address).bind (·.delegatedAddress) with
    | none => .ok journal
    | some delegated => (journal.loadAccount db delegated true).map Prod.snd

/-- What a value transfer is charged for and counted as, and what the receiving account is.
`framed` is the journal as the frame is initialised. -/
structure NewAccount where
  charged : Bool
  grown : Bool
  receiverEmpty : Bool
  framed : Journal

/-- `StateGrowthTracker::before_frame_init`, and the transfer. -/
def frameNewAccount (charged : Bool) (journal : Journal) (target value : ℕ) :
    Option (Except (Fault E) NewAccount) :=
  match inspectsEmpty db spec fuel journal target with
  | none => none
  | some (.error e) => some (.error (.inspection e))
  | some (.ok (next, isEmpty)) =>
    match loadedAccount db next target with
    | .error e => some (.error (.database e))
    | .ok (account, _) =>
      some (.ok ⟨charged, value != 0 && isEmpty, account.info.isEmpty, journal⟩)

/-- A CALL: its storage-gas wrapper, the interpreter's own opcode and its frame. -/
def callNewAccount (journal : Journal) (target value : ℕ) :
    Option (Except (Fault E) NewAccount) :=
  match inspectsEmpty db spec fuel journal target with
  | none => none
  | some (.error e) => some (.error (.inspection e))
  | some (.ok (journal, isEmpty)) =>
    match journal.loadAccountDelegated db target with
    | .error e => some (.error e)
    | .ok journal => frameNewAccount db spec fuel (value != 0 && isEmpty) journal target value

structure Authorization where
  authority : Address
  codeHash : ℕ
  code : Bytes

/-- A call transaction. `callerBalance` is what fees and mints leave of the sender's
balance; `authorizations` are the ones that are valid. -/
structure CallTx where
  caller : Address
  target : Address
  value : ℕ
  callerBalance : ℕ
  accessList : AccessList
  authorizations : List Authorization

/-- `pre_execution`: the sender, the access list and the authorizations. -/
def CallTx.preExecution (tx : CallTx) : List Op :=
  [.loadAccount tx.caller false, .change tx.caller (.setBalance tx.callerBalance),
    .change tx.caller .incNonce] ++
  tx.accessList.loaded.map (.loadAccount · false) ++
  tx.authorizations.flatMap fun a =>
    [.loadAccount a.authority true, .change a.authority (.setCode a.codeHash a.code),
      .change a.authority .incNonce]

/-- `validate` asks the database itself, before the journal is touched. -/
def validateNewAccount (tx : CallTx) : Except E Bool :=
  if tx.value = 0 then .ok false
  else (db.basic tx.target).map fun info => info.all (·.isEmpty)

def txNewAccount (tx : CallTx) (journal : Journal) : Option (Except (Fault E) NewAccount) :=
  match validateNewAccount db tx with
  | .error e => some (.error (.database e))
  | .ok charged =>
    match Op.runAll db spec fuel tx.preExecution journal with
    | .error e => some (.error e)
    | .ok (_, journal) => frameNewAccount db spec fuel charged journal tx.target tx.value

def NewAccount.Agrees (n : NewAccount) : Prop :=
  n.charged = n.receiverEmpty ∧ n.grown = n.receiverEmpty

end NewAccount

section Loads

variable {E : Type} {db : Database E} {journal next : Journal} {address : Address}

theorem loadAccountDelegated_kept (hn : NoLeftovers journal)
    (h : journal.loadAccountDelegated db address = .ok next) : Kept db journal next := by
  unfold loadAccountDelegated at h
  cases hl : journal.loadAccount db address true with
  | error e => simp [hl] at h
  | ok r =>
    have hk := loadAccount_kept (hn address) hl
    simp only [hl] at h
    split at h
    · cases h
      exact hk
    · rename_i delegated _
      cases hl' : r.2.loadAccount db delegated true with
      | error e => simp [hl', Except.map] at h
      | ok r' =>
        rw [hl'] at h
        cases h
        exact hk.trans (loadAccount_kept (hk.clean delegated (hn delegated)) hl')

end Loads

section Stops

variable {E : Type} (db : Database E) (spec : MegaSpecId)

def Stops (next : Next Address E) (start found : Address) : Prop :=
  if spec.isEnabled .rex4 then
    next start = .ok none ∧ found = start ∨ next start = .ok (some found)
  else Finds next start (.ok found)

/-- The account delegates, as far as it is shown, to an empty account: in one hop, or
before the last spec at the end of the chain. -/
def LeadsToEmpty (journal : Journal) (start : Address) : Prop :=
  if spec.isEnabled .rex4 then
    ∃ d, shown db journal start = .ok (some d) ∧ IsEmptyAt db journal d
  else ∃ d r, shown db journal start = .ok (some d) ∧ Reaches (shown db journal) start r ∧
    shown db journal r = .ok none ∧ IsEmptyAt db journal r

/-- The hash of a delegation is not that of the empty code. -/
def HashesCode (journal : Journal) : Prop :=
  ∀ a b, shown db journal a = .ok (some b) → ¬ IsEmptyAt db journal a

variable {db spec} {fuel : ℕ} {journal next : Journal} {start found address : Address}

theorem inspectAccountDelegated_halts
    (h : inspectAccountDelegated db spec fuel journal start = some (.ok (next, found))) :
    Stops spec (shown db journal) start found := by
  unfold Stops
  cases hspec : spec.isEnabled .rex4 with
  | false => exact inspectAccountDelegated_finds hspec h
  | true => exact inspectAccountDelegated_hop hspec h

theorem Stops.isEmpty_iff (h : Stops spec (shown db journal) start found)
    (hcode : HashesCode db journal) {d : Address} (hd : shown db journal start = .ok (some d)) :
    IsEmptyAt db journal found ↔ LeadsToEmpty db spec journal start := by
  unfold Stops at h
  unfold LeadsToEmpty
  cases hspec : spec.isEnabled .rex4 with
  | true =>
    simp only [hspec, if_true] at h ⊢
    rcases h with ⟨hn, -⟩ | hf
    · cases hn.symm.trans hd
    · constructor
      · intro he
        exact ⟨found, hf, he⟩
      · rintro ⟨d', hd', he⟩
        cases hf.symm.trans hd'
        exact he
  | false =>
    simp only [hspec, Bool.false_eq_true, if_false] at h ⊢
    constructor
    · intro he
      rcases h.2 with hend | hcycle
      · exact ⟨d, found, hd, h.1, hend, he⟩
      · obtain ⟨b, hb⟩ := hcycle.leads
        exact absurd he (hcode found b hb)
    · rintro ⟨d', r, -, hr, hend, he⟩
      rwa [h.eq_of_end hr fun c hc => by cases hc.symm.trans hend]

theorem Stops.eq_start {map : Next Address E} (h : Stops spec map start found)
    (hn : ∀ d, ¬ Leads map start d) : found = start := by
  unfold Stops at h
  split at h
  · rcases h with ⟨-, hf⟩ | hf
    · exact hf
    · exact absurd hf (hn found)
  · exact h.1.eq_of_end hn

theorem Stops.eq_of_shows {map shown : Next Address E} (hs : Shows map shown)
    (h : Stops spec shown start found) {found' : Address} (h' : Stops spec map start found')
    (hn : ∀ d, ¬ Leads map found d) : found' = found := by
  unfold Stops at h h'
  cases hspec : spec.isEnabled .rex4 with
  | true =>
    simp only [hspec, if_true] at h h'
    rcases h with ⟨-, rfl⟩ | hf
    · rcases h' with ⟨-, rfl⟩ | hf'
      · rfl
      · exact absurd hf' (hn found')
    · rcases h' with ⟨hn', -⟩ | hf'
      · cases hn'.symm.trans (hs.leads hf)
      · exact (Leads.unique (hs.leads hf) hf').symm
  | false =>
    simp only [hspec, Bool.false_eq_true, if_false] at h h'
    exact h'.eq_of_end (hs.reaches h.1) hn

theorem inspectsEmpty_spec {isEmpty : Bool}
    (h : inspectsEmpty db spec fuel journal address = some (.ok (next, isEmpty))) :
    Kept db journal next ∧ ∃ found, Stops spec (shown db journal) address found ∧
      (isEmpty = true ↔ IsEmptyAt db journal found) := by
  unfold inspectsEmpty at h
  cases hi : inspectAccountDelegated db spec fuel journal address with
  | none => simp [hi] at h
  | some r =>
    cases r with
    | error e => simp [hi, Except.map] at h
    | ok r =>
      obtain ⟨reached, found⟩ := r
      simp only [hi, Option.map_some, Except.map, Option.some.injEq, Except.ok.injEq,
        Prod.mk.injEq] at h
      obtain ⟨rfl, rfl⟩ := h
      obtain ⟨account, hheld, hentry⟩ := inspectAccountDelegated_entered hi
      refine ⟨inspectAccountDelegated_kept hi, found, inspectAccountDelegated_halts hi, ?_⟩
      simp [hentry, IsEmptyAt, bareInfo_held hheld, bare_isEmpty]

theorem frameNewAccount_spec {charged : Bool} {target value : ℕ} {n : NewAccount}
    (hn : NoLeftovers journal) (hv : value ≠ 0)
    (h : frameNewAccount db spec fuel charged journal target value = some (.ok n)) :
    n.charged = charged ∧ n.framed = journal ∧
      (n.receiverEmpty = true ↔ IsEmptyAt db journal target) ∧
      ∃ found, Stops spec (shown db journal) target found ∧
        (n.grown = true ↔ IsEmptyAt db journal found) := by
  unfold frameNewAccount at h
  split at h
  · cases h
  · cases h
  · rename_i next isEmpty hi
    obtain ⟨hk, found, hstops, hempty⟩ := inspectsEmpty_spec hi
    cases hl : loadedAccount db next target with
    | error e => simp [hl] at h
    | ok r =>
      simp only [hl, Option.some.injEq, Except.ok.injEq] at h
      rw [← h]
      have hb := loadedAccount_bare (hk.clean target (hn target)) hl
      rw [hk.bare] at hb
      refine ⟨rfl, rfl, ?_, found, hstops, ?_⟩
      · simp [IsEmptyAt, hb, bare_isEmpty]
      · simpa [hv] using hempty

/-- Whatever was shown before, the two looks and the account itself agree iff the
delegation does not end in an empty account. -/
theorem agree_iff {journal' : Journal} {first second : Address} (hk : Kept db journal journal')
    (hcode : HashesCode db journal') (h : Stops spec (shown db journal) address first)
    (h' : Stops spec (shown db journal') address second) :
    ((IsEmptyAt db journal first ↔ IsEmptyAt db journal' address) ∧
        (IsEmptyAt db journal' second ↔ IsEmptyAt db journal' address)) ↔
      ¬ LeadsToEmpty db spec journal' address := by
  have hsame : ∀ a, IsEmptyAt db journal a ↔ IsEmptyAt db journal' a := by
    intro a
    simp [IsEmptyAt, hk.bare]
  by_cases hd : ∃ d, shown db journal' address = .ok (some d)
  · obtain ⟨d, hd⟩ := hd
    have hown := hcode address d hd
    have hsecond := h'.isEmpty_iff hcode hd
    have hfirst : IsEmptyAt db journal first → IsEmptyAt db journal' second := by
      intro he
      have hn : ∀ c, ¬ Leads (shown db journal') first c :=
        fun c hc => hcode first c hc ((hsame first).1 he)
      rw [h.eq_of_shows hk.shows h' hn]
      exact (hsame first).1 he
    tauto
  · have hn : ∀ d, ¬ Leads (shown db journal') address d := fun d hl => hd ⟨d, hl⟩
    have hn0 : ∀ d, ¬ Leads (shown db journal) address d := fun d hl => hn d (hk.shows.leads hl)
    have hnot : ¬ LeadsToEmpty db spec journal' address := by
      unfold LeadsToEmpty
      split
      · rintro ⟨d, hs, -⟩
        exact hd ⟨d, hs⟩
      · rintro ⟨d, -, hs, -⟩
        exact hd ⟨d, hs⟩
    rw [h.eq_start hn0, h'.eq_start hn]
    simp [hsame, hnot]

theorem NewAccount.agrees_iff {n : NewAccount} :
    n.Agrees ↔ (n.charged = true ↔ n.receiverEmpty = true) ∧
      (n.grown = true ↔ n.receiverEmpty = true) := by
  constructor
  · rintro ⟨hc, hg⟩
    rw [hc, hg]
    exact ⟨Iff.rfl, Iff.rfl⟩
  · rintro ⟨hc, hg⟩
    exact ⟨Bool.eq_iff_iff.2 hc, Bool.eq_iff_iff.2 hg⟩

theorem callNewAccount_agrees_iff {target value : ℕ} {n : NewAccount} (hn : NoLeftovers journal)
    (hv : value ≠ 0) (h : callNewAccount db spec fuel journal target value = some (.ok n))
    (hcode : HashesCode db n.framed) :
    n.Agrees ↔ ¬ LeadsToEmpty db spec n.framed target := by
  unfold callNewAccount at h
  split at h
  · cases h
  · cases h
  · rename_i next isEmpty hi
    obtain ⟨hk, first, hfirst, hempty⟩ := inspectsEmpty_spec hi
    cases hl : next.loadAccountDelegated db target with
    | error e => simp [hl] at h
    | ok loaded =>
      simp only [hl] at h
      have hk' := hk.trans (loadAccountDelegated_kept (hk.noLeftovers hn) hl)
      obtain ⟨hcharged, hframed, hown, second, hsecond, hgrown⟩ :=
        frameNewAccount_spec (hk'.noLeftovers hn) hv h
      rw [hframed] at hcode ⊢
      rw [← agree_iff hk' hcode hfirst hsecond]
      have hc : n.charged = true ↔ IsEmptyAt db journal first := by
        rw [hcharged]
        simpa [hv] using hempty
      rw [NewAccount.agrees_iff, hc, hgrown, hown]

end Stops

section PreExecution

variable {E : Type} {db : Database E} {spec : MegaSpecId} {fuel : ℕ} {journal : Journal}
  {a : Address}

variable (tx : CallTx)

def CallTx.Changes (a : Address) : Prop :=
  a = tx.caller ∨ ∃ auth ∈ tx.authorizations, auth.authority = a

theorem preExecution_quiet : ∀ op ∈ tx.preExecution, op.quiet = true := by
  intro op hop
  simp only [CallTx.preExecution, List.mem_append, List.mem_cons, List.not_mem_nil, or_false,
    List.mem_map, List.mem_flatMap] at hop
  rcases hop with ((rfl | rfl | rfl) | ⟨b, -, rfl⟩) | ⟨auth, -, rfl | rfl | rfl⟩ <;> rfl

theorem preExecution_changed {tx : CallTx} (h : ¬ tx.Changes a) :
    ∀ op ∈ tx.preExecution, op.changed ≠ some a := by
  intro op hop hc
  simp only [CallTx.preExecution, List.mem_append, List.mem_cons, List.not_mem_nil, or_false,
    List.mem_map, List.mem_flatMap] at hop
  rcases hop with ((rfl | rfl | rfl) | ⟨b, -, rfl⟩) | ⟨auth, hauth, rfl | rfl | rfl⟩
  · cases hc
  · cases hc
    exact h (.inl rfl)
  · cases hc
    exact h (.inl rfl)
  · cases hc
  · cases hc
  · cases hc
    exact h (.inr ⟨auth, hauth, rfl⟩)
  · cases hc
    exact h (.inr ⟨auth, hauth, rfl⟩)

theorem preExecution_bumps {tx : CallTx} (h : tx.Changes a) :
    Op.change a .incNonce ∈ tx.preExecution := by
  simp only [CallTx.preExecution, List.mem_append, List.mem_flatMap]
  rcases h with rfl | ⟨auth, hauth, rfl⟩
  · exact .inl (.inl (by simp))
  · exact .inr ⟨auth, hauth, by simp⟩

theorem preExecution_empty_iff {answers : List Answer} {last : Journal} {tx : CallTx}
    (hn : NoLeftovers journal)
    (h : Op.runAll db spec fuel tx.preExecution journal = .ok (answers, last)) :
    NoLeftovers last ∧
      (IsEmptyAt db last a ↔ IsEmptyAt db journal a ∧ ¬ tx.Changes a) := by
  obtain ⟨hclean, hsame, hbump⟩ := quiet_run (preExecution_quiet tx) hn h a
  refine ⟨hclean, ?_⟩
  by_cases hc : tx.Changes a
  · have hnot := (hbump (.inr (preExecution_bumps hc))).not_empty
    simp [hnot, hc]
  · have hbare := hsame (preExecution_changed hc)
    simp [IsEmptyAt, hbare, hc]

def DatabaseEmpty (db : Database E) (address : Address) : Prop :=
  ∃ info, db.basic address = .ok info ∧ (info.getD .empty).isEmpty = true

theorem validateNewAccount_spec {tx : CallTx} {charged : Bool} (hv : tx.value ≠ 0)
    (h : validateNewAccount db tx = .ok charged) :
    charged = true ↔ DatabaseEmpty db tx.target := by
  unfold validateNewAccount at h
  rw [if_neg hv] at h
  cases hb : db.basic tx.target with
  | error e => simp [hb, Except.map] at h
  | ok info =>
    rw [hb] at h
    cases h
    cases info with
    | none => exact ⟨fun _ => ⟨none, hb, rfl⟩, fun _ => rfl⟩
    | some info => simp [DatabaseEmpty, hb]

theorem txNewAccount_agrees_iff {tx : CallTx} {n : NewAccount} (hn : NoLeftovers journal)
    (hv : tx.value ≠ 0) (h : txNewAccount db spec fuel tx journal = some (.ok n))
    (hcode : HashesCode db n.framed) :
    n.Agrees ↔ ¬ LeadsToEmpty db spec n.framed tx.target ∧
      (DatabaseEmpty db tx.target ↔ IsEmptyAt db journal tx.target ∧ ¬ tx.Changes tx.target) := by
  unfold txNewAccount at h
  split at h
  · cases h
  · rename_i charged hvalid
    cases hr : Op.runAll db spec fuel tx.preExecution journal with
    | error e => simp [hr] at h
    | ok r =>
      simp only [hr] at h
      obtain ⟨hclean, hempty⟩ := preExecution_empty_iff (a := tx.target) hn hr
      obtain ⟨hcharged, hframed, hown, second, hsecond, hgrown⟩ := frameNewAccount_spec hclean hv h
      rw [hframed] at hcode ⊢
      have hagree := agree_iff (kept_of_state rfl rfl) hcode hsecond hsecond
      rw [and_self_iff] at hagree
      rw [NewAccount.agrees_iff, hcharged, validateNewAccount_spec hv hvalid, hgrown, hown,
        ← hagree, ← hempty, and_comm]

/-- For value-bearing CALLs: gas, growth and the account itself agree iff the callee does
not delegate to an empty account. For value-bearing call transactions, also iff the
database shows the callee as the journal will hold it when the frame begins. -/
theorem new_account_charges_iff (db : Database E) (spec : MegaSpecId) (fuel : ℕ)
    (journal : Journal) (hn : NoLeftovers journal) :
    (∀ target value n, value ≠ 0 →
        callNewAccount db spec fuel journal target value = some (.ok n) →
        HashesCode db n.framed →
        (n.Agrees ↔ ¬ LeadsToEmpty db spec n.framed target)) ∧
      ∀ tx n, tx.value ≠ 0 → txNewAccount db spec fuel tx journal = some (.ok n) →
        HashesCode db n.framed →
        (n.Agrees ↔ ¬ LeadsToEmpty db spec n.framed tx.target ∧
          (DatabaseEmpty db tx.target ↔
            IsEmptyAt db journal tx.target ∧ ¬ tx.Changes tx.target)) := by
  constructor
  · intro target value n hv h hcode
    exact callNewAccount_agrees_iff hn hv h hcode
  · intro tx n hv h hcode
    exact txNewAccount_agrees_iff hn hv h hcode

def emptyDatabase : Database Unit := ⟨fun _ => .ok none, fun _ => .ok [], fun _ _ => .ok 0⟩

theorem shown_emptyDatabase {journal : Journal}
    (h : (journal.state.entries.all fun e => (e.2.info.code.getD []).isEmpty) = true)
    (a : Address) : shown emptyDatabase journal a = .ok none := by
  have hnone : eip7702Address [] = none := by decide
  rw [shown_of_held]
  cases hl : journal.state.lookup a with
  | none => rfl
  | some account =>
    have hcode := List.all_eq_true.1 h ⟨a, account⟩ (AList.mem_lookup_iff.1 hl)
    have hempty : account.info.code.getD [] = [] := List.isEmpty_iff.1 hcode
    show (Database.loadCode emptyDatabase account.info).map _ = _
    unfold Database.loadCode
    split
    · simp [emptyDatabase, Except.map, hnone]
    · cases hc : account.info.code with
      | none => simp [Except.map, hc]
      | some code =>
        rw [hc] at hempty
        have he : code = [] := hempty
        simp [Except.map, hc, he, hnone]

theorem emptyDatabase_free {journal : Journal}
    (h : (journal.state.entries.all fun e => (e.2.info.code.getD []).isEmpty) = true)
    (a : Address) :
    HashesCode emptyDatabase journal ∧ ¬ LeadsToEmpty emptyDatabase .rex4 journal a := by
  constructor
  · intro b c hs
    cases (shown_emptyDatabase h b).symm.trans hs
  · rintro ⟨d, hs, -⟩
    cases (shown_emptyDatabase h a).symm.trans hs

def sampleCallTx (authorizations : List Authorization) : CallTx := ⟨1, 3, 5, 0, [], authorizations⟩

/-- A CALL and a transaction that send value to an account that does not exist. -/
theorem new_account_charges_absent :
    (∃ n, callNewAccount emptyDatabase .rex4 0 emptyJournal 3 5 = some (.ok n) ∧
        n.charged = true ∧ n.Agrees) ∧
      ∃ n, txNewAccount emptyDatabase .rex4 0 (sampleCallTx []) emptyJournal = some (.ok n) ∧
        n.charged = true ∧ n.Agrees := by
  have hn : NoLeftovers emptyJournal := by
    intro a account h
    cases h
  have hboth := new_account_charges_iff emptyDatabase .rex4 0 emptyJournal hn
  constructor
  · refine ⟨_, rfl, rfl, (hboth.1 3 5 _ (by decide) rfl ?_).2 ?_⟩
    · exact (emptyDatabase_free rfl 3).1
    · exact (emptyDatabase_free rfl 3).2
  · refine ⟨_, rfl, rfl, (hboth.2 (sampleCallTx []) _ (by decide) rfl ?_).2
      ⟨(emptyDatabase_free rfl 3).2, ?_⟩⟩
    · exact (emptyDatabase_free rfl 3).1
    constructor
    · intro _
      refine ⟨⟨_, rfl, rfl⟩, ?_⟩
      rintro (hc | ⟨auth, hauth, -⟩)
      · cases hc
      · cases hauth
    · intro _
      exact ⟨none, rfl, rfl⟩

/-- Neither holds: a callee that delegates to an empty account is charged for, and so is
one that is authorised in the same transaction. -/
theorem new_account_charged_for_delegation :
    (¬ ∀ target value n, value ≠ 0 →
        callNewAccount (delegationDb true [(1, 2)]) .rex4 0 emptyJournal target value =
          some (.ok n) → n.Agrees) ∧
      ¬ ∀ tx n, tx.value ≠ 0 →
        txNewAccount emptyDatabase .rex4 0 tx emptyJournal = some (.ok n) → n.Agrees := by
  constructor
  · intro h
    have hn := h 1 5 _ (by decide) rfl
    cases hn.1
  · intro h
    have hn := h (sampleCallTx [⟨3, 7, eip7702Code 4⟩]) _ (by decide) rfl
    cases hn.1

end PreExecution

end Journal

end MegaEvm
