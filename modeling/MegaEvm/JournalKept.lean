import MegaEvm.InspectTransparency

/-!
# What loads and inspections keep

Loads and inspections change no account: they enter it, fetch its code and mark
it. What is shown of where an account delegates to can only grow.
-/

set_option autoImplicit false

namespace MegaEvm

open KeyedFold UndoLog PartialWalk

def AccountInfo.bare (info : AccountInfo) : AccountInfo := { info with code := none }

namespace Journal

section Kept

variable {E : Type} (db : Database E)

def bareInfo (journal : Journal) (address : Address) : Except E AccountInfo :=
  match journal.state.lookup address with
  | some account => .ok account.info.bare
  | none => (db.basic address).map fun info => (info.getD .empty).bare

def IsEmptyAt (journal : Journal) (address : Address) : Prop :=
  ∃ info, bareInfo db journal address = .ok info ∧ info.isEmpty = true

/-- The journal does not hold the account as an earlier transaction destroyed it. -/
def Current (journal : Journal) (address : Address) : Prop :=
  ∀ account, journal.state.lookup address = some account →
    account.isCold journal.transactionId = true → account.status.selfDestructedLocal = false

def NoLeftovers (journal : Journal) : Prop := ∀ a, journal.Current a

/-- What loads and inspections keep: accounts are the same, and only more is shown of
where they delegate to. -/
structure Kept (journal journal' : Journal) : Prop where
  bare : ∀ a, bareInfo db journal' a = bareInfo db journal a
  shows : Shows (shown db journal') (shown db journal)
  clean : ∀ a, journal.Current a → journal'.Current a

variable {db} {journal journal' journal'' next : Journal} {address a : Address}
  {account account' : Account}

theorem bare_isEmpty (info : AccountInfo) : info.bare.isEmpty = info.isEmpty := rfl

theorem Kept.trans (h : Kept db journal journal') (h' : Kept db journal' journal'') :
    Kept db journal journal'' where
  bare a := (h'.bare a).trans (h.bare a)
  shows := by
    intro a
    rcases h.shows a with ha | ha
    · rcases h'.shows a with ha' | ha'
      · exact .inl (ha.trans ha')
      · exact .inr (ha.trans ha')
    · exact .inr ha
  clean a hc := h'.clean a (h.clean a hc)

theorem Kept.noLeftovers (h : Kept db journal journal') (hn : NoLeftovers journal) :
    NoLeftovers journal' := fun a => h.clean a (hn a)

theorem bareInfo_insert (journal : Journal) (address : Address) (account : Account) :
    bareInfo db (journal.insert address account) address = .ok account.info.bare := by
  simp [bareInfo]

theorem bareInfo_insert_ne (journal : Journal) (account : Account) (h : a ≠ address) :
    bareInfo db (journal.insert address account) a = bareInfo db journal a := by
  simp [bareInfo, lookup_insert_ne journal account h]

theorem loadCode_bare {info loaded : AccountInfo} (h : db.loadCode info = .ok loaded) :
    loaded.bare = info.bare := by
  unfold Database.loadCode at h
  split at h
  · cases hc : db.codeByHash info.codeHash with
    | error e => simp [hc, Except.map] at h
    | ok code =>
      rw [hc] at h
      cases h
      rfl
  · cases h
    rfl

theorem bareInfo_held (h : held db journal address = .ok account) :
    bareInfo db journal address = .ok account.info.bare := by
  have hi := inspectAccount_ok h
  cases ho : journal.state.lookup address with
  | some old =>
    obtain ⟨info, hl, rfl⟩ := inspectAccount_occupied ho hi
    simp [bareInfo, ho, loadCode_bare hl]
  | none =>
    obtain ⟨info, hb, -, hm⟩ := inspectAccount_vacant ho hi
    have hinfo := congrArg Account.info hm
    simp only [bareInfo, ho, hb, Except.map]
    cases info with
    | none =>
      have he : account.info = AccountInfo.empty := hinfo
      rw [he]
      rfl
    | some info =>
      have he : account.info = info := hinfo
      rw [he]
      rfl

theorem Kept.insert (hb : bareInfo db journal address = .ok account.info.bare)
    (hs : shown db journal address = .ok none ∨
      shown db journal address = shown db (journal.insert address account) address)
    (hc : journal.Current address → account.isCold journal.transactionId = true →
      account.status.selfDestructedLocal = false) :
    Kept db journal (journal.insert address account) where
  bare a := by
    by_cases ha : a = address
    · subst ha
      rw [bareInfo_insert, hb]
    · exact bareInfo_insert_ne journal account ha
  shows := by
    intro a
    by_cases ha : a = address
    · subst ha
      exact hs.symm
    · have hh : held db (journal.insert address account) a = held db journal a :=
        held_congr (lookup_insert_ne journal account ha) rfl
      simp [shown, hh]
  clean a hn := by
    intro acc hl hcold
    by_cases ha : a = address
    · subst ha
      rw [lookup_insert, Option.some.injEq] at hl
      subst hl
      exact hc hn hcold
    · rw [lookup_insert_ne journal account ha] at hl
      exact hn acc hl hcold

theorem shown_inserted (journal : Journal) (address : Address) (account : Account) :
    shown db (journal.insert address account) address =
      (db.loadCode account.info).map (·.code.bind eip7702Address) := by
  rw [shown_of_held, lookup_insert]

theorem inspectAccount_kept (h : inspectAccount db journal address = .ok (next, account)) :
    Kept db journal next := by
  have hheld := held_eq h
  rw [inspectAccount_insert h]
  apply Kept.insert (bareInfo_held hheld)
  · by_cases hd : account.delegatedAddress = none
    · exact .inl (by simp [shown, hheld, hd, Except.map])
    · refine .inr ?_
      rw [← inspectAccount_insert h, shown_inspected h hd]
  · intro hn hcold
    cases ho : journal.state.lookup address with
    | some old =>
      obtain ⟨info, -, rfl⟩ := inspectAccount_occupied ho h
      exact hn old ho hcold
    | none =>
      obtain ⟨info, -, -, hm⟩ := inspectAccount_vacant ho h
      have hs := congrArg (fun a => a.status.selfDestructedLocal) hm
      cases info <;> exact hs

theorem loadedAccount_bare (hn : journal.Current address) {isCold : Bool}
    (h : loadedAccount db journal address = .ok (account, isCold)) :
    bareInfo db journal address = .ok account.info.bare := by
  unfold loadedAccount at h
  cases ho : journal.state.lookup address with
  | some old =>
    simp only [ho, Except.ok.injEq, Prod.mk.injEq] at h
    obtain ⟨rfl, rfl⟩ := h
    cases hc : old.isCold journal.transactionId with
    | false => simp [bareInfo, ho, Account.markWarm]
    | true => simp [bareInfo, ho, Account.markWarm, Account.clearLocal, hn old ho hc]
  | none =>
    cases hb : db.basic address with
    | error e => simp [ho, hb, Except.map] at h
    | ok info =>
      simp only [ho, hb, Except.map, Except.ok.injEq, Prod.mk.injEq] at h
      obtain ⟨rfl, rfl⟩ := h
      simp only [bareInfo, ho, hb, Except.map]
      cases info <;> rfl

theorem loadedAccount_warm {isCold : Bool}
    (h : loadedAccount db journal address = .ok (account, isCold)) :
    account.isCold journal.transactionId = false := by
  unfold loadedAccount at h
  cases ho : journal.state.lookup address with
  | some old =>
    simp only [ho, Except.ok.injEq, Prod.mk.injEq] at h
    rw [← h.1]
    simp [Account.isCold, Account.markWarm]
  | none =>
    cases hb : db.basic address with
    | error e => simp [ho, hb, Except.map] at h
    | ok info =>
      simp only [ho, hb, Except.map, Except.ok.injEq, Prod.mk.injEq] at h
      rw [← h.1]
      cases info with
      | none => exact Bool.or_eq_false_iff.2 ⟨bne_self_eq_false _, rfl⟩
      | some info => exact Bool.or_eq_false_iff.2 ⟨bne_self_eq_false _, rfl⟩

theorem loadedAccount_shown (hn : journal.Current address) {isCold : Bool}
    (h : loadedAccount db journal address = .ok (account, isCold)) :
    shown db journal address = .ok none ∨
      shown db journal address = (db.loadCode account.info).map (·.code.bind eip7702Address) := by
  rw [shown_of_held]
  unfold loadedAccount at h
  cases ho : journal.state.lookup address with
  | some old =>
    simp only [ho, Except.ok.injEq, Prod.mk.injEq] at h
    obtain ⟨rfl, rfl⟩ := h
    right
    cases hc : old.isCold journal.transactionId with
    | false => simp [Account.markWarm]
    | true => simp [Account.markWarm, Account.clearLocal, hn old ho hc]
  | none =>
    cases hb : db.basic address with
    | error e => simp [ho, hb, Except.map] at h
    | ok info =>
      simp only [ho, hb, Except.map, Except.ok.injEq, Prod.mk.injEq] at h
      obtain ⟨rfl, -⟩ := h
      cases info with
      | none => exact .inl rfl
      | some info =>
        cases hcode : info.code with
        | none => exact .inl (by simp [Except.map, hcode])
        | some code =>
          right
          have hi : (Account.entered journal.transactionId (some info)).info = info := rfl
          rw [hi, loadCode_code hcode]
          rfl

theorem codeOf_shown {info info' : AccountInfo} (h : codeOf db info = .ok info') :
    info'.bare = info.bare ∧ db.loadCode info' = .ok info' ∧
      (db.loadCode info).map (·.code.bind eip7702Address) =
        .ok (info'.code.bind eip7702Address) := by
  unfold codeOf at h
  split at h
  · rename_i hcode
    split at h
    · rename_i hhash
      cases h
      refine ⟨rfl, loadCode_code rfl, ?_⟩
      have hl : db.loadCode info = .ok info := if_neg fun hne => hne.1 hhash
      rw [hl, Except.map, hcode]
      rfl
    · rename_i hhash
      cases hc : db.codeByHash info.codeHash with
      | error e => simp [hc, Except.map] at h
      | ok code =>
        rw [hc] at h
        cases h
        have hl : db.loadCode info = .ok { info with code := some code } := by
          simp [Database.loadCode, hhash, hcode, hc, Except.map]
        exact ⟨rfl, loadCode_code rfl, by rw [hl]; rfl⟩
  · rename_i hcode
    cases h
    have hl : db.loadCode info = .ok info := if_neg fun hne => hcode hne.2
    exact ⟨rfl, hl, by rw [hl]; rfl⟩

theorem kept_of_state (hs : journal'.state = journal.state)
    (ht : journal'.transactionId = journal.transactionId) : Kept db journal journal' where
  bare a := by
    simp [bareInfo, hs]
  shows a := by
    have hh : held db journal' a = held db journal a :=
      held_congr (congrArg (AList.lookup a) hs) ht
    simp [shown, hh]
  clean a hn account hl hc := by
    rw [hs] at hl
    rw [ht] at hc
    exact hn account hl hc

theorem pushIf_kept (cond : Bool) (entry : Entry) :
    Kept db journal (journal.pushIf cond entry) := by
  cases cond <;> exact kept_of_state rfl rfl

theorem insert_pushIf (cond : Bool) (entry : Entry) :
    (journal.pushIf cond entry).insert address account =
      (journal.insert address account).pushIf cond entry := by
  cases cond <;> rfl

theorem loadAccount_kept (hn : journal.Current address) {loadCode : Bool} {answer : Answer}
    (h : journal.loadAccount db address loadCode = .ok (answer, next)) :
    Kept db journal next := by
  unfold Journal.loadAccount at h
  cases hl : loadedAccount db journal address with
  | error e => simp [hl] at h
  | ok r =>
    obtain ⟨account, isCold⟩ := r
    have hbare := loadedAccount_bare hn hl
    have hshown := loadedAccount_shown hn hl
    have hwarm := loadedAccount_warm hl
    cases loadCode with
    | false =>
      simp only [hl, Bool.false_eq_true, if_false, Except.ok.injEq, Prod.mk.injEq] at h
      rw [← h.2, insert_pushIf]
      refine (Kept.insert hbare ?_ fun _ hc => ?_).trans (pushIf_kept _ _)
      · rwa [shown_inserted]
      · rw [hwarm] at hc
        cases hc
    | true =>
      simp only [hl, if_true] at h
      cases hc : codeOf db account.info with
      | error e => simp [hc] at h
      | ok info =>
        obtain ⟨hb, hload, hcode⟩ := codeOf_shown hc
        simp only [hc, Except.ok.injEq, Prod.mk.injEq] at h
        rw [← h.2, insert_pushIf]
        refine (Kept.insert ?_ ?_ fun _ hcold => ?_).trans (pushIf_kept _ _)
        · rw [hbare, hb]
        · rw [shown_inserted, hload, Except.map, ← hcode]
          exact hshown
        · have hw : ({ account with info := info } : Account).isCold journal.transactionId = false :=
            hwarm
          rw [hw] at hcold
          cases hcold

theorem followDelegation_kept {fuel : ℕ} {visited : List Address} {found : Address}
    (h : followDelegation db fuel journal address visited = some (.ok (next, found))) :
    Kept db journal next := by
  induction fuel generalizing journal address visited with
  | zero => cases h
  | succ fuel ih =>
    rw [followDelegation] at h
    cases hi : inspectAccount db journal address with
    | error e => simp [hi] at h
    | ok r =>
      have hk := inspectAccount_kept hi
      simp only [hi] at h
      cases hd : r.2.delegatedAddress with
      | none =>
        simp only [hd, Option.some.injEq, Except.ok.injEq, Prod.mk.injEq] at h
        rwa [← h.1]
      | some following =>
        simp only [hd] at h
        split at h
        · simp only [Option.some.injEq, Except.ok.injEq, Prod.mk.injEq] at h
          rwa [← h.1]
        · exact hk.trans (ih h)

theorem inspectAccountDelegated_kept {spec : MegaSpecId} {fuel : ℕ} {found : Address}
    (h : inspectAccountDelegated db spec fuel journal address = some (.ok (next, found))) :
    Kept db journal next := by
  unfold inspectAccountDelegated at h
  cases hi : inspectAccount db journal address with
  | error e => simp [hi] at h
  | ok r =>
    have hk := inspectAccount_kept hi
    simp only [hi] at h
    cases hd : r.2.delegatedAddress with
    | none =>
      simp only [hd, Option.some.injEq, Except.ok.injEq, Prod.mk.injEq] at h
      rwa [← h.1]
    | some delegated =>
      simp only [hd] at h
      split at h
      · cases hi' : inspectAccount db r.1 delegated with
        | error e => simp [hi', Except.map] at h
        | ok r' =>
          simp only [hi', Except.map, Option.some.injEq, Except.ok.injEq, Prod.mk.injEq] at h
          rw [← h.1]
          exact hk.trans (inspectAccount_kept hi')
      · exact hk.trans (followDelegation_kept h)

end Kept

section Quiet

variable {E : Type} (db : Database E) {spec : MegaSpecId} {fuel : ℕ}

/-- The operations that come before the first frame. -/
def Op.quiet : Op → Bool
  | .loadAccount _ _ | .change _ (.setBalance _) | .change _ .incNonce
  | .change _ (.setCode _ _) => true
  | _ => false

/-- A load changes no account. -/
def Op.changed : Op → Option Address
  | .change address _ => some address
  | _ => none

def Bumped (journal : Journal) (address : Address) : Prop :=
  ∃ info, bareInfo db journal address = .ok info ∧ 0 < info.nonce

variable {db} {journal next : Journal} {address a : Address} {answer : Option Answer}

theorem Bumped.not_empty (h : Bumped db journal address) : ¬ IsEmptyAt db journal address := by
  rintro ⟨info, hb, he⟩
  obtain ⟨info', hb', hn⟩ := h
  cases hb.symm.trans hb'
  simp only [AccountInfo.isEmpty, Bool.and_eq_true, decide_eq_true_eq] at he
  omega

theorem change_inserted {c : Change} {shown : Answer}
    (h : journal.change (E := E) address c = .ok (shown, next)) :
    ∃ account, journal.state.lookup address = some account ∧
      next.state = (journal.insert address (c.apply account)).state ∧
      next.transactionId = journal.transactionId := by
  unfold Journal.change at h
  cases hl : journal.state.lookup address with
  | none => simp [hl] at h
  | some account =>
    simp only [hl, Except.ok.injEq, Prod.mk.injEq] at h
    refine ⟨account, rfl, ?_⟩
    rw [← h.2]
    cases (!c.isDone account) <;> exact ⟨rfl, rfl⟩

theorem bareInfo_congr {journal journal' : Journal} (h : journal'.state = journal.state) :
    bareInfo db journal' a = bareInfo db journal a := by
  simp [bareInfo, h]

theorem quiet_clean {op : Op} (hq : op.quiet = true) (hn : NoLeftovers journal)
    (h : op.exec db spec fuel journal = .ok (answer, next)) : NoLeftovers next := by
  cases op with
  | loadAccount address loadCode =>
    obtain ⟨shown, -, hr⟩ := answered_ok h
    exact (loadAccount_kept (hn address) hr).noLeftovers hn
  | change address c =>
    obtain ⟨shown, -, hr⟩ := answered_ok h
    obtain ⟨account, hl, hs, ht⟩ := change_inserted hr
    intro b acc hb hc
    rw [hs] at hb
    rw [ht] at hc
    by_cases hne : b = address
    · subst hne
      rw [lookup_insert, Option.some.injEq] at hb
      subst hb
      have hold := hn b account hl
      cases c with
      | setBalance balance => exact hold hc
      | incNonce => exact hold hc
      | setCode codeHash code => exact hold hc
      | _ => cases hq
    · rw [lookup_insert_ne _ _ hne] at hb
      exact hn b acc hb hc
  | _ => cases hq

theorem quiet_unchanged {op : Op} (hq : op.quiet = true) (hn : NoLeftovers journal)
    (h : op.exec db spec fuel journal = .ok (answer, next)) (ha : op.changed ≠ some a) :
    bareInfo db next a = bareInfo db journal a := by
  cases op with
  | loadAccount address loadCode =>
    obtain ⟨shown, -, hr⟩ := answered_ok h
    exact (loadAccount_kept (hn address) hr).bare a
  | change address c =>
    obtain ⟨shown, -, hr⟩ := answered_ok h
    obtain ⟨account, -, hs, -⟩ := change_inserted hr
    have hne : a ≠ address := fun he => ha (by rw [he]; rfl)
    rw [bareInfo_congr hs, bareInfo_insert_ne _ _ hne]
  | _ => cases hq

theorem quiet_bumped {op : Op} (hq : op.quiet = true) (hn : NoLeftovers journal)
    (h : op.exec db spec fuel journal = .ok (answer, next)) (hb : Bumped db journal a) :
    Bumped db next a := by
  by_cases ha : op.changed = some a
  · cases op with
    | change address c =>
      cases ha
      obtain ⟨shown, -, hr⟩ := answered_ok h
      obtain ⟨account, hl, hs, -⟩ := change_inserted hr
      obtain ⟨info, hinfo, hpos⟩ := hb
      rw [bareInfo, hl] at hinfo
      cases hinfo
      refine ⟨(c.apply account).info.bare, ?_, ?_⟩
      · rw [bareInfo_congr hs, bareInfo_insert]
      · cases c with
        | setBalance balance => exact hpos
        | incNonce => exact Nat.succ_pos _
        | setCode codeHash code => exact hpos
        | _ => cases hq
    | _ => cases ha
  · obtain ⟨info, hinfo, hpos⟩ := hb
    exact ⟨info, by rw [quiet_unchanged hq hn h ha, hinfo], hpos⟩

theorem incNonce_bumped
    (h : (Op.change address .incNonce).exec db spec fuel journal = .ok (answer, next)) :
    Bumped db next address := by
  obtain ⟨shown, -, hr⟩ := answered_ok h
  obtain ⟨account, -, hs, -⟩ := change_inserted hr
  refine ⟨((Change.incNonce).apply account).info.bare, ?_, Nat.succ_pos _⟩
  rw [bareInfo_congr hs, bareInfo_insert]

theorem runAll_ok {op : Op} {ops : List Op} {answers : List Answer} {last : Journal}
    (h : Op.runAll db spec fuel (op :: ops) journal = .ok (answers, last)) :
    ∃ answer next rest, op.exec db spec fuel journal = .ok (answer, next) ∧
      Op.runAll db spec fuel ops next = .ok (rest, last) := by
  rw [Op.runAll] at h
  cases he : op.exec db spec fuel journal with
  | error e => simp [he] at h
  | ok r =>
    simp only [he] at h
    cases hr : Op.runAll db spec fuel ops r.2 with
    | error e => simp [hr, Except.map] at h
    | ok rest =>
      simp only [hr, Except.map, Except.ok.injEq, Prod.mk.injEq] at h
      exact ⟨r.1, r.2, rest.1, rfl, by rw [hr, ← h.2]⟩

/-- What quiet operations leave of an account: as it was if they do not change it, and not
empty once its nonce is bumped. -/
theorem quiet_run {ops : List Op} {answers : List Answer} {last : Journal}
    (hq : ∀ op ∈ ops, op.quiet = true) (hn : NoLeftovers journal)
    (h : Op.runAll db spec fuel ops journal = .ok (answers, last)) (a : Address) :
    NoLeftovers last ∧
      ((∀ op ∈ ops, op.changed ≠ some a) → bareInfo db last a = bareInfo db journal a) ∧
      (Bumped db journal a ∨ Op.change a .incNonce ∈ ops → Bumped db last a) := by
  induction ops generalizing journal answers with
  | nil =>
    cases h
    exact ⟨hn, fun _ => rfl, by simp⟩
  | cons op ops ih =>
    obtain ⟨answer, next, rest, he, hr⟩ := runAll_ok h
    have hop := hq op List.mem_cons_self
    obtain ⟨hclean, hsame, hbump⟩ :=
      ih (fun o ho => hq o (List.mem_cons_of_mem _ ho)) (quiet_clean hop hn he) hr
    refine ⟨hclean, fun hall => ?_, fun hb => ?_⟩
    · rw [hsame fun o ho => hall o (List.mem_cons_of_mem _ ho)]
      exact quiet_unchanged hop hn he (hall op List.mem_cons_self)
    · apply hbump
      rcases hb with hb | hb
      · exact .inl (quiet_bumped hop hn he hb)
      · rcases List.mem_cons.1 hb with rfl | hb
        · exact .inl (incNonce_bumped he)
        · exact .inr hb

end Quiet

end Journal

end MegaEvm
