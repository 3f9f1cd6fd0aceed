import MegaEvm.DelegationWalk
import MegaEvm.JournalLoads

/-!
# Inspections and later loads

What an inspection enters is marked as cold, so that a later load should find it
as if it were not there. Two journals are followed, one without the inspections:
they agree but for entries that nothing but an inspection has looked at.
-/

set_option autoImplicit false

namespace MegaEvm

open KeyedFold UndoLog

namespace Journal

section Match

variable {E : Type} (db : Database E)

/-- The same account information, with the code perhaps loaded. -/
structure InfoMatch (info info' : AccountInfo) : Prop where
  balance : info'.balance = info.balance
  nonce : info'.nonce = info.nonce
  codeHash : info'.codeHash = info.codeHash
  code : info'.code = info.code ∨ info.code = none ∧ info.codeHash ≠ KECCAK_EMPTY ∧
    ∃ code, db.codeByHash info.codeHash = .ok code ∧ info'.code = some code

/-- A slot as an inspection enters it. In a created account it holds nothing. -/
structure Peeked (address : Address) (created : Bool) (key : ℕ) (slot : EvmStorageSlot) :
    Prop where
  original : slot.originalValue = slot.presentValue
  cold : slot.isCold = true
  stored : db.storage address key = .ok slot.presentValue
  created : created = true → slot.presentValue = 0

structure SlotsMatch (address : Address) (created : Bool) (slots slots' : EvmStorage) : Prop where
  loaded : ∀ key slot, slots.lookup key = some slot → slots'.lookup key = some slot
  peeked : ∀ key slot, slots.lookup key = none → slots'.lookup key = some slot →
    Peeked db address created key slot

structure AccountMatch (address : Address) (account account' : Account) : Prop where
  info : InfoMatch db account.info account'.info
  transactionId : account'.transactionId = account.transactionId
  status : account'.status = account.status
  slots : SlotsMatch db address account.isCreated account.storage account'.storage

/-- An entry that only inspections have looked at: it is cold, and warming it gives
what a load would enter. -/
structure Unvisited (transactionId : ℕ) (warmAddresses : List Address) (address : Address)
    (account : Account) : Prop where
  notWarmed : address ∉ warmAddresses
  cold : account.status.cold = true
  entered : ∃ info, db.basic address = .ok info ∧
    AccountMatch db address (.entered transactionId info) (account.markWarm transactionId)

/-- The cold slots that only the inspected account has hold nothing. -/
def EmptyPeeks (slots slots' : EvmStorage) : Prop :=
  ∀ key slot, slots.lookup key = none → slots'.lookup key = some slot → slot.isCold = true →
    slot.presentValue = 0

structure JournalMatch (journal journal' : Journal) : Prop where
  transactionId : journal'.transactionId = journal.transactionId
  warmAddresses : journal'.warmAddresses = journal.warmAddresses
  checkpoints : journal'.checkpoints = journal.checkpoints
  loaded : ∀ a account, journal.state.lookup a = some account →
    ∃ account', journal'.state.lookup a = some account' ∧ AccountMatch db a account account'
  unvisited : ∀ a account', journal.state.lookup a = none →
    journal'.state.lookup a = some account' →
    Unvisited db journal.transactionId journal.warmAddresses a account'

end Match

section Rules

variable {E : Type} {db : Database E} {journal journal' : Journal} {address a : Address}
  {account account' : Account} {info info' : AccountInfo}

theorem InfoMatch.refl (info : AccountInfo) : InfoMatch db info info := ⟨rfl, rfl, rfl, .inl rfl⟩

theorem InfoMatch.loadCode {loaded : AccountInfo} (h : InfoMatch db info info')
    (hl : db.loadCode info' = .ok loaded) : InfoMatch db info loaded := by
  unfold Database.loadCode at hl
  split at hl
  · rename_i hn
    cases hc : db.codeByHash info'.codeHash with
    | error e => simp [hc, Except.map] at hl
    | ok code =>
      rw [hc] at hl
      cases hl
      rw [h.codeHash] at hc hn
      rcases h.code with hcode | ⟨_, _, _, _, hcode⟩
      · rw [hn.2] at hcode
        exact ⟨h.balance, h.nonce, h.codeHash, .inr ⟨hcode.symm, hn.1, code, hc, rfl⟩⟩
      · rw [hn.2] at hcode
        cases hcode
  · cases hl
    exact h

theorem InfoMatch.codeOf (h : InfoMatch db info info') : codeOf db info' = codeOf db info := by
  obtain ⟨balance', nonce', hash', code'⟩ := info'
  obtain ⟨balance, nonce, hash, code⟩ := info
  obtain ⟨rfl, rfl, rfl, hcode⟩ := h
  rcases hcode with rfl | ⟨rfl, hn, c, hc, rfl⟩
  · rfl
  · simp only at hn hc
    simp [Journal.codeOf, hn, hc, Except.map]

theorem InfoMatch.hidden (h : InfoMatch db info info') :
    ({ info' with code := none } : AccountInfo) = { info with code := none } := by
  rw [h.balance, h.nonce, h.codeHash]

theorem SlotsMatch.refl (address : Address) (created : Bool) (slots : EvmStorage) :
    SlotsMatch db address created slots slots where
  loaded := fun _ _ h => h
  peeked := by
    intro key slot hn hs
    rw [hn] at hs
    cases hs

theorem SlotsMatch.insert {created : Bool} {slots slots' : EvmStorage} {key : ℕ}
    (h : SlotsMatch db address created slots slots') (slot : EvmStorageSlot) :
    SlotsMatch db address created (slots.insert key slot) (slots'.insert key slot) where
  loaded := by
    intro k s hs
    by_cases hk : k = key
    · subst hk
      rwa [AList.lookup_insert] at hs ⊢
    · rw [AList.lookup_insert_ne hk] at hs ⊢
      exact h.loaded k s hs
  peeked := by
    intro k s hn hs
    by_cases hk : k = key
    · subst hk
      rw [AList.lookup_insert] at hn
      cases hn
    · rw [AList.lookup_insert_ne hk] at hn hs
      exact h.peeked k s hn hs

theorem SlotsMatch.peek {created : Bool} {slots slots' : EvmStorage} {key : ℕ}
    {slot : EvmStorageSlot} (h : SlotsMatch db address created slots slots')
    (hn : slots'.lookup key = none) (hs : Peeked db address created key slot) :
    SlotsMatch db address created slots (slots'.insert key slot) where
  loaded := by
    intro k s hk
    by_cases hkey : k = key
    · subst hkey
      cases hn.symm.trans (h.loaded k s hk)
    · rw [AList.lookup_insert_ne hkey]
      exact h.loaded k s hk
  peeked := by
    intro k s hk hslot
    by_cases hkey : k = key
    · subst hkey
      rw [AList.lookup_insert] at hslot
      cases hslot
      exact hs
    · rw [AList.lookup_insert_ne hkey] at hslot
      exact h.peeked k s hk hslot

theorem SlotsMatch.created {created created' : Bool} {slots slots' : EvmStorage}
    (h : SlotsMatch db address created slots slots')
    (hc : created' = true → created = true ∨ EmptyPeeks slots slots') :
    SlotsMatch db address created' slots slots' where
  loaded := h.loaded
  peeked := by
    intro key slot hn hs
    have hp := h.peeked key slot hn hs
    refine ⟨hp.original, hp.cold, hp.stored, fun hcreated => ?_⟩
    rcases hc hcreated with hc | hc
    · exact hp.created hc
    · exact hc key slot hn hs hp.cold

theorem AccountMatch.refl (address : Address) (account : Account) :
    AccountMatch db address account account :=
  ⟨.refl _, rfl, rfl, .refl _ _ _⟩

theorem JournalMatch.refl (journal : Journal) : JournalMatch db journal journal where
  transactionId := rfl
  warmAddresses := rfl
  checkpoints := rfl
  loaded := fun a account h => ⟨account, h, .refl a account⟩
  unvisited := by
    intro a account hn hs
    rw [hn] at hs
    cases hs

theorem JournalMatch.insert (h : JournalMatch db journal journal')
    (ha : AccountMatch db address account account') :
    JournalMatch db (journal.insert address account) (journal'.insert address account') where
  transactionId := h.transactionId
  warmAddresses := h.warmAddresses
  checkpoints := h.checkpoints
  loaded := by
    intro a acc hs
    by_cases hne : a = address
    · subst hne
      rw [lookup_insert, Option.some.injEq] at hs
      subst hs
      exact ⟨account', lookup_insert _ _ _, ha⟩
    · rw [lookup_insert_ne _ _ hne] at hs ⊢
      exact h.loaded a acc hs
  unvisited := by
    intro a acc hn hs
    by_cases hne : a = address
    · subst hne
      rw [lookup_insert] at hn
      cases hn
    · rw [lookup_insert_ne _ _ hne] at hn hs
      exact h.unvisited a acc hn hs

theorem JournalMatch.checkpointed {entries entries' : List (List Entry)}
    (h : JournalMatch db journal journal') (he : entries' = entries) :
    JournalMatch db { journal with checkpoints := entries }
      { journal' with checkpoints := entries' } :=
  ⟨h.transactionId, h.warmAddresses, he, h.loaded, h.unvisited⟩

theorem JournalMatch.pushIf (h : JournalMatch db journal journal') (cond : Bool) (entry : Entry) :
    JournalMatch db (journal.pushIf cond entry) (journal'.pushIf cond entry) := by
  cases cond with
  | false => exact h
  | true => exact h.checkpointed (congrArg (record entry) h.checkpoints)

end Rules

section Loads

variable {E : Type} {db : Database E} {journal journal' : Journal} {address a : Address}
  {account account' : Account} {isCold : Bool} {key : ℕ}

theorem clearLocal_of_clear (hd : account.status.selfDestructedLocal = false)
    (hc : account.status.createdLocal = false) : account.clearLocal = account := by
  obtain ⟨info, transactionId, storage, status⟩ := account
  obtain ⟨created, selfDestructed, touched, notExisting, cold, createdLocal, destroyedLocal⟩ := status
  subst hd hc
  rfl

theorem AccountMatch.markWarm (h : AccountMatch db address account account')
    (transactionId : ℕ) : AccountMatch db address (account.markWarm transactionId)
      (account'.markWarm transactionId) where
  info := h.info
  transactionId := rfl
  status := by simp only [Account.markWarm, h.status]
  slots := h.slots

theorem AccountMatch.clearLocal (h : AccountMatch db address account account') :
    AccountMatch db address account.clearLocal account'.clearLocal := by
  unfold Account.clearLocal
  rw [h.status]
  cases account.status.selfDestructedLocal with
  | false => exact ⟨h.info, h.transactionId, by simp [h.status], h.slots⟩
  | true => exact ⟨.refl _, h.transactionId, rfl, .refl _ _ _⟩

theorem Unvisited.coldAt {transactionId : ℕ} {warmAddresses : List Address}
    (h : Unvisited db transactionId warmAddresses address account) :
    account.isCold transactionId = true := by
  simp [Account.isCold, h.cold]

theorem Unvisited.clearLocal {transactionId : ℕ} {warmAddresses : List Address}
    (h : Unvisited db transactionId warmAddresses address account) :
    account.clearLocal = account := by
  obtain ⟨info, _, hm⟩ := h.entered
  have hs := hm.status
  apply clearLocal_of_clear
  · have hd := congrArg AccountStatus.selfDestructedLocal hs
    cases info <;> exact hd
  · have hc := congrArg AccountStatus.createdLocal hs
    cases info <;> exact hc

theorem loadedAccount_match (h : JournalMatch db journal journal')
    (hl : loadedAccount db journal address = .ok (account, isCold)) :
    ∃ account', loadedAccount db journal' address = .ok (account', isCold) ∧
      AccountMatch db address account account' := by
  unfold Journal.loadedAccount at hl ⊢
  rw [h.transactionId, h.warmAddresses]
  cases ho : journal.state.lookup address with
  | some held =>
    obtain ⟨held', ho', hm⟩ := h.loaded address held ho
    have hc : held'.isCold journal.transactionId = held.isCold journal.transactionId := by
      simp [Account.isCold, hm.transactionId, hm.status]
    simp only [ho, Except.ok.injEq, Prod.mk.injEq] at hl
    obtain ⟨rfl, rfl⟩ := hl
    simp only [ho', hc]
    refine ⟨_, rfl, ?_⟩
    cases held.isCold journal.transactionId with
    | false => exact hm.markWarm _
    | true => exact hm.clearLocal.markWarm _
  | none =>
    cases hb : db.basic address with
    | error e => simp [ho, hb, Except.map] at hl
    | ok info =>
      simp only [ho, hb, Except.map, Except.ok.injEq, Prod.mk.injEq] at hl
      obtain ⟨rfl, rfl⟩ := hl
      cases ho' : journal'.state.lookup address with
      | none => exact ⟨_, rfl, .refl _ _⟩
      | some held' =>
        have hu := h.unvisited address held' ho ho'
        obtain ⟨info', hb', hm⟩ := hu.entered
        cases hb.symm.trans hb'
        refine ⟨held'.markWarm journal.transactionId, ?_, hm⟩
        simp [hu.coldAt, hu.clearLocal, hu.notWarmed]

theorem loadAccount_match (h : JournalMatch db journal journal') {loadCode : Bool}
    {answer : Answer} {next : Journal}
    (hl : journal.loadAccount db address loadCode = .ok (answer, next)) :
    ∃ next', journal'.loadAccount db address loadCode = .ok (answer, next') ∧
      JournalMatch db next next' := by
  unfold Journal.loadAccount at hl ⊢
  cases ha : loadedAccount db journal address with
  | error e => simp [ha] at hl
  | ok r =>
    obtain ⟨account, isCold⟩ := r
    obtain ⟨account', ha', hm⟩ := loadedAccount_match h ha
    have hp := h.pushIf isCold (.accountWarmed address)
    cases loadCode with
    | false =>
      simp only [ha, Bool.false_eq_true, if_false, Except.ok.injEq, Prod.mk.injEq] at hl
      obtain ⟨rfl, rfl⟩ := hl
      simp only [ha', Bool.false_eq_true, if_false, hm.info.hidden]
      exact ⟨_, rfl, hp.insert hm⟩
    | true =>
      simp only [ha, if_true] at hl
      cases hc : codeOf db account.info with
      | error e => simp [hc] at hl
      | ok info =>
        simp only [hc, Except.ok.injEq, Prod.mk.injEq] at hl
        obtain ⟨rfl, rfl⟩ := hl
        simp only [ha', if_true, hm.info.codeOf, hc]
        exact ⟨_, rfl, hp.insert ⟨.refl info, hm.transactionId, hm.status, hm.slots⟩⟩

theorem loadedSlot_match (h : JournalMatch db journal journal')
    (hm : AccountMatch db address account account') {slot : EvmStorageSlot}
    (hl : loadedSlot db journal address account key = .ok (slot, isCold)) :
    loadedSlot db journal' address account' key = .ok (slot, isCold) := by
  unfold Journal.loadedSlot at hl ⊢
  rw [h.transactionId]
  cases ho : account.storage.lookup key with
  | some held =>
    rw [hm.slots.loaded key held ho]
    simpa [ho] using hl
  | none =>
    have hcreated : account'.isCreated = account.isCreated := congrArg AccountStatus.created hm.status
    cases ho' : account'.storage.lookup key with
    | none => simpa [ho, hcreated] using hl
    | some held' =>
      have hp := hm.slots.peeked key held' ho ho'
      have hv : (if account.isCreated then .ok 0 else db.storage address key) =
          (.ok held'.presentValue : Except E ℕ) := by
        cases hc : account.isCreated with
        | false => simpa using hp.stored
        | true => simp [hp.created hc]
      simp only [ho, hv, Except.map, Except.ok.injEq, Prod.mk.injEq] at hl
      obtain ⟨rfl, rfl⟩ := hl
      have hslot : held'.markWarm journal.transactionId =
          EvmStorageSlot.new held'.presentValue journal.transactionId := by
        simp [EvmStorageSlot.markWarm, EvmStorageSlot.new, ← hp.original]
      simp [hslot, EvmStorageSlot.coldAt, hp.cold]

theorem insertSlot_match (h : JournalMatch db journal journal')
    (hm : AccountMatch db address account account') (slot : EvmStorageSlot) :
    JournalMatch db (journal.insertSlot address account key slot)
      (journal'.insertSlot address account' key slot) :=
  h.insert ⟨hm.info, hm.transactionId, hm.status, hm.slots.insert slot⟩

theorem sload_match (h : JournalMatch db journal journal') {answer : Answer} {next : Journal}
    (hl : journal.sload db address key = .ok (answer, next)) :
    ∃ next', journal'.sload db address key = .ok (answer, next') ∧ JournalMatch db next next' := by
  unfold Journal.sload at hl ⊢
  cases ho : journal.state.lookup address with
  | none => simp [ho] at hl
  | some held =>
    obtain ⟨held', ho', hm⟩ := h.loaded address held ho
    cases hs : loadedSlot db journal address held key with
    | error e => simp [ho, hs] at hl
    | ok r =>
      simp only [ho, hs, Except.ok.injEq, Prod.mk.injEq] at hl
      obtain ⟨rfl, rfl⟩ := hl
      simp only [ho', loadedSlot_match h hm hs]
      exact ⟨_, rfl, (insertSlot_match h hm _).pushIf _ _⟩

theorem sstore_match (h : JournalMatch db journal journal') {value : ℕ} {answer : Answer}
    {next : Journal} (hl : journal.sstore db address key value = .ok (answer, next)) :
    ∃ next', journal'.sstore db address key value = .ok (answer, next') ∧
      JournalMatch db next next' := by
  unfold Journal.sstore at hl ⊢
  cases ho : journal.state.lookup address with
  | none => simp [ho] at hl
  | some held =>
    obtain ⟨held', ho', hm⟩ := h.loaded address held ho
    cases hs : loadedSlot db journal address held key with
    | error e => simp [ho, hs] at hl
    | ok r =>
      simp only [ho, hs, Except.ok.injEq, Prod.mk.injEq] at hl
      obtain ⟨rfl, rfl⟩ := hl
      simp only [ho', loadedSlot_match h hm hs]
      exact ⟨_, rfl, ((insertSlot_match h hm _).pushIf _ _).pushIf _ _⟩

end Loads

section Changes

variable {E : Type} {db : Database E} {journal journal' : Journal} {address : Address}
  {account account' : Account}

theorem apply_match (hm : AccountMatch db address account account') (c : Change)
    (hc : c = .create → EmptyPeeks account.storage account'.storage) :
    AccountMatch db address (c.apply account) (c.apply account') := by
  have hs := hm.status
  cases c with
  | touch => exact ⟨hm.info, hm.transactionId, by simp [Change.apply, Account.withTouchedMark, hs], hm.slots⟩
  | setBalance balance =>
    exact ⟨⟨rfl, hm.info.nonce, hm.info.codeHash, hm.info.code⟩, hm.transactionId, hs, hm.slots⟩
  | incNonce =>
    exact ⟨⟨hm.info.balance, by simp [Change.apply, hm.info.nonce], hm.info.codeHash, hm.info.code⟩,
      hm.transactionId, hs, hm.slots⟩
  | setCode codeHash code =>
    exact ⟨⟨hm.info.balance, hm.info.nonce, rfl, .inl rfl⟩, hm.transactionId, hs, hm.slots⟩
  | create =>
    exact ⟨⟨hm.info.balance, rfl, hm.info.codeHash, .inl rfl⟩, hm.transactionId,
      by simp [Change.apply, hs], hm.slots.created fun _ => .inr (hc rfl)⟩
  | selfdestruct =>
    exact ⟨⟨rfl, hm.info.nonce, hm.info.codeHash, hm.info.code⟩, hm.transactionId,
      by simp [Change.apply, hs], hm.slots⟩

theorem change_match (h : JournalMatch db journal journal') {c : Change} {answer : Answer}
    {next : Journal} (hc : c = .create → ∀ account account',
      journal.state.lookup address = some account →
      journal'.state.lookup address = some account' →
      EmptyPeeks account.storage account'.storage)
    (hl : journal.change (E := E) address c = .ok (answer, next)) :
    ∃ next', journal'.change (E := E) address c = .ok (answer, next') ∧
      JournalMatch db next next' := by
  unfold Journal.change at hl ⊢
  cases ho : journal.state.lookup address with
  | none => simp [ho] at hl
  | some held =>
    obtain ⟨held', ho', hm⟩ := h.loaded address held ho
    simp only [ho, Except.ok.injEq, Prod.mk.injEq] at hl
    obtain ⟨rfl, rfl⟩ := hl
    have hd : c.isDone held' = c.isDone held := by
      cases c <;> simp [Change.isDone, hm.status]
    have he : c.entry address held' = c.entry address held := by
      cases c <;> simp [Change.entry, hm.status, hm.info.balance]
    simp only [ho', hd, he]
    exact ⟨_, rfl, (h.insert (apply_match hm c fun hcr => hc hcr held held' ho ho')).pushIf _ _⟩

theorem undoAccount_match (hm : AccountMatch db address account account') (entry : Entry) :
    AccountMatch db address (entry.undoAccount account) (entry.undoAccount account') := by
  have hs := hm.status
  cases entry with
  | accountWarmed _ =>
    exact ⟨hm.info, hm.transactionId, by simp [Entry.undoAccount, Account.withColdMark, hs], hm.slots⟩
  | accountTouched _ =>
    exact ⟨hm.info, hm.transactionId, by simp [Entry.undoAccount, hs], hm.slots⟩
  | balanceChange _ oldBalance =>
    exact ⟨⟨rfl, hm.info.nonce, hm.info.codeHash, hm.info.code⟩, hm.transactionId, hs, hm.slots⟩
  | nonceChange _ =>
    exact ⟨⟨hm.info.balance, by simp [Entry.undoAccount, hm.info.nonce], hm.info.codeHash,
      hm.info.code⟩, hm.transactionId, hs, hm.slots⟩
  | codeChange _ =>
    exact ⟨⟨hm.info.balance, hm.info.nonce, rfl, .inl rfl⟩, hm.transactionId, hs, hm.slots⟩
  | accountCreated _ isCreatedGlobally =>
    refine ⟨⟨hm.info.balance, rfl, hm.info.codeHash, hm.info.code⟩, hm.transactionId,
      by simp [Entry.undoAccount, hs], hm.slots.created fun hc => .inl ?_⟩
    simp only [Entry.undoAccount, Account.isCreated, Bool.and_eq_true] at hc
    exact hc.1
  | accountDestroyed _ oldBalance _ _ =>
    exact ⟨⟨rfl, hm.info.nonce, hm.info.codeHash, hm.info.code⟩, hm.transactionId,
      by simp [Entry.undoAccount, hs], hm.slots⟩
  | storageWarmed _ _ => exact hm
  | storageChanged _ _ _ => exact hm

theorem updateAccount_match (h : JournalMatch db journal journal') {f : Account → Account}
    (hf : ∀ account account', AccountMatch db address account account' →
      AccountMatch db address (f account) (f account'))
    {next : Journal} (hl : journal.updateAccount (E := E) address f = .ok next) :
    ∃ next', journal'.updateAccount (E := E) address f = .ok next' ∧ JournalMatch db next next' := by
  unfold updateAccount at hl ⊢
  cases ho : journal.state.lookup address with
  | none => simp [ho] at hl
  | some held =>
    obtain ⟨held', ho', hm⟩ := h.loaded address held ho
    simp only [ho, Except.ok.injEq] at hl
    subst hl
    simp only [ho']
    exact ⟨_, rfl, h.insert (hf held held' hm)⟩

theorem updateSlot_match (h : JournalMatch db journal journal') {key : ℕ}
    {f : EvmStorageSlot → EvmStorageSlot} {next : Journal}
    (hl : journal.updateSlot (E := E) address key f = .ok next) :
    ∃ next', journal'.updateSlot (E := E) address key f = .ok next' ∧ JournalMatch db next next' := by
  unfold updateSlot at hl ⊢
  cases ho : journal.state.lookup address with
  | none => simp [ho] at hl
  | some held =>
    obtain ⟨held', ho', hm⟩ := h.loaded address held ho
    cases hs : held.storage.lookup key with
    | none => simp [ho, hs] at hl
    | some slot =>
      simp only [ho, hs, Except.ok.injEq] at hl
      subst hl
      simp only [ho', hm.slots.loaded key slot hs]
      exact ⟨_, rfl, insertSlot_match h hm _⟩

theorem undo_match (h : JournalMatch db journal journal') {entry : Entry} {next : Journal}
    (hl : Entry.undo (E := E) journal entry = .ok next) :
    ∃ next', Entry.undo (E := E) journal' entry = .ok next' ∧ JournalMatch db next next' := by
  cases entry with
  | storageWarmed a k => exact updateSlot_match h hl
  | storageChanged a k v => exact updateSlot_match h hl
  | accountWarmed a | accountTouched a | balanceChange a _ | nonceChange a | codeChange a
  | accountCreated a _ | accountDestroyed a _ _ _ =>
    exact updateAccount_match h (fun _ _ hm => undoAccount_match hm _) hl

theorem undoAll_match (h : JournalMatch db journal journal') {entries : List Entry}
    {next : Journal} (hl : entries.foldlM (Entry.undo (E := E)) journal = .ok next) :
    ∃ next', entries.foldlM (Entry.undo (E := E)) journal' = .ok next' ∧
      JournalMatch db next next' := by
  induction entries generalizing journal journal' with
  | nil =>
    cases hl
    exact ⟨journal', rfl, h⟩
  | cons entry entries ih =>
    rw [List.foldlM_cons] at hl ⊢
    cases hu : Entry.undo (E := E) journal entry with
    | error e => simp [hu, bind, Except.bind] at hl
    | ok undone =>
      obtain ⟨undone', hu', hm⟩ := undo_match h hu
      rw [hu] at hl
      rw [hu']
      exact ih hm hl

theorem checkpointRevert_match (h : JournalMatch db journal journal') {next : Journal}
    (hl : journal.checkpointRevert (E := E) = .ok next) :
    ∃ next', journal'.checkpointRevert (E := E) = .ok next' ∧ JournalMatch db next next' := by
  unfold checkpointRevert at hl ⊢
  rw [h.checkpoints]
  cases he : journal.checkpoints with
  | nil =>
    simp only [he, Except.ok.injEq] at hl
    subst hl
    exact ⟨journal', rfl, h⟩
  | cons entries rest =>
    simp only [he] at hl ⊢
    cases hu : entries.foldlM (Entry.undo (E := E)) journal with
    | error e => simp [hu, Except.map] at hl
    | ok undone =>
      obtain ⟨undone', hu', hm⟩ := undoAll_match h hu
      rw [hu] at hl
      cases hl
      rw [hu']
      exact ⟨_, rfl, hm.checkpointed rfl⟩

end Changes

section Inspections

variable {E : Type} {db : Database E} {journal journal' next : Journal} {address : Address}
  {account account' : Account} {key value : ℕ}

def NotPrewarmed (journal : Journal) (address : Address) : Prop :=
  journal.state.lookup address = none → address ∉ journal.warmAddresses

theorem JournalMatch.enter (h : JournalMatch db journal journal')
    (hl : ∀ account, journal.state.lookup address = some account →
      AccountMatch db address account account')
    (hu : journal.state.lookup address = none →
      Unvisited db journal.transactionId journal.warmAddresses address account') :
    JournalMatch db journal (journal'.insert address account') where
  transactionId := h.transactionId
  warmAddresses := h.warmAddresses
  checkpoints := h.checkpoints
  loaded := by
    intro a acc hs
    by_cases hne : a = address
    · subst hne
      exact ⟨account', lookup_insert _ _ _, hl acc hs⟩
    · rw [lookup_insert_ne _ _ hne]
      exact h.loaded a acc hs
  unvisited := by
    intro a acc hn hs
    by_cases hne : a = address
    · subst hne
      rw [lookup_insert, Option.some.injEq] at hs
      subst hs
      exact hu hn
    · rw [lookup_insert_ne _ _ hne] at hs
      exact h.unvisited a acc hn hs

theorem inspectAccount_occupied (ho : journal.state.lookup address = some account)
    (hi : inspectAccount db journal address = .ok (next, account')) :
    ∃ info, db.loadCode account.info = .ok info ∧ account' = { account with info := info } := by
  unfold inspectAccount at hi
  cases hl : db.loadCode account.info with
  | error e => simp [ho, hl, Except.map] at hi
  | ok info =>
    simp only [ho, hl, Except.map, Except.ok.injEq, Prod.mk.injEq] at hi
    exact ⟨info, rfl, hi.2.symm⟩

theorem inspectAccount_vacant (ho : journal.state.lookup address = none)
    (hi : inspectAccount db journal address = .ok (next, account')) :
    ∃ info, db.basic address = .ok info ∧ account'.status.cold = true ∧
      account'.markWarm journal.transactionId = .entered journal.transactionId info := by
  unfold inspectAccount at hi
  cases hb : db.basic address with
  | error e => simp [ho, hb, Except.map] at hi
  | ok info =>
    simp only [ho, hb, Except.map, Except.ok.injEq, Prod.mk.injEq] at hi
    obtain ⟨-, rfl⟩ := hi
    refine ⟨info, rfl, rfl, ?_⟩
    cases info <;> rfl

theorem inspectAccount_match (h : JournalMatch db journal journal')
    (hw : NotPrewarmed journal' address)
    (hi : inspectAccount db journal' address = .ok (next, account')) :
    JournalMatch db journal next := by
  rw [inspectAccount_insert hi]
  cases ho' : journal'.state.lookup address with
  | some held' =>
    obtain ⟨info, hl, rfl⟩ := inspectAccount_occupied ho' hi
    apply h.enter
    · intro held ho
      obtain ⟨held'', ho'', hm⟩ := h.loaded address held ho
      cases ho'.symm.trans ho''
      exact ⟨hm.info.loadCode hl, hm.transactionId, hm.status, hm.slots⟩
    · intro ho
      obtain ⟨hn, hc, info', hb, hm⟩ := h.unvisited address held' ho ho'
      exact ⟨hn, hc, info', hb, hm.info.loadCode hl, hm.transactionId, hm.status, hm.slots⟩
  | none =>
    obtain ⟨info, hb, hc, hm⟩ := inspectAccount_vacant ho' hi
    apply h.enter
    · intro held ho
      obtain ⟨held', ho'', _⟩ := h.loaded address held ho
      cases ho'.symm.trans ho''
    · intro ho
      rw [h.transactionId] at hm
      have hn := hw ho'
      rw [h.warmAddresses] at hn
      refine ⟨hn, hc, info, hb, ?_⟩
      rw [hm]
      exact .refl _ _

theorem peekSlot_match (h : JournalMatch db journal journal') {slot : EvmStorageSlot}
    (ho' : journal'.state.lookup address = some account')
    (hn : account'.storage.lookup key = none)
    (hs : Peeked db address account'.isCreated key slot) :
    JournalMatch db journal (journal'.insertSlot address account' key slot) := by
  apply h.enter
  · intro held ho
    obtain ⟨held', ho'', hm⟩ := h.loaded address held ho
    cases ho'.symm.trans ho''
    have hc : account'.isCreated = held.isCreated := congrArg AccountStatus.created hm.status
    rw [hc] at hs
    exact ⟨hm.info, hm.transactionId, hm.status, hm.slots.peek hn hs⟩
  · intro ho
    obtain ⟨hw, hc, info, hb, hm⟩ := h.unvisited address account' ho ho'
    have hcr := congrArg AccountStatus.created hm.status
    have hcreated : account'.isCreated = (Account.entered journal.transactionId info).isCreated :=
      hcr
    rw [hcreated] at hs
    exact ⟨hw, hc, info, hb, hm.info, hm.transactionId, hm.status, hm.slots.peek hn hs⟩

variable {spec : MegaSpecId} {fuel : ℕ} {found : Address}

theorem inspectStorage_cases (hspec : spec.isEnabled .rex4 = true)
    (hi : inspectStorage db spec fuel journal address key = some (.ok (next, found))) :
    ∃ first account second account', inspectAccount db journal address = .ok (first, account) ∧
      inspectAccount db first address = .ok (second, account') ∧
      ((account.storage.lookup key).isSome = true ∧ next = second ∨
        account.storage.lookup key = none ∧ ∃ value,
        db.storage address key = .ok value ∧ next = second.insertSlot address account' key
          (EvmStorageSlot.new value first.transactionId).markCold) := by
  unfold inspectStorage inspectStorageAccount at hi
  simp only [hspec, if_true] at hi
  cases h1 : inspectAccount db journal address with
  | error e => simp [h1, Except.map] at hi
  | ok r =>
    obtain ⟨first, account⟩ := r
    simp only [h1, Except.map] at hi
    cases h2 : inspectAccount db first address with
    | error e =>
      simp only [h2] at hi
      split at hi
      · simp at hi
      · cases hv : db.storage address key <;> simp [hv] at hi
    | ok r =>
      obtain ⟨second, account'⟩ := r
      refine ⟨first, account, second, account', rfl, h2, ?_⟩
      have hf : first.state.lookup address = some account := inspectAccount_lookup h1
      have hs : second.state.lookup address = some account' := inspectAccount_lookup h2
      simp only [h2, hf, Option.bind_some] at hi
      cases hk : account.storage.lookup key with
      | some slot =>
        simp only [hk, Option.isSome_some, if_true, Option.some.injEq, Except.ok.injEq,
          Prod.mk.injEq] at hi
        exact .inl ⟨rfl, hi.1.symm⟩
      | none =>
        cases hv : db.storage address key with
        | error e => simp [hk, hv] at hi
        | ok value =>
          simp [hk, hv, modify, hs] at hi
          exact .inr ⟨rfl, value, rfl, hi.1.symm⟩

theorem inspectStorage_match (hspec : spec.isEnabled .rex4 = true)
    (h : JournalMatch db journal journal') (hw : NotPrewarmed journal' address)
    (hz : ∀ account, journal'.state.lookup address = some account → account.isCreated = true →
      account.storage.lookup key = none → db.storage address key = .ok 0)
    (hi : inspectStorage db spec fuel journal' address key = some (.ok (next, found))) :
    JournalMatch db journal next := by
  obtain ⟨first, account, second, account', h1, h2, hnext⟩ := inspectStorage_cases hspec hi
  have hf : first.state.lookup address = some account := inspectAccount_lookup h1
  have hm := inspectAccount_match (inspectAccount_match h hw h1)
    (fun hn => by cases hf.symm.trans hn) h2
  rcases hnext with ⟨-, rfl⟩ | ⟨hn, value, hv, rfl⟩
  · exact hm
  · obtain ⟨info, -, rfl⟩ := inspectAccount_occupied hf h2
    have hs : second.state.lookup address = some { account with info := info } :=
      inspectAccount_lookup h2
    apply peekSlot_match hm hs hn
    refine ⟨rfl, rfl, hv, fun hc => ?_⟩
    cases ho : journal'.state.lookup address with
    | some held =>
      obtain ⟨info', -, rfl⟩ := inspectAccount_occupied ho h1
      cases hv.symm.trans (hz held ho hc hn)
      rfl
    | none =>
      obtain ⟨info', -, -, hm'⟩ := inspectAccount_vacant ho h1
      have hcr := congrArg Account.isCreated hm'
      cases info' <;> cases hcr.symm.trans hc

end Inspections

section Runs

variable {E : Type} (db : Database E) (spec : MegaSpecId) (fuel : ℕ)

/-- What an operation may find, in the journal without inspections and in the inspected
one: an inspection looks at no account that was warmed beforehand, nor at a slot of a
created account that the database holds a value for; and no account is created with a value
in a slot that inspections alone have entered. -/
def Op.Harmless (journal journal' : Journal) : Op → Prop
  | .inspectAccount address => NotPrewarmed journal' address ∧
    ∀ account delegated, held db journal' address = .ok account →
      account.delegatedAddress = some delegated → NotPrewarmed journal' delegated
  | .inspectStorage address key => NotPrewarmed journal' address ∧
    ∀ account, journal'.state.lookup address = some account → account.isCreated = true →
      account.storage.lookup key = none → db.storage address key = .ok 0
  | .change address .create =>
    ∀ account account', journal.state.lookup address = some account →
      journal'.state.lookup address = some account' →
      EmptyPeeks account.storage account'.storage
  | _ => True

def Op.execPlain (op : Op) (journal : Journal) : Except (Fault E) (Option Answer × Journal) :=
  if op.isInspection then .ok (none, journal) else op.exec db spec fuel journal

/-- Along the two runs. -/
def HarmlessRun : List Op → Journal → Journal → Prop
  | [], _, _ => True
  | op :: ops, journal, journal' => op.Harmless db journal journal' ∧
    ∀ answer answer' next next', op.execPlain db spec fuel journal = .ok (answer, next) →
      op.exec db spec fuel journal' = .ok (answer', next') → HarmlessRun ops next next'

variable {db spec fuel} {journal journal' next : Journal} {answer : Option Answer}

theorem inspected_ok {r : Option (Except E (Journal × Address))}
    (h : Op.inspected r = .ok (answer, next)) :
    answer = none ∧ ∃ found, r = some (.ok (next, found)) := by
  cases r with
  | none => cases h
  | some r =>
    cases r with
    | error e => cases h
    | ok r =>
      cases h
      exact ⟨rfl, r.2, rfl⟩

theorem answered_ok {r : Except (Fault E) (Answer × Journal)}
    (h : Op.answered r = .ok (answer, next)) :
    ∃ shown, answer = some shown ∧ r = .ok (shown, next) := by
  cases r with
  | error e => cases h
  | ok r =>
    cases h
    exact ⟨r.1, rfl, rfl⟩

theorem inspectAccountDelegated_match (hspec : spec.isEnabled .rex4 = true)
    (h : JournalMatch db journal journal') {address found : Address}
    (hh : (Op.inspectAccount address).Harmless db journal journal')
    (hi : inspectAccountDelegated db spec fuel journal' address = some (.ok (next, found))) :
    JournalMatch db journal next := by
  obtain ⟨hw, hd⟩ := hh
  unfold inspectAccountDelegated at hi
  cases h1 : inspectAccount db journal' address with
  | error e => simp [h1] at hi
  | ok r =>
    obtain ⟨first, account⟩ := r
    have hm := inspectAccount_match h hw h1
    simp only [h1] at hi
    cases hdel : account.delegatedAddress with
    | none =>
      simp only [hdel, Option.some.injEq, Except.ok.injEq, Prod.mk.injEq] at hi
      rw [← hi.1]
      exact hm
    | some delegated =>
      simp only [hdel, hspec, if_true, Option.some.injEq] at hi
      cases h2 : inspectAccount db first delegated with
      | error e => simp [h2, Except.map] at hi
      | ok r =>
        simp only [h2, Except.map, Except.ok.injEq, Prod.mk.injEq] at hi
        rw [← hi.1]
        refine inspectAccount_match hm ?_ h2
        intro hn
        rw [inspectAccount_insert h1] at hn ⊢
        by_cases hne : delegated = address
        · rw [hne, lookup_insert] at hn
          cases hn
        · rw [lookup_insert_ne _ _ hne] at hn
          exact hd account delegated (held_eq h1) hdel hn

theorem inspection_match (hspec : spec.isEnabled .rex4 = true)
    (h : JournalMatch db journal journal') {op : Op} (hop : op.isInspection = true)
    (hh : op.Harmless db journal journal') (he : op.exec db spec fuel journal' = .ok (answer, next)) :
    answer = none ∧ JournalMatch db journal next := by
  cases op with
  | inspectAccount address =>
    obtain ⟨ha, found, hi⟩ := inspected_ok he
    exact ⟨ha, inspectAccountDelegated_match hspec h hh hi⟩
  | inspectStorage address key =>
    obtain ⟨ha, found, hi⟩ := inspected_ok he
    exact ⟨ha, inspectStorage_match hspec h hh.1 hh.2 hi⟩
  | _ => cases hop

theorem inspection_error (hspec : spec.isEnabled .rex4 = true) {op : Op}
    (hop : op.isInspection = true) {fault : Fault E}
    (he : op.exec db spec fuel journal = .error fault) : ∃ e, fault = .inspection e := by
  have hsome : ∀ r : Option (Except E (Journal × Address)), r.isSome = true →
      Op.inspected r = .error fault → ∃ e, fault = .inspection e := by
    intro r hr hf
    match r, hf with
    | some (.error e), hf =>
      cases hf
      exact ⟨e, rfl⟩
  cases op with
  | inspectAccount address =>
    apply hsome _ _ he
    unfold inspectAccountDelegated
    split
    · rfl
    · split
      · rfl
      · simp [hspec]
  | inspectStorage address key =>
    apply hsome _ _ he
    unfold inspectStorage inspectStorageAccount
    simp only [hspec, if_true]
    cases inspectAccount db journal address with
    | error e => rfl
    | ok r =>
      simp only [Except.map]
      split
      · rfl
      · cases db.storage address key <;> rfl
  | _ => cases hop

theorem exec_match (h : JournalMatch db journal journal') {op : Op}
    (hop : op.isInspection = false) (hh : op.Harmless db journal journal')
    (he : op.exec db spec fuel journal = .ok (answer, next)) :
    ∃ next', op.exec db spec fuel journal' = .ok (answer, next') ∧ JournalMatch db next next' := by
  have hans : ∀ {r r' : Except (Fault E) (Answer × Journal)},
      Op.answered r = .ok (answer, next) →
      (∀ shown, r = .ok (shown, next) →
        ∃ next', r' = .ok (shown, next') ∧ JournalMatch db next next') →
      ∃ next', Op.answered r' = .ok (answer, next') ∧ JournalMatch db next next' := by
    intro r r' ha hr
    obtain ⟨shown, rfl, hshown⟩ := answered_ok ha
    obtain ⟨next', rfl, hm⟩ := hr shown hshown
    exact ⟨next', rfl, hm⟩
  cases op with
  | loadAccount a loadCode => exact hans he fun _ hr => loadAccount_match h hr
  | sload a key => exact hans he fun _ hr => sload_match h hr
  | sstore a key value => exact hans he fun _ hr => sstore_match h hr
  | change a c =>
    refine hans he fun _ hr => change_match h ?_ hr
    rintro rfl
    exact hh
  | checkpoint =>
    cases he
    exact ⟨_, rfl, h.checkpointed (congrArg _ h.checkpoints)⟩
  | checkpointCommit =>
    cases he
    exact ⟨_, rfl, h.checkpointed (congrArg commit h.checkpoints)⟩
  | checkpointRevert =>
    simp only [Op.exec] at he ⊢
    cases hr : journal.checkpointRevert (E := E) with
    | error e => simp [hr, Except.map] at he
    | ok reverted =>
      obtain ⟨reverted', hr', hm⟩ := checkpointRevert_match h hr
      rw [hr] at he
      cases he
      rw [hr']
      exact ⟨reverted', rfl, hm⟩
  | inspectAccount a => cases hop
  | inspectStorage a key => cases hop

theorem runAll_match (hspec : spec.isEnabled .rex4 = true) (ops : List Op)
    (h : JournalMatch db journal journal') (hh : HarmlessRun db spec fuel ops journal journal')
    {answers : List Answer} {last : Journal}
    (hr : Op.runAll db spec fuel (ops.filter (!·.isInspection)) journal = .ok (answers, last)) :
    (∃ last', Op.runAll db spec fuel ops journal' = .ok (answers, last') ∧
        JournalMatch db last last') ∨
      ∃ e, Op.runAll db spec fuel ops journal' = .error (.inspection e) := by
  induction ops generalizing journal journal' answers with
  | nil =>
    cases hr
    exact .inl ⟨journal', rfl, h⟩
  | cons op ops ih =>
    obtain ⟨hop, hrest⟩ := hh
    cases hi : op.isInspection with
    | true =>
      rw [List.filter_cons_of_neg (by simp [hi])] at hr
      rw [Op.runAll]
      cases he : op.exec db spec fuel journal' with
      | error fault =>
        obtain ⟨e, rfl⟩ := inspection_error hspec hi he
        exact .inr ⟨e, rfl⟩
      | ok r =>
        obtain ⟨answer, next⟩ := r
        obtain ⟨rfl, hm⟩ := inspection_match hspec h hi hop he
        have hplain : op.execPlain db spec fuel journal = .ok (none, journal) := if_pos hi
        rcases ih hm (hrest _ _ _ _ hplain he) hr with ⟨last', hl, hml⟩ | ⟨e, hl⟩
        · exact .inl ⟨last', by simp [hl, Except.map], hml⟩
        · exact .inr ⟨e, by simp [hl, Except.map]⟩
    | false =>
      rw [List.filter_cons_of_pos (by simp [hi]), Op.runAll] at hr
      rw [Op.runAll]
      cases he : op.exec db spec fuel journal with
      | error fault => simp [he] at hr
      | ok r =>
        obtain ⟨answer, next⟩ := r
        obtain ⟨next', he', hm⟩ := exec_match h hi hop he
        simp only [he] at hr
        simp only [he']
        cases hrun : Op.runAll db spec fuel (ops.filter (!·.isInspection)) next with
        | error fault => simp [hrun, Except.map] at hr
        | ok r =>
          obtain ⟨rest, last''⟩ := r
          simp only [hrun, Except.map, Except.ok.injEq, Prod.mk.injEq] at hr
          obtain ⟨rfl, rfl⟩ := hr
          have hplain : op.execPlain db spec fuel journal = .ok (answer, next) := by
            rw [Op.execPlain, if_neg (by simp [hi]), he]
          rcases ih hm (hrest _ _ _ _ hplain he') hrun with ⟨last', hl, hml⟩ | ⟨e, hl⟩
          · exact .inl ⟨last', by simp [hl, Except.map], hml⟩
          · exact .inr ⟨e, by simp [hl, Except.map]⟩

/-- In a transaction whose inspections are all harmless, the journal answers as if none
had been made, unless the database fails one of them. -/
theorem inspections_transparent (hspec : spec.isEnabled .rex4 = true) (ops : List Op)
    (journal : Journal) (hh : HarmlessRun db spec fuel ops journal journal) {answers : List Answer}
    {last : Journal}
    (hr : Op.runAll db spec fuel (ops.filter (!·.isInspection)) journal = .ok (answers, last)) :
    (∃ last', Op.runAll db spec fuel ops journal = .ok (answers, last')) ∨
      ∃ e, Op.runAll db spec fuel ops journal = .error (.inspection e) := by
  rcases runAll_match hspec ops (.refl journal) hh hr with ⟨last', hl, -⟩ | ⟨e, hl⟩
  · exact .inl ⟨last', hl⟩
  · exact .inr ⟨e, hl⟩

/-- The inspection of an account that was warmed beforehand shows at the next load. -/
theorem prewarmed_inspection_seen {address : Address} {info : Option AccountInfo}
    {account : Account} (hn : journal.state.lookup address = none)
    (hw : address ∈ journal.warmAddresses) (hb : db.basic address = .ok info)
    (hi : inspectAccount db journal address = .ok (next, account)) :
    ∃ shown, (journal.loadAccount db address false).map Prod.fst = .ok (.account false shown) ∧
      (next.loadAccount db address false).map Prod.fst = .ok (.account true shown) := by
  obtain ⟨info', hb', hc, hm⟩ := inspectAccount_vacant hn hi
  cases hb.symm.trans hb'
  have hmatch : AccountMatch db address (.entered journal.transactionId info)
      (account.markWarm journal.transactionId) := by
    rw [hm]
    exact .refl _ _
  -- the two facts about the entry that warming it undoes do not depend on the warmed list
  have hu : Unvisited db journal.transactionId [] address account :=
    ⟨List.not_mem_nil, hc, info, hb, hmatch⟩
  have hl : next.state.lookup address = some account := inspectAccount_lookup hi
  have ht : next.transactionId = journal.transactionId := by
    rw [inspectAccount_insert hi]
    rfl
  refine ⟨{ (Account.entered journal.transactionId info).info with code := none }, ?_, ?_⟩
  · simp [loadAccount, loadedAccount, hn, hb, hw, Except.map]
  · simp [loadAccount, loadedAccount, hl, ht, hu.coldAt, hu.clearLocal, hm, Except.map]

theorem created_inspection_seen (hspec : spec.isEnabled .rex4 = true) {address found : Address}
    {account : Account} {key value : ℕ} (ho : journal.state.lookup address = some account)
    (hc : account.isCreated = true) (hn : account.storage.lookup key = none)
    (hv : db.storage address key = .ok value)
    (hi : inspectStorage db spec fuel journal address key = some (.ok (next, found))) :
    (journal.sload db address key).map Prod.fst = .ok (.slot true 0) ∧
      (next.sload db address key).map Prod.fst = .ok (.slot true value) := by
  obtain ⟨first, account₁, second, account₂, h1, h2, hnext⟩ := inspectStorage_cases hspec hi
  obtain ⟨info₁, -, rfl⟩ := inspectAccount_occupied ho h1
  have hf : first.state.lookup address = some { account with info := info₁ } :=
    inspectAccount_lookup h1
  obtain ⟨info₂, -, rfl⟩ := inspectAccount_occupied hf h2
  constructor
  · simp [sload, loadedSlot, ho, hn, hc, Except.map, EvmStorageSlot.new]
  · rcases hnext with ⟨hsome, -⟩ | ⟨-, value', hv', rfl⟩
    · simp [hn] at hsome
    · cases hv.symm.trans hv'
      simp [sload, loadedSlot, insertSlot, Except.map, EvmStorageSlot.new, EvmStorageSlot.markCold,
        EvmStorageSlot.markWarm, EvmStorageSlot.coldAt]

def slotDb (value : ℕ) : Database Unit where
  basic _ := .ok (some ⟨0, 1, KECCAK_EMPTY, none⟩)
  codeByHash _ := .ok []
  storage _ _ := .ok value

theorem inspections_transparent_written :
    (∃ last', Op.runAll (slotDb 7) .rex4 0
        [.inspectAccount 1, .inspectStorage 1 0, .loadAccount 1 false, .sstore 1 0 9]
        emptyJournal = .ok ([.account true ⟨0, 1, KECCAK_EMPTY, none⟩, .stored true 7 7 9], last')) ∨
      ∃ e, Op.runAll (slotDb 7) .rex4 0
        [.inspectAccount 1, .inspectStorage 1 0, .loadAccount 1 false, .sstore 1 0 9]
        emptyJournal = .error (.inspection e) := by
  refine inspections_transparent rfl _ _ ?_ rfl
  refine ⟨⟨fun _ => by decide, ?_⟩, ?_⟩
  · intro account delegated hh hd
    cases hh
    cases hd
  · intro _ _ _ _ hplain he
    cases hplain
    cases he
    refine ⟨⟨fun _ => by decide, ?_⟩, ?_⟩
    · intro account ho hc
      cases ho
      cases hc
    · intro _ _ _ _ hplain he
      cases hplain
      cases he
      exact ⟨trivial, fun _ _ _ _ _ _ => ⟨trivial, fun _ _ _ _ _ _ => trivial⟩⟩

/-- A precompile is cold once it has been inspected. -/
theorem inspection_cools_precompile : ¬ ∀ (ops : List Op) (journal : Journal)
    (answers : List Answer) (last : Journal),
    Op.runAll (slotDb 0) .rex4 0 (ops.filter (!·.isInspection)) journal = .ok (answers, last) →
    (∃ last', Op.runAll (slotDb 0) .rex4 0 ops journal = .ok (answers, last')) ∨
      ∃ e, Op.runAll (slotDb 0) .rex4 0 ops journal = .error (.inspection e) := by
  intro h
  rcases h [.inspectAccount 1, .loadAccount 1 false] ⟨∅, 0, [1], [[]]⟩ _ _ rfl with
    ⟨last', hl⟩ | ⟨e, hl⟩
  · cases hl
  · cases hl

end Runs

end Journal

end MegaEvm
