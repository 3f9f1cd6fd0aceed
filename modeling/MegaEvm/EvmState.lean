import MegaEvm.Interpreter
import MegaEvm.Library.KeyedFold

/-!
# Account states

What a transaction returns: accounts with their status and the slots it loaded,
and how one such state is merged into another or committed to the database. The
database is not part of the repository; a commit skips accounts that are not
touched, empties self-destructed ones and wipes the storage of created ones.
-/

set_option autoImplicit false

namespace MegaEvm

open KeyedFold

def KECCAK_EMPTY : ℕ := 0xc5d2460186f7233c927e7db2dcc703c0e500b653ca82273b7bfad8045d85a470

structure AccountInfo where
  balance : ℕ
  nonce : ℕ
  codeHash : ℕ
  code : Option Bytes
  deriving DecidableEq, Repr

instance : Inhabited AccountInfo := ⟨⟨0, 0, KECCAK_EMPTY, none⟩⟩

def AccountInfo.isEmpty (info : AccountInfo) : Bool :=
  (decide (info.codeHash = KECCAK_EMPTY) || decide (info.codeHash = 0)) &&
    decide (info.balance = 0) && decide (info.nonce = 0)

structure AccessListItem where
  address : Address
  storageKeys : List ℕ
  deriving DecidableEq, Repr

abbrev AccessList := List AccessListItem

/-- The accounts that are loaded for the list: one without keys is only marked as warm. -/
def AccessList.loaded (accessList : AccessList) : List Address :=
  (accessList.filter fun item => !item.storageKeys.isEmpty).map (·.address)

structure AccountStatus where
  created : Bool
  selfDestructed : Bool
  touched : Bool
  loadedAsNotExisting : Bool
  cold : Bool
  createdLocal : Bool
  selfDestructedLocal : Bool
  deriving DecidableEq, Repr

instance : Inhabited AccountStatus := ⟨⟨false, false, false, false, false, false, false⟩⟩

structure EvmStorageSlot where
  originalValue : ℕ
  presentValue : ℕ
  transactionId : ℕ
  isCold : Bool
  deriving DecidableEq, Repr

abbrev EvmStorage := Map ℕ EvmStorageSlot

structure Account where
  info : AccountInfo
  transactionId : ℕ
  storage : EvmStorage
  status : AccountStatus
  deriving DecidableEq

instance : Inhabited Account := ⟨⟨default, 0, ∅, default⟩⟩

abbrev EvmState := Map Address Account

namespace Account

def isSelfdestructed (a : Account) : Bool := a.status.selfDestructed

def isCreated (a : Account) : Bool := a.status.created

def isTouched (a : Account) : Bool := a.status.touched

def withTouchedMark (a : Account) : Account := { a with status := { a.status with touched := true } }

def withColdMark (a : Account) : Account := { a with status := { a.status with cold := true } }

def unmarkCreatedLocally (a : Account) : Account :=
  { a with status := { a.status with createdLocal := false } }

def unmarkSelfdestructedLocally (a : Account) : Account :=
  { a with status := { a.status with selfDestructedLocal := false } }

def slot (a : Account) (key : ℕ) : Option ℕ := (a.storage.lookup key).map (·.presentValue)

end Account

def EvmStorageSlot.markCold (s : EvmStorageSlot) : EvmStorageSlot := { s with isCold := true }

section Merge

def mergeEvmStorage (this other : EvmStorage) : EvmStorage :=
  mergeWith (fun slot value => match slot with
    | none => value.markCold
    | some slot => { slot with presentValue := value.presentValue }) this other

def mergeAccountStatus (this other : AccountStatus) : AccountStatus where
  created := this.created || other.created
  selfDestructed := (this.selfDestructed && !other.created) || other.selfDestructed
  touched := this.touched || other.touched
  loadedAsNotExisting := this.loadedAsNotExisting || other.loadedAsNotExisting
  cold := this.cold
  createdLocal := this.createdLocal
  selfDestructedLocal := this.selfDestructedLocal

def mergeAccountState (this other : Account) (mergeStatus : Bool) : Account :=
  { this with
    info := other.info
    storage := mergeEvmStorage this.storage other.storage
    status := if mergeStatus then mergeAccountStatus this.status other.status else this.status }

/-- One iteration of `merge_evm_state_optional_status`. -/
def mergeEntry (mergeStatus : Bool) (this : Option Account) (account : Account) : Account :=
  if account.isSelfdestructed then
    let emptyAccount := (default : Account).withTouchedMark
    match this with
    | some a => if a.status.cold then emptyAccount.withColdMark else emptyAccount
    | none => emptyAccount.withColdMark
  else
    match this with
    | none =>
      { account.withColdMark with
        storage := mapValues (·.markCold) account.storage }.unmarkCreatedLocally
          |>.unmarkSelfdestructedLocally
    | some a => mergeAccountState a account mergeStatus

/-- `none` is the failed assertion that a self-destructed account was created. -/
def mergeEvmStateOptionalStatus (this other : EvmState) (mergeStatus : Bool) : Option EvmState :=
  if other.entries.all fun e => !e.2.isSelfdestructed || e.2.isCreated then
    some (mergeWith (mergeEntry mergeStatus) this other)
  else none

def mergeEvmState (this other : EvmState) : Option EvmState :=
  mergeEvmStateOptionalStatus this other true

variable {this other : EvmState} {mergeStatus : Bool}

theorem mergeEvmState_of_created (h : ∀ a acc, other.lookup a = some acc →
    acc.isSelfdestructed = true → acc.isCreated = true) :
    mergeEvmStateOptionalStatus this other mergeStatus =
      some (mergeWith (mergeEntry mergeStatus) this other) := by
  unfold mergeEvmStateOptionalStatus
  rw [if_pos]
  rw [List.all_eq_true]
  intro e he
  have hl : other.lookup e.1 = some e.2 := AList.mem_lookup_iff.2 he
  cases hs : e.2.isSelfdestructed with
  | false => rfl
  | true => simp [h e.1 e.2 hl hs]

theorem slot_mergeEvmStorage (this other : EvmStorage) (key : ℕ) :
    ((mergeEvmStorage this other).lookup key).map (·.presentValue) =
      match other.lookup key with
      | some value => some value.presentValue
      | none => (this.lookup key).map (·.presentValue) := by
  unfold mergeEvmStorage
  rw [lookup_mergeWith]
  cases other.lookup key with
  | none => rfl
  | some value =>
    cases this.lookup key with
    | none => rfl
    | some slot => rfl

end Merge

section Commit

structure Db where
  info : Address → AccountInfo
  storage : Address → ℕ → ℕ
  contracts : ℕ → Option Bytes

namespace Db

def codeByHash (db : Db) (hash : ℕ) : Option Bytes :=
  if hash = KECCAK_EMPTY then some [] else db.contracts hash

/-- Bytecode that comes with an account is stored under its hash, once. -/
def insertContract (db : Db) (info : AccountInfo) : Db :=
  match info.code with
  | some code =>
    if code.isEmpty then db
    else { db with contracts := fun hash =>
      if hash = info.codeHash ∧ (db.contracts hash).isNone then some code else db.contracts hash }
  | none => db

def commitAccount (db : Db) (address : Address) (account : Account) : Db :=
  if !account.isTouched then db
  else if account.isSelfdestructed then
    { db with
      info := Function.update db.info address default
      storage := Function.update db.storage address fun _ => 0 }
  else
    let before : ℕ → ℕ := if account.isCreated then fun _ => 0 else db.storage address
    { db.insertContract account.info with
      info := Function.update db.info address account.info
      storage := Function.update db.storage address fun key =>
        (account.slot key).getD (before key) }

def commit (db : Db) (state : EvmState) : Db := foldEntries commitAccount db state

variable {db : Db} {a : Address} {acc : Account}

def committedInfo (acc : Account) (before : AccountInfo) : AccountInfo :=
  if !acc.isTouched then before else if acc.isSelfdestructed then default else acc.info

def committedStorage (acc : Account) (before : ℕ → ℕ) : ℕ → ℕ :=
  if !acc.isTouched then before
  else if acc.isSelfdestructed then fun _ => 0
  else fun key => (acc.slot key).getD (if acc.isCreated then 0 else before key)

theorem commitAccount_info (db : Db) (a : Address) (acc : Account) :
    (db.commitAccount a acc).info =
      Function.update db.info a (committedInfo acc (db.info a)) := by
  unfold commitAccount committedInfo
  split
  · rw [Function.update_eq_self]
  · split
    · rfl
    · rfl

theorem commitAccount_storage (db : Db) (a : Address) (acc : Account) :
    (db.commitAccount a acc).storage =
      Function.update db.storage a (committedStorage acc (db.storage a)) := by
  unfold commitAccount committedStorage
  by_cases ht : (!acc.isTouched) = true
  · simp only [if_pos ht]
    rw [Function.update_eq_self]
  · simp only [if_neg ht]
    by_cases hs : acc.isSelfdestructed = true
    · simp only [if_pos hs]
    · simp only [if_neg hs]
      congr 1
      funext key
      cases acc.isCreated with
      | true | false => rfl

theorem commit_info (db : Db) (state : EvmState) (a : Address) :
    (db.commit state).info a = match state.lookup a with
      | some acc => committedInfo acc (db.info a)
      | none => db.info a := by
  have hlocal : Local (fun (db : Db) a => db.info a) committedInfo commitAccount :=
    { same := fun db a acc => by simp [commitAccount_info]
      other := fun db a acc b hb => by simp [commitAccount_info, hb] }
  have hget := hlocal.get_foldEntries db state a
  rw [commit, hget]
  cases state.lookup a with
  | some acc | none => rfl

theorem commit_storage (db : Db) (state : EvmState) (a : Address) :
    (db.commit state).storage a = match state.lookup a with
      | some acc => committedStorage acc (db.storage a)
      | none => db.storage a := by
  have hlocal : Local (fun (db : Db) a => db.storage a) committedStorage commitAccount :=
    { same := fun db a acc => by simp [commitAccount_storage]
      other := fun db a acc b hb => by simp [commitAccount_storage, hb] }
  have hget := hlocal.get_foldEntries db state a
  rw [commit, hget]
  cases state.lookup a with
  | some acc | none => rfl

theorem commitAccount_contracts (db : Db) (a : Address) (acc : Account) :
    (db.commitAccount a acc).contracts =
      if acc.isTouched && !acc.isSelfdestructed then (db.insertContract acc.info).contracts
      else db.contracts := by
  unfold commitAccount
  cases acc.isTouched with
  | false => rfl
  | true =>
    cases acc.isSelfdestructed with
    | true | false => rfl

theorem insertContract_known {info : AccountInfo} {hash : ℕ} {code : Bytes}
    (h : db.contracts hash = some code) : (db.insertContract info).contracts hash = some code := by
  unfold insertContract
  split
  · split
    · exact h
    · simp [h]
  · exact h

theorem insertContract_own {info : AccountInfo} {code : Bytes} (hc : info.code = some code)
    (hne : code ≠ []) : ((db.insertContract info).contracts info.codeHash).isSome = true := by
  have hempty : code.isEmpty = false := by simpa using hne
  unfold insertContract
  rw [hc]
  simp only [hempty, Bool.false_eq_true, if_false]
  cases hk : db.contracts info.codeHash with
  | none => simp
  | some c => simp

theorem commit_known {state : EvmState} {hash : ℕ} (h : (db.contracts hash).isSome = true) :
    ((db.commit state).contracts hash).isSome = true := by
  refine foldEntries_induction (P := fun db : Db => (db.contracts hash).isSome = true) ?_ h
  intro db a acc _ hk
  rw [commitAccount_contracts]
  obtain ⟨code, hcode⟩ := Option.isSome_iff_exists.1 hk
  split
  · rw [insertContract_known hcode]
    rfl
  · exact hk

theorem commit_own {state : EvmState} {code : Bytes} (hl : state.lookup a = some acc)
    (ht : acc.isTouched = true) (hs : acc.isSelfdestructed = false)
    (hc : acc.info.code = some code) (hne : code ≠ []) :
    ((db.commit state).contracts acc.info.codeHash).isSome = true := by
  refine foldEntries_establish (P := fun db : Db =>
    (db.contracts acc.info.codeHash).isSome = true) hl ?_ ?_ db
  · intro db
    rw [commitAccount_contracts]
    simp only [ht, hs, Bool.not_false, Bool.and_self, if_true]
    exact insertContract_own hc hne
  · intro db a acc' hk
    rw [commitAccount_contracts]
    obtain ⟨code', hcode⟩ := Option.isSome_iff_exists.1 hk
    split
    · rw [insertContract_known hcode]
      rfl
    · exact hk

/-- Bytecode is what its hash stands for. -/
def CodeSound (codeOf : ℕ → Bytes) (db : Db) : Prop :=
  ∀ hash code, db.contracts hash = some code → code = codeOf hash

theorem CodeSound.commit {codeOf : ℕ → Bytes} {state : EvmState} (h : db.CodeSound codeOf)
    (hstate : ∀ a acc code, state.lookup a = some acc → acc.info.code = some code →
      code = codeOf acc.info.codeHash) : (db.commit state).CodeSound codeOf := by
  refine foldEntries_induction (P := CodeSound codeOf) ?_ h
  intro db a acc hl hk hash code hcode
  rw [commitAccount_contracts] at hcode
  split at hcode
  · unfold insertContract at hcode
    split at hcode
    case h_1 c hc =>
      split at hcode
      · exact hk hash code hcode
      · simp only at hcode
        split at hcode
        case isTrue hcond =>
          cases hcode
          rw [hcond.1]
          exact hstate a acc _ hl hc
        case isFalse => exact hk hash code hcode
    case h_2 => exact hk hash code hcode
  · exact hk hash code hcode

end Db

end Commit

end MegaEvm
