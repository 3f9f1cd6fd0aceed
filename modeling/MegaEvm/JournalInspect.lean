import MegaEvm.EvmState
import MegaEvm.LimitCheck

/-!
# Inspecting the journal

How an account or a slot is looked at without being warmed: what the journal does
not hold is read from the database and entered as cold. The database is not part
of the repository; it need not hand over an account's code with the account.
-/

set_option autoImplicit false

namespace MegaEvm

open KeyedFold

section Database

/-- `basic` may leave the code out; it is then asked for by its hash. -/
structure Database (E : Type) where
  basic : Address → Except E (Option AccountInfo)
  codeByHash : ℕ → Except E Bytes
  storage : Address → ℕ → Except E ℕ

def eip7702Address (code : Bytes) : Option Address :=
  if code.length = 23 ∧ code.take 3 = [0xef, 0x01, 0x00] then some (ofBeBytes (code.drop 3))
  else none

def eip7702Code (address : Address) : Bytes := [0xef, 0x01, 0x00] ++ beBytes 20 address

namespace Account

def ofInfo (info : AccountInfo) : Account := ⟨info, 0, ∅, default⟩

def newNotExisting (transactionId : ℕ) : Account :=
  ⟨{ (default : AccountInfo) with code := some [] }, transactionId, ∅,
    { (default : AccountStatus) with loadedAsNotExisting := true }⟩

def delegatedAddress (a : Account) : Option Address := a.info.code.bind eip7702Address

end Account

def EvmStorageSlot.new (value transactionId : ℕ) : EvmStorageSlot :=
  ⟨value, value, transactionId, false⟩

variable {E : Type}

def Database.loadCode (db : Database E) (info : AccountInfo) : Except E AccountInfo :=
  if info.codeHash ≠ KECCAK_EMPTY ∧ info.code = none then
    (db.codeByHash info.codeHash).map fun code => { info with code := some code }
  else .ok info

end Database

inductive Journal.Entry where
  | accountWarmed (address : Address)
  | accountTouched (address : Address)
  | balanceChange (address : Address) (oldBalance : ℕ)
  | nonceChange (address : Address)
  | codeChange (address : Address)
  | accountCreated (address : Address) (isCreatedGlobally : Bool)
  | accountDestroyed (address : Address) (oldBalance : ℕ) (wasDestroyed wasDestroyedLocally : Bool)
  | storageWarmed (address : Address) (key : ℕ)
  | storageChanged (address : Address) (key : ℕ) (hadValue : ℕ)
  deriving DecidableEq, Repr

/-- `warmAddresses` are the addresses warmed before the transaction: precompiles,
coinbase and access list. `checkpoints` holds the entries since each open one. -/
structure Journal where
  state : EvmState
  transactionId : ℕ
  warmAddresses : List Address
  checkpoints : List (List Journal.Entry)

namespace Journal

variable {E : Type} (db : Database E)

def insert (journal : Journal) (address : Address) (account : Account) : Journal :=
  { journal with state := journal.state.insert address account }

def modify (journal : Journal) (address : Address) (f : Account → Account) : Journal :=
  match journal.state.lookup address with
  | some account => journal.insert address (f account)
  | none => journal

def inspectAccount (journal : Journal) (address : Address) : Except E (Journal × Account) :=
  match journal.state.lookup address with
  | some account =>
    (db.loadCode account.info).map fun info =>
      let account := { account with info := info }
      (journal.insert address account, account)
  | none =>
    (db.basic address).map fun info =>
      let account := match info with
        | some info => Account.ofInfo info
        | none => Account.newNotExisting journal.transactionId
      let account := account.withColdMark
      (journal.insert address account, account)

/-- The loop of `inspect_account_delegated`, `none` where the fuel is used up. The
account it returns is the entry at the address. -/
def followDelegation : ℕ → Journal → Address → List Address →
    Option (Except E (Journal × Address))
  | 0, _, _, _ => none
  | fuel + 1, journal, current, visited =>
    match inspectAccount db journal current with
    | .error e => some (.error e)
    | .ok (journal, account) =>
      match account.delegatedAddress with
      | none => some (.ok (journal, current))
      | some next =>
        if next ∈ visited then some (.ok (journal, current))
        else followDelegation fuel journal next (visited ++ [current])

def inspectAccountDelegated (spec : MegaSpecId) (fuel : ℕ) (journal : Journal)
    (address : Address) : Option (Except E (Journal × Address)) :=
  match inspectAccount db journal address with
  | .error e => some (.error e)
  | .ok (journal, account) =>
    match account.delegatedAddress with
    | none => some (.ok (journal, address))
    | some delegated =>
      if spec.isEnabled .rex4 then
        some ((inspectAccount db journal delegated).map fun r => (r.1, delegated))
      else followDelegation db fuel journal delegated [address]

def inspectStorageAccount (spec : MegaSpecId) (fuel : ℕ) (journal : Journal)
    (address : Address) : Option (Except E (Journal × Address)) :=
  if spec.isEnabled .rex4 then
    some ((inspectAccount db journal address).map fun r => (r.1, address))
  else inspectAccountDelegated db spec fuel journal address

/-- The account is looked for again once the slot is known. The slot it returns is
the entry of that account at the key. -/
def inspectStorage (spec : MegaSpecId) (fuel : ℕ) (journal : Journal) (address : Address)
    (key : ℕ) : Option (Except E (Journal × Address)) :=
  match inspectStorageAccount db spec fuel journal address with
  | none => none
  | some (.error e) => some (.error e)
  | some (.ok (journal, found)) =>
    if ((journal.state.lookup found).bind (·.storage.lookup key)).isSome then
      inspectStorageAccount db spec fuel journal address
    else
      match db.storage address key with
      | .error e => some (.error e)
      | .ok value =>
        let slot := (EvmStorageSlot.new value journal.transactionId).markCold
        (inspectStorageAccount db spec fuel journal address).map fun r => r.map fun r =>
          (r.1.modify r.2 fun account =>
            { account with storage := account.storage.insert key slot }, r.2)

end Journal

end MegaEvm
