import MegaEvm.JournalInspect
import MegaEvm.Library.UndoLog

/-!
# The journal within a transaction

How the journal answers loads, reads and writes of slots, changes of accounts and
its checkpoints. It is not part of the repository. A vacant entry is cold unless
its address was warmed beforehand, an occupied one if it is marked so or was
entered by an earlier transaction.
-/

set_option autoImplicit false

namespace MegaEvm

open KeyedFold UndoLog

def AccountInfo.empty : AccountInfo := { (default : AccountInfo) with code := some [] }

namespace Account

variable (a : Account)

def isCold (transactionId : ℕ) : Bool := a.transactionId != transactionId || a.status.cold

def markWarm (transactionId : ℕ) : Account :=
  { a with transactionId := transactionId, status := { a.status with cold := false } }

/-- What an earlier transaction destroyed or created is so no longer. -/
def clearLocal : Account :=
  let a := if a.status.selfDestructedLocal then
      { a with info := .empty, storage := ∅ } else a
  { a with status := { a.status with selfDestructedLocal := false, createdLocal := false } }

def entered (transactionId : ℕ) : Option AccountInfo → Account
  | some info => { ofInfo info with transactionId := transactionId }
  | none => newNotExisting transactionId

end Account

namespace EvmStorageSlot

variable (s : EvmStorageSlot)

def coldAt (transactionId : ℕ) : Bool := s.transactionId != transactionId || s.isCold

def markWarm (transactionId : ℕ) : EvmStorageSlot :=
  { s with transactionId := transactionId, isCold := false }

end EvmStorageSlot

namespace Journal

inductive Fault (E : Type) where
  | database (e : E)
  | inspection (e : E)
  | notLoaded
  | outOfFuel
  deriving DecidableEq, Repr

/-- What an operation answers. Code is shown where it is asked for. -/
inductive Answer where
  | account (isCold : Bool) (info : AccountInfo)
  | slot (isCold : Bool) (value : ℕ)
  | stored (isCold : Bool) (originalValue presentValue newValue : ℕ)
  | done
  deriving DecidableEq, Repr

inductive Change where
  | touch
  | setBalance (balance : ℕ)
  | incNonce
  | setCode (codeHash : ℕ) (code : Bytes)
  | create
  | selfdestruct
  deriving DecidableEq, Repr

variable {E : Type} (db : Database E) (journal : Journal)

def push (entry : Entry) : Journal :=
  { journal with checkpoints := record entry journal.checkpoints }

def pushIf (cond : Bool) (entry : Entry) : Journal :=
  if cond then journal.push entry else journal

def loadedAccount (address : Address) : Except E (Account × Bool) :=
  match journal.state.lookup address with
  | some account =>
    let isCold := account.isCold journal.transactionId
    let account := if isCold then account.clearLocal else account
    .ok (account.markWarm journal.transactionId, isCold)
  | none => (db.basic address).map fun info =>
    (Account.entered journal.transactionId info, !journal.warmAddresses.contains address)

def codeOf (info : AccountInfo) : Except E AccountInfo :=
  if info.code = none then
    if info.codeHash = KECCAK_EMPTY then .ok { info with code := some [] }
    else (db.codeByHash info.codeHash).map fun code => { info with code := some code }
  else .ok info

def loadAccount (address : Address) (loadCode : Bool) : Except (Fault E) (Answer × Journal) :=
  match loadedAccount db journal address with
  | .error e => .error (.database e)
  | .ok (account, isCold) =>
    let journal := journal.pushIf isCold (.accountWarmed address)
    if loadCode then
      match codeOf db account.info with
      | .error e => .error (.database e)
      | .ok info =>
        .ok (.account isCold info, journal.insert address { account with info := info })
    else .ok (.account isCold { account.info with code := none }, journal.insert address account)

def loadedSlot (address : Address) (account : Account) (key : ℕ) :
    Except E (EvmStorageSlot × Bool) :=
  match account.storage.lookup key with
  | some slot =>
    .ok (slot.markWarm journal.transactionId, slot.coldAt journal.transactionId)
  | none =>
    (if account.isCreated then .ok 0 else db.storage address key).map fun value =>
      (EvmStorageSlot.new value journal.transactionId, true)

def insertSlot (address : Address) (account : Account) (key : ℕ) (slot : EvmStorageSlot) :
    Journal :=
  journal.insert address { account with storage := account.storage.insert key slot }

/-- The account of the slot is to be loaded before. -/
def sload (address : Address) (key : ℕ) : Except (Fault E) (Answer × Journal) :=
  match journal.state.lookup address with
  | none => .error .notLoaded
  | some account =>
    match loadedSlot db journal address account key with
    | .error e => .error (.database e)
    | .ok (slot, isCold) =>
      .ok (.slot isCold slot.presentValue,
        (journal.insertSlot address account key slot).pushIf isCold (.storageWarmed address key))

def sstore (address : Address) (key value : ℕ) : Except (Fault E) (Answer × Journal) :=
  match journal.state.lookup address with
  | none => .error .notLoaded
  | some account =>
    match loadedSlot db journal address account key with
    | .error e => .error (.database e)
    | .ok (slot, isCold) =>
      let stored := journal.insertSlot address account key { slot with presentValue := value }
      let stored := stored.pushIf isCold (.storageWarmed address key)
      .ok (.stored isCold slot.originalValue slot.presentValue value,
        stored.pushIf (slot.presentValue != value)
          (.storageChanged address key slot.presentValue))

def Change.apply (account : Account) : Change → Account
  | .touch => account.withTouchedMark
  | .setBalance balance => { account with info := { account.info with balance := balance } }
  | .incNonce => { account with info := { account.info with nonce := account.info.nonce + 1 } }
  | .setCode codeHash code =>
    { account with info := { account.info with codeHash := codeHash, code := some code } }
  | .create =>
    { account with
      info := { account.info with nonce := 1, code := none }
      status := { account.status with created := true, createdLocal := true } }
  | .selfdestruct =>
    { account with
      info := { account.info with balance := 0 }
      status := { account.status with selfDestructed := true, selfDestructedLocal := true } }

def Change.entry (address : Address) (account : Account) : Change → Entry
  | .touch => .accountTouched address
  | .setBalance _ => .balanceChange address account.info.balance
  | .incNonce => .nonceChange address
  | .setCode _ _ => .codeChange address
  | .create => .accountCreated address (!account.status.created)
  | .selfdestruct =>
    .accountDestroyed address account.info.balance account.status.selfDestructed
      account.status.selfDestructedLocal

/-- A mark that is set already is not set, nor taken back, again. -/
def Change.isDone (account : Account) : Change → Bool
  | .touch => account.status.touched
  | _ => false

def change (address : Address) (c : Change) : Except (Fault E) (Answer × Journal) :=
  match journal.state.lookup address with
  | none => .error .notLoaded
  | some account =>
    .ok (.done,
      (journal.insert address (c.apply account)).pushIf (!c.isDone account)
        (c.entry address account))

def updateAccount (address : Address) (f : Account → Account) : Except (Fault E) Journal :=
  match journal.state.lookup address with
  | none => .error .notLoaded
  | some account => .ok (journal.insert address (f account))

def updateSlot (address : Address) (key : ℕ) (f : EvmStorageSlot → EvmStorageSlot) :
    Except (Fault E) Journal :=
  match journal.state.lookup address with
  | none => .error .notLoaded
  | some account =>
    match account.storage.lookup key with
    | none => .error .notLoaded
    | some slot => .ok (journal.insertSlot address account key (f slot))

def Entry.undoAccount (account : Account) : Entry → Account
  | .accountWarmed _ => account.withColdMark
  | .accountTouched _ => { account with status := { account.status with touched := false } }
  | .balanceChange _ oldBalance =>
    { account with info := { account.info with balance := oldBalance } }
  | .nonceChange _ => { account with info := { account.info with nonce := account.info.nonce - 1 } }
  | .codeChange _ =>
    { account with info := { account.info with codeHash := KECCAK_EMPTY, code := none } }
  | .accountCreated _ isCreatedGlobally =>
    { account with
      info := { account.info with nonce := 0 }
      status := { account.status with
        created := account.status.created && !isCreatedGlobally, createdLocal := false } }
  | .accountDestroyed _ oldBalance wasDestroyed wasDestroyedLocally =>
    { account with
      info := { account.info with balance := oldBalance }
      status := { account.status with
        selfDestructed := wasDestroyed, selfDestructedLocal := wasDestroyedLocally } }
  | .storageWarmed _ _ | .storageChanged _ _ _ => account

def Entry.undo (journal : Journal) (entry : Entry) : Except (Fault E) Journal :=
  match entry with
  | .storageWarmed address key => journal.updateSlot address key (·.markCold)
  | .storageChanged address key hadValue =>
    journal.updateSlot address key fun slot => { slot with presentValue := hadValue }
  | .accountWarmed address | .accountTouched address | .balanceChange address _
  | .nonceChange address | .codeChange address | .accountCreated address _
  | .accountDestroyed address _ _ _ => journal.updateAccount address entry.undoAccount

def checkpoint : Journal := { journal with checkpoints := [] :: journal.checkpoints }

def checkpointCommit : Journal := { journal with checkpoints := commit journal.checkpoints }

def checkpointRevert : Except (Fault E) Journal :=
  match journal.checkpoints with
  | [] => .ok journal
  | entries :: rest =>
    (entries.foldlM Entry.undo journal).map fun journal => { journal with checkpoints := rest }

inductive Op where
  | loadAccount (address : Address) (loadCode : Bool)
  | sload (address : Address) (key : ℕ)
  | sstore (address : Address) (key value : ℕ)
  | change (address : Address) (c : Change)
  | checkpoint
  | checkpointCommit
  | checkpointRevert
  | inspectAccount (address : Address)
  | inspectStorage (address : Address) (key : ℕ)
  deriving DecidableEq, Repr

namespace Op

variable {E : Type} (db : Database E) (spec : MegaSpecId) (fuel : ℕ)

def isInspection : Op → Bool
  | .inspectAccount _ | .inspectStorage _ _ => true
  | _ => false

def inspected : Option (Except E (Journal × Address)) → Except (Fault E) (Option Answer × Journal)
  | none => .error .outOfFuel
  | some (.error e) => .error (.inspection e)
  | some (.ok (journal, _)) => .ok (none, journal)

def answered (r : Except (Fault E) (Answer × Journal)) : Except (Fault E) (Option Answer × Journal) :=
  r.map fun r => (some r.1, r.2)

/-- An inspection gives no answer that the journal is asked for. -/
def exec (op : Op) (journal : Journal) : Except (Fault E) (Option Answer × Journal) :=
  match op with
  | .loadAccount address loadCode => answered (journal.loadAccount db address loadCode)
  | .sload address key => answered (journal.sload db address key)
  | .sstore address key value => answered (journal.sstore db address key value)
  | .change address c => answered (journal.change address c)
  | .checkpoint => .ok (some .done, journal.checkpoint)
  | .checkpointCommit => .ok (some .done, journal.checkpointCommit)
  | .checkpointRevert => journal.checkpointRevert.map fun journal => (some .done, journal)
  | .inspectAccount address => inspected (Journal.inspectAccountDelegated db spec fuel journal address)
  | .inspectStorage address key => inspected (Journal.inspectStorage db spec fuel journal address key)

def runAll : List Op → Journal → Except (Fault E) (List Answer × Journal)
  | [], journal => .ok ([], journal)
  | op :: ops, journal =>
    match op.exec db spec fuel journal with
    | .error e => .error e
    | .ok (answer, journal) =>
      (runAll ops journal).map fun r => (answer.toList ++ r.1, r.2)

end Op

end Journal

end MegaEvm
