import MegaEvm.FrameLimit

/-!
# The four resource trackers

Data size, KV updates and state growth share one shape: from the last spec on
they are checked against the budget of the current frame, before it against
the limit of the transaction. Compute gas is checked against both, and its
transaction limit can be lowered while the transaction runs. The first
argument `rex4` says whether per-frame budgets are enabled.
-/

set_option autoImplicit false

namespace MegaEvm

inductive TxKind where
  | call (target : Address)
  | create
  deriving DecidableEq, Repr

/-- `authorities` lists, for each authorization, whether its signer is recovered. -/
structure MegaTransaction where
  caller : Address
  kind : TxKind
  value : ℕ
  input : SystemCall
  inputLen : ℕ
  tokensInCalldata : ℕ
  accessListSize : ℕ
  authorities : List Bool
  gasLimit : ℕ
  deriving DecidableEq, Repr

structure SStoreResult where
  originalValue : ℕ
  presentValue : ℕ
  newValue : ℕ
  deriving DecidableEq, Repr

namespace SStoreResult

def isOriginalEqPresent (r : SStoreResult) : Bool := r.originalValue == r.presentValue

def isOriginalEqNew (r : SStoreResult) : Bool := r.originalValue == r.newValue

end SStoreResult

namespace FrameLimitTracker

variable {ι : Type}

def forwardLimit (rex4 : Bool) (t : FrameLimitTracker ι) : ℕ :=
  if rex4 then t.maxForwardLimit else u64Max

/-- `push_frame` of every tracker: without frame budgets the frame gets `u64::MAX`. -/
def pushFrameBy (rex4 : Bool) (t : FrameLimitTracker ι) (info : ι) : FrameLimitTracker ι :=
  if rex4 then t.pushFrame info else t.pushFrameWithLimit u64Max info

/-- `check_limit` of the three trackers with discardable usage. -/
def checkLimitBy (rex4 : Bool) (kind : LimitKind) (t : FrameLimitTracker ι) : LimitCheck :=
  if rex4 then t.exceedsCurrentFrameLimit kind
  else if t.netUsage > t.txLimit then .exceedsLimit kind t.txLimit t.netUsage false
  else .withinLimit

end FrameLimitTracker

/-- A call frame that moves value, or creates, writes account infos: the
parent's once per frame, the target's always. `unit` is what one account
write or one slot write costs in the tracker's own measure. -/
abbrev AccountTracker := FrameLimitTracker CallFrameInfo

namespace AccountTracker

open FrameLimitTracker

def parentNeedsUpdate (t : AccountTracker) : Bool :=
  match t.frameStack with
  | e :: _ => !e.info.targetUpdated
  | [] => false

def recordIf (b : Bool) (n : ℕ) (t : AccountTracker) : AccountTracker :=
  if b then t.recordDiscardable n else t

/-- The parent is looked at before the child's entry is pushed, and its update
is recorded in the child's entry. -/
def beforeFrameInitBy (unit : ℕ) (rex4 : Bool) (t : AccountTracker) :
    FrameInput → AccountTracker
  | .call i =>
    let hasTransfer := i.transfersValue
    let parentUpdate := hasTransfer && parentNeedsUpdate t
    let pushed := t.pushFrameBy rex4 ⟨some i.targetAddress, hasTransfer⟩
    if hasTransfer then (recordIf parentUpdate unit pushed).recordDiscardable unit else pushed
  | .create _ =>
    recordIf (parentNeedsUpdate t) unit (t.pushFrameBy rex4 ⟨none, true⟩)

/-- Only a create frame records here; the source asserts that its address was
not recorded before. -/
def afterFrameInitOnFrameBy (unit : ℕ) (t : AccountTracker) (createdAddress : Option Address) :
    AccountTracker :=
  match createdAddress with
  | some a => t.modifyFrame fun e =>
      { e with
        info := { e.info with targetAddress := some a }
        discardableUsage := e.discardableUsage + unit }
  | none => t

def afterSstoreBy (unit : ℕ) (t : AccountTracker) (r : SStoreResult) : AccountTracker :=
  if r.isOriginalEqPresent then
    if !r.isOriginalEqNew then t.recordDiscardable unit else t
  else if r.isOriginalEqNew then t.recordRefund unit
  else t

def pushEmptyFrame (rex4 : Bool) (t : AccountTracker) : AccountTracker :=
  t.pushFrameBy rex4 ⟨none, false⟩

end AccountTracker

namespace DataSizeTracker

open AccountTracker

def checkLimit (rex4 : Bool) (t : AccountTracker) : LimitCheck := t.checkLimitBy rex4 .dataSize

def beforeTxStart (t : AccountTracker) (tx : MegaTransaction) : AccountTracker :=
  let size := constants.BASE_TX_SIZE + tx.inputLen + tx.accessListSize +
    tx.authorities.length * constants.AUTHORIZATION_SIZE
  let authorities := (tx.authorities.filter id).length * constants.ACCOUNT_INFO_WRITE_SIZE
  t.modifyTx fun e =>
    { e with persistentUsage :=
        e.persistentUsage + size + authorities + constants.ACCOUNT_INFO_WRITE_SIZE }

def beforeFrameInit : Bool → AccountTracker → FrameInput → AccountTracker :=
  beforeFrameInitBy constants.ACCOUNT_INFO_WRITE_SIZE

def afterFrameInitOnFrame : AccountTracker → Option Address → AccountTracker :=
  afterFrameInitOnFrameBy constants.ACCOUNT_INFO_WRITE_SIZE

/-- Every create frame that returns records the length of its output. -/
def afterFrameRun (t : AccountTracker) (isCreate : Bool) : InterpreterAction → AccountTracker
  | .return r => if isCreate then t.recordDiscardable r.output.length else t
  | .newFrame _ => t

def afterSstore : AccountTracker → SStoreResult → AccountTracker :=
  afterSstoreBy constants.STORAGE_SLOT_WRITE_SIZE

def afterLog (t : AccountTracker) (numTopics dataSize : ℕ) : AccountTracker :=
  t.recordDiscardable (numTopics * constants.LOG_TOPIC_SIZE + dataSize)

end DataSizeTracker

namespace KVUpdateTracker

open AccountTracker

def checkLimit (rex4 : Bool) (t : AccountTracker) : LimitCheck := t.checkLimitBy rex4 .kvUpdate

def beforeTxStart (t : AccountTracker) (tx : MegaTransaction) : AccountTracker :=
  t.modifyTx fun e =>
    { e with persistentUsage := e.persistentUsage + (tx.authorities.filter id).length + 1 }

def beforeFrameInit : Bool → AccountTracker → FrameInput → AccountTracker :=
  beforeFrameInitBy 1

def afterFrameInitOnFrame : AccountTracker → Option Address → AccountTracker :=
  afterFrameInitOnFrameBy 1

def afterSstore : AccountTracker → SStoreResult → AccountTracker := afterSstoreBy 1

end KVUpdateTracker

abbrev StateGrowthTracker := FrameLimitTracker Unit

namespace StateGrowthTracker

open FrameLimitTracker

def checkLimit (rex4 : Bool) (t : StateGrowthTracker) : LimitCheck :=
  t.checkLimitBy rex4 .stateGrowth

def pushEmptyFrame (rex4 : Bool) (t : StateGrowthTracker) : StateGrowthTracker :=
  t.pushFrameBy rex4 ()

/-- `targetEmpty`: the account the call transfers to, its delegation followed,
is empty in the journal. -/
def beforeFrameInit (rex4 : Bool) (t : StateGrowthTracker) (input : FrameInput)
    (targetEmpty : Bool) : StateGrowthTracker :=
  let t := t.pushFrameBy rex4 ()
  match input with
  | .call i => if i.transfersValue && targetEmpty then t.recordDiscardable 1 else t
  | .create _ => t.recordDiscardable 1

def afterSstore (t : StateGrowthTracker) (r : SStoreResult) : StateGrowthTracker :=
  match r.originalValue == 0, r.presentValue == 0, r.newValue == 0 with
  | true, true, false => t.recordDiscardable 1
  | true, false, true => t.recordRefund 1
  | _, _, _ => t

end StateGrowthTracker

/-- `detainedLimit` is the transaction limit as volatile accesses lowered it. -/
structure ComputeGasTracker where
  detainedLimit : ℕ
  frameTracker : FrameLimitTracker Unit
  deriving DecidableEq, Repr

namespace ComputeGasTracker

def new (txLimit : ℕ) : ComputeGasTracker := ⟨txLimit, .new txLimit⟩

def txLimit (t : ComputeGasTracker) : ℕ := min t.frameTracker.txLimit t.detainedLimit

def txUsage (t : ComputeGasTracker) : ℕ := t.frameTracker.netUsage

/-- From the second Rex spec on a detained limit does not outlive its transaction. -/
def reset (rex1 : Bool) (t : ComputeGasTracker) : ComputeGasTracker :=
  { detainedLimit := if rex1 then t.frameTracker.txLimit else t.detainedLimit
    frameTracker := t.frameTracker.reset }

def setDetainedLimit (rex4 : Bool) (t : ComputeGasTracker) (cap : ℕ) : ComputeGasTracker :=
  let newLimit := if rex4 then saturatingAdd t.txUsage cap else cap
  { t with detainedLimit := min t.detainedLimit newLimit }

def currentCallRemaining (rex4 : Bool) (t : ComputeGasTracker) : ℕ :=
  let txRemaining := t.txLimit - t.txUsage
  if rex4 then min t.frameTracker.currentFrameRemaining txRemaining else txRemaining

def isDetainedExceed (t : ComputeGasTracker) : Bool :=
  decide (t.txUsage > t.detainedLimit) && decide (t.detainedLimit < t.frameTracker.txLimit)

def recordGasUsed (t : ComputeGasTracker) (gas : ℕ) : ComputeGasTracker :=
  if t.frameTracker.hasActiveFrame then
    { t with frameTracker := t.frameTracker.modifyFrame fun e =>
        { e with persistentUsage := e.persistentUsage + gas } }
  else
    { t with frameTracker := t.frameTracker.modifyTx fun e =>
        { e with persistentUsage := e.persistentUsage + gas } }

def checkTxLimit (t : ComputeGasTracker) : LimitCheck :=
  if t.txUsage > t.txLimit then .exceedsLimit .computeGas t.txLimit t.txUsage false
  else .withinLimit

/-- The frame budget is looked at first. -/
def checkLimit (rex4 : Bool) (t : ComputeGasTracker) : LimitCheck :=
  if rex4 && (t.frameTracker.exceedsCurrentFrameLimit .computeGas).exceededLimit then
    t.frameTracker.exceedsCurrentFrameLimit .computeGas
  else t.checkTxLimit

def pushFrame (rex4 : Bool) (t : ComputeGasTracker) : ComputeGasTracker :=
  { t with frameTracker := t.frameTracker.pushFrameBy rex4 () }

def popFrame (t : ComputeGasTracker) (success : Bool) : ComputeGasTracker :=
  { t with frameTracker := t.frameTracker.popFrame success }

end ComputeGasTracker

end MegaEvm
