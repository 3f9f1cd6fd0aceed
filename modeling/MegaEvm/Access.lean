import MegaEvm.LimitCheck

/-!
# Volatile data access

Which volatile data a transaction has touched, the compute gas cap that
follows from it, and the call depth from which access is disabled.
-/

set_option autoImplicit false

namespace MegaEvm

inductive VolatileDataAccessType where
  | blockNumber
  | timestamp
  | coinbase
  | difficulty
  | gasLimit
  | baseFee
  | prevRandao
  | blockHash
  | blobBaseFee
  | blobHash
  | beneficiary
  | oracle
  deriving DecidableEq, Repr

namespace VolatileDataAccessType

def asU8 : VolatileDataAccessType → ℕ
  | blockNumber => 0
  | timestamp => 1
  | coinbase => 2
  | difficulty => 3
  | gasLimit => 4
  | baseFee => 5
  | prevRandao => 6
  | blockHash => 7
  | blobBaseFee => 8
  | blobHash => 9
  | beneficiary => 10
  | oracle => 11

def bit (t : VolatileDataAccessType) : ℕ := 2 ^ t.asU8

end VolatileDataAccessType

def volatileDataAccessDisabledRevertData (t : VolatileDataAccessType) : Bytes :=
  [0x09, 0x41, 0x6e, 0xbd] ++ abiWord t.asU8

def DISABLED_BY_PARENT_REVERT_DATA : Bytes := [0xd0, 0x89, 0xba, 0xe0]

def NON_ZERO_TRANSFER_REVERT_DATA : Bytes := [0xfa, 0x37, 0x50, 0x1e]

/-- `accessed` is the bitmap `volatile_data_accessed`. -/
structure VolatileDataAccessTracker where
  accessed : ℕ
  computeGasLimit : Option ℕ
  blockEnvAccessLimit : ℕ
  oracleAccessLimit : ℕ
  disableDepth : Option ℕ
  deriving DecidableEq, Repr

namespace VolatileDataAccessTracker

def new (blockEnvAccessLimit oracleAccessLimit : ℕ) : VolatileDataAccessTracker :=
  ⟨0, none, blockEnvAccessLimit, oracleAccessLimit, none⟩

def getVolatileDataInfo (t : VolatileDataAccessTracker) : Option ℕ :=
  if t.accessed = 0 then none else some t.accessed

def applyOrCreateLimit (t : VolatileDataAccessTracker) (limit : ℕ) : VolatileDataAccessTracker :=
  { t with computeGasLimit :=
      match t.computeGasLimit with
      | some current => some (min current limit)
      | none => some limit }

def insert (t : VolatileDataAccessTracker) (ty : VolatileDataAccessType) :
    VolatileDataAccessTracker :=
  { t with accessed := t.accessed ||| ty.bit }

def markBlockEnvAccessed (t : VolatileDataAccessTracker) (ty : VolatileDataAccessType) :
    VolatileDataAccessTracker :=
  (t.insert ty).applyOrCreateLimit t.blockEnvAccessLimit

def markBeneficiaryBalanceAccessed (t : VolatileDataAccessTracker) : VolatileDataAccessTracker :=
  (t.insert .beneficiary).applyOrCreateLimit t.blockEnvAccessLimit

def checkAndMarkOracleAccess (t : VolatileDataAccessTracker) (address : Address) :
    VolatileDataAccessTracker :=
  if address = ORACLE_CONTRACT_ADDRESS then
    (t.insert .oracle).applyOrCreateLimit t.oracleAccessLimit
  else t

def disableAccess (t : VolatileDataAccessTracker) (depth : ℕ) : VolatileDataAccessTracker :=
  match t.disableDepth with
  | some current => if depth ≥ current then t else { t with disableDepth := some depth }
  | none => { t with disableDepth := some depth }

def volatileAccessDisabled (t : VolatileDataAccessTracker) (currentDepth : ℕ) : Bool :=
  match t.disableDepth with
  | some d => decide (currentDepth ≥ d)
  | none => false

def enableAccess (t : VolatileDataAccessTracker) (callerDepth : ℕ) :
    VolatileDataAccessTracker × Bool :=
  match t.disableDepth with
  | none => (t, true)
  | some d => if callerDepth ≤ d then ({ t with disableDepth := none }, true) else (t, false)

def enableAccessIfReturning (t : VolatileDataAccessTracker) (currentDepth : ℕ) :
    VolatileDataAccessTracker :=
  match t.disableDepth with
  | some d => if currentDepth < d then { t with disableDepth := none } else t
  | none => t

def reset (t : VolatileDataAccessTracker) : VolatileDataAccessTracker :=
  { t with accessed := 0, computeGasLimit := none, disableDepth := none }

end VolatileDataAccessTracker

end MegaEvm
