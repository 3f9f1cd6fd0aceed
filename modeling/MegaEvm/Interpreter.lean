import MegaEvm.Spec

/-!
# Interpreter data

Gas counters, instruction results, frame inputs and frame results: the
values that pass between the interpreter, the frame loop and the metering
hooks. Only the fields the hooks read or write are kept.
-/

set_option autoImplicit false

namespace MegaEvm

abbrev Bytes := List UInt8

structure Gas where
  limit : ℕ
  remaining : ℕ
  deriving DecidableEq, Repr

namespace Gas

def new (limit : ℕ) : Gas := ⟨limit, limit⟩

def newSpent (limit : ℕ) : Gas := ⟨limit, 0⟩

def spent (g : Gas) : ℕ := g.limit - g.remaining

/-- Deducts `cost`; on shortage nothing is deducted. -/
def recordCost (g : Gas) (cost : ℕ) : Option Gas :=
  if cost ≤ g.remaining then some { g with remaining := g.remaining - cost } else none

def eraseCost (g : Gas) (returned : ℕ) : Gas := { g with remaining := g.remaining + returned }

@[simp] theorem new_remaining (l : ℕ) : (new l).remaining = l := rfl
@[simp] theorem new_limit (l : ℕ) : (new l).limit = l := rfl
@[simp] theorem newSpent_remaining (l : ℕ) : (newSpent l).remaining = 0 := rfl
@[simp] theorem newSpent_limit (l : ℕ) : (newSpent l).limit = l := rfl
@[simp] theorem eraseCost_remaining (g : Gas) (n : ℕ) :
    (g.eraseCost n).remaining = g.remaining + n := rfl
@[simp] theorem eraseCost_limit (g : Gas) (n : ℕ) : (g.eraseCost n).limit = g.limit := rfl

theorem recordCost_eq_some {g g' : Gas} {cost : ℕ} :
    g.recordCost cost = some g' ↔
      cost ≤ g.remaining ∧ g' = { g with remaining := g.remaining - cost } := by
  unfold recordCost
  split
  case isTrue h => simp [h, eq_comm]
  case isFalse h => simp [h]

theorem recordCost_eq_none {g : Gas} {cost : ℕ} :
    g.recordCost cost = none ↔ g.remaining < cost := by
  unfold recordCost
  split <;> simp_all

end Gas

inductive InstructionResult where
  | stop
  | return
  | selfDestruct
  | revert
  | callTooDeep
  | outOfFunds
  | createInitCodeStartingEF00
  | outOfGas
  | memoryOOG
  | precompileOOG
  | invalidOperandOOG
  | opcodeNotFound
  | stateChangeDuringStaticCall
  | invalidFEOpcode
  | invalidJump
  | notActivated
  | stackUnderflow
  | stackOverflow
  | outOfOffset
  | createCollision
  | overflowPayment
  | precompileError
  | nonceOverflow
  | createContractSizeLimit
  | createContractStartingWithEF
  | createInitCodeSizeLimit
  | fatalExternalError
  deriving DecidableEq, Repr

namespace InstructionResult

def isOk : InstructionResult → Bool
  | stop | .return | selfDestruct => true
  | _ => false

def isRevert : InstructionResult → Bool
  | revert | callTooDeep | outOfFunds | createInitCodeStartingEF00 => true
  | _ => false

def isOkOrRevert (r : InstructionResult) : Bool := r.isOk || r.isRevert

def isError (r : InstructionResult) : Bool := !r.isOk && !r.isRevert

@[simp] theorem isOk_revert : isOk revert = false := rfl
@[simp] theorem isOk_outOfGas : isOk outOfGas = false := rfl
@[simp] theorem isRevert_revert : isRevert revert = true := rfl
@[simp] theorem isError_revert : isError revert = false := rfl
@[simp] theorem isError_outOfGas : isError outOfGas = true := rfl
@[simp] theorem isOkOrRevert_revert : isOkOrRevert revert = true := rfl
@[simp] theorem isOkOrRevert_outOfGas : isOkOrRevert outOfGas = false := rfl

theorem isError_iff (r : InstructionResult) : r.isError = true ↔ r.isOkOrRevert = false := by
  cases r <;> decide

theorem isOk_of_isError {r : InstructionResult} (h : r.isError = true) : r.isOk = false := by
  simp only [isError, Bool.and_eq_true, Bool.not_eq_true'] at h
  exact h.1

end InstructionResult

structure InterpreterResult where
  result : InstructionResult
  output : Bytes
  gas : Gas
  deriving DecidableEq, Repr

inductive CallScheme where
  | call
  | callCode
  | delegateCall
  | staticCall
  deriving DecidableEq, Repr

inductive CallValue where
  | transfer (value : ℕ)
  | apparent (value : ℕ)
  deriving DecidableEq, Repr

namespace CallValue

def get : CallValue → ℕ
  | transfer v | apparent v => v

def transferValue : CallValue → Option ℕ
  | transfer v => some v
  | apparent _ => none

end CallValue

/-- The call data as the system-contract interceptors decode it; every
selector they do not know, and every payload that fails to decode, is `other`. -/
inductive SystemCall where
  | sendHint
  | keylessDeploy
  | disableVolatileDataAccess
  | enableVolatileDataAccess
  | isVolatileDataAccessDisabled
  | remainingComputeGas
  | other
  deriving DecidableEq, Repr

structure CallInputs where
  scheme : CallScheme
  caller : Address
  targetAddress : Address
  value : CallValue
  input : SystemCall
  gasLimit : ℕ
  deriving DecidableEq, Repr

def CallInputs.transfersValue (i : CallInputs) : Bool :=
  match i.value.transferValue with
  | some v => decide (0 < v)
  | none => false

structure CreateInputs where
  gasLimit : ℕ
  deriving DecidableEq, Repr

inductive FrameInput where
  | call (inputs : CallInputs)
  | create (inputs : CreateInputs)
  deriving DecidableEq, Repr

namespace FrameInput

def gasLimit : FrameInput → ℕ
  | call i => i.gasLimit
  | create i => i.gasLimit

def isCreate : FrameInput → Bool
  | call _ => false
  | create _ => true

def withGasLimit (g : ℕ) : FrameInput → FrameInput
  | call i => call { i with gasLimit := g }
  | create i => create { i with gasLimit := g }

@[simp] theorem withGasLimit_gasLimit (f : FrameInput) (g : ℕ) :
    (f.withGasLimit g).gasLimit = g := by
  cases f <;> rfl

@[simp] theorem withGasLimit_isCreate (f : FrameInput) (g : ℕ) :
    (f.withGasLimit g).isCreate = f.isCreate := by
  cases f <;> rfl

end FrameInput

/-- `depth` is the journal depth of the caller, zero for the top-level frame. -/
structure FrameInit where
  depth : ℕ
  frameInput : FrameInput
  deriving DecidableEq, Repr

structure FrameResult where
  isCreate : Bool
  result : InterpreterResult
  deriving DecidableEq, Repr

namespace FrameResult

def instructionResult (r : FrameResult) : InstructionResult := r.result.result

def gas (r : FrameResult) : Gas := r.result.gas

/-- `mark_frame_result_as_exceeding_limit`: the gas is left as it is. -/
def markAsExceedingLimit (r : FrameResult) (res : InstructionResult) (output : Bytes) :
    FrameResult :=
  { r with result := { r.result with result := res, output := output } }

@[simp] theorem markAsExceedingLimit_instructionResult (r : FrameResult)
    (res : InstructionResult) (o : Bytes) :
    (r.markAsExceedingLimit res o).instructionResult = res := rfl

@[simp] theorem markAsExceedingLimit_gas (r : FrameResult)
    (res : InstructionResult) (o : Bytes) :
    (r.markAsExceedingLimit res o).gas = r.gas := rfl

end FrameResult

inductive InterpreterAction where
  | newFrame (input : FrameInput)
  | return (result : InterpreterResult)
  deriving DecidableEq, Repr

end MegaEvm
