import MegaEvm.AdditionalLimit
import MegaEvm.Access

/-!
# Instruction wrappers

Every opcode of the instruction table is one of the interpreter's own
instructions inside a stack of wrappers: compute gas, storage gas, additional
limits, gas forwarding, volatile access. What the interpreter's own
instruction does is data of the event (it may stop anywhere, use any gas, open
any frame); what the wrappers do around it is modelled as the source has it.
-/

set_option autoImplicit false

namespace MegaEvm

/-- Changes of the journaled state. `sandboxMerged` stands for the state a
keyless deployment merges below every checkpoint. -/
inductive JournalEntry where
  | accountWarmed (address : Address)
  | accountTouched (address : Address)
  | balanceTransfer (source target : Address) (value : ℕ)
  | nonceChange (address : Address)
  | accountCreated (address : Address)
  | accountDestroyed (address target : Address)
  | storageChanged (address : Address) (key hadValue : ℕ)
  | codeChange (address : Address)
  | sandboxMerged
  deriving DecidableEq, Repr

/-- `plain` is every opcode the table wraps in compute gas only and whose
instruction asks the host for no volatile data. -/
inductive Opcode where
  | plain
  | selfbalance
  | blockEnv (ty : VolatileDataAccessType)
  | account
  | sload
  | sstore
  | log (n : ℕ)
  | create
  | create2
  | call
  | callCode
  | delegateCall
  | staticCall
  | selfdestruct
  | unknown
  deriving DecidableEq, Repr

def Opcode.opensFrame : Opcode → Bool
  | create | create2 | call | callCode | delegateCall | staticCall => true
  | _ => false

/-- The opcodes that may end a frame with an ok result: `plain` has STOP and RETURN. -/
def Opcode.endsFrame : Opcode → Bool
  | plain | selfdestruct => true
  | _ => false

/-- What the interpreter's own instruction does. `newFrame` charges `cost`
and then sets `forwarded` gas aside for the child. -/
inductive Inner where
  | next (cost : ℕ) (writes : List JournalEntry)
  | halt (result : InstructionResult) (output : Bytes) (cost : ℕ) (writes : List JournalEntry)
  | newFrame (cost forwarded : ℕ) (input : FrameInput) (writes : List JournalEntry)
  deriving DecidableEq, Repr

def Inner.opensFrame : Inner → Bool
  | newFrame .. => true
  | _ => false

def Inner.endsOk : Inner → Bool
  | halt r .. => r.isOk
  | _ => false

/-- One instruction: its opcode and operands, the host's answers to the
wrappers (`none` is a database or environment error), whether the inner
instruction reaches the host, and what it does. -/
structure OpEvent where
  opcode : Opcode
  stack : List ℕ
  slot : Option (ℕ × ℕ)
  targetEmpty : Option Bool
  storageGas : Option ℕ
  hostCalled : Bool
  inner : Inner
  opens : inner.opensFrame = true → opcode.opensFrame = true := by decide
  ends : inner.endsOk = true → opcode.endsFrame = true := by decide
  deriving DecidableEq, Repr

def OpEvent.inspect (ev : OpEvent) (n : ℕ) : Option ℕ := ev.stack[n]?

def intoAddress (word : ℕ) : Address := word % 2 ^ 160

/-- What stays fixed while a transaction runs. `isDeposit` also holds for mega
system transactions, which are executed as deposits. -/
structure Env where
  spec : MegaSpecId
  beneficiary : Address
  tx : MegaTransaction
  isDeposit : Bool
  maxCodeSize : ℕ
  sandboxDisabled : Bool
  deriving DecidableEq, Repr

structure Ctx where
  target : Address
  depth : ℕ
  gas : Gas
  action : Option InterpreterAction
  limit : AdditionalLimit
  volatile : VolatileDataAccessTracker
  journal : List JournalEntry
  deriving DecidableEq, Repr

namespace Ctx

/-- `interpreter.halt`: an action set before is replaced. -/
def halt (c : Ctx) (r : InstructionResult) : Ctx :=
  { c with action := some (.return ⟨r, [], c.gas⟩) }

def haltWith (c : Ctx) (r : InstructionResult) (output : Bytes) : Ctx :=
  { c with action := some (.return ⟨r, output, c.gas⟩) }

def instructionResult (c : Ctx) : Option InstructionResult :=
  match c.action with
  | some (.return r) => some r.result
  | _ => none

def isError (c : Ctx) : Bool :=
  match c.instructionResult with
  | some r => r.isError
  | none => false

end Ctx

section Inner

variable (env : Env) (ev : OpEvent)

/-- CALL and CALLCODE with a value give the child a stipend. -/
def hasTransfer : Bool :=
  match ev.opcode with
  | .call | .callCode =>
    match ev.inspect 2 with
    | some value => value != 0
    | none => false
  | _ => false

def stipend : ℕ := if hasTransfer ev then constants.CALL_STIPEND else 0

def markBeneficiary (word : Option ℕ) (t : VolatileDataAccessTracker) :
    VolatileDataAccessTracker :=
  match word with
  | some w => if intoAddress w = env.beneficiary then t.markBeneficiaryBalanceAccessed else t
  | none => t

/-- The host's side of the inner instruction: volatile accesses are marked. -/
def markHost (target : Address) (t : VolatileDataAccessTracker) : VolatileDataAccessTracker :=
  match ev.opcode with
  | .blockEnv .difficulty => t.markBlockEnvAccessed .prevRandao
  | .blockEnv ty => t.markBlockEnvAccessed ty
  | .account => markBeneficiary env (ev.inspect 0) t
  | .selfbalance => markBeneficiary env (some target) t
  | .call | .callCode | .delegateCall | .staticCall => markBeneficiary env (ev.inspect 1) t
  | .selfdestruct =>
    if env.spec.isEnabled .rex4 then markBeneficiary env (ev.inspect 0) t else t
  | .sload =>
    if env.spec.isEnabled .rex3 && env.tx.caller != MEGA_SYSTEM_ADDRESS then
      t.checkAndMarkOracleAccess target
    else t
  | _ => t

def touchHost (c : Ctx) : Ctx :=
  { c with volatile := if ev.hostCalled then markHost env ev c.target c.volatile else c.volatile }

def chargeInner (cost : ℕ) (writes : List JournalEntry) (rest : Ctx → Ctx) (c : Ctx) : Ctx :=
  match c.gas.recordCost cost with
  | some g => rest { c with gas := g, journal := writes ++ c.journal }
  | none => c.halt .outOfGas

def runInner (c : Ctx) : Ctx :=
  match ev.inner with
  | .next cost writes => chargeInner cost writes id (touchHost env ev c)
  | .halt r output cost writes =>
    chargeInner cost writes (fun c => c.haltWith r output) (touchHost env ev c)
  | .newFrame cost forwarded input writes =>
    chargeInner (cost + forwarded) writes
      (fun c => { c with
        action := some (.newFrame (input.withGasLimit (forwarded + stipend ev))) })
      (touchHost env ev c)

end Inner

section Wrappers

variable (env : Env) (ev : OpEvent)

/-- `run_inner_instruction_or_abort!` followed by the rest of the wrapper. -/
def runInnerOrAbort (inner : Ctx → Ctx) (rest : Ctx → Ctx) (c : Ctx) : Ctx :=
  if (inner c).isError then inner c else rest (inner c)

/-- The gas an instruction used itself: what it set aside for a child does not count. -/
def computeGasUsed (gasBefore : ℕ) (c : Ctx) : ℕ :=
  match c.action with
  | some (.newFrame input) => gasBefore - c.gas.remaining - input.gasLimit
  | _ => gasBefore - c.gas.remaining

def computeGas (gasUsed : ℕ) (c : Ctx) : Ctx :=
  let c := { c with limit := c.limit.recordComputeGas gasUsed }
  if c.limit.exceeded then c.halt c.limit.exceedingInstructionResult else c

namespace ComputeGasExt

def wrap (c : Ctx) : Ctx :=
  runInnerOrAbort (runInner env ev)
    (fun after => computeGas (computeGasUsed c.gas.remaining after) after) c

end ComputeGasExt

def chargeThen (cost : ℕ) (rest : Ctx → Ctx) (c : Ctx) : Ctx :=
  match c.gas.recordCost cost with
  | some g => rest { c with gas := g }
  | none => c.halt .outOfGas

namespace StorageGasExt

def call (checkTransfer : Bool) (c : Ctx) : Ctx :=
  match ev.inspect 1 with
  | none => c.halt .stackUnderflow
  | some _ =>
    match ev.targetEmpty with
    | none => c.halt .fatalExternalError
    | some isEmpty =>
      if checkTransfer then
        match ev.inspect 2 with
        | none => c.halt .stackUnderflow
        | some value =>
          if isEmpty && value != 0 then
            match ev.storageGas with
            | none => c.halt .fatalExternalError
            | some newAccountStorageGas =>
              chargeThen newAccountStorageGas (ComputeGasExt.wrap env ev) c
          else ComputeGasExt.wrap env ev c
      else ComputeGasExt.wrap env ev c

/-- `storageGas` is priced for the created address in the spec's own way. -/
def create (isCreate2 : Bool) (c : Ctx) : Ctx :=
  match ev.targetEmpty with
  | none => c.halt .fatalExternalError
  | some _ =>
    let charged : Ctx :=
      match ev.storageGas with
      | none => c.halt .fatalExternalError
      | some createContractStorageGas =>
        chargeThen createContractStorageGas (ComputeGasExt.wrap env ev) c
    if isCreate2 then
      match ev.inspect 1, ev.inspect 2 with
      | some offset, some len =>
        if offset > u64Max || len > u64Max then c.halt .invalidOperandOOG
        else if (ev.inspect 3).isNone then c.halt .stackUnderflow
        else charged
      | _, _ => c.halt .stackUnderflow
    else charged

def log (n : ℕ) (c : Ctx) : Ctx :=
  match ev.inspect 1 with
  | none => c.halt .stackUnderflow
  | some len =>
    if len > u64Max then c.halt .invalidOperandOOG
    else chargeThen (constants.LOG_DATA_STORAGE_GAS * len + constants.LOG_TOPIC_STORAGE_GAS * n)
      (ComputeGasExt.wrap env ev) c

def sstore (c : Ctx) : Ctx :=
  match ev.inspect 0, ev.slot, ev.inspect 1 with
  | none, _, _ => c.halt .stackUnderflow
  | some _, none, _ => c.halt .fatalExternalError
  | some _, some _, none => c.halt .stackUnderflow
  | some _, some (original, present), some newValue =>
    if original == 0 && present == 0 && newValue != 0 then
      match ev.storageGas with
      | none => c.halt .fatalExternalError
      | some sstoreSetStorageGas => chargeThen sstoreSetStorageGas (ComputeGasExt.wrap env ev) c
    else ComputeGasExt.wrap env ev c

end StorageGasExt

namespace AdditionalLimitExt

def enforce (c : Ctx) : Ctx :=
  if c.limit.exceeded then c.halt c.limit.exceedingInstructionResult else c

def sstore (c : Ctx) : Ctx :=
  match ev.inspect 0, ev.slot, ev.inspect 1 with
  | none, _, _ => c.halt .stackUnderflow
  | some _, none, _ => c.halt .fatalExternalError
  | some _, some _, none => c.halt .stackUnderflow
  | some _, some (original, present), some newValue =>
    runInnerOrAbort (StorageGasExt.sstore env ev)
      (fun c => enforce { c with limit := c.limit.onSstore ⟨original, present, newValue⟩ }) c

def log (n : ℕ) (c : Ctx) : Ctx :=
  match ev.inspect 1 with
  | none => c.halt .stackUnderflow
  | some len =>
    if len > u64Max then c.halt .invalidOperandOOG
    else runInnerOrAbort (StorageGasExt.log env ev n)
      (fun c => enforce { c with limit := c.limit.onLog n len }) c

end AdditionalLimitExt

namespace ForwardGasExt

/-- The part of the forwarded gas that stays with the parent under the 98/100 rule. -/
def gasToReturn (remaining forwardedGas : ℕ) : ℕ :=
  let parentOriginalGasLeft := remaining + forwardedGas
  let forwardedGasCap := parentOriginalGasLeft - parentOriginalGasLeft * 2 / 100
  forwardedGas - min forwardedGas forwardedGasCap

/-- The child keeps its stipend on top of the capped gas. -/
def cap (transferGasStipend : ℕ) (c : Ctx) : Ctx :=
  match c.action with
  | some (.newFrame input) =>
    let forwardedGas := input.gasLimit - transferGasStipend
    let returned := gasToReturn c.gas.remaining forwardedGas
    { c with
      gas := c.gas.eraseCost returned
      action := some (.newFrame
        (input.withGasLimit (forwardedGas - returned + transferGasStipend))) }
  | _ => c

def wrap (inner : Ctx → Ctx) (c : Ctx) : Ctx := runInnerOrAbort inner (cap (stipend ev)) c

end ForwardGasExt

namespace VolatileDataExt

def applyComputeGasLimit (c : Ctx) : Ctx :=
  match c.volatile.computeGasLimit with
  | some limit => { c with limit := c.limit.setComputeGasLimit limit }
  | none => c

def revertDisabled (ty : VolatileDataAccessType) (c : Ctx) : Ctx :=
  c.haltWith .revert (volatileDataAccessDisabledRevertData ty)

def disabled (c : Ctx) : Bool := c.volatile.volatileAccessDisabled c.depth

def unconditional (ty : VolatileDataAccessType) (c : Ctx) : Ctx :=
  if disabled c then revertDisabled ty c
  else runInnerOrAbort (ComputeGasExt.wrap env ev) applyComputeGasLimit c

def isBeneficiary (word : Option ℕ) : Bool :=
  match word with
  | some w => intoAddress w == env.beneficiary
  | none => false

def conditional (c : Ctx) : Ctx :=
  if isBeneficiary env (ev.inspect 0) && disabled c then revertDisabled .beneficiary c
  else runInnerOrAbort (ComputeGasExt.wrap env ev) applyComputeGasLimit c

def sload (c : Ctx) : Ctx :=
  if c.target == ORACLE_CONTRACT_ADDRESS && disabled c then revertDisabled .oracle c
  else runInnerOrAbort (ComputeGasExt.wrap env ev) applyComputeGasLimit c

def callCheck (inner : Ctx → Ctx) (c : Ctx) : Ctx :=
  if isBeneficiary env (ev.inspect 1) && disabled c then revertDisabled .beneficiary c
  else inner c

end VolatileDataExt

/-- A call-like opcode other than CALL: unwrapped before the first Rex spec. -/
def callLike (checkTransfer : Bool) (c : Ctx) : Ctx :=
  let forward := ForwardGasExt.wrap ev (StorageGasExt.call env ev checkTransfer)
  if env.spec.isEnabled .rex4 then VolatileDataExt.callCheck env ev forward c
  else if env.spec.isEnabled .rex then forward c
  else ComputeGasExt.wrap env ev c

/-- The instruction table of `env.spec`, from MINI_REX on. -/
def instruction (c : Ctx) : Ctx :=
  match ev.opcode with
  | .plain | .selfbalance => ComputeGasExt.wrap env ev c
  | .blockEnv ty => VolatileDataExt.unconditional env ev ty c
  | .account => VolatileDataExt.conditional env ev c
  | .sload =>
    if env.spec.isEnabled .rex3 then VolatileDataExt.sload env ev c
    else ComputeGasExt.wrap env ev c
  | .sstore => AdditionalLimitExt.sstore env ev c
  | .log n => AdditionalLimitExt.log env ev n c
  | .create => ForwardGasExt.wrap ev (StorageGasExt.create env ev false) c
  | .create2 => ForwardGasExt.wrap ev (StorageGasExt.create env ev true) c
  | .call =>
    let forward := ForwardGasExt.wrap ev (StorageGasExt.call env ev true)
    if env.spec.isEnabled .rex4 then VolatileDataExt.callCheck env ev forward c else forward c
  | .callCode => callLike env ev true c
  | .delegateCall => callLike env ev false c
  | .staticCall => callLike env ev false c
  | .selfdestruct =>
    if env.spec.isEnabled .rex4 then VolatileDataExt.conditional env ev c
    else if env.spec.isEnabled .rex2 then ComputeGasExt.wrap env ev c
    else c.halt .invalidFEOpcode
  | .unknown => c.halt .opcodeNotFound

end Wrappers

end MegaEvm
