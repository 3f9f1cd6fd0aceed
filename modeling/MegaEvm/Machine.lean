import MegaEvm.Instructions
import MegaEvm.Library.Run

/-!
# The frame loop

A transaction is a sequence of small steps: a frame is initialised, its
interpreter is about to run, runs, has produced an action, its result is on
the way to the parent, was handed over, reaches the end of the transaction.
The interpreter, the database and the precompiles enter through events, so a
run is any behaviour they can show; the frame loop, the journal checkpoints and
every metering hook are computed.

The steps are those from MINI_REX on, where the guards of all hooks hold.

The journal is a list of changes, newest first. A checkpoint is its length.
`opened` remembers, for the statements of results only, the journal as it was
at the checkpoint; no step reads it.
-/

set_option autoImplicit false

namespace MegaEvm

structure Frame where
  isCreate : Bool
  target : Address
  gas : Gas
  checkpoint : ℕ
  opened : List JournalEntry
  deriving DecidableEq, Repr

/-- A frame result under way, with the journal its frame was opened on. -/
structure Pending where
  result : FrameResult
  opened : List JournalEntry
  deriving DecidableEq, Repr

inductive Phase where
  | init (input : FrameInput)
  | run
  | interp
  | action (action : InterpreterAction)
  | result (pending : Pending)
  | handed (pending : Pending)
  | last (pending : Pending)
  | done (pending : Pending)
  deriving DecidableEq, Repr

/-- `senderNonce` leaves out the increments the sender's own delegated code and
its authorizations make. -/
structure State where
  limit : AdditionalLimit
  volatile : VolatileDataAccessTracker
  frames : List Frame
  journal : List JournalEntry
  senderNonce : ℕ
  phase : Phase
  deriving DecidableEq, Repr

/-- The journal depth: that of the caller while a frame is initialised. -/
def State.depth (s : State) : ℕ := s.frames.length

/-- How a sandboxed keyless deployment ends: rejected by a check or an error, or
completed, its state merged. -/
inductive KeylessOutcome where
  | rejected (output : Bytes)
  | completed (output : Bytes) (signer : Address) (signerNonce : ℕ)
  deriving DecidableEq, Repr

inductive TransferError where
  | outOfFunds
  | overflowPayment
  | createCollision
  deriving DecidableEq, Repr

def TransferError.toInstructionResult : TransferError → InstructionResult
  | outOfFunds => .outOfFunds
  | overflowPayment => .overflowPayment
  | createCollision => .createCollision

inductive PrecompileOutcome where
  | ok (gasUsed : ℕ) (output : Bytes)
  | reverted (gasUsed : ℕ) (output : Bytes)
  | oog
  | error
  deriving DecidableEq, Repr

inductive CallInit where
  | transferFailed (err : TransferError)
  | precompile (outcome : PrecompileOutcome)
  | emptyCode
  | enter
  deriving DecidableEq, Repr

inductive CreateInit where
  | outOfFunds
  | nonceOverflow
  | checkpointFailed (err : TransferError)
  | enter (created : Address)
  deriving DecidableEq, Repr

/-- What frame initialisation meets: whether the target account is empty, how a
keyless deployment would end, what the inner initialisation finds, and what it
journals before and after the checkpoint. -/
structure InitEvent where
  targetEmpty : Bool
  keyless : KeylessOutcome
  call : CallInit
  create : CreateInit
  before : List JournalEntry
  writes : List JournalEntry
  deriving DecidableEq, Repr

inductive Event where
  | tau
  | op (ev : OpEvent)
  | init (ev : InitEvent)
  deriving DecidableEq, Repr

section Intercept

variable (env : Env)

/-- `check_and_mark_oracle_access` in `frame_init`, before the third Rex spec. -/
def detectOracle (s : State) (i : CallInputs) : State :=
  let detect := match i.scheme with
    | .call => true
    | .staticCall => env.spec.isEnabled .rex
    | .callCode | .delegateCall => false
  if !env.spec.isEnabled .rex3 && detect && i.caller != MEGA_SYSTEM_ADDRESS &&
      i.targetAddress == ORACLE_CONTRACT_ADDRESS then
    let volatile := s.volatile.checkAndMarkOracleAccess i.targetAddress
    { s with
      volatile := volatile
      limit := match volatile.computeGasLimit with
        | some limit => s.limit.setComputeGasLimit limit
        | none => s.limit }
  else s

def detected (s : State) : FrameInput → State
  | .call i => detectOracle env s i
  | .create _ => s

def NO_ETHER_TRANSFER_REVERT_DATA : Bytes := [0xd2, 0x53, 0xa2, 0xb0]

/-- `InsufficientComputeGas(uint64 limit, uint64 used)`. -/
def insufficientComputeGasRevertData (limit used : ℕ) : Bytes :=
  [0x39, 0x61, 0xc2, 0xb6] ++ abiWord limit ++ abiWord used

def callResult (r : InstructionResult) (output : Bytes) (gas : Gas) : FrameResult :=
  ⟨false, ⟨r, output, gas⟩⟩

/-- The interception succeeded, failed to apply, or hit `unreachable!()`. -/
inductive Intercepted where
  | no
  | answered (s : State) (result : FrameResult)
  | panicked
  deriving DecidableEq, Repr

/-- `execute_keyless_deploy_call`. The sandbox's state is merged into the
journaled state, not into the journal: no checkpoint reverts it. -/
def executeKeylessDeployCall (s : State) (i : CallInputs) (outcome : KeylessOutcome) :
    Intercepted :=
  let makeHalt := callResult .outOfGas [] (.newSpent i.gasLimit)
  match (Gas.new i.gasLimit).recordCost constants.KEYLESS_DEPLOY_OVERHEAD_GAS with
  | none => .answered s makeHalt
  | some gas =>
    let limit := if env.spec.isEnabled .rex3
      then s.limit.recordComputeGas constants.KEYLESS_DEPLOY_OVERHEAD_GAS else s.limit
    let s := { s with limit := limit }
    if env.spec.isEnabled .rex3 && limit.exceeded then
      match limit.computeGas.checkLimit limit.rex4 with
      | .withinLimit => .panicked
      | .exceedsLimit _ lim used true =>
        .answered s (callResult .revert (insufficientComputeGasRevertData lim used) gas)
      | .exceedsLimit _ _ _ false =>
        .answered s (makeHalt.markAsExceedingLimit .outOfGas [])
    else if i.value.get != 0 then .answered s (callResult .revert NO_ETHER_TRANSFER_REVERT_DATA gas)
    else match outcome with
      | .rejected output => .answered s (callResult .revert output gas)
      | .completed output signer signerNonce =>
        .answered { s with
            journal := .sandboxMerged :: s.journal
            senderNonce := if signer = env.tx.caller then signerNonce else s.senderNonce }
          (callResult .return output gas)

def rejectNonZeroTransfer (i : CallInputs) : Option FrameResult :=
  match i.value.transferValue with
  | some v =>
    if v != 0 then some (callResult .revert NON_ZERO_TRANSFER_REVERT_DATA (.new i.gasLimit))
    else none
  | none => none

def accessControlIntercept (s : State) (i : CallInputs) : Intercepted :=
  let gas := Gas.new i.gasLimit
  match i.input with
  | .disableVolatileDataAccess =>
    match rejectNonZeroTransfer i with
    | some r => .answered s r
    | none =>
      .answered { s with volatile := s.volatile.disableAccess s.depth } (callResult .return [] gas)
  | .enableVolatileDataAccess =>
    match rejectNonZeroTransfer i with
    | some r => .answered s r
    | none =>
      let (volatile, success) := s.volatile.enableAccess s.depth
      .answered { s with volatile := volatile }
        (if success then callResult .return [] gas
          else callResult .revert DISABLED_BY_PARENT_REVERT_DATA gas)
  | .isVolatileDataAccessDisabled =>
    match rejectNonZeroTransfer i with
    | some r => .answered s r
    | none =>
      let disabled := s.volatile.volatileAccessDisabled s.depth
      .answered s (callResult .return (abiWord (if disabled then 1 else 0)) gas)
  | _ => .no

def limitControlIntercept (s : State) (i : CallInputs) : Intercepted :=
  match i.input with
  | .remainingComputeGas =>
    match rejectNonZeroTransfer i with
    | some r => .answered s r
    | none =>
      .answered s
        (callResult .return (abiWord s.limit.currentCallRemainingComputeGas) (.new i.gasLimit))
  | _ => .no

/-- The call is a keyless deployment: it is answered at the top level only. -/
def isKeylessCall (s : State) (i : CallInputs) : Bool :=
  env.spec.isEnabled .rex2 && !env.sandboxDisabled && s.depth == 0 &&
    i.targetAddress == KEYLESS_DEPLOY_ADDRESS && i.input == .keylessDeploy

/-- `dispatch_system_contract_interceptors`. The three addresses differ, so the
order of the interceptors does not show. The oracle hint never answers. -/
def dispatchSystemContractInterceptors (s : State) (i : CallInputs)
    (outcome : KeylessOutcome) : Intercepted :=
  if isKeylessCall env s i then executeKeylessDeployCall env s i outcome
  else if env.spec.isEnabled .rex4 && i.targetAddress == ACCESS_CONTROL_ADDRESS then
    accessControlIntercept s i
  else if env.spec.isEnabled .rex4 && i.targetAddress == LIMIT_CONTROL_ADDRESS then
    limitControlIntercept s i
  else .no

end Intercept

section FrameInit

variable (env : Env)

def checkpointRevert (journal : List JournalEntry) (checkpoint : ℕ) : List JournalEntry :=
  journal.drop (journal.length - checkpoint)

/-- A frame result that came straight from frame initialisation; without an
open frame it leaves the execution loop. -/
def State.answer (s : State) (p : Pending) : State :=
  { s with phase := if s.frames.isEmpty then .last p else .result p }

/-- A precompile that succeeds or reverts is charged, one that fails is not;
more gas than the limit is an assertion failure. -/
def precompileResult (gasLimit : ℕ) : PrecompileOutcome → Option FrameResult
  | .ok gasUsed output =>
    ((Gas.new gasLimit).recordCost gasUsed).map fun g => callResult .return output g
  | .reverted gasUsed output =>
    ((Gas.new gasLimit).recordCost gasUsed).map fun g => callResult .revert output g
  | .oog => some (callResult .precompileOOG [] (.new gasLimit))
  | .error => some (callResult .precompileError [] (.new gasLimit))

/-- The inner initialisation answered the frame; `after_frame_init` follows. -/
def State.answerInner (s : State) (r : FrameResult) (opened : List JournalEntry) : State :=
  { s with limit := s.limit.afterFrameInitResult r }.answer ⟨r, opened⟩

def makeCallFrame (s : State) (i : CallInputs) (ev : InitEvent) : Option State :=
  if s.depth > constants.CALL_STACK_LIMIT then
    some (s.answerInner (callResult .callTooDeep [] (.new i.gasLimit)) s.journal)
  else
    let opened := ev.before ++ s.journal
    let journal := ev.writes ++ opened
    match ev.call with
    | .transferFailed err =>
      some ({ s with journal := checkpointRevert journal opened.length }.answerInner
        (callResult err.toInstructionResult [] (.new i.gasLimit)) opened)
    | .precompile outcome =>
      (precompileResult i.gasLimit outcome).map fun r =>
        { s with
          limit := s.limit.recordComputeGas r.gas.spent
          journal := if r.instructionResult.isOk then journal
            else checkpointRevert journal opened.length }.answerInner r opened
    | .emptyCode =>
      some ({ s with journal := journal }.answerInner
        (callResult .stop [] (.new i.gasLimit)) opened)
    | .enter =>
      some { s with
        journal := journal
        frames := ⟨false, i.targetAddress, .new i.gasLimit, opened.length, opened⟩ :: s.frames
        limit := s.limit.afterFrameInitItem none
        phase := .run }

/-- Only the top-level frame creates for the sender itself. -/
def State.bumpNonce (s : State) : State :=
  { s with senderNonce := if s.frames.isEmpty then s.senderNonce + 1 else s.senderNonce }

/-- Validation made sure that the sender of a top-level create owns the value
and that its nonce can grow; a deposit is not validated. -/
def createFundsValidated (s : State) : Bool := s.frames.isEmpty && !env.isDeposit

def makeCreateFrame (s : State) (i : CreateInputs) (ev : InitEvent) : Option State :=
  let failed (r : InstructionResult) : FrameResult := ⟨true, ⟨r, [], .new i.gasLimit⟩⟩
  if s.depth > constants.CALL_STACK_LIMIT then
    some (s.answerInner (failed .callTooDeep) s.journal)
  else
    match ev.create with
    | .outOfFunds =>
      if createFundsValidated env s then none
      else some (s.answerInner (failed .outOfFunds) s.journal)
    | .nonceOverflow =>
      if createFundsValidated env s then none
      else some (s.answerInner (failed .return) s.journal)
    | .checkpointFailed err =>
      let opened := ev.before ++ s.journal
      some ({ s.bumpNonce with journal := opened }.answerInner
        (failed err.toInstructionResult) opened)
    | .enter created =>
      let opened := ev.before ++ s.journal
      some { s.bumpNonce with
        journal := ev.writes ++ opened
        frames := ⟨true, created, .new i.gasLimit, opened.length, opened⟩ :: s.frames
        limit := s.limit.afterFrameInitItem (some created)
        phase := .run }

def frameInit (s : State) (input : FrameInput) (ev : InitEvent) : Option State :=
  let s := detected env s input
  let intercepted := match input with
    | .call i => dispatchSystemContractInterceptors env s i ev.keyless
    | .create _ => .no
  match intercepted with
  | .panicked => none
  | .answered s' r => some ({ s' with limit := s'.limit.pushEmptyFrame }.answer ⟨r, s.journal⟩)
  | .no =>
    match s.limit.beforeFrameInit input ev.targetEmpty with
    | (limit, some r) => some ({ s with limit := limit }.answer ⟨r, s.journal⟩)
    | (limit, none) =>
      match input with
      | .call i => makeCallFrame { s with limit := limit } i ev
      | .create i => makeCreateFrame env { s with limit := limit } i ev

end FrameInit

section FrameRun

variable (env : Env)

def frameRun (s : State) (f : Frame) : State :=
  match s.limit.beforeFrameRun f.gas with
  | (limit, some r) => { s with limit := limit, phase := .action (.return r) }
  | (limit, none) => { s with limit := limit, phase := .interp }

def State.ctx (s : State) (f : Frame) : Ctx where
  target := f.target
  depth := s.depth
  gas := f.gas
  action := none
  limit := s.limit
  volatile := s.volatile
  journal := s.journal

/-- One instruction; an action ends the interpreter's loop. -/
def interpStep (s : State) (f : Frame) (rest : List Frame) (ev : OpEvent) : State :=
  let c := instruction env ev (s.ctx f)
  { s with
    frames := { f with gas := c.gas } :: rest
    limit := c.limit
    volatile := c.volatile
    journal := c.journal
    phase := match c.action with
      | some a => .action a
      | none => .interp }

def chargeCodeDepositStorage (isCreate : Bool) : InterpreterAction → InterpreterAction
  | .return r =>
    if isCreate && r.result.isOk then
      match r.gas.recordCost (constants.CODEDEPOSIT_STORAGE_GAS * r.output.length) with
      | some g => .return { r with gas := g }
      | none => .return { r with result := .outOfGas }
    else .return r
  | .newFrame i => .newFrame i

/-- `return_create`: the result, and whether its changes are committed. -/
def returnCreate (r : InterpreterResult) : InterpreterResult × Bool :=
  if !r.result.isOk then (r, false)
  else if r.output.head? = some 0xEF then
    ({ r with result := .createContractStartingWithEF }, false)
  else if r.output.length > env.maxCodeSize then
    ({ r with result := .createContractSizeLimit }, false)
  else
    match r.gas.recordCost (constants.CODEDEPOSIT * r.output.length) with
    | none => ({ r with result := .outOfGas }, false)
    | some g => ({ r with result := .return, gas := g }, true)

/-- `process_next_action` of a frame that returns. -/
def processReturn (f : Frame) (r : InterpreterResult) (journal : List JournalEntry) :
    FrameResult × List JournalEntry :=
  if f.isCreate then
    match returnCreate env r with
    | (r, true) => (⟨true, r⟩, .codeChange f.target :: journal)
    | (r, false) => (⟨true, r⟩, checkpointRevert journal f.checkpoint)
  else (⟨false, r⟩, if r.result.isOk then journal else checkpointRevert journal f.checkpoint)

def actionStep (s : State) (f : Frame) (rest : List Frame) (a : InterpreterAction) : State :=
  match s.limit.afterFrameRunInstructions f.isCreate (chargeCodeDepositStorage f.isCreate a) with
  | (limit, .newFrame input) => { s with limit := limit, phase := .init input }
  | (limit, .return r) =>
    let (result, journal) := processReturn env f r s.journal
    let (limit, result) := limit.afterFrameRun result r.gas.remaining
    { s with
      frames := rest
      limit := limit
      journal := journal
      phase := .result ⟨result, f.opened⟩ }

end FrameRun

section FrameReturn

variable (env : Env)

def frameReturnResult (s : State) (p : Pending) : State :=
  let (limit, result) := s.limit.beforeFrameReturnResult false p.result
  { s with limit := limit, phase := .handed ⟨result, p.opened⟩ }

def creditGas (f : Frame) (r : FrameResult) : Frame :=
  if r.instructionResult.isOkOrRevert then { f with gas := f.gas.eraseCost r.gas.remaining } else f

def insertResult (s : State) (p : Pending) : State :=
  let s := { s with
    volatile := if env.spec.isEnabled .rex4 then s.volatile.enableAccessIfReturning s.depth
      else s.volatile }
  match s.frames with
  | [] => { s with phase := .last p }
  | f :: rest => { s with frames := creditGas f p.result :: rest, phase := .run }

/-- What the transaction is charged: all of its gas limit but the unspent gas of
an ok or reverted result. -/
def settledGas (r : FrameResult) : Gas :=
  let spent := Gas.newSpent env.tx.gasLimit
  if r.instructionResult.isOkOrRevert then spent.eraseCost r.gas.remaining else spent

def finalGas (limit : AdditionalLimit) (r : FrameResult) : Gas :=
  (settledGas env r).eraseCost limit.rescuedGas

def lastFrameResult (s : State) (p : Pending) : State :=
  let (limit, result) := s.limit.beforeFrameReturnResult true p.result
  let final := { result with result := { result.result with gas := finalGas env limit result } }
  { s with limit := limit, phase := .done ⟨final, p.opened⟩ }

/-- A deposit that halts is turned into a failed deposit by `execution_result`
and `catch_error`. -/
def failedDeposit (r : FrameResult) : Bool := env.isDeposit && !r.instructionResult.isOkOrRevert

/-- The gas the transaction does not pay for; a failed deposit pays for all of it. -/
def unspentGas (r : FrameResult) : ℕ := if failedDeposit env r then 0 else r.gas.remaining

end FrameReturn

def isFatal (p : Pending) : Bool := p.result.instructionResult == .fatalExternalError

def step (env : Env) (s : State) (e : Event) : Option State :=
  match s.phase, e, s.frames with
  | .init input, .init ev, _ => frameInit env s input ev
  | .run, .tau, f :: _ => some (frameRun s f)
  | .interp, .op ev, f :: rest => some (interpStep env s f rest ev)
  | .action a, .tau, f :: rest => some (actionStep env s f rest a)
  | .result p, .tau, _ => some (frameReturnResult s p)
  | .handed p, .tau, _ => if isFatal p then none else some (insertResult env s p)
  | .last p, .tau, _ => if isFatal p then none else some (lastFrameResult env s p)
  | _, _, _ => none

/-- What the start of a transaction meets: the limits, the detained limit an
earlier transaction left, the interpreter's intrinsic gas, whether the callee
is empty, the creation storage gas, the sender's nonce and what pre-execution
journals. -/
structure StartEvent where
  limits : EvmTxRuntimeLimits
  detainedLimit : ℕ
  intrinsicGas : ℕ
  calleeEmpty : Bool
  storageGas : Option ℕ
  nonce : ℕ
  journal : List JournalEntry
  computeGasLimit_u64 : limits.txComputeGasLimit ≤ u64Max

section Start

variable (env : Env)

/-- Of an earlier transaction only the detained limit is left. -/
def leftLimit (ev : StartEvent) : AdditionalLimit :=
  let fresh := AdditionalLimit.new env.spec ev.limits
  { fresh with computeGas := { fresh.computeGas with detainedLimit := ev.detainedLimit } }

/-- `on_new_tx`, behind its guard: from MINI_REX on. -/
def onNewTx (ev : StartEvent) : AdditionalLimit := (leftLimit env ev).reset.beforeTxStart env.tx

def checkTxBeneficiaryAccess (t : VolatileDataAccessTracker) : VolatileDataAccessTracker :=
  let t := if env.tx.caller = env.beneficiary then t.markBeneficiaryBalanceAccessed else t
  match env.tx.kind with
  | .call recipient => if recipient = env.beneficiary then t.markBeneficiaryBalanceAccessed else t
  | .create => t

def initialGas (ev : StartEvent) : ℕ :=
  ev.intrinsicGas + constants.CALLDATA_STANDARD_TOKEN_STORAGE_GAS * env.tx.tokensInCalldata +
    if env.spec.isEnabled .rex then constants.TX_INTRINSIC_STORAGE_GAS else 0

def creationStorageGas (ev : StartEvent) : Option ℕ :=
  match env.tx.kind with
  | .create => ev.storageGas
  | .call _ => if env.tx.value != 0 && ev.calleeEmpty then ev.storageGas else some 0

def firstFrameInput (gasLimit : ℕ) : FrameInput :=
  match env.tx.kind with
  | .call target => .call ⟨.call, env.tx.caller, target, .transfer env.tx.value, env.tx.input, gasLimit⟩
  | .create => .create ⟨gasLimit⟩

/-- `before_run`, `validate`, `pre_execution` and `before_execution`; `none` is
a validation error. The sender's nonce is bumped here for calls only. -/
def start (ev : StartEvent) : Option State :=
  if initialGas env ev > env.tx.gasLimit then none
  else (creationStorageGas env ev).map fun storageGas =>
    let s : State :=
      { limit := (onNewTx env ev).recordComputeGas ev.intrinsicGas
        volatile := checkTxBeneficiaryAccess env
          (.new ev.limits.blockEnvAccessComputeGasLimit ev.limits.oracleAccessComputeGasLimit)
        frames := []
        journal := ev.journal
        senderNonce := match env.tx.kind with
          | .call _ => ev.nonce + 1
          | .create => ev.nonce
        phase := .run }
    if env.tx.gasLimit < initialGas env ev + storageGas then
      { s with phase := .done ⟨⟨decide (env.tx.kind = .create),
        ⟨.outOfGas, [], .newSpent env.tx.gasLimit⟩⟩, ev.journal⟩ }
    else
      let gasLimit := env.tx.gasLimit - (initialGas env ev + storageGas)
      { s with phase := .init (firstFrameInput env gasLimit) }

end Start

def execute (env : Env) (ev : StartEvent) (es : List Event) : Option State :=
  (start env ev).bind fun s₀ => Run.run (step env) s₀ es

/-- The transaction that starts with `ev` runs through `es` to `s`. -/
def Execution (env : Env) (ev : StartEvent) (es : List Event) (s : State) : Prop :=
  ∃ s₀, start env ev = some s₀ ∧ Run.run (step env) s₀ es = some s

theorem execution_iff {env : Env} {ev : StartEvent} {es : List Event} {s : State} :
    Execution env ev es s ↔ execute env ev es = some s := by
  simp [Execution, execute, Option.bind_eq_some_iff]

theorem exists_execution {α : Type} {env : Env} {ev : StartEvent} {es : List Event}
    {f : State → α} {y : α} (h : (execute env ev es).map f = some y) :
    ∃ s, Execution env ev es s ∧ f s = y := by
  rw [Option.map_eq_some_iff] at h
  obtain ⟨s, hs, hy⟩ := h
  exact ⟨s, execution_iff.2 hs, hy⟩

section Sample

def sampleEnv (spec : MegaSpecId) (kind : TxKind) (input : SystemCall) (gasLimit : ℕ) : Env where
  spec := spec
  beneficiary := 1
  tx := ⟨2, kind, 0, input, 0, 0, 0, [], gasLimit⟩
  isDeposit := false
  maxCodeSize := constants.MAX_CONTRACT_SIZE
  sandboxDisabled := false

theorem rex4_computeGas_fits : EvmTxRuntimeLimits.rex4.txComputeGasLimit ≤ u64Max := by
  decide

def sampleStart (limits : EvmTxRuntimeLimits) (h : limits.txComputeGasLimit ≤ u64Max) :
    StartEvent where
  limits := limits
  detainedLimit := limits.txComputeGasLimit
  intrinsicGas := 21000
  calleeEmpty := false
  storageGas := some 0
  nonce := 7
  journal := []
  computeGasLimit_u64 := h

def sampleCreateStart (limits : EvmTxRuntimeLimits) (h : limits.txComputeGasLimit ≤ u64Max) :
    StartEvent :=
  { sampleStart limits h with intrinsicGas := 53000 }

def sampleInit : InitEvent where
  targetEmpty := false
  keyless := .rejected []
  call := .enter
  create := .enter 9
  before := []
  writes := []

/-- A CALL of the cold address 100 with a value: it costs 2600 + 9000 and forwards
500000 gas. -/
def sampleCall : OpEvent where
  opcode := .call
  stack := [500000, 100, 1, 0, 0, 0, 0]
  slot := none
  targetEmpty := some false
  storageGas := none
  hostCalled := true
  inner := .newFrame 11600 500000 (.call ⟨.call, 3, 100, .transfer 1, .other, 0⟩) []

def samplePlain (cost : ℕ) : OpEvent where
  opcode := .plain
  stack := []
  slot := none
  targetEmpty := none
  storageGas := none
  hostCalled := false
  inner := .next cost []
  opens := nofun
  ends := nofun

def samplePushes : List Event := List.replicate 7 (.op (samplePlain 3))

def sampleReturn (output : Bytes) : OpEvent where
  opcode := .plain
  stack := []
  slot := none
  targetEmpty := none
  storageGas := none
  hostCalled := false
  inner := .halt .return output 0 []
  opens := nofun
  ends := fun _ => rfl

end Sample

end MegaEvm
