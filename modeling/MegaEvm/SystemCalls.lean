import MegaEvm.CodeCounting
import MegaEvm.DetentionDelay
import MegaEvm.EvmState
import MegaEvm.FrameBudget
import MegaEvm.SandboxContext
import MegaEvm.SystemCode

/-!
# The calls before a block

Before its first transaction a block calls the history contract with the hash of
its parent and the beacon roots contract with the root of the beacon chain. Both
are calls as any other to the frame loop, with all its metering; what they change
is committed, whatever their result. They complete if 30,000,000 gas cover their
code, the storage gas of the buckets included, and the limits of a transaction
cover what they use.
-/

set_option autoImplicit false

namespace MegaEvm

open AdditionalLimit

namespace constants

def SYSTEM_CALL_GAS_LIMIT : ℕ := 30000000
def SSTORE_SET_STORAGE_GAS : UInt64 := 2000000
def SSTORE_SET_STORAGE_GAS_BASE : UInt64 := 20000
def HISTORY_BUFFER_LENGTH : ℕ := 8191

end constants

def SYSTEM_ADDRESS : Address := 0xfffffffffffffffffffffffffffffffffffffffe
def HISTORY_STORAGE_ADDRESS : Address := 0x0000F90827F1C53a10cb7A02335B175320002935
def BEACON_ROOTS_ADDRESS : Address := 0x000F3df6D732807Ef1319fB7B8bB8522d0Beac02

section Code

/-- The history contract's code for a call of the system address: it stores its
input under the number of the parent block. -/
def historyCode (number parentHash : ℕ) : List SystemOp :=
  [2, 3, 3, 3, 10, 1, 2, 3, 3, 3].map .plain ++ [.blockEnv .blockNumber] ++
    [3, 5].map .plain ++ [.sstore ((number - 1) % constants.HISTORY_BUFFER_LENGTH) parentHash]

/-- The beacon roots contract's code for a call of the system address: it stores the
timestamp and its input in two ring buffers. -/
def beaconRootsCode (timestamp root : ℕ) : List SystemOp :=
  [2, 3, 3, 3, 10, 1, 3].map .plain ++ [.blockEnv .timestamp, .plain 5, .blockEnv .timestamp,
    .plain 3, .sstore (timestamp % constants.HISTORY_BUFFER_LENGTH) timestamp] ++
    [2, 3, 3, 3, 3].map .plain ++
    [.sstore (timestamp % constants.HISTORY_BUFFER_LENGTH + constants.HISTORY_BUFFER_LENGTH) root]

def codeWrites (code : List SystemOp) : List (ℕ × ℕ) :=
  code.filterMap fun
    | .sstore key value => some (key, value)
    | _ => none

end Code

/-- `sstore_set_gas`, for a bucket of that capacity; `u64` arithmetic wraps. -/
def sstoreSetGas (spec : MegaSpecId) (capacity : UInt64) : UInt64 :=
  let multiplier := capacity / UInt64.ofNat constants.MIN_BUCKET_SIZE
  if spec.isEnabled .rex then constants.SSTORE_SET_STORAGE_GAS_BASE * (multiplier - 1)
  else constants.SSTORE_SET_STORAGE_GAS * multiplier

/-- A block and its EVM before the first transaction. `detainedLimit` is what earlier
transactions of the EVM left; `bucketCapacity` is the capacity of a slot's bucket. -/
structure PreBlock where
  spec : MegaSpecId
  beneficiary : Address
  limits : EvmTxRuntimeLimits
  detainedLimit : ℕ
  bucketCapacity : Address → ℕ → Option UInt64
  db : Db
  isPragueActive : Bool
  isCancunActive : Bool
  number : ℕ
  timestamp : ℕ
  parentHash : ℕ
  parentBeaconBlockRoot : Option ℕ
  computeGasLimit_u64 : limits.txComputeGasLimit ≤ u64Max

namespace PreBlock

variable (b : PreBlock)

/-- Only the mega specs meter. -/
def runtimeLimits : EvmTxRuntimeLimits :=
  if b.spec.isEnabled .miniRex then b.limits else .equivalence

theorem runtimeLimits_u64 : b.runtimeLimits.txComputeGasLimit ≤ u64Max := by
  unfold runtimeLimits
  split
  · exact b.computeGasLimit_u64
  · decide

def contract (address : Address) : SystemContract where
  address := address
  slot := b.db.storage address
  sstoreSetStorageGas key :=
    if b.spec.isEnabled .miniRex then
      (b.bucketCapacity address key).map fun capacity => (sstoreSetGas b.spec capacity).toNat
    else some 0

/-- `new_system_tx_with_caller`; its calldata is one word and is not priced. -/
def systemEnv (address : Address) : Env where
  spec := b.spec
  beneficiary := b.beneficiary
  tx := ⟨SYSTEM_ADDRESS, .call address, 0, .other, 32, 0, 0, [], constants.SYSTEM_CALL_GAS_LIMIT⟩
  isDeposit := false
  maxCodeSize := constants.MAX_CONTRACT_SIZE
  sandboxDisabled := false

def systemStart (detainedLimit : ℕ) : StartEvent where
  limits := b.runtimeLimits
  detainedLimit := if b.spec.isEnabled .miniRex then detainedLimit else u64Max
  intrinsicGas := 0
  calleeEmpty := false
  storageGas := some 0
  nonce := 0
  journal := []
  computeGasLimit_u64 := b.runtimeLimits_u64

/-- `run_system_call` up to the execution: nothing is validated, charged or bumped. -/
def systemState (address : Address) (detainedLimit : ℕ) : State where
  limit := onNewTx (b.systemEnv address) (b.systemStart detainedLimit)
  volatile := checkTxBeneficiaryAccess (b.systemEnv address)
    (.new b.runtimeLimits.blockEnvAccessComputeGasLimit
      b.runtimeLimits.oracleAccessComputeGasLimit)
  frames := []
  journal := []
  senderNonce := 0
  phase := .init (firstFrameInput (b.systemEnv address) constants.SYSTEM_CALL_GAS_LIMIT)

end PreBlock

/-- The first frame of a system call touches the contract and runs its code. -/
def enterContract (address : Address) : InitEvent where
  targetEmpty := false
  keyless := .rejected []
  call := .enter
  create := .enter 0
  before := []
  writes := [.accountTouched address]

def finishCall (env : Env) : ℕ → State → Option State
  | 0, s => some s
  | n + 1, s =>
    match s.phase with
    | .done _ => some s
    | _ => (step env s .tau).bind (finishCall env n)

/-- A call before the block: its contract, the code it ran and the state it ended in. -/
structure PreBlockCall where
  address : Address
  code : List SystemOp
  final : State

namespace PreBlockCall

variable (c : PreBlockCall)

def isSuccess : Bool :=
  match c.final.phase with
  | .done p => p.result.instructionResult.isOk
  | _ => false

/-- The slots the journal says were changed; no code writes one twice. -/
def changedSlots (slot : ℕ → ℕ) (journal : List JournalEntry) (address : Address) :
    List (ℕ × ℕ) → EvmStorage
  | [] => ∅
  | (key, value) :: writes =>
    if .storageChanged address key (slot key) ∈ journal then
      (changedSlots slot journal address writes).insert key ⟨slot key, value, 0, false⟩
    else changedSlots slot journal address writes

def state (db : Db) : EvmState :=
  (∅ : EvmState).insert c.address
    { info := db.info c.address
      transactionId := 0
      storage := changedSlots (db.storage c.address) c.final.journal c.address (codeWrites c.code)
      status := { (default : AccountStatus) with
        touched := decide (.accountTouched c.address ∈ c.final.journal) } }

end PreBlockCall

namespace PreBlock

variable (b : PreBlock)

/-- `transact_system_call`; `none` is an error. -/
def transactSystemCall (detainedLimit : ℕ) (address : Address) (code : List SystemOp) :
    Option PreBlockCall :=
  let env := b.systemEnv address
  ((((step env (b.systemState address detainedLimit) (.init (enterContract address))).bind
    fun s => step env s .tau).bind
    fun s => runCode env (b.contract address) code s).bind
    fun s => finishCall env 4 s).map fun s => ⟨address, code, s⟩

def transactBlockhashesContractCall : Option (Option PreBlockCall) :=
  if !b.isPragueActive then some none
  else if b.number = 0 then some none
  else (b.transactSystemCall b.detainedLimit HISTORY_STORAGE_ADDRESS
    (historyCode b.number b.parentHash)).map some

/-- `transact_beacon_root_contract_call`, on the EVM the first call leaves. -/
def transactBeaconRootContractCall (detainedLimit : ℕ) : Option (Option PreBlockCall) :=
  if !b.isCancunActive then some none
  else match b.parentBeaconBlockRoot with
    | none => none
    | some root =>
      if b.number = 0 then
        if root ≠ 0 then none else some none
      else (b.transactSystemCall detainedLimit BEACON_ROOTS_ADDRESS
        (beaconRootsCode b.timestamp root)).map some

def detainedLeft : Option PreBlockCall → ℕ
  | some c => c.final.limit.computeGas.detainedLimit
  | none => b.detainedLimit

/-- The calls of `pre_execution_changes`; the contracts it deploys are other accounts. -/
def preExecutionCalls : Option (List PreBlockCall) :=
  b.transactBlockhashesContractCall.bind fun blockhashes =>
    (b.transactBeaconRootContractCall (b.detainedLeft blockhashes)).map fun beaconRoot =>
      blockhashes.toList ++ beaconRoot.toList

def commitSystemCallOutcomes (calls : List PreBlockCall) : Db :=
  (calls.map fun c => c.state b.db).foldl Db.commit b.db

def applyPreExecutionChanges : Option Db := b.preExecutionCalls.map b.commitSystemCallOutcomes

def callsHistory : Bool := b.isPragueActive && b.number != 0

def callsBeaconRoots : Bool := b.isCancunActive && b.number != 0

/-- The calls succeeded, and what they are for is stored. -/
structure Complete (calls : List PreBlockCall) (db : Db) : Prop where
  success : ∀ c ∈ calls, c.isSuccess = true
  history : b.callsHistory = true →
    db.storage HISTORY_STORAGE_ADDRESS ((b.number - 1) % constants.HISTORY_BUFFER_LENGTH) =
      b.parentHash
  beaconRoots : b.callsBeaconRoots = true → ∀ root ∈ b.parentBeaconBlockRoot,
    db.storage BEACON_ROOTS_ADDRESS (b.timestamp % constants.HISTORY_BUFFER_LENGTH) =
        b.timestamp ∧
      db.storage BEACON_ROOTS_ADDRESS
        (b.timestamp % constants.HISTORY_BUFFER_LENGTH + constants.HISTORY_BUFFER_LENGTH) = root

def callUsage (detainedLimit : ℕ) (address : Address) (code : List SystemOp) : Usage :=
  (Usage.initial (b.systemEnv address) (b.systemStart detainedLimit)).through (b.contract address)
    (b.systemEnv address) (b.systemStart detainedLimit) code

/-- The gas limit covers the code and its storage gas, the limits cover its usage. -/
structure Covers (detainedLimit : ℕ) (address : Address) (code : List SystemOp) : Prop where
  gas : (gasThrough (b.contract address) code constants.SYSTEM_CALL_GAS_LIMIT).isSome = true
  usage : (b.callUsage detainedLimit address code).Within (b.systemEnv address)
    (b.systemStart detainedLimit)

def detainedAfterHistory : ℕ :=
  if b.callsHistory then
    (b.callUsage b.detainedLimit HISTORY_STORAGE_ADDRESS
      (historyCode b.number b.parentHash)).detained
  else b.detainedLimit

structure Covered : Prop where
  history : b.callsHistory = true →
    b.Covers b.detainedLimit HISTORY_STORAGE_ADDRESS (historyCode b.number b.parentHash)
  beaconRoots : b.callsBeaconRoots = true → ∀ root ∈ b.parentBeaconBlockRoot,
    b.Covers b.detainedAfterHistory BEACON_ROOTS_ADDRESS (beaconRootsCode b.timestamp root)

end PreBlock

section Opening

variable {env : Env} {ev : StartEvent} {i : CallInputs} {s s' : State} {x : SystemContract}

theorem settled_unopened {ι : Type} {t : FrameLimitTracker ι} (rex4 : Bool)
    (hf : t.frameStack = []) (h : (if rex4 then 0 else t.netUsage) ≤ t.txLimit) :
    t.Settled rex4 := by
  unfold FrameLimitTracker.Settled
  cases rex4 with
  | true => simp [FrameLimitTracker.TopWithin, hf]
  | false => exact h

theorem settled_newTxTrackers (h : (Usage.initial env ev).Within env ev) :
    (newTxTrackers env ev).Settled := by
  obtain ⟨hdata, hkv, hgrowth, hlimit, -⟩ := start_usage env ev
  have hdataSize := h.dataSize
  have hkvUpdates := h.kvUpdates
  rw [← hdata] at hdataSize
  rw [← hkv] at hkvUpdates
  refine ⟨settled_unopened _ rfl ?_, settled_unopened _ rfl ?_, settled_unopened _ rfl ?_, ?_⟩
  · rw [hgrowth, ite_self]
    exact Nat.zero_le _
  · exact (Nat.le_add_right _ _).trans hdataSize
  · exact (Nat.le_add_right _ _).trans hkvUpdates
  · refine ⟨fun _ => ?_, Nat.zero_le _⟩
    intro e he
    cases he

theorem metered_initial (env : Env) (ev : StartEvent) (target : Address) :
    metered env ev target (Usage.initial env ev) = openedTrackers env ev target := by
  unfold metered Usage.initial
  simp only [Nat.zero_mul, recordDiscardable_zero, ComputeGasTracker.recordGasUsed_zero]
  rfl

theorem openFrame_call (hi : i.transfersValue = false) (te : Bool)
    (hn : (newTxTrackers env ev).checkLimit = newTxTrackers env ev) :
    (onNewTx env ev).openFrame (.call i) te =
      (metered env ev i.targetAddress (Usage.initial env ev)).checkLimit := by
  rw [onNewTx_eq, hn, metered_initial]
  unfold openFrame openedTrackers DataSizeTracker.beforeFrameInit KVUpdateTracker.beforeFrameInit
    AccountTracker.beforeFrameInitBy StateGrowthTracker.beforeFrameInit
  simp only [hi, Bool.false_and, Bool.false_eq_true, if_false]
  rfl

theorem openFrame_initial (hi : i.transfersValue = false) (te : Bool) :
    ((Usage.initial env ev).Within env ev → (onNewTx env ev).openFrame (.call i) te =
      metered env ev i.targetAddress (Usage.initial env ev)) ∧
    (¬ (Usage.initial env ev).Within env ev →
      ((onNewTx env ev).openFrame (.call i) te).exceeded = true) := by
  constructor
  · intro hw
    have hn := checkLimit_eq_self (l := newTxTrackers env ev) rfl (settled_newTxTrackers hw)
    rw [openFrame_call hi te hn, metered_checkLimit hw]
  · intro hw
    by_contra hx
    have hopen : ((onNewTx env ev).openFrame (.call i) te).exceeded = false := by simpa using hx
    have hbefore : (onNewTx env ev).exceeded = false := by
      by_contra hb
      have hsticky : ((onNewTx env ev).openFrame (.call i) te).hasExceededLimit =
          (onNewTx env ev).hasExceededLimit := openFrame_sticky (by simpa using hb)
      rw [exceeded, hsticky] at hopen
      exact hb hopen
    rw [onNewTx_eq, exceeded_eq_false, checkLimit_within_iff] at hbefore
    have hn := checkLimit_eq_self (l := newTxTrackers env ev) rfl hbefore.2
    rw [openFrame_call hi te hn, checkLimit_metered_exceeded] at hopen
    exact hw hopen

theorem dispatch_other (h : i.input = .other) (outcome : KeylessOutcome) :
    dispatchSystemContractInterceptors env s i outcome = .no := by
  simp [dispatchSystemContractInterceptors, isKeylessCall, accessControlIntercept,
    limitControlIntercept, h]

end Opening

section Finish

variable {env : Env} {ev : StartEvent} {s s' : State} {x : SystemContract} {u : Usage}
  {journal : List JournalEntry}

def State.Failed (s : State) : Prop :=
  match s.phase with
  | .action (.return r) => r.result.isOk = false ∧ ∃ f, s.frames = [f] ∧ f.isCreate = false
  | .result p | .handed p => p.result.instructionResult.isOk = false ∧ s.frames = []
  | .last p | .done p => p.result.instructionResult.isOk = false
  | _ => False

theorem actionStep_call {f : Frame} (hf : f.isCreate = false) (r : InterpreterResult) :
    ∃ fr journal', actionStep env s f [] (.return r) =
      { s with
        frames := []
        limit := (s.limit.recordComputeGas 0).tryRescueGas r.gas
        journal := journal'
        phase := .result ⟨fr, f.opened⟩ } ∧
      (r.result.isOk = false → fr.instructionResult.isOk = false) ∧
      (r.result.isOk = true → (s.limit.recordComputeGas 0).exceeded = false →
        fr = ⟨false, r⟩ ∧ journal' = s.journal) := by
  have hprocess : ∃ journal', processReturn env f r s.journal = (⟨false, r⟩, journal') ∧
      (r.result.isOk = true → journal' = s.journal) := by
    unfold processReturn
    rw [hf]
    exact ⟨_, rfl, fun hok => if_pos hok⟩
  obtain ⟨journal', hprocess, hkept⟩ := hprocess
  have hgas : r.gas.remaining - (⟨false, r⟩ : FrameResult).gas.remaining = 0 := Nat.sub_self _
  have hrun : actionStep env s f [] (.return r) =
      { s with
        frames := []
        limit := (s.limit.recordComputeGas 0).tryRescueGas r.gas
        journal := journal'
        phase := .result ⟨if (s.limit.recordComputeGas 0).exceeded then
          (⟨false, r⟩ : FrameResult).markAsExceedingLimit
            (s.limit.recordComputeGas 0).exceedingInstructionResult []
          else ⟨false, r⟩, f.opened⟩ } := by
    unfold actionStep
    rw [hf, chargeCodeDepositStorage_return, storageCharged_call, afterFrameRunInstructions_call]
    simp only [hprocess, afterFrameRun_eq, hgas]
    rfl
  refine ⟨_, journal', hrun, fun hno => ?_, fun hok hx => ?_⟩
  · split
    · exact exceedingInstructionResult_isOk _
    · exact hno
  · rw [hx]
    exact ⟨rfl, hkept hok⟩

theorem State.Failed.step (h : s.Failed) (hs : MegaEvm.step env s .tau = some s') : s'.Failed := by
  unfold State.Failed at h
  cases hp : s.phase with
  | init | run | interp =>
    rw [hp] at h
    exact h.elim
  | action a =>
    cases a with
    | newFrame input =>
      rw [hp] at h
      exact h.elim
    | «return» r =>
      rw [hp] at h
      obtain ⟨hno, f, hf, hcall⟩ := h
      obtain ⟨fr, journal', hrun, hfail, -⟩ := @actionStep_call env s f hcall r
      rw [step_action hp hf, hrun, Option.some.injEq] at hs
      rw [← hs]
      exact ⟨hfail hno, rfl⟩
  | result p =>
    rw [hp] at h
    rw [of_step_result hp hs]
    exact ⟨beforeFrameReturnResult_failed false h.1, h.2⟩
  | handed p =>
    rw [hp] at h
    rw [of_step_handed hp hs, insertResult_nil env p h.2]
    exact h.1
  | last p =>
    rw [hp] at h
    rw [of_step_last hp hs]
    exact beforeFrameReturnResult_failed true h
  | done p =>
    rw [of_step_done hp] at hs
    cases hs

theorem State.Failed.finishCall (h : s.Failed) {n : ℕ}
    (hs : MegaEvm.finishCall env n s = some s') : s'.Failed := by
  induction n generalizing s with
  | zero =>
    cases hs
    exact h
  | succ n ih =>
    unfold MegaEvm.finishCall at hs
    split at hs
    · cases hs
      exact h
    · obtain ⟨m, hm, hrest⟩ := Option.bind_eq_some_iff.1 hs
      exact ih (h.step hm) hrest

theorem State.Failed.runCode (h : s.Failed) (ops : List SystemOp) :
    MegaEvm.runCode env x ops s = some s := by
  have hinterp : s.phase ≠ .interp := fun hp => by
    unfold State.Failed at h
    rw [hp] at h
    exact h
  cases ops with
  | nil =>
    unfold MegaEvm.runCode
    split
    · next hp => exact absurd hp hinterp
    · rfl
  | cons op ops =>
    unfold MegaEvm.runCode
    split
    · next hp _ => exact absurd hp hinterp
    · rfl

theorem BrokenOff.failed (h : BrokenOff s) : s.Failed := by
  obtain ⟨r, hp, hno⟩ := h.phase
  unfold State.Failed
  rw [hp]
  exact ⟨hno, h.frames⟩

theorem State.Failed.not_success (h : s.Failed) (address : Address) (code : List SystemOp) :
    (⟨address, code, s⟩ : PreBlockCall).isSuccess = false := by
  unfold PreBlockCall.isSuccess
  unfold State.Failed at h
  split
  · next p hp =>
    dsimp only at hp
    rw [hp] at h
    exact h
  · rfl

theorem finishCall_succ {m : State} (n : ℕ) (hp : ∀ p, s.phase ≠ .done p)
    (hs : step env s .tau = some m) : finishCall env (n + 1) s = finishCall env n m := by
  rw [finishCall]
  split
  · next p hdone => exact absurd hdone (hp p)
  · rw [hs, Option.bind_some]

theorem Ending.pending {p q : Pending} (h : Ending s q)
    (hp : s.phase = .result p ∨ s.phase = .handed p ∨ s.phase = .last p ∨ s.phase = .done p) :
    q = p := by
  cases h with
  | result hq | handed hq | last hq | done hq =>
    rw [hq] at hp
    simpa using hp

theorem State.Left.isOk {p : Pending} (h : s.Left (some ([], false)))
    (hp : s.phase = .result p ∨ s.phase = .handed p ∨ s.phase = .last p ∨ s.phase = .done p) :
    p.result.instructionResult.isOk = true := by
  obtain ⟨-, q, hend, hcon⟩ := h
  rw [← hend.pending hp]
  exact Succeeded.isOk hcon

theorem isFatal_of_isOk {p : Pending} (h : p.result.instructionResult.isOk = true) :
    isFatal p = false := by
  unfold isFatal
  cases hr : p.result.instructionResult with
  | fatalExternalError =>
    rw [hr] at h
    cases h
  | _ => rfl

structure Succeeding (env : Env) (s m : State) : Prop where
  left : m.Left (some ([], false))
  sound : Sound env m
  journal : m.journal = s.journal
  detained : m.limit.computeGas.detainedLimit = s.limit.computeGas.detainedLimit

theorem Succeeding.of_step {m : State} {e : Event} (hleft : s.Left (some ([], false)))
    (hsound : Sound env s) (hs : step env s e = some m) (hj : m.journal = s.journal)
    (hd : m.limit.computeGas.detainedLimit = s.limit.computeGas.detainedLimit) :
    Succeeding env s m :=
  ⟨hleft.step hsound hs, hsound.step hs, hj, hd⟩

theorem State.Left.hand {p : Pending} (h : s.Left (some ([], false))) (hsound : Sound env s)
    (hp : s.phase = .result p) : ∃ m q, MegaEvm.step env s .tau = some m ∧ m.phase = .handed q ∧
      Succeeding env s m :=
  ⟨_, _, step_result hp, rfl, .of_step h hsound (step_result hp) rfl
    (beforeFrameReturnResult_detainedLimit _ _)⟩

theorem State.Left.insert {p : Pending} (h : s.Left (some ([], false))) (hsound : Sound env s)
    (hp : s.phase = .handed p) : ∃ m, MegaEvm.step env s .tau = some m ∧ m.phase = .last p ∧
      Succeeding env s m := by
  have hs : MegaEvm.step env s .tau = some (insertResult env s p) :=
    step_handed hp (isFatal_of_isOk (h.isOk (.inr (.inl hp))))
  rw [insertResult_nil env p h.1] at hs
  exact ⟨_, hs, rfl, .of_step h hsound hs rfl rfl⟩

theorem State.Left.finish {p : Pending} (h : s.Left (some ([], false))) (hsound : Sound env s)
    (hp : s.phase = .last p) : ∃ m q, MegaEvm.step env s .tau = some m ∧ m.phase = .done q ∧
      Succeeding env s m :=
  have hs : MegaEvm.step env s .tau = some (lastFrameResult env s p) :=
    step_last hp (isFatal_of_isOk (h.isOk (.inr (.inr (.inl hp)))))
  ⟨_, _, hs, lastFrameResult_phase _ _ _, .of_step h hsound hs rfl
    (beforeFrameReturnResult_detainedLimit _ _)⟩

theorem Finished.finishCall (h : Finished env ev x u journal s) (hsound : Sound env s) :
    ∃ s' p, finishCall env 4 s = some s' ∧ s'.phase = .done p ∧
      p.result.instructionResult.isOk = true ∧ s'.journal = journal ∧
      s'.limit.computeGas.detainedLimit = u.detained := by
  obtain ⟨gas, hphase⟩ := h.phase
  obtain ⟨f, hf, hcall⟩ := h.frames
  have hrecord : s.limit.recordComputeGas 0 = s.limit := by
    rw [recordComputeGas_zero, h.limit, metered_checkLimit h.within]
  obtain ⟨fr, journal', hrun, -, hkept⟩ := @actionStep_call env s f hcall ⟨.stop, [], gas⟩
  obtain ⟨rfl, rfl⟩ := hkept rfl (by rw [hrecord, h.limit, metered_exceeded])
  rw [hrecord] at hrun
  have hreturned : step env s .tau =
      some (actionStep env s f [] (.return ⟨.stop, [], gas⟩)) := step_action hphase hf
  rw [hrun] at hreturned
  have hleft : State.Left (some ([], false)) { s with
      frames := []
      limit := s.limit.tryRescueGas gas
      phase := .result ⟨⟨false, ⟨.stop, [], gas⟩⟩, f.opened⟩ } := by
    refine ⟨rfl, _, .result rfl, rfl, rfl, fun _ => ?_, fun hp => (by cases hp)⟩
    show (s.limit.tryRescueGas gas).exceeded = false
    rw [exceeded_tryRescueGas, h.limit, metered_checkLimit h.within, metered_exceeded]
  obtain ⟨m₁, p₁, hstep₁, hphase₁, hm₁⟩ := hleft.hand (hsound.step hreturned) rfl
  obtain ⟨m₂, hstep₂, hphase₂, hm₂⟩ := hm₁.left.insert hm₁.sound hphase₁
  obtain ⟨m₃, p₃, hstep₃, hphase₃, hm₃⟩ := hm₂.left.finish hm₂.sound hphase₂
  refine ⟨m₃, p₃, ?_, hphase₃, hm₃.left.isOk (.inr (.inr (.inr hphase₃))), ?_, ?_⟩
  · rw [finishCall_succ 3 (fun p hp => by rw [hphase] at hp; cases hp) hreturned,
      finishCall_succ 2 (fun p hp => by cases hp) hstep₁,
      finishCall_succ 1 (fun p hp => by rw [hphase₁] at hp; cases hp) hstep₂,
      finishCall_succ 0 (fun p hp => by rw [hphase₂] at hp; cases hp) hstep₃]
    rfl
  · rw [hm₃.journal, hm₂.journal, hm₁.journal]
    exact h.journal
  · rw [hm₃.detained, hm₂.detained, hm₁.detained]
    simp [h.limit, metered_computeGas]

end Finish

namespace PreBlock

variable {b : PreBlock} {detainedLimit : ℕ} {address : Address} {code : List SystemOp}

section Call

theorem unhindered_start (b : PreBlock) (detainedLimit : ℕ) (address : Address) :
    Unhindered (b.systemStart detainedLimit) (b.systemState address detainedLimit).volatile := by
  have hnew : Unhindered (b.systemStart detainedLimit)
      (.new b.runtimeLimits.blockEnvAccessComputeGasLimit
        b.runtimeLimits.oracleAccessComputeGasLimit) :=
    ⟨rfl, rfl, fun cap hcap => (by cases hcap)⟩
  show Unhindered _ (checkTxBeneficiaryAccess (b.systemEnv address) _)
  unfold checkTxBeneficiaryAccess
  have hcaller : ∀ v, Unhindered (b.systemStart detainedLimit) v →
      Unhindered (b.systemStart detainedLimit) (if (b.systemEnv address).tx.caller =
        (b.systemEnv address).beneficiary then v.markBeneficiaryBalanceAccessed else v) := by
    intro v hv
    split
    · exact hv.mark .beneficiary
    · exact hv
  show Unhindered _ (if address = (b.systemEnv address).beneficiary then _ else _)
  split
  · exact (hcaller _ hnew).mark .beneficiary
  · exact hcaller _ hnew

theorem sound_systemState (b : PreBlock) (detainedLimit : ℕ) (address : Address) :
    Sound (b.systemEnv address) (b.systemState address detainedLimit) := by
  have hopening := opening_start (b.systemEnv address) (b.systemStart detainedLimit)
  have hrecord : (onNewTx (b.systemEnv address) (b.systemStart detainedLimit)).recordComputeGas 0 =
      onNewTx (b.systemEnv address) (b.systemStart detainedLimit) := by
    rw [recordComputeGas_zero, onNewTx_eq, checkLimit_idem]
  have hintrinsic : (b.systemStart detainedLimit).intrinsicGas = 0 := rfl
  rw [hintrinsic, hrecord] at hopening
  obtain ⟨hspec, -, haligned, hopen⟩ := hopening
  exact ⟨hspec, haligned, hopen, fun _ => rfl⟩

theorem system_opening (ha : address ≠ ORACLE_CONTRACT_ADDRESS) :
    ((Usage.initial (b.systemEnv address) (b.systemStart detainedLimit)).Within
        (b.systemEnv address) (b.systemStart detainedLimit) →
      ∃ s₁ s f, step (b.systemEnv address) (b.systemState address detainedLimit)
          (.init (enterContract address)) = some s₁ ∧
        step (b.systemEnv address) s₁ .tau = some s ∧
        Running (b.systemEnv address) (b.systemStart detainedLimit) (b.contract address)
          (Usage.initial (b.systemEnv address) (b.systemStart detainedLimit))
          constants.SYSTEM_CALL_GAS_LIMIT [.accountTouched address] s f) ∧
    (¬ (Usage.initial (b.systemEnv address) (b.systemStart detainedLimit)).Within
        (b.systemEnv address) (b.systemStart detainedLimit) →
      ∃ s₁, step (b.systemEnv address) (b.systemState address detainedLimit)
          (.init (enterContract address)) = some s₁ ∧ s₁.Failed) := by
  set env := b.systemEnv address with henv
  set ev := b.systemStart detainedLimit with hev
  set s₀ := b.systemState address detainedLimit with hs₀
  let i : CallInputs := ⟨.call, SYSTEM_ADDRESS, address, .transfer 0, .other,
    constants.SYSTEM_CALL_GAS_LIMIT⟩
  have hphase : s₀.phase = .init (.call i) := rfl
  have hdetect : detected env s₀ (.call i) = s₀ :=
    @detectOracle_of_ne env s₀ i ha
  have hno : dispatchSystemContractInterceptors env s₀ i (enterContract address).keyless = .no :=
    dispatch_other rfl _
  obtain ⟨hopen, hrefuse⟩ := @openFrame_initial env ev i rfl
    (enterContract address).targetEmpty
  have hinit : step env s₀ (.init (enterContract address)) =
      frameInit env s₀ (.call i) (enterContract address) := by
    simp only [step, hphase]
  rw [hinit]
  unfold frameInit
  rw [hdetect]
  dsimp only
  rw [hno]
  dsimp only
  constructor
  · intro hw
    have hl : s₀.limit.openFrame (.call i) (enterContract address).targetEmpty =
        metered env ev address (Usage.initial env ev) := hopen hw
    have hbefore : s₀.limit.beforeFrameInit (.call i) (enterContract address).targetEmpty =
        (metered env ev address (Usage.initial env ev), none) := by
      rw [← hl]
      exact beforeFrameInit_within (by rw [hl, metered_exceeded])
    rw [hbefore]
    let f : Frame := ⟨false, address, .new constants.SYSTEM_CALL_GAS_LIMIT, 0, []⟩
    let s₁ : State := { s₀ with
      journal := [.accountTouched address]
      frames := [f]
      limit := metered env ev address (Usage.initial env ev)
      phase := .run }
    have hrun : frameRun s₁ f = { s₁ with phase := .interp } := by
      have hwithin : (metered env ev address (Usage.initial env ev)).checkLimit.exceeded = false :=
        checkLimit_metered_exceeded.2 hw
      have hbeforeRun : s₁.limit.beforeFrameRun f.gas =
          (metered env ev address (Usage.initial env ev), none) := by
        show (metered env ev address (Usage.initial env ev)).beforeFrameRun f.gas = _
        simp only [beforeFrameRun, hwithin, Bool.false_eq_true, if_false]
        rw [metered_checkLimit hw]
      unfold frameRun
      rw [hbeforeRun]
    refine ⟨s₁, { s₁ with phase := .interp }, f, rfl, ?_, rfl, rfl, rfl, ?_⟩
    · rw [@step_run _ s₁ f [] rfl rfl, hrun]
    · exact ⟨rfl, rfl, rfl, rfl, unhindered_start b detainedLimit address⟩
  · intro hw
    have hx : (s₀.limit.openFrame (.call i) (enterContract address).targetEmpty).exceeded = true :=
      hrefuse hw
    rw [beforeFrameInit_exceeded hx]
    exact ⟨_, rfl, exceedingInstructionResult_isOk _⟩

/-- A call ends with a success if it is covered, and with none otherwise. -/
theorem transactSystemCall_spec (ha : address ≠ ORACLE_CONTRACT_ADDRESS) :
    (b.Covers detainedLimit address code → ∃ c,
      b.transactSystemCall detainedLimit address code = some c ∧ c.address = address ∧
      c.code = code ∧ c.isSuccess = true ∧
      c.final.journal = journalAfter (b.contract address) code [.accountTouched address] ∧
      c.final.limit.computeGas.detainedLimit = (b.callUsage detainedLimit address code).detained) ∧
    (¬ b.Covers detainedLimit address code → ∀ c,
      b.transactSystemCall detainedLimit address code = some c → c.isSuccess = false) := by
  obtain ⟨henter, hrefuse⟩ := @system_opening b detainedLimit address ha
  unfold transactSystemCall
  dsimp only
  by_cases hw : (Usage.initial (b.systemEnv address) (b.systemStart detainedLimit)).Within
      (b.systemEnv address) (b.systemStart detainedLimit)
  · obtain ⟨s₁, s, f, hinit, htau, hrunning⟩ := henter hw
    obtain ⟨s', hcode, hfinish, hbreak⟩ := hrunning.runCode code
    rw [hinit, Option.bind_some, htau, Option.bind_some, hcode, Option.bind_some]
    constructor
    · intro hc
      have hsound₁ := (sound_systemState b detainedLimit address).step hinit
      have hsound : Sound (b.systemEnv address) s' :=
        runCode_invariant (fun _ _ _ hm hs => hm.step hs) (hsound₁.step htau) hcode
      obtain ⟨t, p, hdone, hphase, hok, hjournal, hdetained⟩ :=
        (hfinish ⟨hc.gas, hc.usage⟩).finishCall hsound
      rw [hdone]
      refine ⟨⟨address, code, t⟩, rfl, rfl, rfl, ?_, hjournal, hdetained⟩
      simp only [PreBlockCall.isSuccess, hphase, hok]
    · intro hc c hsome
      have hbroken := hbreak fun hp => hc ⟨hp.1, hp.2⟩
      obtain ⟨t, ht, rfl⟩ := Option.map_eq_some_iff.1 hsome
      exact (hbroken.failed.finishCall ht).not_success address code
  · obtain ⟨s₁, hinit, hfailed⟩ := hrefuse hw
    rw [hinit, Option.bind_some]
    constructor
    · intro hc
      exact absurd (hc.usage.anti (Usage.le_through _ _)) hw
    · intro _ c hsome
      obtain ⟨t, ht, rfl⟩ := Option.map_eq_some_iff.1 hsome
      obtain ⟨s', hs', hfinish⟩ := Option.bind_eq_some_iff.1 ht
      obtain ⟨s, htau, hcode⟩ := Option.bind_eq_some_iff.1 hs'
      have hs := hfailed.step htau
      rw [hs.runCode code, Option.some.injEq] at hcode
      rw [← hcode] at hfinish
      exact (hs.finishCall hfinish).not_success address code

theorem transactSystemCall_success (ha : address ≠ ORACLE_CONTRACT_ADDRESS) {c : PreBlockCall}
    (h : b.transactSystemCall detainedLimit address code = some c) :
    c.isSuccess = true ↔ b.Covers detainedLimit address code := by
  obtain ⟨hcovered, hnot⟩ := @transactSystemCall_spec b detainedLimit address code ha
  constructor
  · intro hok
    by_contra hc
    rw [hnot hc c h] at hok
    cases hok
  · intro hc
    obtain ⟨c', hc', -, -, hok, -⟩ := hcovered hc
    rw [h, Option.some.injEq] at hc'
    rw [hc']
    exact hok

end Call

section Commit

variable {db : Db} {c : PreBlockCall} {x : SystemContract} {journal : List JournalEntry}
  {key value : ℕ} {writes : List (ℕ × ℕ)}

theorem mem_journalAfter {ops : List SystemOp} {entry : JournalEntry}
    (h : entry ∈ journal ∨ ∃ op ∈ ops, entry ∈ op.writes x) :
    entry ∈ journalAfter x ops journal := by
  induction ops generalizing journal with
  | nil => simpa [journalAfter] using h
  | cons op ops ih =>
    refine ih ?_
    obtain hj | ⟨op', hop, hw⟩ := h
    · exact .inl (List.mem_append_right _ hj)
    · rcases List.mem_cons.1 hop with rfl | hrest
      · exact .inl (List.mem_append_left _ hw)
      · exact .inr ⟨op', hrest, hw⟩

theorem changed_of_codeWrites (h : (key, value) ∈ codeWrites code)
    (hne : value ≠ x.slot key) :
    .storageChanged x.address key (x.slot key) ∈ journalAfter x code journal := by
  refine mem_journalAfter (.inr ?_)
  obtain ⟨op, hop, hw⟩ := List.mem_filterMap.1 h
  refine ⟨op, hop, ?_⟩
  cases op with
  | plain | blockEnv => cases hw
  | sstore k v =>
    cases hw
    simp [SystemOp.writes, hne]

theorem changedSlots_none (slot : ℕ → ℕ) (h : key ∉ writes.map Prod.fst) :
    (PreBlockCall.changedSlots slot journal address writes).lookup key = none := by
  induction writes with
  | nil => exact AList.lookup_empty key
  | cons w writes ih =>
    obtain ⟨k, v⟩ := w
    rw [List.map_cons, List.mem_cons, not_or] at h
    unfold PreBlockCall.changedSlots
    split
    · rw [AList.lookup_insert_ne h.1]
      exact ih h.2
    · exact ih h.2

theorem changedSlots_mem (slot : ℕ → ℕ) (hn : (writes.map Prod.fst).Nodup)
    (h : (key, value) ∈ writes) :
    ((PreBlockCall.changedSlots slot journal address writes).lookup key).map (·.presentValue) =
      if .storageChanged address key (slot key) ∈ journal then some value else none := by
  induction writes with
  | nil => cases h
  | cons w writes ih =>
    obtain ⟨k, v⟩ := w
    rw [List.map_cons, List.nodup_cons] at hn
    unfold PreBlockCall.changedSlots
    rcases List.mem_cons.1 h with heq | hrest
    · cases heq
      split
      · rw [AList.lookup_insert]
        rfl
      · rw [changedSlots_none slot hn.1]
        rfl
    · have hne : key ≠ k := by
        rintro rfl
        exact hn.1 (List.mem_map.2 ⟨_, hrest, rfl⟩)
      split
      · rw [AList.lookup_insert_ne hne]
        exact ih hn.2 hrest
      · exact ih hn.2 hrest

theorem commit_state_other {a : Address} (hne : a ≠ c.address) :
    (db.commit (c.state b.db)).storage a = db.storage a := by
  have hnone : (c.state b.db).lookup a = none := by
    unfold PreBlockCall.state
    rw [AList.lookup_insert_ne hne]
    exact AList.lookup_empty a
  rw [Db.commit_storage, hnone]

theorem commit_state_stored (hdb : db.storage c.address = b.db.storage c.address)
    (hj : c.final.journal =
      journalAfter (b.contract c.address) c.code [.accountTouched c.address])
    (hn : ((codeWrites c.code).map Prod.fst).Nodup) (h : (key, value) ∈ codeWrites c.code) :
    (db.commit (c.state b.db)).storage c.address key = value := by
  have htouched : .accountTouched c.address ∈ c.final.journal := by
    rw [hj]
    exact mem_journalAfter (.inl (List.mem_singleton_self _))
  have hslot := @changedSlots_mem c.address c.final.journal _ _ _ (b.db.storage c.address) hn h
  have hlookup : (c.state b.db).lookup c.address = some
      { info := b.db.info c.address
        transactionId := 0
        storage := PreBlockCall.changedSlots (b.db.storage c.address) c.final.journal c.address
          (codeWrites c.code)
        status := { (default : AccountStatus) with touched := true } } := by
    unfold PreBlockCall.state
    rw [AList.lookup_insert, decide_eq_true htouched]
  rw [Db.commit_storage, hlookup]
  show (Account.slot _ key).getD (db.storage c.address key) = value
  unfold Account.slot
  dsimp only
  rw [hslot, hdb]
  by_cases hchanged : .storageChanged c.address key (b.db.storage c.address key) ∈ c.final.journal
  · rw [if_pos hchanged]
    rfl
  · rw [if_neg hchanged]
    by_contra hne
    apply hchanged
    rw [hj]
    exact changed_of_codeWrites (x := b.contract c.address) h fun heq => hne heq.symm

end Commit

section Block

variable {calls : List PreBlockCall} {first second : Option PreBlockCall}

theorem blockhashes_cases (h : b.transactBlockhashesContractCall = some first) :
    (b.callsHistory = false ∧ first = none) ∨
    (b.callsHistory = true ∧ ∃ c, first = some c ∧
      b.transactSystemCall b.detainedLimit HISTORY_STORAGE_ADDRESS
        (historyCode b.number b.parentHash) = some c) := by
  unfold transactBlockhashesContractCall at h
  unfold callsHistory
  cases hp : b.isPragueActive with
  | false =>
    rw [hp] at h
    cases h
    exact .inl ⟨rfl, rfl⟩
  | true =>
    rw [hp] at h
    by_cases hz : b.number = 0
    · simp only [hz, Bool.not_true, Bool.false_eq_true, if_false, if_true] at h
      cases h
      exact .inl ⟨by simp [hz], rfl⟩
    · simp only [hz, Bool.not_true, Bool.false_eq_true, if_false] at h
      obtain ⟨c, hc, rfl⟩ := Option.map_eq_some_iff.1 h
      exact .inr ⟨by simp [hz], c, rfl, hc⟩

theorem beaconRoot_cases (h : b.transactBeaconRootContractCall detainedLimit = some second) :
    (b.callsBeaconRoots = false ∧ second = none) ∨
    (b.callsBeaconRoots = true ∧ ∃ root c, b.parentBeaconBlockRoot = some root ∧
      second = some c ∧ b.transactSystemCall detainedLimit BEACON_ROOTS_ADDRESS
        (beaconRootsCode b.timestamp root) = some c) := by
  unfold transactBeaconRootContractCall at h
  unfold callsBeaconRoots
  cases hp : b.isCancunActive with
  | false =>
    rw [hp] at h
    cases h
    exact .inl ⟨rfl, rfl⟩
  | true =>
    rw [hp] at h
    simp only [Bool.not_true, Bool.false_eq_true, if_false] at h
    cases hroot : b.parentBeaconBlockRoot with
    | none =>
      rw [hroot] at h
      cases h
    | some root =>
      rw [hroot] at h
      by_cases hz : b.number = 0
      · simp only [hz, if_true] at h
        split at h
        · cases h
        · cases h
          exact .inl ⟨by simp [hz], rfl⟩
      · simp only [hz, if_false] at h
        obtain ⟨c, hc, rfl⟩ := Option.map_eq_some_iff.1 h
        exact .inr ⟨by simp [hz], root, c, rfl, rfl, hc⟩

theorem detainedAfterHistory_eq (h : b.transactBlockhashesContractCall = some first)
    (hc : b.callsHistory = true →
      b.Covers b.detainedLimit HISTORY_STORAGE_ADDRESS (historyCode b.number b.parentHash)) :
    b.detainedLeft first = b.detainedAfterHistory := by
  unfold detainedAfterHistory
  rcases blockhashes_cases h with ⟨hno, rfl⟩ | ⟨hyes, c, rfl, hcall⟩
  · rw [hno]
    rfl
  · obtain ⟨c', hcall', -, -, -, -, hdetained⟩ := (transactSystemCall_spec (by decide)).1 (hc hyes)
    rw [hcall, Option.some.injEq] at hcall'
    rw [hyes, hcall']
    exact hdetained

theorem covered_stored {db : Db} {c : PreBlockCall} (ha : address ≠ ORACLE_CONTRACT_ADDRESS)
    (hcall : b.transactSystemCall detainedLimit address code = some c)
    (hc : b.Covers detainedLimit address code) (hn : ((codeWrites code).map Prod.fst).Nodup)
    (hdb : db.storage address = b.db.storage address) :
    c.isSuccess = true ∧ c.address = address ∧ ∀ w ∈ codeWrites code,
      (db.commit (c.state b.db)).storage address w.1 = w.2 := by
  obtain ⟨c', hcall', haddress, hcode, hok, hjournal, -⟩ := (transactSystemCall_spec ha).1 hc
  rw [hcall, Option.some.injEq] at hcall'
  subst hcall'
  subst haddress
  subst hcode
  exact ⟨hok, rfl, fun w hw => commit_state_stored hdb hjournal hn hw⟩

theorem history_committed (h : b.transactBlockhashesContractCall = some first)
    (hc : b.callsHistory = true →
      b.Covers b.detainedLimit HISTORY_STORAGE_ADDRESS (historyCode b.number b.parentHash)) :
    (∀ c ∈ first.toList, c.isSuccess = true) ∧
    (b.commitSystemCallOutcomes first.toList).storage BEACON_ROOTS_ADDRESS =
      b.db.storage BEACON_ROOTS_ADDRESS ∧
    (b.callsHistory = true → (b.commitSystemCallOutcomes first.toList).storage
      HISTORY_STORAGE_ADDRESS ((b.number - 1) % constants.HISTORY_BUFFER_LENGTH) =
        b.parentHash) := by
  rcases blockhashes_cases h with ⟨hno, rfl⟩ | ⟨hyes, c, rfl, hcall⟩
  · refine ⟨fun c hmem => (by cases hmem), rfl, fun hyes => ?_⟩
    rw [hno] at hyes
    cases hyes
  · have hdb : b.db.storage HISTORY_STORAGE_ADDRESS = b.db.storage HISTORY_STORAGE_ADDRESS := rfl
    obtain ⟨hok, haddress, hstored⟩ := covered_stored (by decide) hcall (hc hyes)
      (List.nodup_singleton _) hdb
    refine ⟨fun c' hmem => ?_, ?_, fun _ => ?_⟩
    · rw [List.mem_singleton.1 hmem]
      exact hok
    · exact commit_state_other (by rw [haddress]; decide)
    · exact hstored _ (List.mem_singleton_self _)

theorem beaconRoots_committed {db : Db}
    (h : b.transactBeaconRootContractCall detainedLimit = some second)
    (hdb : db.storage BEACON_ROOTS_ADDRESS = b.db.storage BEACON_ROOTS_ADDRESS)
    (hc : b.callsBeaconRoots = true → ∀ root ∈ b.parentBeaconBlockRoot,
      b.Covers detainedLimit BEACON_ROOTS_ADDRESS (beaconRootsCode b.timestamp root)) :
    (∀ c ∈ second.toList, c.isSuccess = true) ∧
    ((second.toList.map fun c => c.state b.db).foldl Db.commit db).storage
      HISTORY_STORAGE_ADDRESS = db.storage HISTORY_STORAGE_ADDRESS ∧
    (b.callsBeaconRoots = true → ∀ root ∈ b.parentBeaconBlockRoot,
      ∀ w ∈ codeWrites (beaconRootsCode b.timestamp root),
        ((second.toList.map fun c => c.state b.db).foldl Db.commit db).storage
          BEACON_ROOTS_ADDRESS w.1 = w.2) := by
  rcases beaconRoot_cases h with ⟨hno, rfl⟩ | ⟨hyes, root, c, hroot, rfl, hcall⟩
  · refine ⟨fun c hmem => (by cases hmem), rfl, fun hyes => ?_⟩
    rw [hno] at hyes
    cases hyes
  · have hn : ((codeWrites (beaconRootsCode b.timestamp root)).map Prod.fst).Nodup := by
      show [b.timestamp % constants.HISTORY_BUFFER_LENGTH,
        b.timestamp % constants.HISTORY_BUFFER_LENGTH + constants.HISTORY_BUFFER_LENGTH].Nodup
      simp [constants.HISTORY_BUFFER_LENGTH]
    obtain ⟨hok, haddress, hstored⟩ := covered_stored (by decide) hcall (hc hyes root hroot) hn hdb
    refine ⟨fun c' hmem => ?_, ?_, fun _ root' hroot' => ?_⟩
    · rw [List.mem_singleton.1 hmem]
      exact hok
    · exact commit_state_other (by rw [haddress]; decide)
    · rw [Option.mem_def, hroot, Option.some.injEq] at hroot'
      rw [← hroot']
      exact hstored

/-- The calls before a block do what they are for exactly if their gas limit and the
limits of a transaction cover them. -/
theorem pre_block_calls_complete_iff (b : PreBlock) (h : b.preExecutionCalls = some calls) :
    b.Complete calls (b.commitSystemCallOutcomes calls) ↔ b.Covered := by
  obtain ⟨first, hfirst, hrest⟩ := Option.bind_eq_some_iff.1 h
  obtain ⟨second, hsecond, rfl⟩ := Option.map_eq_some_iff.1 hrest
  constructor
  · intro hcomplete
    have hhistory : b.callsHistory = true →
        b.Covers b.detainedLimit HISTORY_STORAGE_ADDRESS (historyCode b.number b.parentHash) := by
      intro hyes
      rcases blockhashes_cases hfirst with ⟨hno, -⟩ | ⟨-, c, rfl, hcall⟩
      · rw [hyes] at hno
        cases hno
      · exact (transactSystemCall_success (by decide) hcall).1
          (hcomplete.success c (by simp))
    refine ⟨hhistory, fun hyes root hroot => ?_⟩
    rw [detainedAfterHistory_eq hfirst hhistory] at hsecond
    rcases beaconRoot_cases hsecond with ⟨hno, -⟩ | ⟨-, root', c, hroot', rfl, hcall⟩
    · rw [hyes] at hno
      cases hno
    · rw [Option.mem_def, hroot', Option.some.injEq] at hroot
      rw [← hroot]
      exact (transactSystemCall_success (by decide) hcall).1 (hcomplete.success c (by simp))
  · intro hcovered
    rw [detainedAfterHistory_eq hfirst hcovered.history] at hsecond
    obtain ⟨hok, hbeacon, hhistory⟩ := history_committed hfirst hcovered.history
    obtain ⟨hok', hkept, hroots⟩ := beaconRoots_committed hsecond hbeacon hcovered.beaconRoots
    have hcommit : b.commitSystemCallOutcomes (first.toList ++ second.toList) =
        (second.toList.map fun c => c.state b.db).foldl Db.commit
          (b.commitSystemCallOutcomes first.toList) := by
      unfold commitSystemCallOutcomes
      rw [List.map_append, List.foldl_append]
    rw [hcommit]
    constructor
    · intro c hc
      rcases List.mem_append.1 hc with hc | hc
      · exact hok c hc
      · exact hok' c hc
    · intro hyes
      rw [hkept]
      exact hhistory hyes
    · intro hyes root hroot
      have hstored := hroots hyes root hroot
      have hwrites : codeWrites (beaconRootsCode b.timestamp root) =
          [(b.timestamp % constants.HISTORY_BUFFER_LENGTH, b.timestamp),
            (b.timestamp % constants.HISTORY_BUFFER_LENGTH + constants.HISTORY_BUFFER_LENGTH,
              root)] := rfl
      rw [hwrites] at hstored
      exact ⟨hstored _ List.mem_cons_self, hstored _ (List.mem_cons_of_mem _ List.mem_cons_self)⟩

end Block

section SpecLimits

structure Paid (b : PreBlock) : Prop where
  history : b.callsHistory = true → (gasThrough (b.contract HISTORY_STORAGE_ADDRESS)
    (historyCode b.number b.parentHash) constants.SYSTEM_CALL_GAS_LIMIT).isSome = true
  beaconRoots : b.callsBeaconRoots = true → ∀ root ∈ b.parentBeaconBlockRoot,
    (gasThrough (b.contract BEACON_ROOTS_ADDRESS) (beaconRootsCode b.timestamp root)
      constants.SYSTEM_CALL_GAS_LIMIT).isSome = true

/-- A usage that the default limits of every spec are far above. -/
structure Small (u : Usage) : Prop where
  computeGas : u.computeGas ≤ 100000
  slots : u.slots ≤ 2
  growth : u.growth ≤ 2
  detained : 1000000 ≤ u.detained

theorem runtimeLimits_fromSpec (hl : b.limits = .fromSpec b.spec) :
    b.runtimeLimits = .fromSpec b.spec := by
  unfold runtimeLimits
  split
  · exact hl
  · next hm =>
    cases hs : b.spec with
    | equivalence => rfl
    | _ =>
      rw [hs] at hm
      exact absurd rfl hm

theorem Small.within {u : Usage} (h : Small u) (hl : b.limits = .fromSpec b.spec) :
    u.Within (b.systemEnv address) (b.systemStart detainedLimit) := by
  have hlimits : (b.systemStart detainedLimit).limits = .fromSpec b.spec :=
    runtimeLimits_fromSpec hl
  obtain ⟨hc, hs, hg, hd⟩ := h
  have hsize : intrinsicDataSize (b.systemEnv address) = 182 := rfl
  have hupdates : intrinsicKvUpdates (b.systemEnv address) = 1 := rfl
  have hdata : (if (b.systemEnv address).spec.isEnabled .rex4 then 0 else 182) ≤ 182 := by
    split <;> omega
  have hkv : (if (b.systemEnv address).spec.isEnabled .rex4 then 0 else 1) ≤ 1 := by
    split <;> omega
  have hfloor : 1000 ≤ (EvmTxRuntimeLimits.fromSpec b.spec).txDataSizeLimit ∧
      1000 ≤ (EvmTxRuntimeLimits.fromSpec b.spec).txKvUpdatesLimit ∧
      1000 ≤ (EvmTxRuntimeLimits.fromSpec b.spec).txStateGrowthLimit ∧
      1000000 ≤ (EvmTxRuntimeLimits.fromSpec b.spec).txComputeGasLimit := by
    cases b.spec with
    | _ => decide
  rw [← hlimits] at hfloor
  constructor
  · rw [hsize, constants.STORAGE_SLOT_WRITE_SIZE]
    omega
  · rw [hupdates]
    omega
  · omega
  · rw [le_min_iff]
    omega

theorem sstore_cost_le (x : SystemContract) (key value : ℕ) :
    (SystemOp.sstore key value).cost x ≤ 22100 := by
  show sstoreCost ⟨x.slot key, x.slot key, value⟩ true ≤ 22100
  unfold sstoreCost
  dsimp only
  split
  · decide
  · rw [if_pos rfl]
    split
    · decide
    · decide

theorem detain_large {limits : EvmTxRuntimeLimits} {d gas : ℕ} (rex4 : Bool) (hd : 1000000 ≤ d)
    (hcap : 1000000 ≤ limits.blockEnvAccessComputeGasLimit) :
    1000000 ≤ min d (if rex4 then saturatingAdd gas limits.blockEnvAccessComputeGasLimit
      else limits.blockEnvAccessComputeGasLimit) := by
  rw [le_min_iff]
  refine ⟨hd, ?_⟩
  cases rex4 with
  | true =>
    have hmax : 1000000 ≤ u64Max := by decide
    exact le_min (hcap.trans (Nat.le_add_left _ _)) hmax
  | false => exact hcap

theorem initial_detained (hl : b.limits = .fromSpec b.spec) (hd : 1000000 ≤ detainedLimit) :
    1000000 ≤ (Usage.initial (b.systemEnv address) (b.systemStart detainedLimit)).detained := by
  have hlimits : (b.systemStart detainedLimit).limits = .fromSpec b.spec :=
    runtimeLimits_fromSpec hl
  unfold Usage.initial
  dsimp only
  split
  · rw [hlimits]
    cases b.spec with
    | _ => decide
  · show 1000000 ≤ if b.spec.isEnabled .miniRex then detainedLimit else u64Max
    split
    · exact hd
    · decide

theorem blockEnv_large (hl : b.limits = .fromSpec b.spec) :
    1000000 ≤ (b.systemStart detainedLimit).limits.blockEnvAccessComputeGasLimit := by
  have hlimits : (b.systemStart detainedLimit).limits = .fromSpec b.spec :=
    runtimeLimits_fromSpec hl
  rw [hlimits]
  cases b.spec with
  | _ => decide

theorem small_history (hl : b.limits = .fromSpec b.spec) (hd : 1000000 ≤ detainedLimit)
    (number parentHash : ℕ) :
    Small (b.callUsage detainedLimit HISTORY_STORAGE_ADDRESS (historyCode number parentHash)) := by
  have hcost := sstore_cost_le (b.contract HISTORY_STORAGE_ADDRESS)
    ((number - 1) % constants.HISTORY_BUFFER_LENGTH) parentHash
  constructor
  · show 43 + _ ≤ 100000
    omega
  · show 0 + (if _ then 0 else 1) ≤ 2
    split <;> omega
  · show 0 + (if _ then 1 else 0) ≤ 2
    split <;> omega
  · exact detain_large _ (initial_detained hl hd) (blockEnv_large hl)

theorem small_beaconRoots (hl : b.limits = .fromSpec b.spec) (hd : 1000000 ≤ detainedLimit)
    (timestamp root : ℕ) :
    Small (b.callUsage detainedLimit BEACON_ROOTS_ADDRESS (beaconRootsCode timestamp root)) := by
  have hfirst := sstore_cost_le (b.contract BEACON_ROOTS_ADDRESS)
    (timestamp % constants.HISTORY_BUFFER_LENGTH) timestamp
  have hsecond := sstore_cost_le (b.contract BEACON_ROOTS_ADDRESS)
    (timestamp % constants.HISTORY_BUFFER_LENGTH + constants.HISTORY_BUFFER_LENGTH) root
  constructor
  · show 37 + _ + 2 + 3 + 3 + 3 + 3 + _ ≤ 100000
    omega
  · show 0 + (if _ then 0 else 1) + (if _ then 0 else 1) ≤ 2
    split <;> split <;> omega
  · show 0 + (if _ then 1 else 0) + (if _ then 1 else 0) ≤ 2
    split <;> split <;> omega
  · exact detain_large _ (detain_large _ (initial_detained hl hd) (blockEnv_large hl))
      (blockEnv_large hl)

/-- Under the limits of its spec, detained or not, gas is all a call can run out of. -/
theorem covered_iff_paid (hl : b.limits = .fromSpec b.spec) (hd : 1000000 ≤ b.detainedLimit) :
    b.Covered ↔ b.Paid := by
  have hafter : 1000000 ≤ b.detainedAfterHistory := by
    unfold detainedAfterHistory
    split
    · exact (small_history hl hd b.number b.parentHash).detained
    · exact hd
  constructor
  · intro h
    exact ⟨fun hyes => (h.history hyes).gas, fun hyes root hroot => (h.beaconRoots hyes root hroot).gas⟩
  · intro h
    constructor
    · exact fun hyes => ⟨h.history hyes, (small_history hl hd _ _).within hl⟩
    · exact fun hyes root hroot =>
        ⟨h.beaconRoots hyes root hroot, (small_beaconRoots hl hafter _ _).within hl⟩

end SpecLimits

section Sample

theorem miniRex_computeGasLimit_u64 :
    EvmTxRuntimeLimits.miniRex.txComputeGasLimit ≤ u64Max := by
  decide

def sampleBlock (spec : MegaSpecId) (capacity : UInt64) : PreBlock where
  spec := spec
  beneficiary := 1
  limits := .miniRex
  detainedLimit := EvmTxRuntimeLimits.miniRex.txComputeGasLimit
  bucketCapacity _ _ := some capacity
  db := ⟨fun _ => default, fun _ _ => 0, fun _ => none⟩
  isPragueActive := true
  isCancunActive := true
  number := 1000
  timestamp := 12345
  parentHash := 5
  parentBeaconBlockRoot := some 77
  computeGasLimit_u64 := miniRex_computeGasLimit_u64

/-- Buckets of the minimum size. -/
theorem pre_block_calls_complete_minimum : ∃ calls,
    (sampleBlock .miniRex 256).preExecutionCalls = some calls ∧
      (sampleBlock .miniRex 256).Complete calls
        ((sampleBlock .miniRex 256).commitSystemCallOutcomes calls) := by
  have hsome : (sampleBlock .miniRex 256).preExecutionCalls.isSome = true := by decide
  obtain ⟨calls, hcalls⟩ := Option.isSome_iff_exists.1 hsome
  refine ⟨calls, hcalls, (pre_block_calls_complete_iff _ hcalls).2 ⟨fun _ => ?_, ?_⟩⟩
  · exact ⟨by decide, by decide⟩
  · intro _ root hroot
    cases hroot
    exact ⟨by decide, by decide⟩

/-- In a bucket of 15 times the minimum size a new slot costs all the gas of the call. -/
theorem pre_block_calls_stopped : ¬ ∀ (b : PreBlock) (calls : List PreBlockCall),
    b.preExecutionCalls = some calls →
      b.Complete calls (b.commitSystemCallOutcomes calls) := by
  intro h
  have hrun : (sampleBlock .miniRex 3840).preExecutionCalls.map (fun calls =>
      calls.map PreBlockCall.isSuccess) = some [false, false] := by decide
  obtain ⟨calls, hcalls, hfailed⟩ := Option.map_eq_some_iff.1 hrun
  have hall : ∀ ok ∈ calls.map PreBlockCall.isSuccess, ok = true := by
    intro ok hok
    obtain ⟨c, hc, rfl⟩ := List.mem_map.1 hok
    exact (h _ _ hcalls).success c hc
  rw [hfailed] at hall
  exact absurd (hall false List.mem_cons_self) (by decide)

end Sample

end PreBlock

end MegaEvm
