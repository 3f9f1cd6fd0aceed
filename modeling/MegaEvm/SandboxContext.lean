import MegaEvm.Library.Reading
import MegaEvm.SandboxState
import MegaEvm.AdditionalLimit
import MegaEvm.Access

/-!
# The context of a keyless deployment

The sandbox gets a context of its own, built from the defaults of the spec; the
block, the L1 info and, from Rex4 on, the external environments are copied from
the parent. A standalone execution would run in the parent's own configuration.
An execution asks of its configuration whether it passes the checks of the
transaction and of its creates, what the limits leave, and what an opcode returns;
the sandbox is standalone if the parent would answer what it is asked alike.
-/

set_option autoImplicit false

namespace MegaEvm

open Reading

namespace constants

def ADDITIONAL_INITCODE_SIZE : ℕ := 24 * 1024
def MAX_INITCODE_SIZE : ℕ := MAX_CONTRACT_SIZE + ADDITIONAL_INITCODE_SIZE
def MIN_BUCKET_SIZE : ℕ := 2 ^ 8

end constants

section Context

/-- The configuration; its op spec is the one of the mega spec. What only blob
transactions read is left out. -/
structure CfgEnv where
  chainId : ℕ
  txChainIdCheck : Bool
  limitContractCodeSize : Option ℕ
  limitContractInitcodeSize : Option ℕ
  disableNonceCheck : Bool
  txGasLimitCap : Option ℕ
  memoryLimit : ℕ
  disableBalanceCheck : Bool
  disableBlockGasLimit : Bool
  disableEip3541 : Bool
  disableEip3607 : Bool
  disableBaseFee : Bool
  deriving DecidableEq, Repr

def CfgEnv.sized (cfg : CfgEnv) (spec : MegaSpecId) : CfgEnv :=
  if spec.isEnabled .miniRex then
    { cfg with
      limitContractCodeSize := some constants.MAX_CONTRACT_SIZE
      limitContractInitcodeSize := some constants.MAX_INITCODE_SIZE }
  else cfg

def CfgEnv.sizedIfNone (cfg : CfgEnv) (spec : MegaSpecId) : CfgEnv :=
  if spec.isEnabled .miniRex then
    { cfg with
      limitContractCodeSize := some (cfg.limitContractCodeSize.getD constants.MAX_CONTRACT_SIZE)
      limitContractInitcodeSize :=
        some (cfg.limitContractInitcodeSize.getD constants.MAX_INITCODE_SIZE) }
  else cfg

structure BlockEnv where
  number : ℕ
  beneficiary : Address
  timestamp : ℕ
  gasLimit : ℕ
  basefee : ℕ
  prevrandao : ℕ
  blobGasprice : ℕ
  deriving DecidableEq, Repr

structure ExternalEnvs where
  bucketIdForAccount : Address → ℕ
  bucketIdForSlot : Address → ℕ → ℕ
  getBucketCapacity : ℕ → Option ℕ
  getOracleStorage : ℕ → Option ℕ

def EmptyExternalEnv : ExternalEnvs where
  bucketIdForAccount _ := 0
  bucketIdForSlot _ _ := 0
  getBucketCapacity _ := some constants.MIN_BUCKET_SIZE
  getOracleStorage _ := none

/-- The storage prices, but for the environment they ask. -/
structure DynamicGasCost where
  spec : MegaSpecId
  parentBlock : ℕ
  bucketCostMultipliers : KeyedFold.Map UInt32 UInt64
  deriving DecidableEq

namespace DynamicGasCost

def new (spec : MegaSpecId) (parentBlock : ℕ) : DynamicGasCost := ⟨spec, parentBlock, ∅⟩

def reset (cost : DynamicGasCost) (parentBlock : ℕ) : DynamicGasCost :=
  { cost with
    parentBlock := parentBlock
    bucketCostMultipliers := ∅ }

def onNewBlock (cost : DynamicGasCost) (block : BlockEnv) : DynamicGasCost :=
  cost.reset (block.number - 1)

end DynamicGasCost

/-- `MegaContext`, with the journal and the database of its inner context. -/
structure MegaContext (L1BlockInfo : Type) where
  block : BlockEnv
  cfg : CfgEnv
  chain : L1BlockInfo
  journalState : EvmState
  db : Db
  spec : MegaSpecId
  disableBeneficiary : Bool
  additionalLimit : AdditionalLimit
  externalEnvs : ExternalEnvs
  dynamicStorageGasCost : DynamicGasCost
  volatileDataTracker : VolatileDataAccessTracker
  disableSandbox : Bool

/-- What a context starts from before it is configured. The balance check is on. -/
structure OpDefaults (L1BlockInfo : Type) where
  cfgNewWithSpec : MegaSpecId → CfgEnv
  block : BlockEnv
  chain : L1BlockInfo
  balanceChecked : ∀ spec, (cfgNewWithSpec spec).disableBalanceCheck = false

variable {L1BlockInfo : Type}

namespace MegaContext

def newWithSharedExtEnvs (defaults : OpDefaults L1BlockInfo) (db : Db) (spec : MegaSpecId)
    (externalEnvs : ExternalEnvs) : MegaContext L1BlockInfo :=
  let txLimits := EvmTxRuntimeLimits.fromSpec spec
  { block := defaults.block
    cfg := (defaults.cfgNewWithSpec spec).sized spec
    chain := defaults.chain
    journalState := ∅
    db := db
    spec := spec
    disableBeneficiary := false
    additionalLimit := .new spec txLimits
    externalEnvs := externalEnvs
    dynamicStorageGasCost := .new spec (defaults.block.number - 1)
    volatileDataTracker :=
      .new txLimits.blockEnvAccessComputeGasLimit txLimits.oracleAccessComputeGasLimit
    disableSandbox := false }

def onNewBlock (ctx : MegaContext L1BlockInfo) : MegaContext L1BlockInfo :=
  { ctx with dynamicStorageGasCost :=
      if ctx.spec.isEnabled .miniRex then ctx.dynamicStorageGasCost.onNewBlock ctx.block
      else ctx.dynamicStorageGasCost }

def withBlock (ctx : MegaContext L1BlockInfo) (block : BlockEnv) : MegaContext L1BlockInfo :=
  { ctx with block := block }.onNewBlock

def withChain (ctx : MegaContext L1BlockInfo) (chain : L1BlockInfo) : MegaContext L1BlockInfo :=
  { ctx with chain := chain }

def withCfg (ctx : MegaContext L1BlockInfo) (cfg : CfgEnv) : MegaContext L1BlockInfo :=
  { ctx with cfg := cfg.sizedIfNone ctx.spec }

def withTxRuntimeLimits (ctx : MegaContext L1BlockInfo) (txLimits : EvmTxRuntimeLimits) :
    MegaContext L1BlockInfo :=
  { ctx with
    additionalLimit := .new ctx.spec txLimits
    volatileDataTracker :=
      .new txLimits.blockEnvAccessComputeGasLimit txLimits.oracleAccessComputeGasLimit }

def withSandboxDisabled (ctx : MegaContext L1BlockInfo) (value : Bool) : MegaContext L1BlockInfo :=
  { ctx with disableSandbox := value }

end MegaContext

end Context

section Execution

variable {L1BlockInfo : Type}

/-- The sandbox's transaction: a create with nonce 0 and the gas limit override. -/
structure KeylessTx where
  caller : Address
  value : ℕ
  gasLimit : ℕ
  gasPrice : ℕ
  data : Bytes
  deriving DecidableEq, Repr

inductive Output where
  | call (output : Bytes)
  | create (bytecode : Bytes) (address : Option Address)
  deriving DecidableEq, Repr

inductive ExecutionResult where
  | success (gasUsed : ℕ) (output : Output) (logs : List Bytes)
  | revert (gasUsed : ℕ) (output : Bytes)
  | halt (gasUsed : ℕ) (reason : MegaHaltReason)
  deriving DecidableEq, Repr

namespace ExecutionResult

def isSuccess : ExecutionResult → Bool
  | success .. => true
  | revert .. | halt .. => false

def gasUsed : ExecutionResult → ℕ
  | success gasUsed .. => gasUsed
  | revert gasUsed _ => gasUsed
  | halt gasUsed _ => gasUsed

def logs : ExecutionResult → List Bytes
  | success _ _ logs => logs
  | revert .. | halt .. => []

end ExecutionResult

structure ResultAndState where
  result : ExecutionResult
  state : EvmState
  deriving DecidableEq

inductive KeylessDeployError where
  | malformedEncoding
  | notContractCreation
  | notPreEIP155
  | nonZeroTxNonce (txNonce : ℕ)
  | noEtherTransfer
  | invalidSignature
  | insufficientBalance
  | contractAlreadyExists
  | signerNonceTooHigh (signerNonce : ℕ)
  | executionReverted (gasUsed : ℕ) (output : Bytes)
  | executionHalted (gasUsed : ℕ) (reason : MegaHaltReason)
  | emptyCodeDeployed (gasUsed : ℕ)
  | noContractCreated
  | addressMismatch
  | gasLimitTooLow (txGasLimit providedGasLimit : ℕ)
  | insufficientComputeGas (limit used : ℕ)
  | internalError
  deriving DecidableEq, Repr

inductive SandboxOutcome where
  | success (state : EvmState) (gasUsed : ℕ) (deployAddress : Address) (logs : List Bytes)
  | failure (state : EvmState) (error : KeylessDeployError)
  deriving DecidableEq

/-- `none` is a transaction that is not valid, or a database error. -/
def processSandboxTransactResult :
    Option ResultAndState → Except KeylessDeployError SandboxOutcome
  | none => .error .internalError
  | some ⟨.success gasUsed (.create bytecode (some address)) logs, state⟩ =>
    if bytecode.isEmpty then .ok (.failure state (.emptyCodeDeployed gasUsed))
    else .ok (.success state gasUsed address logs)
  | some ⟨.success .., _⟩ => .error .noContractCreated
  | some ⟨.revert gasUsed output, state⟩ => .ok (.failure state (.executionReverted gasUsed output))
  | some ⟨.halt gasUsed reason, state⟩ => .ok (.failure state (.executionHalted gasUsed reason))

abbrev Transact (L1BlockInfo : Type) :=
  MegaContext L1BlockInfo → KeylessTx → Option ResultAndState

def KeylessTx.totalCost (tx : KeylessTx) : ℕ := tx.gasLimit * tx.gasPrice + tx.value

def KeylessTx.Affordable (tx : KeylessTx) (db : Db) : Prop :=
  tx.totalCost ≤ uint256Max ∧ tx.totalCost ≤ (db.info tx.caller).balance
  deriving Decidable

/-- A transaction whose caller cannot pay is not valid, unless the check is disabled. -/
def Validates (transact : Transact L1BlockInfo) : Prop :=
  ∀ ctx tx, ctx.cfg.disableBalanceCheck = false → ¬ tx.Affordable ctx.db → transact ctx tx = none

variable (defaults : OpDefaults L1BlockInfo) (ctx : MegaContext L1BlockInfo)

/-- From Rex4 on the environments of the parent, before that the empty one. -/
def sharedExternalEnvs : ExternalEnvs :=
  if ctx.spec.isEnabled .rex4 then ctx.externalEnvs else EmptyExternalEnv

def sandboxContext (signer : Address) : MegaContext L1BlockInfo :=
  let db := sandboxDb ctx.journalState ctx.db (some signer)
  let sandbox := MegaContext.newWithSharedExtEnvs defaults db ctx.spec (sharedExternalEnvs ctx)
  ((sandbox.withBlock ctx.block).withChain ctx.chain).withSandboxDisabled true

def executeKeylessDeploySandbox (transact : Transact L1BlockInfo) (tx : KeylessTx) :
    Except KeylessDeployError SandboxOutcome :=
  if tx.Affordable (sandboxDb ctx.journalState ctx.db (some tx.caller)) then
    processSandboxTransactResult (transact (sandboxContext defaults ctx tx.caller) tx)
  else .error .insufficientBalance

end Execution

section Standalone

variable {L1BlockInfo : Type} (defaults : OpDefaults L1BlockInfo) (ctx : MegaContext L1BlockInfo)

def Db.withNonceOverride (db : Db) (a : Address) : Db :=
  { db with info := Function.update db.info a { db.info a with nonce := 0 } }

/-- A context in the parent's own configuration on the parent's journaled state. A
create is never intercepted, so the interception of sandboxes may be disabled. -/
def standaloneContext (signer : Address) : MegaContext L1BlockInfo :=
  let db := (ctx.db.loaded ctx.journalState).withNonceOverride signer
  let fresh := MegaContext.newWithSharedExtEnvs defaults db ctx.spec (sharedExternalEnvs ctx)
  let configured := (fresh.withCfg ctx.cfg).withTxRuntimeLimits ctx.additionalLimit.limits
  { ((configured.withBlock ctx.block).withChain ctx.chain).withSandboxDisabled true with
    disableBeneficiary := ctx.disableBeneficiary }

def executeStandalone (transact : Transact L1BlockInfo) (tx : KeylessTx) :
    Except KeylessDeployError SandboxOutcome :=
  processSandboxTransactResult (transact (standaloneContext defaults ctx tx.caller) tx)

inductive EnvRead where
  | chainId
  | coinbase
  | timestamp
  | number
  | prevrandao
  | gasLimit
  | baseFee
  | blobBaseFee
  | gasPrice
  | origin
  deriving DecidableEq, Repr

def MegaContext.read (ctx : MegaContext L1BlockInfo) (tx : KeylessTx) : EnvRead → ℕ
  | .chainId => ctx.cfg.chainId
  | .coinbase => ctx.block.beneficiary
  | .timestamp => ctx.block.timestamp
  | .number => ctx.block.number
  | .prevrandao => ctx.block.prevrandao
  | .gasLimit => ctx.block.gasLimit
  | .baseFee => ctx.block.basefee
  | .blobBaseFee => ctx.block.blobGasprice
  | .gasPrice => tx.gasPrice
  | .origin => tx.caller

/-- What is checked against the configuration. The transaction carries no chain id. -/
inductive CfgCheck where
  | nonce (stateNonce : ℕ)
  | gasLimitCap (gasLimit : ℕ)
  | blockGasLimit (gasLimit : ℕ)
  | balance (cost balance : ℕ)
  | baseFee (gasPrice : ℕ)
  | senderCode (hasCode : Bool)
  | initcodeSize (length : ℕ)
  | codeSize (length : ℕ)
  | codeStart (startsWithEf : Bool)
  | memory (size : ℕ)
  deriving DecidableEq, Repr

/-- Whether a check passes; the nonce of the transaction is 0. -/
def CfgEnv.accepts (cfg : CfgEnv) (block : BlockEnv) : CfgCheck → Bool
  | .nonce stateNonce => cfg.disableNonceCheck || decide (stateNonce = 0)
  | .gasLimitCap gasLimit => cfg.txGasLimitCap.all fun cap => decide (gasLimit ≤ cap)
  | .blockGasLimit gasLimit => cfg.disableBlockGasLimit || decide (gasLimit ≤ block.gasLimit)
  | .balance cost balance =>
    cfg.disableBalanceCheck || decide (cost ≤ uint256Max ∧ cost ≤ balance)
  | .baseFee gasPrice => cfg.disableBaseFee || decide (block.basefee ≤ gasPrice)
  | .senderCode hasCode => cfg.disableEip3607 || !hasCode
  | .initcodeSize length => cfg.limitContractInitcodeSize.all fun limit => decide (length ≤ limit)
  | .codeSize length => cfg.limitContractCodeSize.all fun limit => decide (length ≤ limit)
  | .codeStart startsWithEf => cfg.disableEip3541 || !startsWithEf
  | .memory size => decide (size ≤ cfg.memoryLimit)

/-- What an execution asks of the configuration: what an opcode returns, whether a check
passes, something computed from the limits (that a usage is above one, the budget of a
frame, the cap of an access), and whether the beneficiary is rewarded. -/
inductive ContextQuestion where
  | env (r : EnvRead)
  | check (c : CfgCheck)
  | limits (f : EvmTxRuntimeLimits → ℕ)
  | rewardsBeneficiary

abbrev ContextQuestion.Value : ContextQuestion → Type
  | .env _ => ℕ
  | .check _ => Bool
  | .limits _ => ℕ
  | .rewardsBeneficiary => Bool

def MegaContext.answer (ctx : MegaContext L1BlockInfo) (tx : KeylessTx) :
    World ContextQuestion.Value
  | .env r => ctx.read tx r
  | .check c => ctx.cfg.accepts ctx.block c
  | .limits f => f ctx.additionalLimit.limits
  | .rewardsBeneficiary => !ctx.disableBeneficiary

structure Surroundings (L1BlockInfo : Type) where
  block : BlockEnv
  chain : L1BlockInfo
  db : Db
  spec : MegaSpecId
  externalEnvs : ExternalEnvs
  dynamicStorageGasCost : DynamicGasCost

def MegaContext.surroundings (ctx : MegaContext L1BlockInfo) : Surroundings L1BlockInfo :=
  ⟨ctx.block, ctx.chain, ctx.db, ctx.spec, ctx.externalEnvs, ctx.dynamicStorageGasCost⟩

abbrev Execute (L1BlockInfo : Type) :=
  Surroundings L1BlockInfo → KeylessTx → Prog ContextQuestion.Value (Option ResultAndState)

def Execute.transact (execute : Execute L1BlockInfo) : Transact L1BlockInfo := fun ctx tx =>
  run (ctx.answer tx) (execute ctx.surroundings tx)

/-- What the deployment asks of the sandbox's configuration: that the signer can pay,
and then what the run of the sandbox asks. -/
def asked (execute : Execute L1BlockInfo) (tx : KeylessTx) : List ContextQuestion :=
  let sandbox := sandboxContext defaults ctx tx.caller
  .check (.balance tx.totalCost (sandbox.db.info tx.caller).balance) ::
    if tx.Affordable sandbox.db then
      reads (sandbox.answer tx) (execute sandbox.surroundings tx)
    else []

def AnsweredAlike (execute : Execute L1BlockInfo) (tx : KeylessTx) : Prop :=
  ∀ q ∈ asked defaults ctx execute tx,
    (standaloneContext defaults ctx tx.caller).answer tx q =
      (sandboxContext defaults ctx tx.caller).answer tx q

structure OnDefaults : Prop where
  cfg : ctx.cfg.sizedIfNone ctx.spec = (defaults.cfgNewWithSpec ctx.spec).sized ctx.spec
  limits : ctx.additionalLimit.limits = EvmTxRuntimeLimits.fromSpec ctx.spec
  beneficiary : ctx.disableBeneficiary = false

variable {defaults} {ctx}

theorem sized_balanceCheck (cfg : CfgEnv) (spec : MegaSpecId) :
    (cfg.sized spec).disableBalanceCheck = cfg.disableBalanceCheck := by
  unfold CfgEnv.sized
  split
  · rfl
  · rfl

theorem sandboxDb_override (journal : EvmState) (db : Db) (signer : Address) :
    sandboxDb journal db (some signer) = (db.loaded journal).withNonceOverride signer := by
  have hinfo : (sandboxDb journal db (some signer)).info =
      ((db.loaded journal).withNonceOverride signer).info := by
    ext1 a
    by_cases ha : a = signer
    · subst ha
      simp [sandboxDb, Db.loaded, Db.withNonceOverride]
    · rw [override_info ha]
      simp [Db.withNonceOverride, ha]
  show ({ sandboxDb journal db (some signer) with
    info := (sandboxDb journal db (some signer)).info } : Db) = _
  rw [hinfo]
  rfl

theorem standaloneContext_eq (signer : Address) :
    standaloneContext defaults ctx signer =
      { sandboxContext defaults ctx signer with
        cfg := ctx.cfg.sizedIfNone ctx.spec
        disableBeneficiary := ctx.disableBeneficiary
        additionalLimit := .new ctx.spec ctx.additionalLimit.limits
        volatileDataTracker := .new ctx.additionalLimit.limits.blockEnvAccessComputeGasLimit
          ctx.additionalLimit.limits.oracleAccessComputeGasLimit } := by
  unfold standaloneContext sandboxContext
  rw [sandboxDb_override]
  rfl

theorem sandboxContext_cfg (signer : Address) :
    (sandboxContext defaults ctx signer).cfg =
      (defaults.cfgNewWithSpec ctx.spec).sized ctx.spec := rfl

theorem sandboxContext_limits (signer : Address) :
    (sandboxContext defaults ctx signer).additionalLimit =
        .new ctx.spec (EvmTxRuntimeLimits.fromSpec ctx.spec) ∧
      (sandboxContext defaults ctx signer).volatileDataTracker =
        .new (EvmTxRuntimeLimits.fromSpec ctx.spec).blockEnvAccessComputeGasLimit
          (EvmTxRuntimeLimits.fromSpec ctx.spec).oracleAccessComputeGasLimit ∧
      (sandboxContext defaults ctx signer).disableBeneficiary = false := ⟨rfl, rfl, rfl⟩

theorem sandboxContext_block (signer : Address) :
    (sandboxContext defaults ctx signer).block = ctx.block ∧
      (sandboxContext defaults ctx signer).db =
        sandboxDb ctx.journalState ctx.db (some signer) := ⟨rfl, rfl⟩

theorem contexts_eq_iff (signer : Address) :
    sandboxContext defaults ctx signer = standaloneContext defaults ctx signer ↔
      OnDefaults defaults ctx := by
  obtain ⟨hlimit, hvolatile, hben⟩ := @sandboxContext_limits _ defaults ctx signer
  have hcfg := @sandboxContext_cfg _ defaults ctx signer
  rw [standaloneContext_eq]
  constructor
  · intro heq
    constructor
    · rw [← hcfg]
      exact (congrArg MegaContext.cfg heq).symm
    · have hl := congrArg (fun c => c.additionalLimit.limits) heq
      rw [hlimit] at hl
      exact hl.symm
    · have hb := congrArg MegaContext.disableBeneficiary heq
      rw [hben] at hb
      exact hb.symm
  · intro h
    rw [h.cfg, h.limits, h.beneficiary, ← hcfg, ← hlimit, ← hvolatile, ← hben]

theorem OnDefaults.answeredAlike (h : OnDefaults defaults ctx) (execute : Execute L1BlockInfo)
    (tx : KeylessTx) : AnsweredAlike defaults ctx execute tx := by
  intro q _
  rw [(contexts_eq_iff tx.caller).2 h]

theorem surroundings_standaloneContext (signer : Address) :
    (standaloneContext defaults ctx signer).surroundings =
      (sandboxContext defaults ctx signer).surroundings := by
  rw [standaloneContext_eq]
  rfl

theorem standaloneContext_db (signer : Address) :
    (standaloneContext defaults ctx signer).db = (sandboxContext defaults ctx signer).db := by
  rw [standaloneContext_eq]

/-- A signer who cannot pay is turned away by the standalone execution too, if that has
the balance check on. -/
theorem AnsweredAlike.unpaid {execute : Execute L1BlockInfo} {tx : KeylessTx}
    (h : AnsweredAlike defaults ctx execute tx) (hv : Validates execute.transact)
    (ha : ¬ tx.Affordable (sandboxContext defaults ctx tx.caller).db) :
    execute.transact (standaloneContext defaults ctx tx.caller) tx = none := by
  have hcheck := h _ List.mem_cons_self
  have hon : (sandboxContext defaults ctx tx.caller).cfg.disableBalanceCheck = false := by
    rw [sandboxContext_cfg, sized_balanceCheck]
    exact defaults.balanceChecked ctx.spec
  apply hv
  · simp only [MegaContext.answer, CfgEnv.accepts, hon, Bool.false_or] at hcheck
    unfold KeylessTx.Affordable at ha
    rw [decide_eq_false ha, Bool.or_eq_false_iff] at hcheck
    exact hcheck.1
  · rw [standaloneContext_db]
    exact ha

theorem AnsweredAlike.outcome {execute : Execute L1BlockInfo} {tx : KeylessTx}
    (h : AnsweredAlike defaults ctx execute tx) (hv : Validates execute.transact) :
    (executeKeylessDeploySandbox defaults ctx execute.transact tx).toOption =
      (executeStandalone defaults ctx execute.transact tx).toOption := by
  unfold executeKeylessDeploySandbox executeStandalone
  by_cases ha : tx.Affordable (sandboxContext defaults ctx tx.caller).db
  · have hrun : execute.transact (standaloneContext defaults ctx tx.caller) tx =
        execute.transact (sandboxContext defaults ctx tx.caller) tx := by
      unfold Execute.transact
      rw [surroundings_standaloneContext]
      apply run_congr
      intro q hq
      apply h q
      rw [asked, if_pos ha]
      exact List.mem_cons_of_mem _ hq
    rw [← (sandboxContext_block tx.caller).2, if_pos ha, hrun]
  · rw [← (sandboxContext_block tx.caller).2, if_neg ha, h.unpaid hv ha]
    rfl

end Standalone

section ChainId

def mainnetCfg (chainId : ℕ) : CfgEnv where
  chainId := chainId
  txChainIdCheck := true
  limitContractCodeSize := none
  limitContractInitcodeSize := none
  disableNonceCheck := false
  txGasLimitCap := none
  memoryLimit := 2 ^ 32 - 1
  disableBalanceCheck := false
  disableBlockGasLimit := false
  disableEip3541 := false
  disableEip3607 := false
  disableBaseFee := false

theorem mainnetCfg_balance (_ : MegaSpecId) : (mainnetCfg 1).disableBalanceCheck = false := rfl

def sampleDefaults : OpDefaults Unit where
  cfgNewWithSpec _ := mainnetCfg 1
  block := ⟨0, 0, 1, u64Max, 0, 0, 0⟩
  chain := ()
  balanceChecked := mainnetCfg_balance

def parentContext (chainId : ℕ) : MegaContext Unit where
  block := ⟨12, 1, 1000, 10000000000, 0, 5, 1⟩
  cfg := (mainnetCfg chainId).sizedIfNone .rex4
  chain := ()
  journalState := senderJournal
  db := richDb
  spec := .rex4
  disableBeneficiary := false
  additionalLimit := .new .rex4 .rex4
  externalEnvs := EmptyExternalEnv
  dynamicStorageGasCost := .new .rex4 11
  volatileDataTracker := .new 20000000 20000000
  disableSandbox := false

end ChainId

end MegaEvm
