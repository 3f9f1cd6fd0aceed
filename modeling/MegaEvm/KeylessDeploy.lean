import MegaEvm.CreateRun
import MegaEvm.ReadSet

/-!
# The keyless deploy call

The call as it is executed: the checks in their order, the sandbox, the merge of
its state into the journal, the logs, and the encoded replies. `merged` keeps the
sandbox states that were merged, newest first; nothing reads it. Decoding and
recovering a signed transaction are done outside of the repository.
-/

set_option autoImplicit false

namespace MegaEvm

section Encode

def abiBytes (b : Bytes) : Bytes :=
  abiWord b.length ++ b ++ List.replicate ((32 - b.length % 32) % 32) 0

/-- `encode_error_result`; `message` is the text of an internal error. -/
def encodeErrorResult (message : Bytes) : KeylessDeployError → Bytes
  | .malformedEncoding => [0xae, 0x12, 0x70, 0xd3]
  | .notContractCreation => [0xa5, 0x4f, 0xfa, 0x77]
  | .notPreEIP155 => [0x78, 0x31, 0xfd, 0x0b]
  | .nonZeroTxNonce txNonce => [0x0e, 0x0b, 0xea, 0xbf] ++ abiWord txNonce
  | .noEtherTransfer => NO_ETHER_TRANSFER_REVERT_DATA
  | .invalidSignature => [0x8b, 0xaa, 0x57, 0x9f]
  | .insufficientBalance => [0xf4, 0xd6, 0x78, 0xb8]
  | .contractAlreadyExists => [0xe8, 0xdc, 0x2b, 0xa5]
  | .signerNonceTooHigh signerNonce => [0xdc, 0x77, 0x00, 0x0b] ++ abiWord signerNonce
  | .executionReverted gasUsed output =>
    [0xad, 0x2b, 0xd1, 0xd9] ++ abiWord gasUsed ++ abiWord 64 ++ abiBytes output
  | .executionHalted gasUsed _ => [0xde, 0x97, 0x2b, 0x6e] ++ abiWord gasUsed
  | .emptyCodeDeployed gasUsed => [0x56, 0x11, 0x9d, 0x3c] ++ abiWord gasUsed
  | .noContractCreated => [0x27, 0xba, 0x90, 0x8e]
  | .addressMismatch => [0x4c, 0xd8, 0x7f, 0xb5]
  | .gasLimitTooLow txGasLimit providedGasLimit =>
    [0xca, 0x79, 0xdf, 0xc8] ++ abiWord txGasLimit ++ abiWord providedGasLimit
  | .insufficientComputeGas limit used => insufficientComputeGasRevertData limit used
  | .internalError => [0x7a, 0x66, 0xf7, 0x5e] ++ abiWord 32 ++ abiBytes message

structure KeylessDeployReturn where
  gasUsed : ℕ
  deployedAddress : Address
  errorData : Bytes
  deriving DecidableEq, Repr

def abiEncodeReturns (ret : KeylessDeployReturn) : Bytes :=
  abiWord ret.gasUsed ++ abiWord ret.deployedAddress ++ abiWord 96 ++ abiBytes ret.errorData

theorem abiWord_length (v : ℕ) : (abiWord v).length = 32 := beBytes_length 32 v

theorem abiBytes_length (b : Bytes) : 32 + b.length ≤ (abiBytes b).length := by
  simp [abiBytes, abiWord_length]

theorem encodeErrorResult_ne_nil (message : Bytes) (error : KeylessDeployError) :
    encodeErrorResult message error ≠ [] := by
  cases error with
  | _ => simp [encodeErrorResult, NO_ETHER_TRANSFER_REVERT_DATA, insufficientComputeGasRevertData]

theorem abiEncodeReturns_length (ret : KeylessDeployReturn) :
    (abiEncodeReturns ret).length = 128 ↔ ret.errorData = [] := by
  have hlen : (abiEncodeReturns ret).length = 96 + (abiBytes ret.errorData).length := by
    simp [abiEncodeReturns, abiWord_length]
    omega
  rw [hlen]
  constructor
  · intro h
    have hle := abiBytes_length ret.errorData
    have hzero : ret.errorData.length = 0 := by omega
    exact List.eq_nil_of_length_eq_zero hzero
  · intro h
    rw [h]
    simp [abiBytes, abiWord_length]

end Encode

section Decode

structure TxLegacy where
  chainId : Option ℕ
  nonce : ℕ
  gasPrice : ℕ
  gasLimit : ℕ
  kind : TxKind
  value : ℕ
  input : Bytes
  deriving DecidableEq, Repr

structure SignedTxLegacy where
  tx : TxLegacy
  yParity : Bool
  r : ℕ
  s : ℕ
  deriving DecidableEq, Repr

/-- What the call uses from outside: the RLP decoder, the recovery of a signer, the
address of a contract, the execution of the sandbox, and the text of its errors. -/
structure KeylessHost (L1BlockInfo : Type) where
  rlpDecodeSigned : Bytes → Option SignedTxLegacy
  recoverSigner : SignedTxLegacy → Option Address
  create : Address → ℕ → Address
  defaults : OpDefaults L1BlockInfo
  transact : Transact L1BlockInfo
  message : Bytes

variable {L1BlockInfo : Type} (host : KeylessHost L1BlockInfo)

def decodeKeylessTx (rlpBytes : Bytes) : Except KeylessDeployError SignedTxLegacy :=
  match host.rlpDecodeSigned rlpBytes with
  | none => .error .malformedEncoding
  | some signed =>
    if signed.tx.kind ≠ .create then .error .notContractCreation
    else if signed.tx.chainId.isSome then .error .notPreEIP155
    else .ok signed

def recoverSigner (signed : SignedTxLegacy) : Except KeylessDeployError Address :=
  match host.recoverSigner signed with
  | none => .error .invalidSignature
  | some signer => .ok signer

def calculateKeylessDeployAddress (signer : Address) : Address := host.create signer 0

def MegaContext.getAccountNonce (ctx : MegaContext L1BlockInfo) (address : Address) : ℕ :=
  match ctx.journalState.lookup address with
  | some acc => acc.info.nonce
  | none => (ctx.db.info address).nonce

structure KeylessInput where
  txBytes : Bytes
  gasLimitOverride : ℕ
  deriving DecidableEq, Repr

/-- Steps 5 to 7, for a transaction whose gas limit the override covers. -/
def prepareSandboxTx (ctx : MegaContext L1BlockInfo) (signed : SignedTxLegacy)
    (gasLimit : ℕ) : Except KeylessDeployError KeylessTx :=
  match recoverSigner host signed with
  | .error error => .error error
  | .ok deploySigner =>
    let signerNonce := ctx.getAccountNonce deploySigner
    if signerNonce > 1 then .error (.signerNonceTooHigh signerNonce)
    else if (ctx.db.info (calculateKeylessDeployAddress host deploySigner)).codeHash ≠ KECCAK_EMPTY
    then .error .contractAlreadyExists
    else .ok
      { caller := deploySigner
        value := signed.tx.value
        gasLimit := gasLimit
        gasPrice := signed.tx.gasPrice
        data := signed.tx.input }

/-- Steps 2 to 7. -/
def validateKeylessDeploy (ctx : MegaContext L1BlockInfo) (i : CallInputs) (input : KeylessInput) :
    Except KeylessDeployError KeylessTx :=
  if i.value.get ≠ 0 then .error .noEtherTransfer
  else match decodeKeylessTx host input.txBytes with
    | .error error => .error error
    | .ok signed =>
      let gasLimitOverride := min input.gasLimitOverride u64Max
      if signed.tx.nonce ≠ 0 then .error (.nonZeroTxNonce signed.tx.nonce)
      else if gasLimitOverride < signed.tx.gasLimit then
        .error (.gasLimitTooLow signed.tx.gasLimit gasLimitOverride)
      else prepareSandboxTx host ctx signed gasLimitOverride

end Decode

section Call

variable {L1BlockInfo : Type} (host : KeylessHost L1BlockInfo)

structure KeylessParent (L1BlockInfo : Type) where
  ctx : MegaContext L1BlockInfo
  logs : List Bytes
  merged : List EvmState

/-- `apply_sandbox_state`; `none` is its failed assertion. -/
def KeylessParent.applySandboxState (k : KeylessParent L1BlockInfo) (state : EvmState) :
    Option (KeylessParent L1BlockInfo) :=
  (MegaEvm.applySandboxState k.ctx.journalState state).map fun journal =>
    { k with
      ctx := { k.ctx with journalState := journal }
      merged := state :: k.merged }

def makeError (error : KeylessDeployError) (gas : Gas) : FrameResult :=
  callResult .revert (encodeErrorResult host.message error) gas

def makeSuccess (gasUsed : ℕ) (deployedAddress : Address) (gas : Gas) : FrameResult :=
  callResult .return (abiEncodeReturns ⟨gasUsed, deployedAddress, []⟩) gas

def makeExecutionFailure (gasUsed : ℕ) (error : KeylessDeployError) (gas : Gas) : FrameResult :=
  callResult .return (abiEncodeReturns ⟨gasUsed, 0, encodeErrorResult host.message error⟩) gas

def KeylessParent.finishKeylessDeploy (k : KeylessParent L1BlockInfo) (deployAddress : Address)
    (gas : Gas) :
    Except KeylessDeployError SandboxOutcome → Option (KeylessParent L1BlockInfo × FrameResult)
  | .error error => some (k, makeError host error gas)
  | .ok (.success state gasUsed address logs) =>
    (k.applySandboxState state).map fun k =>
      if address ≠ deployAddress then (k, makeError host .addressMismatch gas)
      else ({ k with logs := k.logs ++ logs }, makeSuccess gasUsed address gas)
  | .ok (.failure state error) =>
    (k.applySandboxState state).map fun k =>
      (k, makeExecutionFailure host error.gasUsed error gas)

/-- Steps 2 to 8. -/
def KeylessParent.deploy (k : KeylessParent L1BlockInfo) (i : CallInputs) (input : KeylessInput)
    (gas : Gas) : Option (KeylessParent L1BlockInfo × FrameResult) :=
  match validateKeylessDeploy host k.ctx i input with
  | .error error => some (k, makeError host error gas)
  | .ok tx =>
    k.finishKeylessDeploy host (calculateKeylessDeployAddress host tx.caller) gas
      (executeKeylessDeploySandbox host.defaults k.ctx host.transact tx)

def KeylessParent.chargeOverhead (k : KeylessParent L1BlockInfo) : KeylessParent L1BlockInfo :=
  if k.ctx.spec.isEnabled .rex3 then
    { k with ctx := { k.ctx with additionalLimit :=
        k.ctx.additionalLimit.recordComputeGas constants.KEYLESS_DEPLOY_OVERHEAD_GAS } }
  else k

/-- `execute_keyless_deploy_call`; `none` is a failed assertion. -/
def KeylessParent.executeKeylessDeployCall (k : KeylessParent L1BlockInfo) (i : CallInputs)
    (input : KeylessInput) : Option (KeylessParent L1BlockInfo × FrameResult) :=
  let makeHalt := callResult .outOfGas [] (.newSpent i.gasLimit)
  match (Gas.new i.gasLimit).recordCost constants.KEYLESS_DEPLOY_OVERHEAD_GAS with
  | none => some (k, makeHalt)
  | some gas =>
    let k := k.chargeOverhead
    if k.ctx.spec.isEnabled .rex3 && k.ctx.additionalLimit.exceeded then
      match k.ctx.additionalLimit.computeGas.checkLimit k.ctx.additionalLimit.rex4 with
      | .withinLimit => none
      | .exceedsLimit _ limit used true =>
        some (k, makeError host (.insufficientComputeGas limit used) gas)
      | .exceedsLimit _ _ _ false => some (k, makeHalt.markAsExceedingLimit .outOfGas [])
    else k.deploy host i input gas

def KeylessParent.finalResult (k : KeylessParent L1BlockInfo) (r : FrameResult) : FrameResult :=
  (k.ctx.additionalLimit.pushEmptyFrame.beforeFrameReturnResult true r).2

end Call

section Refines

variable {L1BlockInfo : Type} {host : KeylessHost L1BlockInfo} {k k' : KeylessParent L1BlockInfo}
  {i : CallInputs} {input : KeylessInput} {gas : Gas} {r : FrameResult} {env : Env} {s : State}

/-- How steps 2 to 8 end: with an error, or with a reply after a merge. -/
inductive Replied (k : KeylessParent L1BlockInfo) (i : CallInputs) (gas : Gas)
    (k' : KeylessParent L1BlockInfo) : FrameResult → Prop
  | rejected {output : Bytes} (hk : k'.merged = k.merged)
      (hv : i.value.get ≠ 0 → output = NO_ETHER_TRANSFER_REVERT_DATA) :
      Replied k i gas k' (callResult .revert output gas)
  | mismatched {output : Bytes} {state : EvmState} (hk : k'.merged = state :: k.merged) :
      Replied k i gas k' (callResult .revert output gas)
  | completed {output : Bytes} {state : EvmState} (hk : k'.merged = state :: k.merged)
      (hv : i.value.get = 0) : Replied k i gas k' (callResult .return output gas)

theorem finish_replied {deployAddress : Address}
    {outcome : Except KeylessDeployError SandboxOutcome} (hv : i.value.get = 0)
    (h : k.finishKeylessDeploy host deployAddress gas outcome = some (k', r)) :
    k'.ctx.additionalLimit = k.ctx.additionalLimit ∧ Replied k i gas k' r := by
  unfold KeylessParent.finishKeylessDeploy KeylessParent.applySandboxState at h
  split at h
  · cases h
    exact ⟨rfl, .rejected rfl fun hne => absurd hv hne⟩
  · simp only [Option.map_map, Option.map_eq_some_iff, Function.comp_apply] at h
    obtain ⟨journal, -, h⟩ := h
    split at h
    · cases h
      exact ⟨rfl, .mismatched rfl⟩
    · cases h
      exact ⟨rfl, .completed rfl hv⟩
  · simp only [Option.map_map, Option.map_eq_some_iff, Function.comp_apply] at h
    obtain ⟨journal, -, h⟩ := h
    cases h
    exact ⟨rfl, .completed rfl hv⟩

theorem deploy_replied (h : k.deploy host i input gas = some (k', r)) :
    k'.ctx.additionalLimit = k.ctx.additionalLimit ∧ Replied k i gas k' r := by
  unfold KeylessParent.deploy at h
  by_cases hv : i.value.get = 0
  · split at h
    · cases h
      exact ⟨rfl, .rejected rfl fun hne => absurd hv hne⟩
    · exact finish_replied hv h
  · have hvalid : validateKeylessDeploy host k.ctx i input = .error .noEtherTransfer := by
      simp [validateKeylessDeploy, hv]
    rw [hvalid] at h
    cases h
    exact ⟨rfl, .rejected rfl fun _ => rfl⟩

theorem chargeOverhead_limit (hspec : env.spec = k.ctx.spec)
    (hl : s.limit = k.ctx.additionalLimit) :
    k.chargeOverhead.ctx.additionalLimit = keylessLimit env s.limit ∧
      k.chargeOverhead.ctx.spec = env.spec ∧ k.chargeOverhead.merged = k.merged := by
  unfold KeylessParent.chargeOverhead keylessLimit
  rw [hspec, hl]
  split
  · exact ⟨rfl, rfl, rfl⟩
  · exact ⟨rfl, rfl, rfl⟩

/-- The call of the frame loop answers as this one does, for an outcome that says
whether the state was merged; a mismatch of addresses apart. -/
theorem executeKeylessDeployCall_refines (hspec : env.spec = k.ctx.spec)
    (hl : s.limit = k.ctx.additionalLimit)
    (h : k.executeKeylessDeployCall host i input = some (k', r))
    (hm : r.instructionResult ≠ .return → k'.merged = k.merged) :
    ∃ outcome s', executeKeylessDeployCall env s i outcome = .answered s' r ∧
      s'.limit = k'.ctx.additionalLimit ∧
      (s'.journal = s.journal ↔ k'.merged = k.merged) := by
  obtain ⟨hlimit, hspec', hmerged⟩ := chargeOverhead_limit hspec hl
  unfold KeylessParent.executeKeylessDeployCall at h
  cases hg : (Gas.new i.gasLimit).recordCost constants.KEYLESS_DEPLOY_OVERHEAD_GAS with
  | none =>
    simp only [hg, Option.some.injEq, Prod.mk.injEq] at h
    obtain ⟨rfl, rfl⟩ := h
    refine ⟨.rejected [], s, ?_, hl, by simp⟩
    simp [executeKeylessDeployCall, hg]
  | some g =>
    obtain ⟨hle, rfl⟩ := Gas.recordCost_eq_some.1 hg
    simp only [hg, hspec', hlimit] at h
    by_cases hx : (env.spec.isEnabled .rex3 && (keylessLimit env s.limit).exceeded) = true
    · simp only [hx, if_true] at h
      split at h
      case h_1 => cases h
      case h_2 hc =>
        cases h
        refine ⟨.rejected [], { s with limit := keylessLimit env s.limit }, ?_, hlimit.symm,
          by simp [hmerged]⟩
        rw [executeKeylessDeployCall_eq _ hle, if_pos hx, hc]
        rfl
      case h_3 hc =>
        cases h
        refine ⟨.rejected [], { s with limit := keylessLimit env s.limit }, ?_, hlimit.symm,
          by simp [hmerged]⟩
        rw [executeKeylessDeployCall_eq _ hle, if_pos hx, hc]
        rfl
    · simp only [hx, if_false, Bool.false_eq_true] at h
      obtain ⟨hlimit', hreply⟩ := deploy_replied h
      rw [hlimit] at hlimit'
      cases hreply with
      | @rejected output hk hv =>
        refine ⟨.rejected output, { s with limit := keylessLimit env s.limit }, ?_,
          hlimit'.symm, by simp [hk, hmerged]⟩
        rw [executeKeylessDeployCall_eq _ hle, if_neg hx]
        by_cases hvalue : i.value.get = 0
        · rw [if_neg (by simpa using hvalue)]
          rfl
        · rw [if_pos (by simpa using hvalue), hv hvalue]
          rfl
      | mismatched hk =>
        have hsame := hm (by simp [callResult, FrameResult.instructionResult])
        rw [hk, hmerged] at hsame
        exact absurd hsame (List.cons_ne_self _ _)
      | @completed output state hk hv =>
        refine ⟨.completed output i.caller s.senderNonce,
          { s with
            limit := keylessLimit env s.limit
            journal := .sandboxMerged :: s.journal }, ?_, hlimit'.symm, ?_⟩
        · rw [executeKeylessDeployCall_eq _ hle, if_neg hx, if_neg (by simpa using hv)]
          simp only [ite_self]
          rfl
        · simp [hk, hmerged]

/-- The transaction of a keyless deployment ends with the result of its call. -/
theorem keyless_transaction (hi : s.phase = .init (.call i)) (hf : s.frames = [])
    (hk : isKeylessCall env s i = true) (hspec : env.spec = k.ctx.spec)
    (hl : s.limit = k.ctx.additionalLimit)
    (h : k.executeKeylessDeployCall host i input = some (k', r))
    (hm : r.instructionResult ≠ .return → k'.merged = k.merged) :
    ∃ outcome, ∀ e : InitEvent, e.keyless = outcome → ∃ s' p,
      Run.run (step env) s [.init e, .tau] = some s' ∧ s'.phase = .done p ∧
        p.result.instructionResult = (k'.finalResult r).instructionResult ∧
        (s'.journal = s.journal ↔ k'.merged = k.merged) := by
  obtain ⟨outcome, s₁, hexec, hlimit, hjournal⟩ := executeKeylessDeployCall_refines hspec hl h hm
  refine ⟨outcome, ?_⟩
  rintro e rfl
  have hkeyless := executeKeylessDeployCall_answered hexec
  have hframes : s₁.frames = [] := by
    cases hkeyless with
    | outOfGas | halted | insufficient | rejected | completed => exact hf
  have hfatal : isFatal ⟨r, s.journal⟩ = false := by
    cases hkeyless with
    | outOfGas | halted | insufficient | rejected | completed => rfl
  have hne : i.targetAddress ≠ ORACLE_CONTRACT_ADDRESS := by
    simp only [isKeylessCall, Bool.and_eq_true, beq_iff_eq] at hk
    rw [hk.1.2]
    decide
  have hinit : frameInit env s (.call i) e =
      some ({ s₁ with limit := s₁.limit.pushEmptyFrame }.answer ⟨r, s.journal⟩) := by
    have hdispatch : dispatchSystemContractInterceptors env s i e.keyless = .answered s₁ r := by
      rw [dispatchSystemContractInterceptors, if_pos hk, hexec]
    unfold frameInit
    simp only [detected, detectOracle_of_ne hne, hdispatch]
  rw [State.answer_last (by exact hframes)] at hinit
  refine ⟨lastFrameResult env { s₁ with
    limit := s₁.limit.pushEmptyFrame
    phase := .last ⟨r, s.journal⟩ } ⟨r, s.journal⟩, _, ?_, lastFrameResult_phase env _ _, ?_,
    hjournal⟩
  · simp [Run.run, step, hi, hinit, hfatal]
  · rw [finalResult_instructionResult, KeylessParent.finalResult, hlimit]

end Refines

end MegaEvm
