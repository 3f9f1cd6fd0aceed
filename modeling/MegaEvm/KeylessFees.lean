import MegaEvm.KeylessOutcomes
import MegaEvm.FloorGas
import MegaEvm.JournalInspect

/-!
# What a keyless deployment costs its signer

The sandbox executes its transaction as any other: it is checked against the
configuration and the block, paid for in advance, run, and settled. The documents
of the call know of the gas price alone. Of the interpreter the handler is built on
only what it promises is used.
-/

set_option autoImplicit false

namespace MegaEvm

section Handler

variable {L1BlockInfo : Type}

/-- How the frames of a transaction end. `paid` is what they took from its caller,
less what they gave to it. -/
structure FramesEnd where
  result : ExecutionResult
  state : EvmState
  paid : ℤ

abbrev RunFrames (L1BlockInfo : Type) :=
  MegaContext L1BlockInfo → KeylessTx → InitialAndFloorGas → FramesEnd

/-- What the handler delegates. The fees are of a transaction in its envelope; those of
an operator, and what the fee recipients are due, depend on an amount of gas. -/
structure OpHandler (L1BlockInfo : Type) where
  validateEnv : MegaContext L1BlockInfo → KeylessTx → Bool
  initialTxGas : MegaContext L1BlockInfo → KeylessTx → InitialAndFloorGas
  calculateTxL1Cost : MegaContext L1BlockInfo → Bytes → ℕ
  operatorFeeCharge : MegaContext L1BlockInfo → Bytes → ℕ → ℕ
  validateAgainstStateAndDeductCaller :
    MegaContext L1BlockInfo → Bytes → KeylessTx → Option Account
  reimburseCaller : MegaContext L1BlockInfo → Bytes → KeylessTx → ℕ → EvmState → EvmState
  rewardBeneficiary : MegaContext L1BlockInfo → Bytes → KeylessTx → ℕ → EvmState → EvmState
  reward : MegaContext L1BlockInfo → Bytes → KeylessTx → ℕ → Address → ℕ

namespace MegaContext

variable (ctx : MegaContext L1BlockInfo) (tx : KeylessTx)

def createEnv : Env where
  spec := ctx.spec
  beneficiary := ctx.block.beneficiary
  tx := ⟨tx.caller, .create, tx.value, .other, tx.data.length, getTokensInCalldata tx.data, 0, [],
    tx.gasLimit⟩
  isDeposit := false
  maxCodeSize := ctx.cfg.limitContractCodeSize.getD 0x6000
  sandboxDisabled := ctx.disableSandbox

/-- `create_contract_gas`, for a bucket that is not cached. -/
def createContractGas (created : Address) : Option ℕ :=
  (ctx.externalEnvs.getBucketCapacity (ctx.externalEnvs.bucketIdForAccount created)).map
    fun capacity => createContractStorageGas ctx.spec (capacity / constants.MIN_BUCKET_SIZE)

def createStart (created : Address) (intrinsicGas : ℕ) : StartEvent where
  limits := { ctx.additionalLimit.limits with
    txComputeGasLimit := min ctx.additionalLimit.limits.txComputeGasLimit u64Max }
  detainedLimit := ctx.additionalLimit.computeGas.detainedLimit
  intrinsicGas := intrinsicGas
  calleeEmpty := true
  storageGas := ctx.createContractGas created
  nonce := 0
  journal := []
  computeGasLimit_u64 := min_le_right _ _

def info (a : Address) : AccountInfo := (ctx.db.loaded ctx.journalState).info a

/-- `before_run` of a create: no callee of the mega system address is whitelisted. -/
def beforeRun : Bool :=
  !(ctx.spec.isEnabled .miniRex && tx.caller == MEGA_SYSTEM_ADDRESS)

end MegaContext

namespace OpHandler

variable (op : OpHandler L1BlockInfo) (create : Address → ℕ → Address) (envelopedTx : Bytes)
  (frames : RunFrames L1BlockInfo) (ctx : MegaContext L1BlockInfo) (tx : KeylessTx)

def validateGas : Except InvalidTransaction InitialAndFloorGas :=
  let gas := op.initialTxGas ctx tx
  validate (ctx.createEnv tx) (ctx.createStart (create tx.caller 0) gas.initialGas) gas.floorGas

/-- `run_without_catch_error` up to the end of its frames; `none` is a transaction that
is not valid. -/
def execute : Option FramesEnd :=
  if ctx.beforeRun tx && op.validateEnv ctx tx then
    match op.validateGas create ctx tx with
    | .error _ => none
    | .ok gas => (op.validateAgainstStateAndDeductCaller ctx envelopedTx tx).map fun caller =>
        frames { ctx with journalState := ctx.journalState.insert tx.caller caller } tx gas
  else none

def rewardUnlessDisabled (gasUsed : ℕ) (state : EvmState) : EvmState :=
  if ctx.disableBeneficiary then state else op.rewardBeneficiary ctx envelopedTx tx gasUsed state

def postExecution (x : FramesEnd) : ResultAndState where
  result := x.result
  state := op.rewardUnlessDisabled envelopedTx ctx tx x.result.gasUsed
    (op.reimburseCaller ctx envelopedTx tx x.result.gasUsed x.state)

def transactRaw : Transact L1BlockInfo := fun ctx tx =>
  (op.execute create envelopedTx frames ctx tx).map (op.postExecution envelopedTx ctx tx)

def fees (gasUsed : ℕ) : ℕ :=
  op.calculateTxL1Cost ctx envelopedTx + op.operatorFeeCharge ctx envelopedTx gasUsed

end OpHandler

/-- What `validate_env` checks of a create with a chain id of 1. -/
structure EnvValid (ctx : MegaContext L1BlockInfo) (tx : KeylessTx) : Prop where
  chainId : ctx.cfg.txChainIdCheck = true → ctx.cfg.chainId = 1
  gasLimitCap : ∀ cap ∈ ctx.cfg.txGasLimitCap, tx.gasLimit ≤ cap
  baseFee : ctx.cfg.disableBaseFee = false → ctx.block.basefee ≤ tx.gasPrice
  blockGasLimit : ctx.cfg.disableBlockGasLimit = false → tx.gasLimit ≤ ctx.block.gasLimit
  initcodeSize : ∀ size ∈ ctx.cfg.limitContractInitcodeSize, tx.data.length ≤ size

instance (ctx : MegaContext L1BlockInfo) (tx : KeylessTx) : Decidable (EnvValid ctx tx) :=
  decidable_of_iff
    ((ctx.cfg.txChainIdCheck = true → ctx.cfg.chainId = 1) ∧
      (∀ cap ∈ ctx.cfg.txGasLimitCap, tx.gasLimit ≤ cap) ∧
      (ctx.cfg.disableBaseFee = false → ctx.block.basefee ≤ tx.gasPrice) ∧
      (ctx.cfg.disableBlockGasLimit = false → tx.gasLimit ≤ ctx.block.gasLimit) ∧
      ∀ size ∈ ctx.cfg.limitContractInitcodeSize, tx.data.length ≤ size)
    ⟨fun ⟨a, b, c, d, e⟩ => ⟨a, b, c, d, e⟩, fun ⟨a, b, c, d, e⟩ => ⟨a, b, c, d, e⟩⟩

/-- An account without code, or that delegates. -/
def MegaContext.CanSend (ctx : MegaContext L1BlockInfo) (a : Address) : Prop :=
  let info := ctx.info a
  let code := info.code.getD ((ctx.db.codeByHash info.codeHash).getD [])
  code = [] ∨ (eip7702Address code).isSome
  deriving Decidable

/-- What is checked of the caller. The fees come on top of what the gas costs. -/
structure CallerValid (fees : ℕ) (ctx : MegaContext L1BlockInfo) (tx : KeylessTx) : Prop where
  code : ctx.cfg.disableEip3607 = false → ctx.CanSend tx.caller
  nonce : ctx.cfg.disableNonceCheck = false → (ctx.info tx.caller).nonce = 0
  balance : ctx.cfg.disableBalanceCheck = false →
    tx.totalCost + fees ≤ (ctx.info tx.caller).balance

instance (fees : ℕ) (ctx : MegaContext L1BlockInfo) (tx : KeylessTx) :
    Decidable (CallerValid fees ctx tx) :=
  decidable_of_iff
    ((ctx.cfg.disableEip3607 = false → ctx.CanSend tx.caller) ∧
      (ctx.cfg.disableNonceCheck = false → (ctx.info tx.caller).nonce = 0) ∧
      (ctx.cfg.disableBalanceCheck = false → tx.totalCost + fees ≤ (ctx.info tx.caller).balance))
    ⟨fun ⟨a, b, c⟩ => ⟨a, b, c⟩, fun ⟨a, b, c⟩ => ⟨a, b, c⟩⟩

structure Credits (due : Address → ℕ) (state state' : EvmState) : Prop where
  loaded : ∀ a acc, state.lookup a = some acc → ∃ acc', state'.lookup a = some acc' ∧
    acc'.info.balance = acc.info.balance + due a ∧
    acc'.isSelfdestructed = acc.isSelfdestructed ∧ acc'.isCreated = acc.isCreated
  new : ∀ a acc', state.lookup a = none → state'.lookup a = some acc' →
    acc'.isSelfdestructed = false

/-- What the interpreter promises. The ether there is fits its word. -/
structure OpHandler.Behaves (op : OpHandler L1BlockInfo) : Prop where
  validatesEnv : ∀ ctx tx, op.validateEnv ctx tx = true ↔ EnvValid ctx tx
  validatesCaller : ∀ ctx env tx,
    (op.validateAgainstStateAndDeductCaller ctx env tx).isSome = true ↔
      CallerValid (op.fees env ctx tx.gasLimit) ctx tx
  deducts : ∀ ctx env tx acc, ctx.cfg.disableBalanceCheck = false →
    op.validateAgainstStateAndDeductCaller ctx env tx = some acc →
    acc.info.balance + (tx.gasLimit * tx.gasPrice + op.fees env ctx tx.gasLimit) =
      (ctx.info tx.caller).balance
  operatorFee : ∀ ctx env gas gas', gas ≤ gas' →
    op.operatorFeeCharge ctx env gas ≤ op.operatorFeeCharge ctx env gas'
  reimburses : ∀ ctx env tx gasUsed state, Credits
    (fun a => if a = tx.caller then tx.gasPrice * (tx.gasLimit - gasUsed) +
        (op.operatorFeeCharge ctx env tx.gasLimit - op.operatorFeeCharge ctx env gasUsed) else 0)
    state (op.reimburseCaller ctx env tx gasUsed state)
  rewards : ∀ ctx env tx gasUsed state,
    Credits (op.reward ctx env tx gasUsed) state (op.rewardBeneficiary ctx env tx gasUsed state)

/-- The frames end with a result of the create, within its gas. The caller is kept, and
what is destroyed was created. -/
structure Ends (tx : KeylessTx) (start : Account) (x : FramesEnd) : Prop where
  gas : x.result.gasUsed ≤ tx.gasLimit
  created : ∀ gasUsed output logs, x.result = .success gasUsed output logs →
    ∃ bytecode a, output = .create bytecode (some a)
  caller : ∃ acc, x.state.lookup tx.caller = some acc ∧ acc.isSelfdestructed = false ∧
    acc.info.balance + x.paid = start.info.balance
  destroyed : ∀ a acc, x.state.lookup a = some acc → acc.isSelfdestructed = true →
    acc.isCreated = true

def Completes (frames : RunFrames L1BlockInfo) : Prop :=
  ∀ ctx tx gas start, ctx.journalState.lookup tx.caller = some start →
    Ends tx start (frames ctx tx gas)

section Facts

variable {op : OpHandler L1BlockInfo} {create : Address → ℕ → Address} {envelopedTx : Bytes}
  {frames : RunFrames L1BlockInfo} {ctx : MegaContext L1BlockInfo} {tx : KeylessTx}
  {due due' : Address → ℕ} {state state' state'' : EvmState}

theorem Credits.refl (state : EvmState) : Credits (fun _ => 0) state state where
  loaded a acc h := ⟨acc, h, rfl, rfl, rfl⟩
  new a acc' hnone h := by
    rw [hnone] at h
    cases h

theorem Credits.trans (h : Credits due state state') (h' : Credits due' state' state'') :
    Credits (fun a => due a + due' a) state state'' where
  loaded a acc hl := by
    obtain ⟨acc', hl', hb, hs, hc⟩ := h.loaded a acc hl
    obtain ⟨acc'', hl'', hb', hs', hc'⟩ := h'.loaded a acc' hl'
    exact ⟨acc'', hl'', by rw [hb', hb, Nat.add_assoc], hs'.trans hs, hc'.trans hc⟩
  new a acc'' hnone hl'' := by
    cases hl' : state'.lookup a with
    | none => exact h'.new a acc'' hl' hl''
    | some acc' =>
      obtain ⟨acc₂, hl₂, -, hs, -⟩ := h'.loaded a acc' hl'
      rw [hl'', Option.some.injEq] at hl₂
      subst hl₂
      rw [hs]
      exact h.new a acc' hnone hl'

theorem Credits.destroyed (h : Credits due state state')
    (hd : ∀ a acc, state.lookup a = some acc → acc.isSelfdestructed = true →
      acc.isCreated = true) {a : Address} {acc' : Account} (hl : state'.lookup a = some acc')
    (hs : acc'.isSelfdestructed = true) : acc'.isCreated = true := by
  cases hl₀ : state.lookup a with
  | none =>
    rw [h.new a acc' hl₀ hl] at hs
    cases hs
  | some acc =>
    obtain ⟨acc₂, hl₂, -, hsame, hc⟩ := h.loaded a acc hl₀
    rw [hl, Option.some.injEq] at hl₂
    subst hl₂
    rw [hc]
    exact hd a acc hl₀ (hsame.symm.trans hs)

/-- What the caller is given back, and what it is due as a recipient of fees. -/
def OpHandler.settled (op : OpHandler L1BlockInfo) (envelopedTx : Bytes)
    (ctx : MegaContext L1BlockInfo) (tx : KeylessTx) (gasUsed : ℕ) (a : Address) : ℕ :=
  (if a = tx.caller then tx.gasPrice * (tx.gasLimit - gasUsed) +
    (op.operatorFeeCharge ctx envelopedTx tx.gasLimit -
      op.operatorFeeCharge ctx envelopedTx gasUsed) else 0) +
    if ctx.disableBeneficiary then 0 else op.reward ctx envelopedTx tx gasUsed a

variable (envelopedTx ctx tx) in
theorem OpHandler.Behaves.settles (h : op.Behaves) (x : FramesEnd) :
    Credits (op.settled envelopedTx ctx tx x.result.gasUsed) x.state
      (op.postExecution envelopedTx ctx tx x).state := by
  refine (h.reimburses ctx envelopedTx tx x.result.gasUsed x.state).trans ?_
  unfold OpHandler.postExecution OpHandler.rewardUnlessDisabled
  cases ctx.disableBeneficiary with
  | true => exact Credits.refl _
  | false => exact h.rewards ctx envelopedTx tx x.result.gasUsed _

structure GasValid (op : OpHandler L1BlockInfo) (create : Address → ℕ → Address)
    (ctx : MegaContext L1BlockInfo) (tx : KeylessTx) : Prop where
  initial : (op.initialTxGas ctx tx).initialGas +
      constants.CALLDATA_STANDARD_TOKEN_STORAGE_GAS * getTokensInCalldata tx.data +
      (if ctx.spec.isEnabled .rex then constants.TX_INTRINSIC_STORAGE_GAS else 0) ≤ tx.gasLimit
  floor : (op.initialTxGas ctx tx).floorGas ≤ tx.gasLimit
  bucket : (ctx.createContractGas (create tx.caller 0)).isSome = true

theorem validateGas_ok (hmini : ctx.spec.isEnabled .miniRex = true) :
    (∃ gas, op.validateGas create ctx tx = .ok gas) ↔ GasValid op create ctx tx := by
  have hspec : (ctx.createEnv tx).spec.isEnabled .miniRex = true := hmini
  unfold OpHandler.validateGas
  simp only [validate_ok hspec]
  constructor
  · rintro ⟨gas, -, hfloor, hinitial, storageGas, hst, -⟩
    exact ⟨hinitial, hfloor, Option.isSome_iff_exists.2 ⟨storageGas, hst⟩⟩
  · rintro ⟨hinitial, hfloor, hbucket⟩
    obtain ⟨storageGas, hst⟩ := Option.isSome_iff_exists.1 hbucket
    have hle : (op.initialTxGas ctx tx).initialGas ≤ tx.gasLimit := by omega
    exact ⟨_, hle, hfloor, hinitial, storageGas, hst, rfl⟩

structure Passes (op : OpHandler L1BlockInfo) (create : Address → ℕ → Address)
    (envelopedTx : Bytes) (ctx : MegaContext L1BlockInfo) (tx : KeylessTx) : Prop where
  sender : tx.caller ≠ MEGA_SYSTEM_ADDRESS
  env : EnvValid ctx tx
  gas : GasValid op create ctx tx
  caller : CallerValid (op.fees envelopedTx ctx tx.gasLimit) ctx tx

structure Starts (op : OpHandler L1BlockInfo) (envelopedTx : Bytes)
    (ctx : MegaContext L1BlockInfo) (tx : KeylessTx) (ctx' : MegaContext L1BlockInfo)
    (start : Account) : Prop where
  caller : ctx'.journalState.lookup tx.caller = some start
  paid : op.validateAgainstStateAndDeductCaller ctx envelopedTx tx = some start

variable (frames) in
theorem OpHandler.Behaves.execute_some (h : op.Behaves)
    (hmini : ctx.spec.isEnabled .miniRex = true) :
    (op.execute create envelopedTx frames ctx tx).isSome = true ↔
      Passes op create envelopedTx ctx tx := by
  have henv := h.validatesEnv ctx tx
  have hsender : ctx.beforeRun tx = true ↔ tx.caller ≠ MEGA_SYSTEM_ADDRESS := by
    simp [MegaContext.beforeRun, hmini]
  have hgas : (∃ gas, op.validateGas create ctx tx = .ok gas) ↔ GasValid op create ctx tx :=
    validateGas_ok hmini
  have hcaller := h.validatesCaller ctx envelopedTx tx
  unfold OpHandler.execute
  constructor
  · intro hsome
    split at hsome
    case isFalse => cases hsome
    case isTrue hv =>
      rw [Bool.and_eq_true] at hv
      split at hsome
      case h_1 => cases hsome
      case h_2 gas hg =>
        rw [Option.isSome_map] at hsome
        exact ⟨hsender.1 hv.1, henv.1 hv.2, hgas.1 ⟨gas, hg⟩, hcaller.1 hsome⟩
  · rintro ⟨hs, hv, hg, hc⟩
    obtain ⟨gas, hg⟩ := hgas.2 hg
    rw [hsender.2 hs, henv.2 hv, Bool.and_self, if_pos rfl, hg, Option.isSome_map]
    exact hcaller.2 hc

theorem execute_starts {x : FramesEnd}
    (hx : op.execute create envelopedTx frames ctx tx = some x) :
    ∃ ctx' start gas, Starts op envelopedTx ctx tx ctx' start ∧ x = frames ctx' tx gas := by
  unfold OpHandler.execute at hx
  split at hx
  case isFalse => cases hx
  case isTrue =>
    split at hx
    case h_1 => cases hx
    case h_2 gas hg =>
      obtain ⟨start, hs, rfl⟩ := Option.map_eq_some_iff.1 hx
      exact ⟨_, start, gas, ⟨AList.lookup_insert _, hs⟩, rfl⟩

/-- A transaction costs its caller the gas it uses and the fees, less what is due to the
caller, and what its frames take. -/
theorem OpHandler.Behaves.charged (h : op.Behaves) (hframes : Completes frames)
    (hbalance : ctx.cfg.disableBalanceCheck = false) {x : FramesEnd}
    (hx : op.execute create envelopedTx frames ctx tx = some x) :
    ∃ acc, (op.postExecution envelopedTx ctx tx x).state.lookup tx.caller = some acc ∧
      acc.isSelfdestructed = false ∧
      acc.info.balance + (x.result.gasUsed * tx.gasPrice +
          op.fees envelopedTx ctx x.result.gasUsed + x.paid) =
        (ctx.info tx.caller).balance +
          if ctx.disableBeneficiary then 0
          else op.reward ctx envelopedTx tx x.result.gasUsed tx.caller := by
  obtain ⟨ctx', start, gas, hstart, rfl⟩ := execute_starts hx
  have hend := hframes ctx' tx gas start hstart.caller
  obtain ⟨acc, hl, hlive, hpaid⟩ := hend.caller
  obtain ⟨acc', hl', hcredited, hs, -⟩ :=
    (h.settles envelopedTx ctx tx (frames ctx' tx gas)).loaded tx.caller acc hl
  have hdeducted := h.deducts ctx envelopedTx tx start hbalance hstart.paid
  have hmono := h.operatorFee ctx envelopedTx _ _ hend.gas
  have hgas : tx.gasPrice * (tx.gasLimit - (frames ctx' tx gas).result.gasUsed) +
      (frames ctx' tx gas).result.gasUsed * tx.gasPrice = tx.gasLimit * tx.gasPrice := by
    rw [Nat.mul_comm tx.gasPrice, ← Nat.add_mul, Nat.sub_add_cancel hend.gas]
  refine ⟨acc', hl', hs.trans hlive, ?_⟩
  simp only [OpHandler.settled, if_true] at hcredited
  unfold OpHandler.fees at hdeducted ⊢
  rw [hcredited, ← hdeducted]
  push_cast [← hpaid]
  omega

end Facts

end Handler

section Deploy

variable {L1BlockInfo : Type} (host : KeylessHost L1BlockInfo) (op : OpHandler L1BlockInfo)
  (frames : RunFrames L1BlockInfo) (k : KeylessParent L1BlockInfo) (i : CallInputs)
  (input : KeylessInput)

/-- The sandbox's transaction is executed in the envelope of the call. -/
def KeylessHost.executing (envelopedTx : Bytes) : KeylessHost L1BlockInfo :=
  { host with transact := op.transactRaw host.create envelopedTx frames }

def KeylessInput.gasLimit : ℕ := min input.gasLimitOverride u64Max

def sandboxTx (signed : SignedTxLegacy) (signer : Address) : KeylessTx where
  caller := signer
  value := signed.tx.value
  gasLimit := input.gasLimit
  gasPrice := signed.tx.gasPrice
  data := signed.tx.input

/-- The validations of the call, for a gas limit and the code hashes of accounts. -/
structure KeylessValid (gasLimit : ℕ) (codeHash : Address → ℕ) (signed : SignedTxLegacy)
    (signer : Address) : Prop where
  noEther : i.value.get = 0
  decoded : host.rlpDecodeSigned input.txBytes = some signed
  create : signed.tx.kind = .create
  preEip155 : signed.tx.chainId = none
  nonce : signed.tx.nonce = 0
  covered : signed.tx.gasLimit ≤ gasLimit
  recovered : host.recoverSigner signed = some signer
  signerNonce : (k.info signer).nonce ≤ 1
  balance : gasLimit * signed.tx.gasPrice + signed.tx.value ≤ (k.info signer).balance
  noCode : codeHash (calculateKeylessDeployAddress host signer) = KECCAK_EMPTY

abbrev KeylessDocumented : SignedTxLegacy → Address → Prop :=
  KeylessValid host k i input input.gasLimitOverride fun a => (k.info a).codeHash

abbrev KeylessChecked : SignedTxLegacy → Address → Prop :=
  KeylessValid host k i input input.gasLimit fun a => (k.ctx.db.info a).codeHash

structure Words : Prop where
  gasLimit : ∀ b signed, host.rlpDecodeSigned b = some signed → signed.tx.gasLimit ≤ u64Max
  balance : ∀ a, (k.info a).balance ≤ uint256Max

variable {host op frames k i input} {signed : SignedTxLegacy} {signer : Address} {tx : KeylessTx}

theorem decodeKeylessTx_ok {b : Bytes} : decodeKeylessTx host b = .ok signed ↔
    host.rlpDecodeSigned b = some signed ∧ signed.tx.kind = .create ∧ signed.tx.chainId = none := by
  unfold decodeKeylessTx
  cases hd : host.rlpDecodeSigned b with
  | none => simp
  | some signed' =>
    by_cases hk : signed'.tx.kind = .create
    · cases hc : signed'.tx.chainId with
      | none =>
        simp only [hk, hc, ne_eq, not_true_eq_false, if_false, Option.isSome_none,
          Bool.false_eq_true, Except.ok.injEq, Option.some.injEq]
        constructor
        · rintro rfl
          exact ⟨rfl, hk, hc⟩
        · intro h
          exact h.1
      | some id =>
        simp only [hk, hc, ne_eq, not_true_eq_false, if_false, Option.isSome_some, if_true,
          reduceCtorEq, Option.some.injEq, false_iff]
        rintro ⟨rfl, -, hnone⟩
        rw [hc] at hnone
        cases hnone
    · simp only [hk, ne_eq, not_false_eq_true, if_true, reduceCtorEq, Option.some.injEq, false_iff]
      rintro ⟨rfl, hcreate, -⟩
      exact hk hcreate

theorem prepareSandboxTx_ok : prepareSandboxTx host k.ctx signed input.gasLimit = .ok tx ↔
    ∃ signer, host.recoverSigner signed = some signer ∧ (k.info signer).nonce ≤ 1 ∧
      (k.ctx.db.info (calculateKeylessDeployAddress host signer)).codeHash = KECCAK_EMPTY ∧
      tx = sandboxTx input signed signer := by
  unfold prepareSandboxTx recoverSigner
  cases hr : host.recoverSigner signed with
  | none => simp
  | some signer =>
    simp only [Option.some.injEq, exists_eq_left', k.info_nonce]
    by_cases hn : k.ctx.getAccountNonce signer > 1
    · simp only [if_pos hn, reduceCtorEq, false_iff]
      rintro ⟨hle, -⟩
      omega
    · rw [if_neg hn]
      by_cases hc :
          (k.ctx.db.info (calculateKeylessDeployAddress host signer)).codeHash = KECCAK_EMPTY
      · simp only [hc, ne_eq, not_true_eq_false, if_false, Except.ok.injEq, true_and]
        constructor
        · rintro rfl
          exact ⟨Nat.le_of_not_lt hn, rfl⟩
        · rintro ⟨-, rfl⟩
          rfl
      · simp [hc]

theorem validateKeylessDeploy_ok : validateKeylessDeploy host k.ctx i input = .ok tx ↔
    i.value.get = 0 ∧ ∃ signed, decodeKeylessTx host input.txBytes = .ok signed ∧
      signed.tx.nonce = 0 ∧ signed.tx.gasLimit ≤ input.gasLimit ∧
      prepareSandboxTx host k.ctx signed input.gasLimit = .ok tx := by
  unfold validateKeylessDeploy
  by_cases hv : i.value.get = 0
  · simp only [hv, ne_eq, not_true_eq_false, if_false, true_and]
    cases hd : decodeKeylessTx host input.txBytes with
    | error error => simp
    | ok signed =>
      simp only [Except.ok.injEq, exists_eq_left']
      by_cases hn : signed.tx.nonce = 0
      · by_cases hg : min input.gasLimitOverride u64Max < signed.tx.gasLimit
        · simp only [hn, not_true_eq_false, if_false, if_pos hg, reduceCtorEq, false_iff]
          rintro ⟨-, hle, -⟩
          exact absurd hg (Nat.not_lt.2 hle)
        · simp only [hn, not_true_eq_false, if_false, if_neg hg, true_and]
          exact (and_iff_right (Nat.not_lt.1 hg)).symm
      · simp [hn]
  · simp [hv]

variable (host k) in
theorem sandboxContext_info (signer : Address) :
    ((sandboxContext host.defaults k.ctx signer).info signer).balance = (k.info signer).balance ∧
      ((sandboxContext host.defaults k.ctx signer).info signer).nonce = 0 := by
  have hinfo : (sandboxContext host.defaults k.ctx signer).info signer =
      (sandboxDb k.ctx.journalState k.ctx.db (some signer)).info signer :=
    (loaded_absent (AList.lookup_empty signer)).1
  rw [hinfo]
  exact ⟨(sandboxDb_info k signer signer).2, by simp [sandboxDb]⟩

theorem checked_iff (hwords : Words host k) :
    (validateKeylessDeploy host k.ctx i input = .ok tx ∧
        tx.Affordable (sandboxDb k.ctx.journalState k.ctx.db (some tx.caller))) ↔
      ∃ signed signer, KeylessChecked host k i input signed signer ∧ tx = sandboxTx input signed signer := by
  rw [validateKeylessDeploy_ok]
  constructor
  · rintro ⟨⟨hv, signed, hd, hn, hg, hp⟩, -, ha⟩
    obtain ⟨hdecoded, hcreate, hchain⟩ := decodeKeylessTx_ok.1 hd
    obtain ⟨signer, hr, hnonce, hcode, rfl⟩ := prepareSandboxTx_ok.1 hp
    rw [(sandboxDb_info k _ _).2] at ha
    exact ⟨signed, signer, ⟨hv, hdecoded, hcreate, hchain, hn, hg, hr, hnonce, ha, hcode⟩, rfl⟩
  · rintro ⟨signed, signer, h, rfl⟩
    have hbalance : (sandboxTx input signed signer).totalCost ≤ (k.info signer).balance := h.balance
    refine ⟨⟨h.noEther, signed, decodeKeylessTx_ok.2 ⟨h.decoded, h.create, h.preEip155⟩, h.nonce,
      h.covered, prepareSandboxTx_ok.2 ⟨signer, h.recovered, h.signerNonce, h.noCode, rfl⟩⟩,
      hbalance.trans (hwords.balance signer), ?_⟩
    rw [(sandboxDb_info k _ _).2]
    exact hbalance

variable (host op frames k i input) in
structure Deploys (k' : KeylessParent L1BlockInfo) (r : FrameResult) (tx : KeylessTx)
    (x : FramesEnd) : Prop where
  runs : SandboxRuns (host.executing op frames input.txBytes) k i input tx
    (op.postExecution input.txBytes (sandboxContext host.defaults k.ctx tx.caller) tx x)
  executed : op.execute host.create input.txBytes frames
    (sandboxContext host.defaults k.ctx tx.caller) tx = some x
  returned : k.executeKeylessDeployCall (host.executing op frames input.txBytes) i input =
    some (k', r)
  merged : ∃ outcome, processSandboxTransactResult (some (op.postExecution input.txBytes
      (sandboxContext host.defaults k.ctx tx.caller) tx x)) = .ok outcome ∧
    k'.merged = outcome.state :: k.merged

variable (host op frames k i input) in
/-- The call deploys exactly when its documented validations hold, and then its signer
pays for the gas it uses at its own price, and what the frames take. -/
structure ExactDeploy : Prop where
  accepts : (∃ k' r tx x, Deploys host op frames k i input k' r tx x) ↔
    ∃ signed signer, KeylessDocumented host k i input signed signer
  charges : ∀ k' r tx x, Deploys host op frames k i input k' r tx x →
    ((k'.info tx.caller).balance : ℤ) + (x.result.gasUsed * tx.gasPrice + x.paid) =
      (k.info tx.caller).balance

variable (host op k input) in
structure Sandboxable (tx : KeylessTx) : Prop where
  overhead : k.ctx.spec.isEnabled .rex3 = true →
    k.chargeOverhead.ctx.additionalLimit.exceeded = false
  passes : Passes op host.create input.txBytes (sandboxContext host.defaults k.ctx tx.caller) tx

variable (host op k i input) in
/-- What is validated passes everything else, the code looked up in the database is that
of the account, a cut override is no cheaper, and the signer earns the fees it pays. -/
structure AsDocumented : Prop where
  accepted : ∀ signed signer, KeylessDocumented host k i input signed signer →
    (k.ctx.db.info (calculateKeylessDeployAddress host signer)).codeHash = KECCAK_EMPTY ∧
      Sandboxable host op k input (sandboxTx input signed signer)
  refused : ∀ signed signer, KeylessChecked host k i input signed signer →
    Sandboxable host op k input (sandboxTx input signed signer) →
    (k.info (calculateKeylessDeployAddress host signer)).codeHash = KECCAK_EMPTY ∧
      input.gasLimitOverride * signed.tx.gasPrice + signed.tx.value ≤ (k.info signer).balance
  fees : ∀ signed signer, KeylessChecked host k i input signed signer →
    Sandboxable host op k input (sandboxTx input signed signer) →
    ∀ gasUsed ≤ input.gasLimit,
      op.fees input.txBytes (sandboxContext host.defaults k.ctx signer) gasUsed =
        op.reward (sandboxContext host.defaults k.ctx signer) input.txBytes
          (sandboxTx input signed signer) gasUsed signer

variable {k' : KeylessParent L1BlockInfo} {r : FrameResult} {x : FramesEnd}

theorem checked_of_documented (hwords : Words host k)
    (h : KeylessDocumented host k i input signed signer)
    (hcode : (k.ctx.db.info (calculateKeylessDeployAddress host signer)).codeHash = KECCAK_EMPTY) :
    KeylessChecked host k i input signed signer := by
  have hle : input.gasLimit ≤ input.gasLimitOverride := min_le_left _ _
  have hcost := Nat.mul_le_mul_right signed.tx.gasPrice hle
  exact
    { noEther := h.noEther
      decoded := h.decoded
      create := h.create
      preEip155 := h.preEip155
      nonce := h.nonce
      covered := le_min h.covered (hwords.gasLimit _ _ h.decoded)
      recovered := h.recovered
      signerNonce := h.signerNonce
      balance := (Nat.add_le_add_right hcost _).trans h.balance
      noCode := hcode }

theorem documented_of_checked (h : KeylessChecked host k i input signed signer)
    (hcode : (k.info (calculateKeylessDeployAddress host signer)).codeHash = KECCAK_EMPTY)
    (hbalance : input.gasLimitOverride * signed.tx.gasPrice + signed.tx.value ≤
      (k.info signer).balance) : KeylessDocumented host k i input signed signer :=
  { noEther := h.noEther
    decoded := h.decoded
    create := h.create
    preEip155 := h.preEip155
    nonce := h.nonce
    covered := h.covered.trans (min_le_left _ _)
    recovered := h.recovered
    signerNonce := h.signerNonce
    balance := hbalance
    noCode := hcode }

theorem KeylessValid.unique {gasLimit gasLimit' : ℕ} {codeHash codeHash' : Address → ℕ}
    {signed' : SignedTxLegacy} {signer' : Address}
    (h : KeylessValid host k i input gasLimit codeHash signed signer)
    (h' : KeylessValid host k i input gasLimit' codeHash' signed' signer') :
    signed' = signed ∧ signer' = signer := by
  have hsigned := h.decoded.symm.trans h'.decoded
  rw [Option.some.injEq] at hsigned
  subst hsigned
  have hsigner := h.recovered.symm.trans h'.recovered
  rw [Option.some.injEq] at hsigner
  exact ⟨rfl, hsigner.symm⟩

theorem sandboxContext_balanceCheck (signer : Address) :
    (sandboxContext host.defaults k.ctx signer).cfg.disableBalanceCheck = false := by
  rw [sandboxContext_cfg, sized_balanceCheck]
  exact host.defaults.balanceChecked k.ctx.spec

variable (frames input) in
theorem sandboxRuns_iff (hop : op.Behaves) (hwords : Words host k)
    (hspec : k.ctx.spec.isEnabled .rex2 = true)
    (hgas : constants.KEYLESS_DEPLOY_OVERHEAD_GAS ≤ i.gasLimit) :
    (∃ res, SandboxRuns (host.executing op frames input.txBytes) k i input tx res) ↔
      (∃ signed signer, KeylessChecked host k i input signed signer ∧
        tx = sandboxTx input signed signer) ∧ Sandboxable host op k input tx := by
  have hmini : (sandboxContext host.defaults k.ctx tx.caller).spec.isEnabled .miniRex = true :=
    MegaSpecId.isEnabled_mono (b := .rex2) (by decide) hspec
  rw [← checked_iff hwords]
  constructor
  · rintro ⟨res, hrun⟩
    refine ⟨⟨hrun.valid, hrun.affordable⟩, hrun.within, ?_⟩
    rw [← hop.execute_some frames hmini, ← Option.isSome_map]
    exact Option.isSome_iff_exists.2 ⟨res, hrun.executed⟩
  · rintro ⟨⟨hvalid, hafford⟩, hbox⟩
    have hsome := (hop.execute_some frames hmini).2 hbox.passes
    obtain ⟨x, hx⟩ := Option.isSome_iff_exists.1 hsome
    exact ⟨_, hgas, hbox.overhead, hvalid, hafford, by
      simp only [KeylessHost.executing, OpHandler.transactRaw]
      rw [hx]
      rfl⟩

theorem processSandboxTransactResult_ok {res : ResultAndState}
    (h : ∀ gasUsed output logs, res.result = .success gasUsed output logs →
      ∃ bytecode a, output = .create bytecode (some a)) :
    ∃ outcome, processSandboxTransactResult (some res) = .ok outcome := by
  obtain ⟨result, state⟩ := res
  cases result with
  | success gasUsed output logs =>
    obtain ⟨bytecode, a, rfl⟩ := h gasUsed output logs rfl
    simp only [processSandboxTransactResult]
    split
    · exact ⟨_, rfl⟩
    · exact ⟨_, rfl⟩
  | revert gasUsed output => exact ⟨_, rfl⟩
  | halt gasUsed reason => exact ⟨_, rfl⟩

theorem finish_merges {deployAddress : Address} {gas : Gas} {outcome : SandboxOutcome}
    (h : k.finishKeylessDeploy host deployAddress gas (.ok outcome) = some (k', r)) :
    MegaEvm.applySandboxState k.ctx.journalState outcome.state = some k'.ctx.journalState ∧
      k'.ctx.db = k.ctx.db ∧ k'.merged = outcome.state :: k.merged := by
  cases outcome with
  | failure state error =>
    simp only [KeylessParent.finishKeylessDeploy, KeylessParent.applySandboxState,
      Option.map_map, Option.map_eq_some_iff, Function.comp_apply, Prod.mk.injEq] at h
    obtain ⟨journal, hj, rfl, -⟩ := h
    exact ⟨hj, rfl, rfl⟩
  | success state gasUsed a logs =>
    simp only [KeylessParent.finishKeylessDeploy, KeylessParent.applySandboxState,
      Option.map_map, Option.map_eq_some_iff, Function.comp_apply] at h
    obtain ⟨journal, hj, h⟩ := h
    split at h
    · cases h
      exact ⟨hj, rfl, rfl⟩
    · cases h
      exact ⟨hj, rfl, rfl⟩

theorem outcome_merges {res : ResultAndState} {outcome : SandboxOutcome}
    (h : SandboxRuns host k i input tx res)
    (ho : processSandboxTransactResult (some res) = .ok outcome)
    (hret : k.executeKeylessDeployCall host i input = some (k', r)) :
    MegaEvm.applySandboxState k.ctx.journalState res.state = some k'.ctx.journalState ∧
      k'.ctx.db = k.ctx.db ∧ k'.merged = outcome.state :: k.merged := by
  rw [executeKeylessDeployCall_sandboxed h, ho] at hret
  have hmerges := finish_merges hret
  obtain ⟨l, hk⟩ := k.chargeOverhead_eq
  rw [hk, processSandboxTransactResult_state ho] at hmerges
  rw [processSandboxTransactResult_state ho]
  exact hmerges

theorem settled_destroyed (hop : op.Behaves) (hframes : Completes frames) {b : Bytes}
    {ctx : MegaContext L1BlockInfo} (hx : op.execute host.create b frames ctx tx = some x)
    {a : Address} {acc : Account} (hl : (op.postExecution b ctx tx x).state.lookup a = some acc)
    (hs : acc.isSelfdestructed = true) : acc.isCreated = true := by
  obtain ⟨ctx', start, gas, hstart, rfl⟩ := execute_starts hx
  have hend := hframes ctx' tx gas start hstart.caller
  exact (hop.settles b ctx tx _).destroyed hend.destroyed hl hs

theorem deploys_of_runs (hop : op.Behaves) (hframes : Completes frames) {res : ResultAndState}
    (h : SandboxRuns (host.executing op frames input.txBytes) k i input tx res) :
    ∃ k' r x, Deploys host op frames k i input k' r tx x := by
  obtain ⟨x, hx, rfl⟩ := Option.map_eq_some_iff.1 h.executed
  have hends : ∃ start, Ends tx start x := by
    obtain ⟨ctx', start, gas, hstart, rfl⟩ := execute_starts hx
    exact ⟨start, hframes ctx' tx gas start hstart.caller⟩
  obtain ⟨start, hend⟩ := hends
  have hcreated : ∀ gasUsed output logs,
      (op.postExecution input.txBytes (sandboxContext host.defaults k.ctx tx.caller) tx x).result =
        .success gasUsed output logs → ∃ bytecode a, output = .create bytecode (some a) :=
    hend.created
  obtain ⟨outcome, ho⟩ := processSandboxTransactResult_ok hcreated
  obtain ⟨k', r, hret⟩ := h.executes fun a acc hl hs => settled_destroyed hop hframes hx hl hs
  obtain ⟨-, -, hmerged⟩ := outcome_merges h ho hret
  exact ⟨k', r, x, h, hx, hret, outcome, ho, hmerged⟩

theorem Deploys.charged (hop : op.Behaves) (hframes : Completes frames)
    (h : Deploys host op frames k i input k' r tx x) :
    ((k'.info tx.caller).balance : ℤ) + (x.result.gasUsed * tx.gasPrice +
        op.fees input.txBytes (sandboxContext host.defaults k.ctx tx.caller) x.result.gasUsed +
        x.paid) =
      (k.info tx.caller).balance + op.reward (sandboxContext host.defaults k.ctx tx.caller)
        input.txBytes tx x.result.gasUsed tx.caller := by
  obtain ⟨outcome, ho, -⟩ := h.merged
  obtain ⟨happlied, hdb, -⟩ := outcome_merges h.runs ho h.returned
  have hinfo := info_of_applied happlied hdb
    (fun a acc hl hs => settled_destroyed hop hframes h.executed hl hs) tx.caller
  obtain ⟨acc, hl, hlive, hcharged⟩ :=
    hop.charged hframes (sandboxContext_balanceCheck tx.caller) h.executed
  rw [hl] at hinfo
  simp only [hlive, Bool.false_eq_true, if_false] at hinfo
  rw [hinfo, ← (sandboxContext_info host k tx.caller).1]
  exact hcharged

def idleFrames (L1BlockInfo : Type) (gasUsed : ℕ) : RunFrames L1BlockInfo := fun ctx tx _ =>
  ⟨.revert (min gasUsed tx.gasLimit) [],
    soleAccount tx.caller (.ofInfo ((ctx.journalState.lookup tx.caller).getD default).info), 0⟩

theorem idleFrames_completes (gasUsed : ℕ) : Completes (idleFrames L1BlockInfo gasUsed) := by
  intro ctx tx gas start hstart
  exact
    { gas := min_le_right _ _
      created := fun g output logs h => by cases h
      caller := by
        refine ⟨.ofInfo start.info, ?_, rfl, ?_⟩
        · simp only [idleFrames, hstart, Option.getD_some]
          exact AList.lookup_insert _
        · exact add_zero _
      destroyed := fun a acc hl hs => by
        obtain ⟨-, rfl⟩ := lookup_soleAccount hl
        cases hs }

variable (input) in
theorem deploys_iff (hop : op.Behaves) (hwords : Words host k)
    (hspec : k.ctx.spec.isEnabled .rex2 = true)
    (hgas : constants.KEYLESS_DEPLOY_OVERHEAD_GAS ≤ i.gasLimit) (hframes : Completes frames)
    (tx : KeylessTx) :
    (∃ k' r x, Deploys host op frames k i input k' r tx x) ↔
      (∃ signed signer, KeylessChecked host k i input signed signer ∧
        tx = sandboxTx input signed signer) ∧ Sandboxable host op k input tx := by
  rw [← sandboxRuns_iff frames input hop hwords hspec hgas]
  constructor
  · rintro ⟨k', r, x, h⟩
    exact ⟨_, h.runs⟩
  · rintro ⟨res, h⟩
    exact deploys_of_runs hop hframes h

theorem AsDocumented.exact (h : AsDocumented host op k i input) (hop : op.Behaves)
    (hwords : Words host k) (hspec : k.ctx.spec.isEnabled .rex2 = true)
    (hgas : constants.KEYLESS_DEPLOY_OVERHEAD_GAS ≤ i.gasLimit) (hframes : Completes frames) :
    ExactDeploy host op frames k i input := by
  have hiff := deploys_iff input hop hwords hspec hgas hframes
  constructor
  · constructor
    · rintro ⟨k', r, tx, x, hdep⟩
      obtain ⟨⟨signed, signer, hcheck, rfl⟩, hbox⟩ := (hiff tx).1 ⟨k', r, x, hdep⟩
      obtain ⟨hcode, hbalance⟩ := h.refused signed signer hcheck hbox
      exact ⟨signed, signer, documented_of_checked hcheck hcode hbalance⟩
    · rintro ⟨signed, signer, hdoc⟩
      obtain ⟨hcode, hbox⟩ := h.accepted signed signer hdoc
      have hcheck := checked_of_documented hwords hdoc hcode
      obtain ⟨k', r, x, hdep⟩ := (hiff _).2 ⟨⟨signed, signer, hcheck, rfl⟩, hbox⟩
      exact ⟨k', r, _, x, hdep⟩
  · intro k' r tx x hdep
    obtain ⟨⟨signed, signer, hcheck, rfl⟩, hbox⟩ := (hiff tx).1 ⟨k', r, x, hdep⟩
    have hcharged := hdep.charged hop hframes
    obtain ⟨ctx', start, gas, hstart, rfl⟩ := execute_starts hdep.executed
    have hend := hframes ctx' _ gas start hstart.caller
    have hfees := h.fees signed signer hcheck hbox _ hend.gas
    have hsigner : (sandboxTx input signed signer).caller = signer := rfl
    rw [hsigner] at hcharged ⊢
    omega

theorem idle_fees {gasUsed : ℕ} (hop : op.Behaves) (hle : gasUsed ≤ input.gasLimit)
    (hexact : ExactDeploy host op (idleFrames L1BlockInfo gasUsed) k i input)
    (h : Deploys host op (idleFrames L1BlockInfo gasUsed) k i input k' r
      (sandboxTx input signed signer) x) :
    op.fees input.txBytes (sandboxContext host.defaults k.ctx signer) gasUsed =
      op.reward (sandboxContext host.defaults k.ctx signer) input.txBytes
        (sandboxTx input signed signer) gasUsed signer := by
  have hcharges := hexact.charges k' r _ x h
  have hcharged := h.charged hop (idleFrames_completes gasUsed)
  obtain ⟨ctx', start, gas, -, rfl⟩ := execute_starts h.executed
  have hused : (idleFrames L1BlockInfo gasUsed ctx' (sandboxTx input signed signer)
      gas).result.gasUsed = gasUsed := min_eq_left hle
  have hsigner : (sandboxTx input signed signer).caller = signer := rfl
  rw [hused, hsigner] at hcharges hcharged
  omega

theorem asDocumented_of_exact (hop : op.Behaves) (hwords : Words host k)
    (hspec : k.ctx.spec.isEnabled .rex2 = true)
    (hgas : constants.KEYLESS_DEPLOY_OVERHEAD_GAS ≤ i.gasLimit)
    (hall : ∀ frames, Completes frames → ExactDeploy host op frames k i input) :
    AsDocumented host op k i input := by
  have hidle := fun gasUsed => hall _ (idleFrames_completes gasUsed)
  have hiff := fun gasUsed => deploys_iff input hop hwords hspec hgas
    (idleFrames_completes gasUsed)
  exact
    { accepted := fun signed signer hdoc => by
        obtain ⟨k', r, tx, x, h⟩ := (hidle 0).accepts.2 ⟨signed, signer, hdoc⟩
        obtain ⟨⟨signed', signer', hcheck, rfl⟩, hbox⟩ := (hiff 0 tx).1 ⟨k', r, x, h⟩
        obtain ⟨rfl, rfl⟩ := hdoc.unique hcheck
        exact ⟨hcheck.noCode, hbox⟩
      refused := fun signed signer hcheck hbox => by
        obtain ⟨k', r, x, h⟩ := (hiff 0 _).2 ⟨⟨signed, signer, hcheck, rfl⟩, hbox⟩
        obtain ⟨signed', signer', hdoc⟩ := (hidle 0).accepts.1 ⟨k', r, _, x, h⟩
        obtain ⟨rfl, rfl⟩ := hcheck.unique hdoc
        exact ⟨hdoc.noCode, hdoc.balance⟩
      fees := fun signed signer hcheck hbox gasUsed hle => by
        obtain ⟨k', r, x, h⟩ := (hiff gasUsed _).2 ⟨⟨signed, signer, hcheck, rfl⟩, hbox⟩
        exact idle_fees hop hle (hidle gasUsed) h }

/-- Whatever the init code does, a keyless deployment is accepted and charged for as it
is documented, exactly on these conditions. -/
theorem exact_deploy_iff (hop : op.Behaves) (hwords : Words host k)
    (hspec : k.ctx.spec.isEnabled .rex2 = true)
    (hgas : constants.KEYLESS_DEPLOY_OVERHEAD_GAS ≤ i.gasLimit) :
    (∀ frames, Completes frames → ExactDeploy host op frames k i input) ↔
      AsDocumented host op k i input := by
  constructor
  · intro hall
    exact asDocumented_of_exact hop hwords hspec hgas hall
  · intro h frames hframes
    exact h.exact hop hwords hspec hgas hframes

end Deploy

section Sample

def L1_FEE_RECIPIENT : Address := 0x420000000000000000000000000000000000001A
def BASE_FEE_RECIPIENT : Address := 0x4200000000000000000000000000000000000019
def OPERATOR_FEE_RECIPIENT : Address := 0x420000000000000000000000000000000000001B

def credited (db : Db) (state : EvmState) (credit : Address × ℕ) : EvmState :=
  let acc := (state.lookup credit.1).getD (.ofInfo (db.info credit.1))
  state.insert credit.1
    { acc with info := { acc.info with balance := acc.info.balance + credit.2 } }.withTouchedMark

def amountFor (a : Address) (credits : List (Address × ℕ)) : ℕ :=
  (credits.map fun credit => if a = credit.1 then credit.2 else 0).sum

theorem credits_credited (db : Db) (state : EvmState) (credit : Address × ℕ) :
    Credits (fun a => if a = credit.1 then credit.2 else 0) state (credited db state credit) where
  loaded a acc hl := by
    by_cases ha : a = credit.1
    · subst ha
      refine ⟨_, AList.lookup_insert _, ?_, ?_, ?_⟩
      · simp [hl, Account.withTouchedMark]
      · simp [hl, Account.withTouchedMark, Account.isSelfdestructed]
      · simp [hl, Account.withTouchedMark, Account.isCreated]
    · refine ⟨acc, ?_, by simp [ha], rfl, rfl⟩
      unfold credited
      rw [AList.lookup_insert_ne ha, hl]
  new a acc' hnone hl := by
    unfold credited at hl
    by_cases ha : a = credit.1
    · subst ha
      rw [AList.lookup_insert, Option.some.injEq] at hl
      subst hl
      simp [hnone, Account.withTouchedMark, Account.isSelfdestructed, Account.ofInfo, default]
    · rw [AList.lookup_insert_ne ha, hnone] at hl
      cases hl

theorem credits_foldl (db : Db) (credits : List (Address × ℕ)) (state : EvmState) :
    Credits (amountFor · credits) state (credits.foldl (credited db) state) := by
  induction credits generalizing state with
  | nil => exact .refl state
  | cons credit credits ih =>
    have hsum : (amountFor · (credit :: credits)) =
        fun a => (if a = credit.1 then credit.2 else 0) + amountFor a credits := by
      funext a
      simp [amountFor]
    rw [hsum]
    exact (credits_credited db state credit).trans (ih _)

def flatHandler (l1Cost operatorFee : ℕ) : OpHandler Unit where
  validateEnv ctx tx := decide (EnvValid ctx tx)
  initialTxGas _ tx :=
    let tokens := getTokensInCalldata tx.data
    ⟨53000 + constants.STANDARD_TOKEN_COST * tokens + 2 * ((tx.data.length + 31) / 32),
      21000 + constants.TOTAL_COST_FLOOR_PER_TOKEN * tokens⟩
  calculateTxL1Cost _ _ := l1Cost
  operatorFeeCharge _ _ _ := operatorFee
  validateAgainstStateAndDeductCaller ctx _ tx :=
    let info := ctx.info tx.caller
    if CallerValid (l1Cost + operatorFee) ctx tx then
      some (Account.ofInfo
        { info with
          balance := if ctx.cfg.disableBalanceCheck then max info.balance tx.value
            else info.balance - (tx.gasLimit * tx.gasPrice + (l1Cost + operatorFee)) }
          |>.withTouchedMark)
    else none
  reimburseCaller ctx _ tx gasUsed state :=
    credited ctx.db state (tx.caller, tx.gasPrice * (tx.gasLimit - gasUsed))
  rewardBeneficiary ctx _ tx gasUsed state :=
    (flatRewards ctx tx gasUsed).foldl (credited ctx.db) state
  reward ctx _ tx gasUsed a := amountFor a (flatRewards ctx tx gasUsed)
where
  flatRewards (ctx : MegaContext Unit) (tx : KeylessTx) (gasUsed : ℕ) : List (Address × ℕ) :=
    [(ctx.block.beneficiary, (tx.gasPrice - ctx.block.basefee) * gasUsed),
      (L1_FEE_RECIPIENT, l1Cost), (BASE_FEE_RECIPIENT, ctx.block.basefee * gasUsed),
      (OPERATOR_FEE_RECIPIENT, operatorFee)]

theorem flatHandler_behaves (l1Cost operatorFee : ℕ) : (flatHandler l1Cost operatorFee).Behaves where
  validatesEnv ctx tx := decide_eq_true_iff
  validatesCaller ctx env tx := by
    simp only [flatHandler, OpHandler.fees]
    split
    case isTrue h => simp [h]
    case isFalse h => simp [h]
  deducts ctx env tx acc hcheck h := by
    simp only [flatHandler] at h
    split at h
    case isFalse => cases h
    case isTrue hv =>
      have hle := hv.balance hcheck
      rw [Option.some.injEq] at h
      subst h
      simp only [OpHandler.fees, flatHandler, Account.withTouchedMark, Account.ofInfo, hcheck,
        Bool.false_eq_true, if_false, KeylessTx.totalCost] at hle ⊢
      omega
  operatorFee ctx env gas gas' hle := le_refl _
  reimburses ctx env tx gasUsed state := by
    simp only [flatHandler, Nat.sub_self, Nat.add_zero]
    exact credits_credited ctx.db state (tx.caller, tx.gasPrice * (tx.gasLimit - gasUsed))
  rewards ctx env tx gasUsed state := credits_foldl _ _ _

def pricedHost : KeylessHost Unit := sampleHost deployedResult

def pricedParent (basefee : ℕ) : KeylessParent Unit :=
  { sampleParent with ctx := { sampleParent.ctx with
      block := { sampleParent.ctx.block with basefee := basefee } } }

def pricedInput : KeylessInput := ⟨sampleTxBytes, 1000000⟩

def sampleSigned : SignedTxLegacy := ⟨⟨none, 0, 0, 100000, .create, 0, sampleInitCode⟩, false, 1, 1⟩

theorem pricedParent_words (basefee : ℕ) : Words pricedHost (pricedParent basefee) where
  gasLimit b signed h := by
    simp only [pricedHost, sampleHost] at h
    split at h
    · cases h
      decide
    · cases h
  balance a := by
    have hle : (100 : ℕ) ≤ uint256Max := by decide
    cases hl : senderJournal.lookup a with
    | none =>
      have hinfo : (pricedParent basefee).info a = richDb.info a := (loaded_absent hl).1
      rw [hinfo]
      exact hle
    | some acc =>
      have hinfo : (pricedParent basefee).info a = acc.info := (loaded_present hl).1
      obtain ⟨-, rfl⟩ := lookup_soleAccount hl
      rw [hinfo]
      exact Nat.le_trans (by decide) hle

theorem priced_documented (basefee : ℕ) :
    KeylessDocumented pricedHost (pricedParent basefee) sampleKeylessCall pricedInput sampleSigned
      2 where
  noEther := rfl
  decoded := rfl
  create := rfl
  preEip155 := rfl
  nonce := rfl
  covered := by decide
  recovered := rfl
  signerNonce := (by decide : (sampleParent.info 2).nonce ≤ 1)
  balance := (by decide : 1000000 * 0 + 0 ≤ (sampleParent.info 2).balance)
  noCode := (by decide : (sampleParent.info 9).codeHash = KECCAK_EMPTY)

theorem free_passes : Sandboxable pricedHost (flatHandler 0 0) (pricedParent 0) pricedInput
    (sandboxTx pricedInput sampleSigned 2) where
  overhead _ := by decide
  passes :=
    { sender := by decide
      env := by decide
      gas := ⟨by decide, by decide, rfl⟩
      caller := by decide }

theorem free_signer {gasLimit : ℕ} {codeHash : Address → ℕ}
    {signed : SignedTxLegacy} {signer : Address}
    (h : KeylessValid pricedHost (pricedParent 0) sampleKeylessCall pricedInput gasLimit
      codeHash signed signer) : signed = sampleSigned ∧ signer = 2 := by
  have hsigned := h.decoded
  have hsigner := h.recovered
  cases hsigned
  cases hsigner
  exact ⟨rfl, rfl⟩

theorem free_asDocumented : AsDocumented pricedHost (flatHandler 0 0) (pricedParent 0)
    sampleKeylessCall pricedInput where
  accepted signed signer h := by
    obtain ⟨rfl, rfl⟩ := free_signer h
    exact ⟨(by decide : (richDb.info 9).codeHash = KECCAK_EMPTY), free_passes⟩
  refused signed signer h _ := by
    obtain ⟨rfl, rfl⟩ := free_signer h
    exact ⟨(priced_documented 0).noCode, (priced_documented 0).balance⟩
  fees signed signer h _ gasUsed _ := by
    obtain ⟨rfl, rfl⟩ := free_signer h
    rfl

theorem exact_deploy_free :
    AsDocumented pricedHost (flatHandler 0 0) (pricedParent 0) sampleKeylessCall pricedInput ∧
      ∀ frames, Completes frames → ExactDeploy pricedHost (flatHandler 0 0) frames (pricedParent 0)
        sampleKeylessCall pricedInput :=
  ⟨free_asDocumented, (exact_deploy_iff (flatHandler_behaves 0 0) (pricedParent_words 0) (by decide)
    (by decide)).2 free_asDocumented⟩

/-- A base fee of 1 keeps a deployment from being executed at the gas price it signed. -/
theorem base_fee_refuses :
    ¬ ∀ (host : KeylessHost Unit) (op : OpHandler Unit) (frames : RunFrames Unit)
      (k : KeylessParent Unit) (i : CallInputs) (input : KeylessInput), op.Behaves →
      Words host k → k.ctx.spec.isEnabled .rex2 = true →
      constants.KEYLESS_DEPLOY_OVERHEAD_GAS ≤ i.gasLimit → Completes frames →
      ExactDeploy host op frames k i input := by
  intro hall
  have hexact := hall pricedHost (flatHandler 0 0) (idleFrames Unit 0)
    (pricedParent 1) sampleKeylessCall pricedInput (flatHandler_behaves 0 0)
    (pricedParent_words 1) (by decide) (by decide) (idleFrames_completes 0)
  obtain ⟨k', r, tx, x, h⟩ := hexact.accepts.2 ⟨sampleSigned, 2, priced_documented 1⟩
  obtain ⟨⟨signed, signer, hcheck, rfl⟩, hbox⟩ :=
    (deploys_iff pricedInput (flatHandler_behaves 0 0) (pricedParent_words 1) (by decide)
      (by decide) (idleFrames_completes 0) tx).1 ⟨k', r, x, h⟩
  obtain ⟨rfl, rfl⟩ := (priced_documented 1).unique hcheck
  exact absurd (hbox.passes.env.baseFee rfl) (by decide)

end Sample

end MegaEvm
