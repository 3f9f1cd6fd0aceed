import MegaEvm.BlockReplay
import MegaEvm.ContextReuse
import MegaEvm.FloorGas
import MegaEvm.SystemTransactions

/-!
# The context of a block

An executor keeps one context for all transactions of its block. Those that are run and
not committed leave there what they were counted with, and the L1 block info if they were
the first to need it. From the second Rex spec on nothing of the former reaches the next
transaction, and the latter is what the next one would fetch, as long as no transaction
that is committed after it has been fetched changes it. The environments answer alike
throughout a block, so that prices which are cached by then make no difference.
-/

set_option autoImplicit false

namespace MegaEvm

section Runtime

variable {L1BlockInfo E : Type}

/-- What a transaction goes by, apart from what it is counted with. -/
structure Premises where
  block : BlockEnv
  cfg : CfgEnv
  spec : MegaSpecId
  disableBeneficiary : Bool
  externalEnvs : ExternalEnvs
  disableSandbox : Bool
  db : Db

def MegaContext.premises (c : MegaContext L1BlockInfo) : Premises where
  block := c.block
  cfg := c.cfg
  spec := c.spec
  disableBeneficiary := c.disableBeneficiary
  externalEnvs := c.externalEnvs
  disableSandbox := c.disableSandbox
  db := c.db

structure Played (env : Env) (s : State) where
  events : List Event
  last : State
  run : Run.run (step env) s events = some last

/-- What the rollup's handler, the interpreter and the readers of a transaction's bytes do.
The handler catches errors of transactions only, a refused transaction leaves nothing in the
journal, and the L1 block info that is fetched for a block is of that block. -/
structure OpRuntime (L1BlockInfo E : Type) where
  decodeCall : Bytes → SystemCall
  accessSize : AccessListItem → ℕ
  authority : TxAuthorization → Option Address
  validateEnv : Premises → OpTransaction → Except E StartEvent
  systemStart : Premises → OpTransaction → StartEvent
  gasTooLow : Premises → OpTransaction → E
  l2Block : L1BlockInfo → ℕ
  tryFetch : Db → ℕ → MegaSpecId → Except E L1BlockInfo
  l2Block_tryFetch : ∀ db n spec info, tryFetch db n spec = .ok info → l2Block info = n
  preExecution : Premises → Option L1BlockInfo → OpTransaction → Except E Unit
  play : Premises → Option L1BlockInfo → OpTransaction → (env : Env) → (s : State) → Played env s
  executionResult : Premises → Option L1BlockInfo → OpTransaction → State → Except E ResultAndState
  catchError : Premises → OpTransaction → E → Except E ResultAndState
  fromString : String → E
  catchError_fromString : ∀ p tx text,
    catchError p tx (fromString text) = .error (fromString text)

namespace OpRuntime

variable (r : OpRuntime L1BlockInfo E)

def counted (tx : OpTransaction) : MegaTransaction where
  caller := tx.base.caller
  kind := tx.base.kind
  value := tx.base.value
  input := r.decodeCall tx.base.data
  inputLen := tx.base.data.length
  tokensInCalldata := getTokensInCalldata tx.base.data
  accessListSize := (tx.base.accessList.map r.accessSize).sum
  authorities := tx.base.authorizationList.map fun auth => (r.authority auth).isSome
  gasLimit := tx.base.gasLimit

/-- The L1 block info of a transaction that is no deposit: the context's, unless that is of
another block. -/
def l1Block (c : MegaContext L1BlockInfo) (tx : OpTransaction) : Except E (Option L1BlockInfo) :=
  if tx.txType = DEPOSIT_TRANSACTION_TYPE then .ok none
  else if r.l2Block c.chain = c.block.number then .ok (some c.chain)
  else (r.tryFetch c.db c.block.number c.spec).map some

/-- `run_without_catch_error`, after `before_run`. -/
def runTx (c : MegaContext L1BlockInfo) (tx : OpTransaction) :
    MegaContext L1BlockInfo × Except E ResultAndState :=
  let isDeposit := tx.txType == DEPOSIT_TRANSACTION_TYPE
  match r.validateEnv c.premises tx with
  | .error e => (c.onNewTx (r.counted tx), .error e)
  | .ok given =>
    match c.start (r.counted tx) isDeposit given with
    | none => ((c.onNewTx (r.counted tx)).recordInitialGas given.intrinsicGas,
        .error (r.gasTooLow c.premises tx))
    | some s =>
      match r.l1Block c tx with
      | .error e => (c.leave s, .error e)
      | .ok chain =>
        let c' := c.withChain (chain.getD c.chain)
        match r.preExecution c.premises chain tx with
        | .error e => (c'.leave s, .error e)
        | .ok () =>
          let played := r.play c.premises chain tx (c.txEnv (r.counted tx) isDeposit) s
          (c'.leave played.last, r.executionResult c.premises chain tx played.last)

def runSystemCall (c : MegaContext L1BlockInfo) (tx : OpTransaction) :
    MegaContext L1BlockInfo × Except E ResultAndState :=
  let s := c.systemStart (r.counted tx) (r.systemStart c.premises tx)
  let played := r.play c.premises none tx (c.txEnv (r.counted tx) false) s
  (c.leave played.last, r.executionResult c.premises none tx played.last)

def finalize (c : MegaContext L1BlockInfo) (result : ResultAndState) :
    MegaTransactionOutcome EvmState Bytes where
  success := result.result.isSuccess
  gasUsed := .ofNat result.result.gasUsed
  logs := result.result.logs
  state := result.state
  dataSize := .ofNat c.additionalLimit.dataSize.netUsage
  kvUpdates := .ofNat c.additionalLimit.kvUpdate.netUsage
  computeGasUsed := .ofNat c.additionalLimit.computeGas.txUsage
  stateGrowthUsed := .ofNat c.additionalLimit.stateGrowth.netUsage

def handler : MegaHandler (MegaContext L1BlockInfo) EvmState Bytes E ResultAndState where
  runTx := r.runTx
  runSystemCall := r.runSystemCall
  catchError c tx e := (c, r.catchError c.premises tx e)
  fromString := r.fromString
  finalize c result := (c, finalize c result)

def loadCacheAccount (c : MegaContext L1BlockInfo) (address : ℕ) :
    MegaContext L1BlockInfo × Except E UInt64 :=
  (c, .ok (.ofNat (c.db.info address).nonce))

def commit (c : MegaContext L1BlockInfo) (state : EvmState) : MegaContext L1BlockInfo :=
  { c with db := c.db.commit state }

/-- The EVM of a block executor, whose contexts are of one spec. -/
def blockEvm (spec : MegaSpecId) :
    BlockEvm (TxContext (MegaContext L1BlockInfo)) OpTransaction EvmState Bytes E :=
  r.handler.blockEvm spec loadCacheAccount commit

end OpRuntime

end Runtime

/-! ## Two contexts in step -/

namespace OpRuntime

variable {L1BlockInfo E : Type} {r : OpRuntime L1BlockInfo E} {c c' : MegaContext L1BlockInfo}
  {spec : MegaSpecId} {limits : EvmTxRuntimeLimits} {tx : OpTransaction}

def Fetched (r : OpRuntime L1BlockInfo E) (c : MegaContext L1BlockInfo) : Prop :=
  r.l2Block c.chain = c.block.number

/-- A context that has kept its limits, and an L1 block info that its database still has. -/
structure Kept (r : OpRuntime L1BlockInfo E) (spec : MegaSpecId) (limits : EvmTxRuntimeLimits)
    (c : MegaContext L1BlockInfo) : Prop where
  carries : c.Carries spec limits
  fresh : r.Fetched c → r.tryFetch c.db c.block.number c.spec = .ok c.chain

/-- The context of a builder and that of a replay. -/
structure InStep (r : OpRuntime L1BlockInfo E) (spec : MegaSpecId) (limits : EvmTxRuntimeLimits)
    (c c' : MegaContext L1BlockInfo) : Prop where
  builder : r.Kept spec limits c
  replay : r.Kept spec limits c'
  premises : c'.premises = c.premises
  fetched : r.Fetched c' → r.Fetched c

section Parts

theorem txEnv_premises (h : c'.premises = c.premises) (tx : MegaTransaction) (isDeposit : Bool) :
    c'.txEnv tx isDeposit = c.txEnv tx isDeposit := by
  obtain ⟨hblock, hcfg, hspec, -, -, hsandbox, -⟩ := Premises.mk.inj h
  simp only [MegaContext.txEnv, hblock, hcfg, hspec, hsandbox]

theorem premises_onNewTx (tx : MegaTransaction) : (c.onNewTx tx).premises = c.premises := by
  unfold MegaContext.onNewTx
  simp only
  split <;> rfl

theorem chain_onNewTx (tx : MegaTransaction) : (c.onNewTx tx).chain = c.chain := by
  unfold MegaContext.onNewTx
  simp only
  split <;> rfl

theorem premises_recordInitialGas (gas : ℕ) :
    (c.recordInitialGas gas).premises = c.premises := by
  unfold MegaContext.recordInitialGas
  split <;> rfl

theorem chain_recordInitialGas (gas : ℕ) : (c.recordInitialGas gas).chain = c.chain := by
  unfold MegaContext.recordInitialGas
  split <;> rfl

theorem Kept.l1Block_eq (h : r.Kept spec limits c) (tx : OpTransaction) : r.l1Block c tx =
    if tx.txType = DEPOSIT_TRANSACTION_TYPE then .ok none
    else (r.tryFetch c.db c.block.number c.spec).map some := by
  unfold l1Block
  split
  · rfl
  · split
    next hfetched =>
      rw [h.fresh hfetched]
      rfl
    next => rfl

theorem Kept.of_same (h : r.Kept spec limits c) (hc : c'.Carries spec limits)
    (hp : c'.premises = c.premises) (hchain : c'.chain = c.chain) : r.Kept spec limits c' where
  carries := hc
  fresh := by
    obtain ⟨hblock, -, hspec, -, -, -, hdb⟩ := Premises.mk.inj hp
    unfold Fetched
    rw [hblock, hspec, hdb, hchain]
    exact h.fresh

theorem fetched_of_same (hp : c'.premises = c.premises) (hchain : c'.chain = c.chain) :
    r.Fetched c' ↔ r.Fetched c := by
  have hblock : c'.block = c.block := congrArg Premises.block hp
  unfold Fetched
  rw [hblock, hchain]

def refreshed (c : MegaContext L1BlockInfo) (chain : Option L1BlockInfo) :
    MegaContext L1BlockInfo := c.withChain (chain.getD c.chain)

theorem Kept.refreshed (h : r.Kept spec limits c) {chain : Option L1BlockInfo}
    (hl : r.l1Block c tx = .ok chain) : r.Kept spec limits (refreshed c chain) := by
  refine ⟨⟨h.carries.spec_eq, h.carries.configuration, h.carries.caps, h.carries.detained_le⟩, ?_⟩
  intro hfetched
  rw [h.l1Block_eq] at hl
  split at hl
  · cases hl
    exact h.fresh hfetched
  · cases hinfo : r.tryFetch c.db c.block.number c.spec with
    | error e => simp [hinfo, Except.map] at hl
    | ok info =>
      simp only [hinfo, Except.map, Except.ok.injEq] at hl
      subst hl
      exact hinfo

theorem fetched_refreshed_iff (h : r.Kept spec limits c) {chain : Option L1BlockInfo}
    (hl : r.l1Block c tx = .ok chain) : r.Fetched (refreshed c chain) ↔
      r.Fetched c ∨ tx.txType ≠ DEPOSIT_TRANSACTION_TYPE := by
  rw [h.l1Block_eq] at hl
  split at hl
  next hdeposit =>
    cases hl
    simp [hdeposit, refreshed, MegaContext.withChain]
  next hdeposit =>
    cases hinfo : r.tryFetch c.db c.block.number c.spec with
    | error e => simp [hinfo, Except.map] at hl
    | ok info =>
      simp only [hinfo, Except.map, Except.ok.injEq] at hl
      subst hl
      have hblock := r.l2Block_tryFetch _ _ _ _ hinfo
      simp only [hdeposit, ne_eq, not_false_eq_true, or_true, iff_true]
      exact hblock

theorem Kept.leave (h : r.Kept spec limits c) {c₁ : MegaContext L1BlockInfo}
    (h₁ : r.Kept spec limits c₁) {s : State} {given : StartEvent} {tx : MegaTransaction}
    {isDeposit : Bool} (hs : c.start tx isDeposit given = some s) {env : Env} {s' : State}
    {events : List Event} (hr : Run.run (step env) s events = some s') :
    r.Kept spec limits (c₁.leave s') := by
  have hcarries := MegaContext.carries_leave (MegaContext.carries_start h.carries hs) hr
  exact h₁.of_same ⟨h₁.carries.spec_eq, hcarries.configuration, hcarries.caps,
    hcarries.detained_le⟩ rfl rfl

theorem Kept.leave_start (h : r.Kept spec limits c) {c₁ : MegaContext L1BlockInfo}
    (h₁ : r.Kept spec limits c₁) {s : State} {given : StartEvent} {tx : MegaTransaction}
    {isDeposit : Bool} (hs : c.start tx isDeposit given = some s) :
    r.Kept spec limits (c₁.leave s) := by
  have hnone : Run.run (step (c.txEnv tx isDeposit)) s [] = some s := rfl
  exact h.leave h₁ hs hnone

end Parts

/-- A transaction leaves the context as it should be, with the L1 block info it had or one
more. -/
theorem Kept.runTx (h : r.Kept spec limits c) (tx : OpTransaction) :
    r.Kept spec limits (r.runTx c tx).1 ∧ (r.runTx c tx).1.premises = c.premises ∧
      (r.Fetched c → r.Fetched (r.runTx c tx).1) := by
  have hnew : r.Kept spec limits (c.onNewTx (r.counted tx)) :=
    h.of_same (MegaContext.carries_onNewTx _ h.carries) (premises_onNewTx _) (chain_onNewTx _)
  have hnewFetched := fetched_of_same (r := r) (premises_onNewTx (c := c) (r.counted tx))
    (chain_onNewTx _)
  unfold OpRuntime.runTx
  simp only
  split
  next => exact ⟨hnew, premises_onNewTx _, hnewFetched.2⟩
  next given _ =>
    split
    next =>
      have hp := premises_recordInitialGas (c := c.onNewTx (r.counted tx)) given.intrinsicGas
      have hchain := chain_recordInitialGas (c := c.onNewTx (r.counted tx)) given.intrinsicGas
      exact ⟨hnew.of_same (MegaContext.carries_recordInitialGas hnew.carries _) hp hchain,
        hp.trans (premises_onNewTx _), fun hf =>
          (fetched_of_same (r := r) hp hchain).2 (hnewFetched.2 hf)⟩
    next s hs =>
      split
      next => exact ⟨h.leave_start h hs, rfl, id⟩
      next chain hl =>
        have hrefreshed := h.refreshed hl
        have hfetched := (fetched_refreshed_iff h hl).2 ∘ .inl
        split
        next => exact ⟨h.leave_start hrefreshed hs, rfl, hfetched⟩
        next => exact ⟨h.leave hrefreshed hs (Played.run _), rfl, hfetched⟩

/-! ### From the second Rex spec on -/

namespace InStep

theorem txEnv (h : r.InStep spec limits c c') (tx : MegaTransaction) (isDeposit : Bool) :
    c'.txEnv tx isDeposit = c.txEnv tx isDeposit := txEnv_premises h.premises tx isDeposit

theorem l1Block (h : r.InStep spec limits c c') (tx : OpTransaction) :
    r.l1Block c' tx = r.l1Block c tx := by
  obtain ⟨hblock, -, hspec, -, -, -, hdb⟩ := Premises.mk.inj h.premises
  rw [h.replay.l1Block_eq, h.builder.l1Block_eq, hblock, hspec, hdb]

theorem miniRex_of_rex1 (hrex1 : spec.isEnabled .rex1 = true) : spec.isEnabled .miniRex = true :=
  MegaSpecId.isEnabled_mono (by decide) hrex1

variable (h : r.InStep spec limits c c') (hrex1 : spec.isEnabled .rex1 = true)
  (hu : limits.txComputeGasLimit ≤ u64Max)
include h hrex1 hu

theorem onNewTx_limit (tx : MegaTransaction) (given : StartEvent) :
    (c'.onNewTx tx).additionalLimit = (c.onNewTx tx).additionalLimit := by
  have hmini := miniRex_of_rex1 hrex1
  have hspec : (c.txEnv tx false).spec.isEnabled .rex1 = true := by
    rw [MegaContext.txEnv, h.builder.carries.spec_eq, hrex1]
  rw [MegaContext.onNewTx_limit tx false given h.replay.carries hmini hu, h.txEnv,
    MegaContext.onNewTx_limit tx false given h.builder.carries hmini hu, onNewTx_eq, onNewTx_eq]
  simp only [newTxTrackers, StartEvent.under, ComputeGasTracker.reset, hspec, if_true]

theorem start (tx : MegaTransaction) (isDeposit : Bool) (given : StartEvent) :
    c'.start tx isDeposit given = c.start tx isDeposit given := by
  have hmini := miniRex_of_rex1 hrex1
  rw [MegaContext.start_eq h.replay.carries hmini hu, h.txEnv,
    MegaContext.start_eq h.builder.carries hmini hu]
  refine MegaContext.start_under_eq_iff.mpr (.inr (.inl ?_))
  rw [MegaContext.txEnv, h.builder.carries.spec_eq, hrex1]

theorem recordInitialGas_limit (tx : MegaTransaction) (given : StartEvent) :
    ((c'.onNewTx tx).recordInitialGas given.intrinsicGas).additionalLimit =
      ((c.onNewTx tx).recordInitialGas given.intrinsicGas).additionalLimit := by
  have hmini := miniRex_of_rex1 hrex1
  have hlimit := h.onNewTx_limit hrex1 hu tx given
  have hc : (c.onNewTx tx).spec.isEnabled .miniRex = true := by
    rw [MegaContext.onNewTx_spec, h.builder.carries.spec_eq, hmini]
  have hc' : (c'.onNewTx tx).spec.isEnabled .miniRex = true := by
    rw [MegaContext.onNewTx_spec, h.replay.carries.spec_eq, hmini]
  unfold MegaContext.recordInitialGas
  rw [if_pos hc, if_pos hc', hlimit]

theorem runTx (tx : OpTransaction) :
    (r.runTx c tx).2 = (r.runTx c' tx).2 ∧
      (r.runTx c tx).1.additionalLimit = (r.runTx c' tx).1.additionalLimit ∧
      r.InStep spec limits (r.runTx c tx).1 (r.runTx c' tx).1 := by
  obtain ⟨hbuilder, hp, hmono⟩ := h.builder.runTx tx
  obtain ⟨hreplay, hp', -⟩ := h.replay.runTx tx
  have hstart := h.start hrex1 hu (r.counted tx) (tx.txType == DEPOSIT_TRANSACTION_TYPE)
  have hl1 := h.l1Block tx
  have hstep : (r.runTx c tx).2 = (r.runTx c' tx).2 ∧
      (r.runTx c tx).1.additionalLimit = (r.runTx c' tx).1.additionalLimit ∧
      (r.Fetched (r.runTx c' tx).1 → r.Fetched (r.runTx c tx).1) := by
    unfold OpRuntime.runTx at hmono ⊢
    simp only [h.premises, hstart, hl1] at hmono ⊢
    cases hvalid : r.validateEnv c.premises tx with
    | error e =>
      simp only [hvalid] at hmono ⊢
      have hlimit := h.onNewTx_limit hrex1 hu (r.counted tx) (r.systemStart c.premises tx)
      refine ⟨trivial, hlimit.symm, fun hf => hmono (h.fetched ?_)⟩
      exact (fetched_of_same (premises_onNewTx _) (chain_onNewTx _)).1 hf
    | ok given =>
      simp only [hvalid] at hmono ⊢
      cases hs : c.start (r.counted tx) (tx.txType == DEPOSIT_TRANSACTION_TYPE) given with
      | none =>
        simp only [hs] at hmono ⊢
        refine ⟨trivial, (h.recordInitialGas_limit hrex1 hu _ given).symm, fun hf => ?_⟩
        have hnew := (fetched_of_same (premises_recordInitialGas _) (chain_recordInitialGas _)).1 hf
        exact hmono (h.fetched ((fetched_of_same (premises_onNewTx _) (chain_onNewTx _)).1 hnew))
      | some s =>
        simp only [hs] at hmono ⊢
        cases hl : r.l1Block c tx with
        | error e =>
          simp only [hl] at hmono ⊢
          exact ⟨trivial, rfl, fun hf => hmono (h.fetched hf)⟩
        | ok chain =>
          have hiff := fetched_refreshed_iff h.builder hl
          have hiff' := fetched_refreshed_iff h.replay (hl1.trans hl)
          have hrefreshed : r.Fetched (refreshed c' chain) → r.Fetched (refreshed c chain) :=
            fun hf => hiff.2 ((hiff'.1 hf).imp_left h.fetched)
          simp only [hl] at hmono ⊢
          cases hpre : r.preExecution c.premises chain tx with
          | error e => exact ⟨rfl, rfl, hrefreshed⟩
          | ok _ =>
            rw [h.txEnv]
            exact ⟨rfl, rfl, hrefreshed⟩
  exact ⟨hstep.1, hstep.2.1, hbuilder, hreplay, hp'.trans (h.premises.trans hp.symm), hstep.2.2⟩

end InStep

/-! ### Blocks -/

def LeavesL1Block (r : OpRuntime L1BlockInfo E) (state : EvmState) : Prop :=
  ∀ db n spec, r.tryFetch (db.commit state) n spec = r.tryFetch db n spec

/-- Where the L1 block info has been fetched, it stays what it is. -/
def Suits (r : OpRuntime L1BlockInfo E) (x : TxContext (MegaContext L1BlockInfo))
    (state : EvmState) : Prop := r.Fetched x.world → r.LeavesL1Block state

theorem Kept.commit (h : r.Kept spec limits c) {state : EvmState}
    (hs : r.Fetched c → r.LeavesL1Block state) : r.Kept spec limits (OpRuntime.commit c state) where
  carries := ⟨h.carries.spec_eq, h.carries.configuration, h.carries.caps, h.carries.detained_le⟩
  fresh hf := (hs hf _ _ _).trans (h.fresh hf)

theorem InStep.commit (h : r.InStep spec limits c c') {state : EvmState}
    (hs : r.Fetched c → r.LeavesL1Block state) :
    r.InStep spec limits (OpRuntime.commit c state) (OpRuntime.commit c' state) where
  builder := h.builder.commit hs
  replay := h.replay.commit fun hf => hs (h.fetched hf)
  premises := by
    obtain ⟨hblock, hcfg, hspec, hbeneficiary, hext, hsandbox, hdb⟩ := Premises.mk.inj h.premises
    simp only [MegaContext.premises, OpRuntime.commit, hblock, hcfg, hspec, hbeneficiary, hext,
      hsandbox, hdb]
  fetched := h.fetched

def EvmUnread {R : Type} (builder : OpReceiptBuilder (TxContext (MegaContext L1BlockInfo))
    OpTransaction EvmState Bytes R) : Prop :=
  ∀ (x y : TxContext (MegaContext L1BlockInfo))
    (ctx : ReceiptBuilderCtx (TxContext (MegaContext L1BlockInfo)) OpTransaction EvmState Bytes),
    builder.buildReceipt { ctx with evm := x } = builder.buildReceipt { ctx with evm := y }

def outcome (r : OpRuntime L1BlockInfo E) (c : MegaContext L1BlockInfo) (tx : OpTransaction) :
    Except E ResultAndState → Except E (MegaTransactionOutcome EvmState Bytes)
  | .ok result => .ok (finalize c result)
  | .error e => (r.catchError c.premises tx e).map (finalize c)

theorem outcome_same (hp : c'.premises = c.premises)
    (hlimit : c.additionalLimit = c'.additionalLimit) (tx : OpTransaction)
    (result : Except E ResultAndState) : r.outcome c tx result = r.outcome c' tx result := by
  have hfinalize : finalize c = finalize c' := by
    funext result
    simp only [finalize, hlimit]
  unfold outcome
  rw [hp, hfinalize]

variable {x y : TxContext (MegaContext L1BlockInfo)} {tx : BlockTx OpTransaction}

theorem execute_refused {text : String} (h : beforeRun spec tx.txEnv = .error text) :
    (r.blockEvm spec).executeTransaction x tx =
      (⟨tx.txEnv, x.world⟩, .error (r.fromString text)) := by
  simp only [blockEvm, MegaHandler.blockEvm, MegaHandler.call, MegaHandler.run, h, handler,
    r.catchError_fromString]
  rfl

theorem execute_ran {tx' : OpTransaction} (h : beforeRun spec tx.txEnv = .ok tx') :
    (r.blockEvm spec).executeTransaction x tx =
      (⟨tx', (r.runTx x.world tx').1⟩,
        r.outcome (r.runTx x.world tx').1 tx' (r.runTx x.world tx').2) := by
  simp only [blockEvm, MegaHandler.blockEvm, MegaHandler.call, MegaHandler.run, h, handler,
    MegaHandler.execute]
  cases r.runTx x.world tx' with
  | mk c result =>
    cases result with
    | ok result => rfl
    | error e =>
      simp only [outcome]
      cases r.catchError c.premises tx' e with
      | ok result => rfl
      | error e' => rfl

/-- From the second Rex spec on the EVM of a replay keeps in step with that of the
builder. -/
theorem keepsStep {R : Type} (r : OpRuntime L1BlockInfo E) (hrex1 : spec.isEnabled .rex1 = true)
    (hu : limits.txComputeGasLimit ≤ u64Max)
    {builder : OpReceiptBuilder (TxContext (MegaContext L1BlockInfo)) OpTransaction EvmState Bytes R}
    (hreceipt : EvmUnread builder) :
    KeepsStep (r.blockEvm spec) builder r.Suits
      fun x y => r.InStep spec limits x.world y.world where
  load x y a h := by
    have hdb : y.world.db = x.world.db := congrArg Premises.db h.premises
    refine ⟨?_, h⟩
    simp only [blockEvm, MegaHandler.blockEvm, loadCacheAccount, hdb]
  loadAlone x y a h := h
  execute x y tx h := by
    cases hbefore : beforeRun spec tx.txEnv with
    | error text =>
      rw [execute_refused hbefore, execute_refused hbefore]
      exact ⟨rfl, h⟩
    | ok tx' =>
      obtain ⟨hresult, hlimit, hstep⟩ := h.runTx hrex1 hu tx'
      rw [execute_ran hbefore, execute_ran hbefore, hresult]
      exact ⟨outcome_same hstep.premises hlimit tx' _, hstep⟩
  executeAlone x y tx h := by
    cases hbefore : beforeRun spec tx.txEnv with
    | error text =>
      rw [execute_refused hbefore]
      exact h
    | ok tx' =>
      obtain ⟨hkept, hp, hmono⟩ := h.builder.runTx tx'
      rw [execute_ran hbefore]
      exact ⟨hkept, h.replay, h.premises.trans hp.symm, fun hf => hmono (h.fetched hf)⟩
  commit x y state h hs := h.commit hs
  receipt x y ctx _ := hreceipt x y ctx

theorem inStep_new (hspec : c.spec = spec) (hnew : ¬ r.Fetched c) :
    r.InStep spec limits (c.withTxRuntimeLimits limits) (c.withTxRuntimeLimits limits) := by
  have hkept : r.Kept spec limits (c.withTxRuntimeLimits limits) :=
    ⟨hspec ▸ MegaContext.carries_withTxRuntimeLimits c limits, fun hf => absurd hf hnew⟩
  exact ⟨hkept, hkept, rfl, id⟩

/-- The executors have done the same, in contexts that are in step. -/
def Agrees {R : Type} (r : OpRuntime L1BlockInfo E) (spec : MegaSpecId)
    (limits : EvmTxRuntimeLimits)
    (x y : MegaBlockExecutor (TxContext (MegaContext L1BlockInfo)) EvmState R) : Prop :=
  MegaBlockExecutor.Agree (fun x y => r.InStep spec limits x.world y.world) x y

/-- From the second Rex spec on, whatever is tried and whatever of it is kept, as long as no
state that is kept changes an L1 block info that has been fetched: who replays the kept
transactions from the same state commits each of them, and gets the builder's receipts,
counters, gas and state. -/
theorem replay_agrees {R : Type} (r : OpRuntime L1BlockInfo E)
    (hrex1 : spec.isEnabled .rex1 = true) (hu : limits.txComputeGasLimit ≤ u64Max)
    {builder : OpReceiptBuilder (TxContext (MegaContext L1BlockInfo)) OpTransaction EvmState Bytes R}
    (hreceipt : EvmUnread builder)
    {x y : MegaBlockExecutor (TxContext (MegaContext L1BlockInfo)) EvmState R}
    (hxy : r.Agrees spec limits x y) {pre post : List EvmState}
    (hpre : ∀ s ∈ pre, r.LeavesL1Block s) (hpost : ∀ s ∈ post, r.LeavesL1Block s)
    {attempts : List (MegaBlockExecutor.Attempt OpTransaction EvmState Bytes)}
    (htaken : Selection.Takes (MegaBlockExecutor.attempt (r.blockEvm spec) builder)
      (fun x a => x.KeptSuits (r.blockEvm spec) r.Suits a)
      (x.commitSystemCallOutcomes (r.blockEvm spec) pre) attempts) :
    let built := Selection.buildAll (MegaBlockExecutor.attempt (r.blockEvm spec) builder)
      (x.commitSystemCallOutcomes (r.blockEvm spec) pre) attempts
    ∃ replayed, Selection.validateAll (MegaBlockExecutor.validate (r.blockEvm spec) builder)
        (y.commitSystemCallOutcomes (r.blockEvm spec) pre) built.2 = some replayed ∧
      r.Agrees spec limits (built.1.commitSystemCallOutcomes (r.blockEvm spec) post)
        (replayed.commitSystemCallOutcomes (r.blockEvm spec) post) ∧
      built.1.gasUsed builder = replayed.gasUsed builder :=
  (keepsStep r hrex1 hu hreceipt).replay hxy (fun s hs _ _ => hpre s hs)
    (fun s hs _ _ => hpost s hs) htaken

end OpRuntime

section Samples

def Played.ofEvents (env : Env) (s : State) (events : List Event) : Played env s :=
  match h : Run.run (step env) s events with
  | some last => ⟨events, last, h⟩
  | none => ⟨[], s, rfl⟩

def L1_BLOCK_CONTRACT : Address := 0x4200000000000000000000000000000000000015

def l1Attributes : EvmState :=
  .ofAccount L1_BLOCK_CONTRACT { Account.ofInfo default with
    storage := AList.insert 1 ⟨0, 9, 0, false⟩ ∅
    status := { (default : AccountStatus) with touched := true } }

/-- Transactions with data read TIMESTAMP; all but deposits pay the L1 base fee in gas. -/
def timestampRuntime : OpRuntime (ℕ × ℕ) String where
  decodeCall _ := .other
  accessSize _ := 20
  authority _ := none
  validateEnv _ _ := .ok (sampleStart .rex4 rex4_computeGas_fits)
  systemStart _ _ := sampleStart .rex4 rex4_computeGas_fits
  gasTooLow _ _ := "CallGasCostMoreThanGasLimit"
  l2Block info := info.1
  tryFetch db n _ := .ok (n, db.storage L1_BLOCK_CONTRACT 1)
  l2Block_tryFetch db n spec info h := by
    cases h
    rfl
  preExecution _ _ _ := .ok ()
  play _ _ tx env s := .ofEvents env s (if tx.base.data.isEmpty then [] else timestampEvents)
  executionResult _ info tx _ := .ok
    { result := .success (21000 + (info.map Prod.snd).getD 0) (.call []) []
      state := if info.isSome then ∅ else l1Attributes }
  catchError _ _ e := .error e
  fromString text := text
  catchError_fromString _ _ _ := rfl

def l1Defaults : OpDefaults (ℕ × ℕ) where
  cfgNewWithSpec _ := mainnetCfg 1
  block := ⟨0, 0, 1, u64Max, 0, 0, 0⟩
  chain := (0, 0)
  balanceChecked := mainnetCfg_balance

def blockContext : MegaContext (ℕ × ℕ) :=
  (MegaContext.newWithSharedExtEnvs l1Defaults richDb .rex4 EmptyExternalEnv).withBlock
    ⟨12, 1, 1000, 10000000000, 0, 5, 1⟩

def blockExecutor : MegaBlockExecutor (TxContext (MegaContext (ℕ × ℕ))) EvmState UInt64 where
  evm := ⟨legacyCall 0 0, blockContext.withTxRuntimeLimits .rex4⟩
  blockLimiter := .new BlockRun.rex4Limits
  receipts := []
  onState := []

def blockTx (data : Bytes) (isDeposit : Bool) : BlockTx OpTransaction where
  txHash := 1
  gasLimit := 1000000
  encode2718Len := 110
  estimatedDaSize := 100
  isDeposit := isDeposit
  signer := 8
  txEnv :=
    { legacyCall 8 7 with
      base := { (legacyCall 8 7).base with gasLimit := 1000000, data := data }
      deposit := { (legacyCall 8 7).deposit with sourceHash := if isDeposit then 1 else 0 } }

/-- The L1 attributes, a transaction that reads TIMESTAMP and is not kept, and one that is. -/
def blockAttempts : List (MegaBlockExecutor.Attempt OpTransaction EvmState Bytes) :=
  [⟨blockTx [] true, fun _ => true⟩, ⟨blockTx [1] false, fun _ => false⟩,
   ⟨blockTx [] false, fun _ => true⟩]

theorem leavesL1Block_empty : timestampRuntime.LeavesL1Block ∅ := fun _ _ _ => rfl

theorem cumulativeReceipts_unread {L1BlockInfo : Type} :
    OpRuntime.EvmUnread (cumulativeReceipts : OpReceiptBuilder
      (TxContext (MegaContext L1BlockInfo)) OpTransaction EvmState Bytes UInt64) :=
  fun _ _ _ => rfl

theorem blockExecutor_agrees :
    timestampRuntime.Agrees .rex4 .rex4 blockExecutor blockExecutor where
  evm := OpRuntime.inStep_new rfl (by decide : ¬ (0 : ℕ) = 12)
  blockLimiter := rfl
  receipts := rfl
  onState := rfl

theorem blockAttempts_taken :
    Selection.Takes (MegaBlockExecutor.attempt (timestampRuntime.blockEvm .rex4) cumulativeReceipts)
      (fun x a => x.KeptSuits (timestampRuntime.blockEvm .rex4) timestampRuntime.Suits a)
      blockExecutor blockAttempts := by
  refine ⟨?_, fun x₁ h₁ => ⟨?_, fun x₂ h₂ => ⟨?_, fun _ _ => trivial⟩⟩⟩
  · intro x' o hrun _ hf
    have hx' : (blockExecutor.runTransaction (timestampRuntime.blockEvm .rex4)
        (blockTx [] true)).1 = x' := congrArg Prod.fst hrun
    rw [← hx'] at hf
    exact absurd hf (by decide : ¬ (0 : ℕ) = 12)
  · intro x' o _ hkeep
    cases hkeep
  · cases h₁
    cases h₂
    intro x' o hrun _ _
    have hstate := congrArg (fun p => p.2.toOption.map (·.inner.state)) hrun
    have hempty : ∅ = o.inner.state := Option.some.inj hstate
    rw [← hempty]
    exact leavesL1Block_empty

/-- Of three transactions the second is not kept; the replay is of the other two. -/
theorem replay_agrees_dropped : ∃ replayed,
    Selection.validateAll
      (MegaBlockExecutor.validate (timestampRuntime.blockEvm .rex4) cumulativeReceipts)
      blockExecutor [blockTx [] true, blockTx [] false] = some replayed ∧
    replayed.receipts = [21000, 42009] := by
  obtain ⟨replayed, hreplay, hagree, -⟩ := timestampRuntime.replay_agrees (by decide)
    rex4_computeGas_fits cumulativeReceipts_unread blockExecutor_agrees (List.forall_mem_nil _)
    (List.forall_mem_nil _) blockAttempts_taken
  exact ⟨replayed, hreplay, hagree.receipts.symm⟩

end Samples

end MegaEvm
