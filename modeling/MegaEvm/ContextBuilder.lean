import MegaEvm.BucketPrices
import MegaEvm.Library.LastSetting
import MegaEvm.SandboxContext
import MegaEvm.StateMerge

/-!
# Building a context

A context is made for one spec and configured by a chain of calls. While every
configuration keeps the spec, the last call of each kind is all that counts, in any order.
A configuration with another spec moves the context to that spec, but leaves the limits
and the storage prices at the spec they were made for.
-/

set_option autoImplicit false

namespace MegaEvm

inductive BuilderCall (L1BlockInfo : Type) where
  | withDb (db : Db)
  | withBlock (block : BlockEnv)
  | withCfg (spec : MegaSpecId) (cfg : CfgEnv)
  | withExternalEnvs (externalEnvs : ExternalEnvs)
  | withChain (chain : L1BlockInfo)
  | withTxRuntimeLimits (txLimits : EvmTxRuntimeLimits)
  | withSandboxDisabled (value : Bool)

namespace BuilderCall

inductive Kind where
  | db
  | block
  | cfg
  | externalEnvs
  | chain
  | txRuntimeLimits
  | sandboxDisabled
  deriving DecidableEq, Repr

variable {L1BlockInfo : Type}

def kind : BuilderCall L1BlockInfo → Kind
  | withDb _ => .db
  | withBlock _ => .block
  | withCfg _ _ => .cfg
  | withExternalEnvs _ => .externalEnvs
  | withChain _ => .chain
  | withTxRuntimeLimits _ => .txRuntimeLimits
  | withSandboxDisabled _ => .sandboxDisabled

def Keeps (spec : MegaSpecId) : BuilderCall L1BlockInfo → Prop
  | withCfg spec' _ => spec' = spec
  | _ => True

end BuilderCall

namespace MegaContext

variable {L1BlockInfo : Type}

def new (defaults : OpDefaults L1BlockInfo) (db : Db) (spec : MegaSpecId) :
    MegaContext L1BlockInfo :=
  newWithSharedExtEnvs defaults db spec EmptyExternalEnv

def default (defaults : OpDefaults L1BlockInfo) : MegaContext L1BlockInfo :=
  new defaults emptyDb .equivalence

/-- Another database comes with a new journal. -/
def withDb (ctx : MegaContext L1BlockInfo) (db : Db) : MegaContext L1BlockInfo :=
  { ctx with
    journalState := ∅
    db := db }

def withSpecCfg (ctx : MegaContext L1BlockInfo) (spec : MegaSpecId) (cfg : CfgEnv) :
    MegaContext L1BlockInfo :=
  { ctx with spec := spec }.withCfg cfg

/-- The storage prices are made anew, for the spec of the moment. -/
def withExternalEnvs (ctx : MegaContext L1BlockInfo) (externalEnvs : ExternalEnvs) :
    MegaContext L1BlockInfo :=
  { ctx with
    externalEnvs := externalEnvs
    dynamicStorageGasCost := .new ctx.spec (ctx.block.number - 1) }

def call (ctx : MegaContext L1BlockInfo) : BuilderCall L1BlockInfo → MegaContext L1BlockInfo
  | .withDb db => ctx.withDb db
  | .withBlock block => ctx.withBlock block
  | .withCfg spec cfg => ctx.withSpecCfg spec cfg
  | .withExternalEnvs externalEnvs => ctx.withExternalEnvs externalEnvs
  | .withChain chain => ctx.withChain chain
  | .withTxRuntimeLimits txLimits => ctx.withTxRuntimeLimits txLimits
  | .withSandboxDisabled value => ctx.withSandboxDisabled value

def build (ctx : MegaContext L1BlockInfo) (calls : List (BuilderCall L1BlockInfo)) :
    MegaContext L1BlockInfo :=
  calls.foldl call ctx

/-! ## Configurations that keep the spec -/

def assign (spec : MegaSpecId) (ctx : MegaContext L1BlockInfo) :
    BuilderCall L1BlockInfo → MegaContext L1BlockInfo
  | .withDb db => ctx.withDb db
  | .withBlock block =>
    { ctx with
      block := block
      dynamicStorageGasCost := .new spec (block.number - 1) }
  | .withCfg _ cfg => { ctx with cfg := cfg.sizedIfNone spec }
  | .withExternalEnvs externalEnvs => { ctx with externalEnvs := externalEnvs }
  | .withChain chain => ctx.withChain chain
  | .withTxRuntimeLimits txLimits =>
    { ctx with
      additionalLimit := .new spec txLimits
      volatileDataTracker :=
        .new txLimits.blockEnvAccessComputeGasLimit txLimits.oracleAccessComputeGasLimit }
  | .withSandboxDisabled value => ctx.withSandboxDisabled value

structure AtSpec (spec : MegaSpecId) (ctx : MegaContext L1BlockInfo) : Prop where
  spec_eq : ctx.spec = spec
  cost_eq : ctx.dynamicStorageGasCost = .new spec (ctx.block.number - 1)

variable {spec : MegaSpecId} {ctx : MegaContext L1BlockInfo} {op op' : BuilderCall L1BlockInfo}

theorem AtSpec.call_eq (h : ctx.AtSpec spec) (hmini : spec.isEnabled .miniRex = true)
    (hop : op.Keeps spec) : ctx.call op = ctx.assign spec op := by
  obtain ⟨rfl, hcost⟩ := h
  cases op with
  | withDb | withChain | withTxRuntimeLimits | withSandboxDisabled => rfl
  | withBlock block =>
    simp only [call, withBlock, onNewBlock, hmini, if_true, assign, hcost]
    rfl
  | withCfg spec' cfg =>
    cases hop
    rfl
  | withExternalEnvs externalEnvs =>
    simp only [call, withExternalEnvs, assign, ← hcost]

theorem AtSpec.assign (h : ctx.AtSpec spec) (op : BuilderCall L1BlockInfo) :
    (ctx.assign spec op).AtSpec spec := by
  cases op with
  | withBlock block => exact ⟨h.spec_eq, rfl⟩
  | withDb | withCfg | withExternalEnvs | withChain | withTxRuntimeLimits
  | withSandboxDisabled => exact ⟨h.spec_eq, h.cost_eq⟩

theorem assign_comm (hkind : op.kind ≠ op'.kind) :
    (ctx.assign spec op).assign spec op' = (ctx.assign spec op').assign spec op := by
  cases op <;> cases op' <;> first | rfl | exact absurd rfl hkind

theorem assign_assign (hkind : op.kind = op'.kind) :
    (ctx.assign spec op).assign spec op' = ctx.assign spec op' := by
  cases op <;> cases op' <;> first | rfl | cases hkind

theorem call_overwrites (hmini : spec.isEnabled .miniRex = true) :
    LastSetting.Overwrites (@call L1BlockInfo) BuilderCall.kind (AtSpec spec)
      (BuilderCall.Keeps spec) := by
  have hkeeps : ∀ (ctx : MegaContext L1BlockInfo) op, ctx.AtSpec spec →
      BuilderCall.Keeps spec op → (ctx.call op).AtSpec spec := by
    intro ctx op h hop
    rw [h.call_eq hmini hop]
    exact h.assign op
  constructor
  case keeps => exact hkeeps
  case commute =>
    intro ctx op op' h hop hop' hkind
    rw [(hkeeps ctx op h hop).call_eq hmini hop', (hkeeps ctx op' h hop').call_eq hmini hop,
      h.call_eq hmini hop, h.call_eq hmini hop', assign_comm hkind]
  case overwrite =>
    intro ctx op op' h hop hop' hkind
    rw [(hkeeps ctx op h hop).call_eq hmini hop', h.call_eq hmini hop, h.call_eq hmini hop',
      assign_assign hkind]

/-- From the first mega spec on, while every configuration keeps the spec the context was
made for, two chains with the same last call of each kind build the same context. -/
theorem build_order (defaults : OpDefaults L1BlockInfo) (db : Db) (spec : MegaSpecId)
    (externalEnvs : ExternalEnvs) (hmini : spec.isEnabled .miniRex = true)
    (calls calls' : List (BuilderCall L1BlockInfo))
    (hkeeps : ∀ op ∈ calls ++ calls', op.Keeps spec)
    (hlast : ∀ k, LastSetting.lastOf BuilderCall.kind calls k =
      LastSetting.lastOf BuilderCall.kind calls' k) :
    (newWithSharedExtEnvs defaults db spec externalEnvs).build calls =
      (newWithSharedExtEnvs defaults db spec externalEnvs).build calls' := by
  have hnew : (newWithSharedExtEnvs defaults db spec externalEnvs).AtSpec spec := ⟨rfl, rfl⟩
  exact (call_overwrites hmini).foldl_eq_of_lastOf hnew
    (fun op hop => hkeeps op (List.mem_append_left _ hop))
    (fun op hop => hkeeps op (List.mem_append_right _ hop)) hlast

/-- The calls of a block executor, that sets the limits twice. -/
def executorCalls : List (BuilderCall Unit) :=
  [.withExternalEnvs EmptyExternalEnv, .withBlock ⟨12, 1, 1000, 10000000000, 0, 5, 1⟩,
    .withCfg .rex4 (mainnetCfg 1), .withChain (), .withTxRuntimeLimits .rex4,
    .withTxRuntimeLimits .noLimits]

/-- The last call of each kind may as well be made in the reversed order. -/
theorem build_order_reversed :
    (newWithSharedExtEnvs sampleDefaults emptyDb .rex4 EmptyExternalEnv).build executorCalls =
      (newWithSharedExtEnvs sampleDefaults emptyDb .rex4 EmptyExternalEnv).build
        (executorCalls.reverse.eraseIdx 1) := by
  refine build_order sampleDefaults emptyDb .rex4 EmptyExternalEnv rfl _ _ ?_ fun k => ?_
  · simp [executorCalls, BuilderCall.Keeps]
  · cases k <;> rfl

/-! ## Configurations with another spec -/

/-- What the limits and the storage prices of a context were made for. -/
structure Made where
  spec : MegaSpecId
  limitsSpec : MegaSpecId
  given : Option EvmTxRuntimeLimits
  pricesSpec : MegaSpecId
  deriving DecidableEq, Repr

namespace Made

def new (spec : MegaSpecId) : Made := ⟨spec, spec, none, spec⟩

def call (m : Made) : BuilderCall L1BlockInfo → Made
  | .withCfg spec _ => { m with spec := spec }
  | .withTxRuntimeLimits txLimits => { m with limitsSpec := m.spec, given := some txLimits }
  | .withExternalEnvs _ => { m with pricesSpec := m.spec }
  | _ => m

def after (spec : MegaSpecId) (calls : List (BuilderCall L1BlockInfo)) : Made :=
  calls.foldl call (new spec)

def limitsOr (m : Made) (spec : MegaSpecId) : EvmTxRuntimeLimits := m.given.getD (.fromSpec spec)

end Made

def prices {E : Type} (ctx : MegaContext L1BlockInfo) (env : Salt.SaltEnv E) :
    Salt.DynamicGasCost E :=
  .new ctx.dynamicStorageGasCost.spec env

/-- The context has `limits` as its spec applies them, and prices storage as its spec does, in
whatever environment. -/
structure Configured (ctx : MegaContext L1BlockInfo) (limits : EvmTxRuntimeLimits) : Prop where
  limited : ctx.additionalLimit = .new ctx.spec limits
  capped : ctx.volatileDataTracker =
    .new limits.blockEnvAccessComputeGasLimit limits.oracleAccessComputeGasLimit
  uncached : ctx.dynamicStorageGasCost.bucketCostMultipliers = ∅
  priced : ∀ {E : Type} (env : Salt.SaltEnv E) (c : Salt.StorageCharge),
    ((ctx.prices env).gas c).1 = ((Salt.DynamicGasCost.new ctx.spec env).gas c).1

structure MadeAs (m : Made) (ctx : MegaContext L1BlockInfo) : Prop where
  spec_eq : ctx.spec = m.spec
  limited : ctx.additionalLimit = .new m.limitsSpec (m.limitsOr m.limitsSpec)
  capped : ctx.volatileDataTracker = .new (m.limitsOr m.limitsSpec).blockEnvAccessComputeGasLimit
    (m.limitsOr m.limitsSpec).oracleAccessComputeGasLimit
  uncached : ctx.dynamicStorageGasCost.bucketCostMultipliers = ∅
  priced : ctx.dynamicStorageGasCost.spec = m.pricesSpec

variable {m : Made}

theorem MadeAs.call (h : ctx.MadeAs m) (op : BuilderCall L1BlockInfo) :
    (ctx.call op).MadeAs (m.call op) := by
  cases op with
  | withDb | withChain | withSandboxDisabled =>
    exact ⟨h.spec_eq, h.limited, h.capped, h.uncached, h.priced⟩
  | withCfg spec cfg => exact ⟨rfl, h.limited, h.capped, h.uncached, h.priced⟩
  | withTxRuntimeLimits txLimits =>
    have hlimited := congrArg (AdditionalLimit.new · txLimits) h.spec_eq
    exact ⟨h.spec_eq, hlimited, rfl, h.uncached, h.priced⟩
  | withExternalEnvs externalEnvs => exact ⟨h.spec_eq, h.limited, h.capped, rfl, h.spec_eq⟩
  | withBlock block =>
    have hcost : (ctx.withBlock block).dynamicStorageGasCost.bucketCostMultipliers = ∅ ∧
        (ctx.withBlock block).dynamicStorageGasCost.spec = m.pricesSpec := by
      simp only [withBlock, onNewBlock]
      split
      · exact ⟨rfl, h.priced⟩
      · exact ⟨h.uncached, h.priced⟩
    exact ⟨h.spec_eq, h.limited, h.capped, hcost.1, hcost.2⟩

theorem build_madeAs (defaults : OpDefaults L1BlockInfo) (db : Db) (spec : MegaSpecId)
    (externalEnvs : ExternalEnvs) (calls : List (BuilderCall L1BlockInfo)) :
    ((newWithSharedExtEnvs defaults db spec externalEnvs).build calls).MadeAs
      (.after spec calls) := by
  have hrun : ∀ (calls : List (BuilderCall L1BlockInfo)) (ctx : MegaContext L1BlockInfo) m,
      ctx.MadeAs m → (ctx.build calls).MadeAs (calls.foldl Made.call m) := by
    intro calls
    induction calls with
    | nil => exact fun ctx m h => h
    | cons op calls ih => exact fun ctx m h => ih _ _ (h.call op)
  exact hrun calls _ _ ⟨rfl, rfl, rfl, rfl, rfl⟩

theorem gas_new {E : Type} (spec : MegaSpecId) (env : Salt.SaltEnv E) (c : Salt.StorageCharge) :
    ((Salt.DynamicGasCost.new spec env).gas c).1 =
      ((env.getBucketCapacity (c.bucketId env)).map Salt.bucketMultiplier).map
        (c.priceAt spec) :=
  Salt.DynamicGasCost.asking_gas (.new spec env) env.getBucketCapacity c

theorem gas_least_capacity (spec : MegaSpecId) (c : Salt.StorageCharge) :
    ((Salt.DynamicGasCost.new spec (.ofCapacity 256)).gas c).1 =
      .ok (if spec.isEnabled .rex then 0 else 2000000) := by
  have hone : Salt.bucketMultiplier 256 = 1 := by decide
  have hprice : c.priceAt spec 1 = if spec.isEnabled .rex then 0 else 2000000 := by
    unfold Salt.StorageCharge.priceAt Salt.DynamicGasCost.price
    split
    · rw [UInt64.sub_self, UInt64.mul_zero]
    · rw [UInt64.mul_one]
      cases c <;> rfl
  rw [gas_new, ← hprice, ← hone]
  rfl

theorem priced_iff {spec spec' : MegaSpecId} :
    (∀ {E : Type} (env : Salt.SaltEnv E) (c : Salt.StorageCharge),
      ((Salt.DynamicGasCost.new spec env).gas c).1 =
        ((Salt.DynamicGasCost.new spec' env).gas c).1) ↔
      spec.isEnabled .rex = spec'.isEnabled .rex := by
  constructor
  · intro h
    have hleast := h (.ofCapacity 256) (.newAccount 0)
    rw [gas_least_capacity, gas_least_capacity] at hleast
    cases hrex : spec.isEnabled .rex <;> cases hrex' : spec'.isEnabled .rex
    all_goals first
      | rfl
      | (rw [hrex, hrex'] at hleast
         cases hleast)
  · intro h E env c
    have hprice : c.priceAt spec = c.priceAt spec' := by
      funext multiplier
      unfold Salt.StorageCharge.priceAt Salt.DynamicGasCost.price
      rw [h]
    rw [gas_new, gas_new, hprice]

theorem MadeAs.configured_iff (h : ctx.MadeAs m) : ctx.Configured (m.limitsOr m.spec) ↔
    m.limitsSpec = m.spec ∧ m.pricesSpec.isEnabled .rex = m.spec.isEnabled .rex := by
  constructor
  · intro hc
    have hlimits := h.limited.symm.trans hc.limited
    have hspec : m.limitsSpec = ctx.spec := congrArg AdditionalLimit.spec hlimits
    refine ⟨hspec.trans h.spec_eq, priced_iff.1 fun env c => ?_⟩
    have hpriced := hc.priced env c
    rwa [prices, h.priced, h.spec_eq] at hpriced
  · rintro ⟨hlimits, hprices⟩
    refine ⟨?_, ?_, h.uncached, fun env c => ?_⟩
    · rw [h.limited, hlimits, h.spec_eq]
    · rw [h.capped, hlimits]
    · rw [prices, h.priced, h.spec_eq]
      exact priced_iff.2 hprices env c

/-- However a context is built, it has the limits it was given, or those of its spec, and the
prices of its spec exactly when the limits were last made at that spec, and the external
environments were last set on the same side of Rex. -/
theorem built_configured_iff (defaults : OpDefaults L1BlockInfo) (db : Db) (spec : MegaSpecId)
    (externalEnvs : ExternalEnvs) (calls : List (BuilderCall L1BlockInfo)) :
    ((newWithSharedExtEnvs defaults db spec externalEnvs).build calls).Configured
        ((Made.after spec calls).limitsOr (Made.after spec calls).spec) ↔
      (Made.after spec calls).limitsSpec = (Made.after spec calls).spec ∧
        (Made.after spec calls).pricesSpec.isEnabled .rex =
          (Made.after spec calls).spec.isEnabled .rex :=
  (build_madeAs defaults db spec externalEnvs calls).configured_iff

/-! ## Where contexts are built -/

variable (defaults : OpDefaults L1BlockInfo)

/-- The context of `create_evm` in the EVM factory. -/
def createEvm (externalEnvs : ℕ → ExternalEnvs) (db : Db) (spec : MegaSpecId) (cfg : CfgEnv)
    (block : BlockEnv) : MegaContext L1BlockInfo :=
  (new defaults db spec).build
    [.withExternalEnvs (externalEnvs block.number), .withBlock block, .withCfg spec cfg,
      .withChain defaults.chain, .withTxRuntimeLimits (.fromSpec spec)]

/-- The context of `create_executor` in the block executor factory. -/
def createExecutor (externalEnvs : ℕ → ExternalEnvs) (db : Db) (spec : MegaSpecId) (cfg : CfgEnv)
    (block : BlockEnv) (runtimeLimits : EvmTxRuntimeLimits) : MegaContext L1BlockInfo :=
  (createEvm defaults externalEnvs db spec cfg block).withTxRuntimeLimits runtimeLimits

def createEvmContext (db : Db) (spec : MegaSpecId) (cfg : CfgEnv) (block : BlockEnv)
    (externalEnvs : ExternalEnvs) : MegaContext L1BlockInfo :=
  (new defaults db spec).build
    [.withCfg spec cfg, .withBlock block, .withExternalEnvs externalEnvs]

/-- The context of state transitions and of state tests. -/
def transitionContext (db : Db) (spec : MegaSpecId) (cfg : CfgEnv) (block : BlockEnv) :
    MegaContext L1BlockInfo :=
  (MegaContext.default defaults).build [.withDb db, .withCfg spec cfg, .withBlock block]

/-- The contexts of the factories and of the commands that run code and transactions are those
of their spec. That of state transitions and of state tests is so only in the first spec: it
has no limits in any, and a charge at the least capacity costs 2000000, from Rex on as well. -/
theorem contexts_configured (externalEnvs : ℕ → ExternalEnvs) (db : Db) (spec : MegaSpecId)
    (cfg : CfgEnv) (block : BlockEnv) (limits : EvmTxRuntimeLimits) :
    (createEvm defaults externalEnvs db spec cfg block).Configured (.fromSpec spec) ∧
    (createExecutor defaults externalEnvs db spec cfg block limits).Configured limits ∧
    (createEvmContext defaults db spec cfg block (externalEnvs block.number)).Configured
      (.fromSpec spec) ∧
    ((transitionContext defaults db spec cfg block).Configured (.fromSpec spec) ↔
      spec = .equivalence) ∧
    (transitionContext defaults db spec cfg block).additionalLimit =
      .new .equivalence .noLimits ∧
    ∀ c, (((transitionContext defaults db spec cfg block).prices (.ofCapacity 256)).gas c).1 =
        .ok 2000000 ∧
      (spec.isEnabled .rex = true →
        ((Salt.DynamicGasCost.new spec (.ofCapacity 256)).gas c).1 = .ok 0) := by
  have hevm := build_madeAs defaults db spec EmptyExternalEnv
    [.withExternalEnvs (externalEnvs block.number), .withBlock block, .withCfg spec cfg,
      .withChain defaults.chain, .withTxRuntimeLimits (.fromSpec spec)]
  have hexecutor := hevm.call (.withTxRuntimeLimits limits)
  have hcommand := build_madeAs defaults db spec EmptyExternalEnv
    [.withCfg spec cfg, .withBlock block, .withExternalEnvs (externalEnvs block.number)]
  have htransition := build_madeAs defaults emptyDb .equivalence EmptyExternalEnv
    [.withDb db, .withCfg spec cfg, .withBlock block]
  refine ⟨hevm.configured_iff.2 ⟨rfl, rfl⟩, hexecutor.configured_iff.2 ⟨rfl, rfl⟩,
    hcommand.configured_iff.2 ⟨rfl, rfl⟩, ?_, htransition.limited, fun c => ⟨?_, fun hrex => ?_⟩⟩
  · refine htransition.configured_iff.trans ⟨fun h => h.1.symm, ?_⟩
    rintro rfl
    exact ⟨rfl, rfl⟩
  · have hprices := htransition.priced
    show ((Salt.DynamicGasCost.new _ _).gas c).1 = _
    rw [gas_least_capacity]
    exact congrArg (fun s : MegaSpecId => Except.ok (if s.isEnabled .rex then 0 else 2000000))
      hprices
  · rw [gas_least_capacity, if_pos hrex]

end MegaContext

end MegaEvm
