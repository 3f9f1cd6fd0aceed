import MegaEvm.FloorGas
import MegaEvm.ReadSet
import MegaEvm.SystemCalls

/-!
# Dynamic storage gas

What a new slot, a new account and a new contract cost depends on the capacity of
their SALT bucket, which the environment answers and the calculator caches. The
multiplier, the price and the sum with the initial gas of a transaction are plain
64-bit arithmetic: below the minimum capacity the multiplier of the Rex specs goes
below zero, and a large capacity takes the product over `2 ^ 64`.
-/

set_option autoImplicit false

namespace MegaEvm.Salt

open KeyedFold

structure SaltEnv (E : Type) where
  getBucketCapacity : UInt32 → Except E UInt64
  bucketIdForAccount : Address → UInt32
  bucketIdForSlot : Address → ℕ → UInt32

def SaltEnv.ofCapacity (capacity : UInt64) : SaltEnv Empty where
  getBucketCapacity _ := .ok capacity
  bucketIdForAccount _ := 0
  bucketIdForSlot _ _ := 0

structure DynamicGasCost (E : Type) extends MegaEvm.DynamicGasCost where
  saltEnv : SaltEnv E

namespace DynamicGasCost

variable {E : Type}

def new (spec : MegaSpecId) (saltEnv : SaltEnv E) (parentBlock : ℕ := 0) : DynamicGasCost E :=
  ⟨.new spec parentBlock, saltEnv⟩

/-- The number of the block plays no part in the prices, and stays. -/
def reset (d : DynamicGasCost E) : DynamicGasCost E :=
  { d with toDynamicGasCost := d.toDynamicGasCost.reset d.parentBlock }

/-- An error of the environment caches nothing. -/
def loadBucketCostMultiplier (d : DynamicGasCost E) (bucketId : UInt32) :
    Except E UInt64 × DynamicGasCost E :=
  match d.bucketCostMultipliers.lookup bucketId with
  | some multiplier => (.ok multiplier, d)
  | none =>
    match d.saltEnv.getBucketCapacity bucketId with
    | .error e => (.error e, d)
    | .ok capacity =>
      let multiplier := capacity / UInt64.ofNat constants.MIN_BUCKET_SIZE
      (.ok multiplier,
        { d with bucketCostMultipliers := d.bucketCostMultipliers.insert bucketId multiplier })

/-- The price at a multiplier; all of it wraps. -/
def price (spec : MegaSpecId) (rexBase miniRexBase multiplier : UInt64) : UInt64 :=
  if spec.isEnabled .rex then rexBase * (multiplier - 1) else miniRexBase * multiplier

def bucketGas (d : DynamicGasCost E) (bucketId : UInt32) (rexBase miniRexBase : UInt64) :
    Except E UInt64 × DynamicGasCost E :=
  ((d.loadBucketCostMultiplier bucketId).1.map (price d.spec rexBase miniRexBase),
    (d.loadBucketCostMultiplier bucketId).2)

def sstoreSetGas (d : DynamicGasCost E) (address : Address) (key : ℕ) :
    Except E UInt64 × DynamicGasCost E :=
  d.bucketGas (d.saltEnv.bucketIdForSlot address key) constants.SSTORE_SET_STORAGE_GAS_BASE
    constants.SSTORE_SET_STORAGE_GAS

def newAccountGas (d : DynamicGasCost E) (address : Address) : Except E UInt64 × DynamicGasCost E :=
  d.bucketGas (d.saltEnv.bucketIdForAccount address)
    (UInt64.ofNat constants.NEW_ACCOUNT_STORAGE_GAS_BASE)
    (UInt64.ofNat constants.NEW_ACCOUNT_STORAGE_GAS)

def createContractGas (d : DynamicGasCost E) (address : Address) :
    Except E UInt64 × DynamicGasCost E :=
  d.bucketGas (d.saltEnv.bucketIdForAccount address)
    (UInt64.ofNat constants.CONTRACT_CREATION_STORAGE_GAS_BASE)
    (UInt64.ofNat constants.NEW_ACCOUNT_STORAGE_GAS)

end DynamicGasCost

inductive StorageCharge where
  | sstoreSet (address : Address) (key : ℕ)
  | newAccount (address : Address)
  | createContract (address : Address)
  deriving DecidableEq, Repr

namespace StorageCharge

def bucketId {E : Type} (env : SaltEnv E) : StorageCharge → UInt32
  | sstoreSet address key => env.bucketIdForSlot address key
  | newAccount address | createContract address => env.bucketIdForAccount address

def base (spec : MegaSpecId) : StorageCharge → ℕ
  | sstoreSet _ _ => if spec.isEnabled .rex then 20000 else 2000000
  | newAccount _ => if spec.isEnabled .rex then 25000 else 2000000
  | createContract _ => if spec.isEnabled .rex then 32000 else 2000000

/-- The charge in natural numbers, nothing up to the minimum capacity in the Rex specs. -/
def exactGas (spec : MegaSpecId) (capacity : UInt64) (c : StorageCharge) : ℕ :=
  c.base spec * (capacity.toNat / constants.MIN_BUCKET_SIZE - if spec.isEnabled .rex then 1 else 0)

/-- The charge fits 64 bits, and the Rex multiplier is not less than one. -/
def Fits (spec : MegaSpecId) (capacity : UInt64) (c : StorageCharge) : Prop :=
  (spec.isEnabled .rex = true → constants.MIN_BUCKET_SIZE ≤ capacity.toNat) ∧
    c.exactGas spec capacity < 2 ^ 64

/-- Exact, or saturated. -/
def Counted (spec : MegaSpecId) (capacity : UInt64) (c : StorageCharge) (gas : UInt64) : Prop :=
  gas.toNat = min (c.exactGas spec capacity) u64Max

end StorageCharge

namespace DynamicGasCost

variable {E : Type}

def gas (d : DynamicGasCost E) : StorageCharge → Except E UInt64 × DynamicGasCost E
  | .sstoreSet address key => d.sstoreSetGas address key
  | .newAccount address => d.newAccountGas address
  | .createContract address => d.createContractGas address

def after (d : DynamicGasCost E) (calls : List (Option StorageCharge)) : DynamicGasCost E :=
  calls.foldl (fun d call => match call with
    | some c => (d.gas c).2
    | none => d.reset) d

/-- What is cached was divided from what the environment answers. -/
structure Cached (spec : MegaSpecId) (env : SaltEnv E) (d : DynamicGasCost E) : Prop where
  spec_eq : d.spec = spec
  env_eq : d.saltEnv = env
  cached : ∀ id multiplier, d.bucketCostMultipliers.lookup id = some multiplier →
    ∃ capacity, env.getBucketCapacity id = .ok capacity ∧
      multiplier = capacity / UInt64.ofNat constants.MIN_BUCKET_SIZE

variable {spec : MegaSpecId} {env : SaltEnv E} {d : DynamicGasCost E}

theorem cached_new (spec : MegaSpecId) (env : SaltEnv E) : Cached spec env (new spec env) :=
  ⟨rfl, rfl, fun id multiplier h => by simp [new, MegaEvm.DynamicGasCost.new] at h⟩

theorem Cached.load (h : Cached spec env d) (id : UInt32) :
    Cached spec env (d.loadBucketCostMultiplier id).2 := by
  unfold loadBucketCostMultiplier
  split
  · exact h
  · split
    · exact h
    · next capacity hcapacity =>
      refine ⟨h.spec_eq, h.env_eq, fun id' multiplier hl => ?_⟩
      by_cases hid : id' = id
      · subst hid
        simp only [AList.lookup_insert, Option.some.injEq] at hl
        exact ⟨capacity, h.env_eq ▸ hcapacity, hl.symm⟩
      · rw [AList.lookup_insert_ne hid] at hl
        exact h.cached id' multiplier hl

theorem Cached.multiplier (h : Cached spec env d) {id : UInt32} {capacity : UInt64}
    (hc : env.getBucketCapacity id = .ok capacity) :
    (d.loadBucketCostMultiplier id).1 =
      .ok (capacity / UInt64.ofNat constants.MIN_BUCKET_SIZE) := by
  unfold loadBucketCostMultiplier
  split
  · next multiplier hl =>
    obtain ⟨capacity', hc', rfl⟩ := h.cached id multiplier hl
    rw [hc] at hc'
    cases hc'
    rfl
  · rw [h.env_eq, hc]

theorem gas_eq (d : DynamicGasCost E) (c : StorageCharge) : ∃ rexBase miniRexBase : UInt64,
    d.gas c = d.bucketGas (c.bucketId d.saltEnv) rexBase miniRexBase ∧
      ∀ spec : MegaSpecId, (if spec.isEnabled .rex then rexBase else miniRexBase).toNat =
        c.base spec := by
  cases c with
  | sstoreSet | newAccount | createContract =>
    refine ⟨_, _, rfl, fun spec => ?_⟩
    simp only [StorageCharge.base]
    split <;> rfl

theorem Cached.gas (h : Cached spec env d) (c : StorageCharge) : Cached spec env (d.gas c).2 := by
  obtain ⟨rexBase, miniRexBase, heq, -⟩ := gas_eq d c
  rw [heq]
  exact h.load _

theorem Cached.after (h : Cached spec env d) (calls : List (Option StorageCharge)) :
    Cached spec env (d.after calls) := by
  induction calls generalizing d with
  | nil => exact h
  | cons call calls ih =>
    cases call with
    | some c => exact ih (h.gas c)
    | none =>
      refine ih ⟨h.spec_eq, h.env_eq, fun id multiplier hl => ?_⟩
      simp [reset, MegaEvm.DynamicGasCost.reset] at hl

end DynamicGasCost

namespace StorageCharge

variable {spec : MegaSpecId} {c : StorageCharge} {capacity capacity' : UInt64}

theorem base_pos (spec : MegaSpecId) (c : StorageCharge) : 0 < c.base spec := by
  cases c <;> simp only [base] <;> split <;> decide

theorem base_even (spec : MegaSpecId) (c : StorageCharge) : 2 ∣ c.base spec := by
  cases c <;> simp only [base] <;> split <;> decide

theorem base_lt (spec : MegaSpecId) (c : StorageCharge) : c.base spec < 2 ^ 64 := by
  cases c <;> simp only [base] <;> split <;> decide

theorem mod_eq_saturated_iff {n : ℕ} (heven : 2 ∣ n) :
    n % 2 ^ 64 = min n u64Max ↔ n < 2 ^ 64 := by
  simp only [u64Max]
  constructor
  · intro h
    by_contra hn
    omega
  · intro h
    rw [Nat.mod_eq_of_lt h]
    omega

theorem exactGas_even (spec : MegaSpecId) (capacity : UInt64) (c : StorageCharge) :
    2 ∣ c.exactGas spec capacity :=
  Dvd.dvd.mul_right (base_even spec c) _

theorem exactGas_mono (hle : capacity ≤ capacity') :
    c.exactGas spec capacity ≤ c.exactGas spec capacity' := by
  have hdiv : capacity.toNat / constants.MIN_BUCKET_SIZE ≤
      capacity'.toNat / constants.MIN_BUCKET_SIZE :=
    Nat.div_le_div_right (UInt64.le_iff_toNat_le.mp hle)
  exact Nat.mul_le_mul_left _ (Nat.sub_le_sub_right hdiv _)

theorem price_toNat {rexBase miniRexBase : UInt64}
    (hbase : (if spec.isEnabled .rex then rexBase else miniRexBase).toNat = c.base spec)
    (hmin : spec.isEnabled .rex = true → constants.MIN_BUCKET_SIZE ≤ capacity.toNat) :
    (DynamicGasCost.price spec rexBase miniRexBase
      (capacity / UInt64.ofNat constants.MIN_BUCKET_SIZE)).toNat =
        c.exactGas spec capacity % 2 ^ 64 := by
  have hm : (capacity / UInt64.ofNat constants.MIN_BUCKET_SIZE).toNat = capacity.toNat / 256 := by
    simp [UInt64.toNat_div, constants.MIN_BUCKET_SIZE]
  unfold DynamicGasCost.price exactGas
  rw [← hbase]
  split
  case isTrue hrex =>
    have h256 : 256 ≤ capacity.toNat := hmin hrex
    have hone : (1 : UInt64) ≤ capacity / UInt64.ofNat constants.MIN_BUCKET_SIZE := by
      rw [UInt64.le_iff_toNat_le, hm, UInt64.toNat_one]
      omega
    rw [UInt64.toNat_mul, UInt64.toNat_sub_of_le _ _ hone, hm]
    rfl
  case isFalse hrex =>
    rw [UInt64.toNat_mul, hm]
    rfl

/-- Below the minimum capacity the Rex multiplier is the greatest word. -/
theorem price_below {rexBase miniRexBase : UInt64} (hrex : spec.isEnabled .rex = true)
    (hbase : rexBase.toNat = c.base spec) (hbelow : capacity.toNat < constants.MIN_BUCKET_SIZE) :
    (DynamicGasCost.price spec rexBase miniRexBase
      (capacity / UInt64.ofNat constants.MIN_BUCKET_SIZE)).toNat = 2 ^ 64 - c.base spec := by
  have hm : capacity / UInt64.ofNat constants.MIN_BUCKET_SIZE = 0 := by
    apply UInt64.toNat_inj.mp
    simpa [UInt64.toNat_div, constants.MIN_BUCKET_SIZE] using hbelow
  have hpos := base_pos spec c
  have hlt := base_lt spec c
  have hproduct : c.base spec * (2 ^ 64 - 1) =
      (c.base spec - 1) * 2 ^ 64 + (2 ^ 64 - c.base spec) := by
    omega
  have hmax : ((0 : UInt64) - 1).toNat = 2 ^ 64 - 1 := by decide
  rw [DynamicGasCost.price, if_pos hrex, hm, UInt64.toNat_mul, hmax, hbase, hproduct,
    Nat.mul_add_mod_self_right]
  exact Nat.mod_eq_of_lt (by omega)

theorem counted_iff {rexBase miniRexBase : UInt64}
    (hbase : (if spec.isEnabled .rex then rexBase else miniRexBase).toNat = c.base spec) :
    c.Counted spec capacity (DynamicGasCost.price spec rexBase miniRexBase
      (capacity / UInt64.ofNat constants.MIN_BUCKET_SIZE)) ↔ c.Fits spec capacity := by
  unfold Counted Fits
  by_cases hmin : spec.isEnabled .rex = true → constants.MIN_BUCKET_SIZE ≤ capacity.toNat
  case pos =>
    rw [price_toNat hbase hmin, mod_eq_saturated_iff (exactGas_even spec capacity c)]
    exact (and_iff_right hmin).symm
  case neg =>
    push Not at hmin
    obtain ⟨hrex, hbelow⟩ := hmin
    rw [if_pos hrex] at hbase
    have hzero : c.exactGas spec capacity = 0 := by
      rw [exactGas, Nat.div_eq_of_lt hbelow, Nat.zero_sub, Nat.mul_zero]
    have hlt := base_lt spec c
    rw [price_below hrex hbase hbelow, hzero, Nat.zero_min]
    constructor
    · intro h
      omega
    · intro h
      exact absurd (h.1 hrex) (by omega)

end StorageCharge

section Validate

inductive ValidateError where
  | callGasCostMoreThanGasLimit (gasLimit initialGas : UInt64)
  /-- Failed to get storage gas for the callee address. -/
  | storageGas (calleeAddress : Address)
  deriving DecidableEq

/-- A transaction whose initial gas passed the interpreter's own check. `newAccount`:
it transfers value to an account that is missing or empty. -/
structure PricedTx where
  kind : TxKind
  createdAddress : Address
  newAccount : Bool
  gasLimit : UInt64
  initialGas : UInt64
  tokensInCalldata : UInt64

namespace PricedTx

def calleeAddress (tx : PricedTx) : Address :=
  match tx.kind with
  | .create => tx.createdAddress
  | .call address => address

def raised (spec : MegaSpecId) (tx : PricedTx) : UInt64 :=
  let calldata := tx.initialGas +
    UInt64.ofNat constants.CALLDATA_STANDARD_TOKEN_STORAGE_GAS * tx.tokensInCalldata
  if spec.isEnabled .rex then calldata + UInt64.ofNat constants.TX_INTRINSIC_STORAGE_GAS
  else calldata

/-- Before Rex contracts cost what accounts cost. -/
def charge (spec : MegaSpecId) (tx : PricedTx) : Option StorageCharge :=
  match tx.kind with
  | .create =>
    if spec.isEnabled .rex then some (.createContract tx.createdAddress)
    else some (.newAccount tx.createdAddress)
  | .call address => if tx.newAccount then some (.newAccount address) else none

end PricedTx

def PricedTx.create : PricedTx where
  kind := .create
  createdAddress := 7
  newAccount := false
  gasLimit := 1000000
  initialGas := 53040
  tokensInCalldata := 10

def DynamicGasCost.validate {E : Type} (d : DynamicGasCost E) (tx : PricedTx) :
    Except ValidateError UInt64 :=
  if d.spec.isEnabled .miniRex then
    if tx.raised d.spec > tx.gasLimit then
      .error (.callGasCostMoreThanGasLimit tx.gasLimit (tx.raised d.spec))
    else
      match tx.charge d.spec with
      | none => .ok (tx.raised d.spec + 0)
      | some c =>
        match (d.gas c).1 with
        | .ok storageGas => .ok (tx.raised d.spec + storageGas)
        | .error _ => .error (.storageGas tx.calleeAddress)
  else .ok tx.initialGas

/-- The transaction is charged `c`, on top of an initial gas its limit covers. -/
def PricedTx.Pays (spec : MegaSpecId) (tx : PricedTx) (c : StorageCharge) : Prop :=
  spec.isEnabled .miniRex = true ∧ tx.charge spec = some c ∧ tx.raised spec ≤ tx.gasLimit

end Validate

namespace DynamicGasCost

variable {E : Type} {spec : MegaSpecId} {env env' : SaltEnv E} {d d' : DynamicGasCost E}
  {capacity capacity' : UInt64}

theorem Cached.gas_counted_iff (h : Cached spec env d) (c : StorageCharge)
    (hc : env.getBucketCapacity (c.bucketId env) = .ok capacity) :
    ∃ gas, (d.gas c).1 = .ok gas ∧ (c.Counted spec capacity gas ↔ c.Fits spec capacity) := by
  obtain ⟨rexBase, miniRexBase, heq, hbase⟩ := gas_eq d c
  rw [h.env_eq] at heq
  refine ⟨price spec rexBase miniRexBase (capacity / UInt64.ofNat constants.MIN_BUCKET_SIZE), ?_,
    StorageCharge.counted_iff (hbase spec)⟩
  rw [heq, bucketGas, h.multiplier hc, h.spec_eq]
  rfl

theorem counted_of_fits {c : StorageCharge} {gas : UInt64} (hf : c.Fits spec capacity)
    (hcounted : c.Counted spec capacity gas) : gas.toNat = c.exactGas spec capacity := by
  have hlt := hf.2
  rw [StorageCharge.Counted, u64Max] at hcounted
  omega

theorem validate_pays (hspec : d.spec = spec) {tx : PricedTx} {c : StorageCharge} {gas : UInt64}
    (hgas : (d.gas c).1 = .ok gas) (hp : tx.Pays spec c) :
    d.validate tx = .ok (tx.raised spec + gas) := by
  obtain ⟨hmini, hcharge, hle⟩ := hp
  rw [validate, hspec, if_pos hmini, if_neg (UInt64.not_lt.mpr hle), hcharge]
  simp only [hgas]

/-- What is promised of a charge at a capacity and at a greater one: both are exact or
saturate, the second is not less, and `validate` adds either without wrapping. -/
def Priced (d d' : DynamicGasCost E) (c : StorageCharge) (capacity capacity' : UInt64)
    (tx : PricedTx) : Prop :=
  ∃ gas gas', (d.gas c).1 = .ok gas ∧ (d'.gas c).1 = .ok gas' ∧
    c.Counted d.spec capacity gas ∧ c.Counted d'.spec capacity' gas' ∧ gas ≤ gas' ∧
    (tx.Pays d.spec c →
      (d.validate tx).map UInt64.toNat = .ok ((tx.raised d.spec).toNat + gas.toNat) ∧
      (d'.validate tx).map UInt64.toNat = .ok ((tx.raised d'.spec).toNat + gas'.toNat))

theorem Cached.priced_iff (h : Cached spec env d) (h' : Cached spec env' d') (c : StorageCharge)
    (hc : env.getBucketCapacity (c.bucketId env) = .ok capacity)
    (hc' : env'.getBucketCapacity (c.bucketId env') = .ok capacity') (hle : capacity ≤ capacity')
    (tx : PricedTx) :
    Priced d d' c capacity capacity' tx ↔
      c.Fits spec capacity ∧ c.Fits spec capacity' ∧
        (tx.Pays spec c → (tx.raised spec).toNat + c.exactGas spec capacity' < 2 ^ 64) := by
  obtain ⟨gas, hgas, hiff⟩ := h.gas_counted_iff c hc
  obtain ⟨gas', hgas', hiff'⟩ := h'.gas_counted_iff c hc'
  have hvalidate : tx.Pays spec c → d.validate tx = .ok (tx.raised spec + gas) :=
    validate_pays h.spec_eq hgas
  have hvalidate' : tx.Pays spec c → d'.validate tx = .ok (tx.raised spec + gas') :=
    validate_pays h'.spec_eq hgas'
  unfold Priced
  rw [h.spec_eq, h'.spec_eq]
  constructor
  · rintro ⟨g, g', hg, hg', hcounted, hcounted', -, hadd⟩
    obtain rfl : gas = g := Except.ok.inj (hgas.symm.trans hg)
    obtain rfl : gas' = g' := Except.ok.inj (hgas'.symm.trans hg')
    have hexact' := counted_of_fits (hiff'.mp hcounted') hcounted'
    refine ⟨hiff.mp hcounted, hiff'.mp hcounted', fun hp => ?_⟩
    have hsum := (hadd hp).2
    rw [hvalidate' hp] at hsum
    have hword : (tx.raised spec + gas').toNat = (tx.raised spec).toNat + gas'.toNat :=
      Except.ok.inj hsum
    have hbound := UInt64.toNat_lt (tx.raised spec + gas')
    omega
  · rintro ⟨hf, hf', hsum⟩
    have hexact := counted_of_fits hf (hiff.mpr hf)
    have hexact' := counted_of_fits hf' (hiff'.mpr hf')
    have hmono : c.exactGas spec capacity ≤ c.exactGas spec capacity' :=
      StorageCharge.exactGas_mono hle
    refine ⟨gas, gas', hgas, hgas', hiff.mpr hf, hiff'.mpr hf', ?_, fun hp => ?_⟩
    · rw [UInt64.le_iff_toNat_le]
      omega
    · have hlt := hsum hp
      rw [hvalidate hp, hvalidate' hp]
      simp only [Except.map, UInt64.toNat_add]
      rw [Nat.mod_eq_of_lt (by omega), Nat.mod_eq_of_lt (by omega)]
      exact ⟨rfl, rfl⟩

/-- Whatever was charged before, the gas is what it should be exactly when the Rex
multiplier stays above zero and neither product nor sum leaves 64 bits. -/
theorem storage_gas_exact_iff (spec : MegaSpecId) (env env' : SaltEnv E)
    (calls calls' : List (Option StorageCharge)) (c : StorageCharge)
    (hc : env.getBucketCapacity (c.bucketId env) = .ok capacity)
    (hc' : env'.getBucketCapacity (c.bucketId env') = .ok capacity') (hle : capacity ≤ capacity')
    (tx : PricedTx) :
    Priced ((new spec env).after calls) ((new spec env').after calls') c capacity capacity' tx ↔
      c.Fits spec capacity ∧ c.Fits spec capacity' ∧
        (tx.Pays spec c → (tx.raised spec).toNat + c.exactGas spec capacity' < 2 ^ 64) :=
  ((cached_new spec env).after calls).priced_iff ((cached_new spec env').after calls') c hc hc' hle
    tx

theorem create_contract_gas_exact :
    Priced ((new .rex (.ofCapacity 256)).after []) ((new .rex (.ofCapacity 512)).after [])
      (.createContract 7) 256 512 .create :=
  (storage_gas_exact_iff .rex (.ofCapacity 256) (.ofCapacity 512) [] [] (.createContract 7) rfl rfl
    (by decide) .create).mpr ⟨⟨by decide, by decide⟩, ⟨by decide, by decide⟩, fun _ => by decide⟩

/-- In a bucket one slot short of the minimum a slot costs nearly `2 ^ 64`, and less
when the bucket grows. -/
theorem sstore_set_gas_below_minimum :
    ¬ Priced (new .rex (.ofCapacity 255)) (new .rex (.ofCapacity 256)) (.sstoreSet 1 0) 255 256
      .create := by
  rintro ⟨gas, gas', hgas, -, hcounted, -⟩
  cases hgas
  rw [StorageCharge.Counted] at hcounted
  exact absurd hcounted (by decide)

section Refinement

theorem Cached.sstoreSetGas_eq (h : Cached spec env d) (address : Address) (key : ℕ)
    (hc : env.getBucketCapacity (env.bucketIdForSlot address key) = .ok capacity) :
    (d.sstoreSetGas address key).1 = .ok (MegaEvm.sstoreSetGas spec capacity) := by
  rw [sstoreSetGas, bucketGas, h.env_eq, h.multiplier hc, h.spec_eq]
  rfl

theorem Cached.newAccountGas_eq (h : Cached spec env d) (address : Address)
    (hc : env.getBucketCapacity (env.bucketIdForAccount address) = .ok capacity)
    (hf : (StorageCharge.newAccount address).Fits spec capacity) :
    (d.newAccountGas address).1.map UInt64.toNat =
      .ok (newAccountStorageGas spec (capacity.toNat / constants.MIN_BUCKET_SIZE)) := by
  obtain ⟨gas, hgas, hiff⟩ := h.gas_counted_iff (.newAccount address) hc
  have hexact := counted_of_fits hf (hiff.mpr hf)
  rw [show (d.newAccountGas address).1 = .ok gas from hgas]
  simp only [Except.map, hexact, StorageCharge.exactGas, StorageCharge.base, newAccountStorageGas]
  split <;> rfl

theorem Cached.createContractGas_eq (h : Cached spec env d) (address : Address)
    (hc : env.getBucketCapacity (env.bucketIdForAccount address) = .ok capacity)
    (hf : (StorageCharge.createContract address).Fits spec capacity) :
    (d.createContractGas address).1.map UInt64.toNat =
      .ok (createContractStorageGas spec (capacity.toNat / constants.MIN_BUCKET_SIZE)) := by
  obtain ⟨gas, hgas, hiff⟩ := h.gas_counted_iff (.createContract address) hc
  have hexact := counted_of_fits hf (hiff.mpr hf)
  rw [show (d.createContractGas address).1 = .ok gas from hgas]
  simp only [Except.map, hexact, StorageCharge.exactGas, StorageCharge.base,
    createContractStorageGas]
  split <;> rfl

end Refinement

end DynamicGasCost

end MegaEvm.Salt
