import MegaEvm.Library.Memo
import MegaEvm.StorageGas

/-!
# The price of a bucket within a block

The environment may answer the capacity of a bucket differently each time it is asked, and
may fail. The calculator asks once a block for each bucket: within a block a bucket has one
price, that of the first answer, and the buckets reported are those that were answered.
-/

set_option autoImplicit false

namespace MegaEvm.Salt

/-- What happens to a calculator, with what the environment would answer at the time. -/
inductive PriceOp (E : Type) where
  | charge (answer : UInt32 → Except E UInt64) (c : StorageCharge)
  | newBlock

def bucketMultiplier (capacity : UInt64) : UInt64 :=
  capacity / UInt64.ofNat constants.MIN_BUCKET_SIZE

namespace StorageCharge

def bases : StorageCharge → UInt64 × UInt64
  | sstoreSet _ _ => (constants.SSTORE_SET_STORAGE_GAS_BASE, constants.SSTORE_SET_STORAGE_GAS)
  | newAccount _ => (UInt64.ofNat constants.NEW_ACCOUNT_STORAGE_GAS_BASE,
      UInt64.ofNat constants.NEW_ACCOUNT_STORAGE_GAS)
  | createContract _ => (UInt64.ofNat constants.CONTRACT_CREATION_STORAGE_GAS_BASE,
      UInt64.ofNat constants.NEW_ACCOUNT_STORAGE_GAS)

def priceAt (spec : MegaSpecId) (c : StorageCharge) (multiplier : UInt64) : UInt64 :=
  DynamicGasCost.price spec c.bases.1 c.bases.2 multiplier

end StorageCharge

namespace DynamicGasCost

variable {E : Type}

def getBucketIds (d : DynamicGasCost E) : List UInt32 := d.bucketCostMultipliers.keys

def asking (d : DynamicGasCost E) (answer : UInt32 → Except E UInt64) : DynamicGasCost E :=
  { d with saltEnv := { d.saltEnv with getBucketCapacity := answer } }

def act (d : DynamicGasCost E) : PriceOp E → DynamicGasCost E
  | .charge answer c => ((d.asking answer).gas c).2
  | .newBlock => d.reset

def through (d : DynamicGasCost E) (ops : List (PriceOp E)) : DynamicGasCost E := ops.foldl act d

end DynamicGasCost

def PriceOp.memoOp {E : Type} (env : SaltEnv E) : PriceOp E → Memo.Op UInt32 UInt64 E
  | charge answer c => .load (c.bucketId env) ((answer (c.bucketId env)).map bucketMultiplier)
  | newBlock => .clear

/-- The multiplier a bucket has after some operations of a block, if it has been answered. -/
def bucketAnswer {E : Type} (env : SaltEnv E) (ops : List (PriceOp E)) (id : UInt32) :
    Option UInt64 :=
  Memo.firstAnswer id none (ops.map (PriceOp.memoOp env))

namespace DynamicGasCost

variable {E : Type} {d : DynamicGasCost E}

theorem gas_bases (d : DynamicGasCost E) (c : StorageCharge) :
    d.gas c = d.bucketGas (c.bucketId d.saltEnv) c.bases.1 c.bases.2 := by
  cases c <;> rfl

theorem loadBucketCostMultiplier_eq (d : DynamicGasCost E) (id : UInt32) :
    d.loadBucketCostMultiplier id =
      let loaded := Memo.load d.bucketCostMultipliers id
        ((d.saltEnv.getBucketCapacity id).map bucketMultiplier)
      (loaded.1, { d with bucketCostMultipliers := loaded.2 }) := by
  unfold loadBucketCostMultiplier Memo.load
  cases d.bucketCostMultipliers.lookup id with
  | some multiplier => rfl
  | none =>
    cases d.saltEnv.getBucketCapacity id with
    | error e => rfl
    | ok capacity => rfl

theorem asking_gas (d : DynamicGasCost E) (answer : UInt32 → Except E UInt64)
    (c : StorageCharge) :
    ((d.asking answer).gas c).1 = ((d.bucketCostMultipliers.lookup (c.bucketId d.saltEnv)).elim
      ((answer (c.bucketId d.saltEnv)).map bucketMultiplier) .ok).map (c.priceAt d.spec) := by
  rw [gas_bases, bucketGas, loadBucketCostMultiplier_eq]
  simp only [Memo.load_fst]
  cases c <;> rfl

theorem act_eq (d : DynamicGasCost E) (op : PriceOp E) :
    (d.act op).spec = d.spec ∧ (∀ c, StorageCharge.bucketId (d.act op).saltEnv c =
        StorageCharge.bucketId d.saltEnv c) ∧
      (d.act op).bucketCostMultipliers =
        Memo.act d.bucketCostMultipliers (op.memoOp d.saltEnv) := by
  cases op with
  | newBlock => exact ⟨rfl, fun c => rfl, rfl⟩
  | charge answer c =>
    simp only [act, gas_bases, bucketGas, loadBucketCostMultiplier_eq]
    refine ⟨rfl, fun c' => ?_, ?_⟩
    · cases c' <;> rfl
    · cases c <;> rfl

theorem memoOp_congr {env env' : SaltEnv E}
    (h : ∀ c, StorageCharge.bucketId env c = StorageCharge.bucketId env' c) (op : PriceOp E) :
    op.memoOp env = op.memoOp env' := by
  cases op with
  | newBlock => rfl
  | charge answer c => simp only [PriceOp.memoOp, h c]

theorem through_eq (d : DynamicGasCost E) (ops : List (PriceOp E)) :
    (d.through ops).spec = d.spec ∧ (∀ c, StorageCharge.bucketId (d.through ops).saltEnv c =
        StorageCharge.bucketId d.saltEnv c) ∧
      (d.through ops).bucketCostMultipliers =
        Memo.after d.bucketCostMultipliers (ops.map (PriceOp.memoOp d.saltEnv)) := by
  induction ops generalizing d with
  | nil => exact ⟨rfl, fun c => rfl, rfl⟩
  | cons op ops ih =>
    obtain ⟨hspec, hids, hcache⟩ := act_eq d op
    obtain ⟨hspec', hids', hcache'⟩ := ih (d.act op)
    have hops : ops.map (PriceOp.memoOp (d.act op).saltEnv) =
        ops.map (PriceOp.memoOp d.saltEnv) :=
      List.map_congr_left fun op _ => memoOp_congr hids op
    refine ⟨hspec'.trans hspec, fun c => (hids' c).trans (hids c), ?_⟩
    show ((d.act op).through ops).bucketCostMultipliers = _
    rw [hcache', hcache, hops]
    rfl

theorem lookup_through (spec : MegaSpecId) (env : SaltEnv E) (ops : List (PriceOp E))
    (id : UInt32) : ((new spec env).through ops).bucketCostMultipliers.lookup id =
      bucketAnswer env ops id := by
  rw [(through_eq _ ops).2.2, Memo.lookup_after]
  rfl

/-- However the environment changes and fails, a charge is priced by the first answer the
block had for its bucket, and by the answer of the moment if there was none; the price then
stays what it is until the next block. The buckets reported are those that were answered. -/
theorem price_of_first_answer (spec : MegaSpecId) (env : SaltEnv E) (ops ops' : List (PriceOp E))
    (answer : UInt32 → Except E UInt64) (c : StorageCharge) (h : PriceOp.newBlock ∉ ops') :
    ((((new spec env).through ops).asking answer).gas c).1 =
        ((bucketAnswer env ops (c.bucketId env)).elim
          ((answer (c.bucketId env)).map bucketMultiplier) .ok).map (c.priceAt spec) ∧
      (∀ multiplier, bucketAnswer env ops (c.bucketId env) = some multiplier →
        ((((new spec env).through (ops ++ ops')).asking answer).gas c).1 =
          .ok (c.priceAt spec multiplier)) ∧
      ∀ id, id ∈ ((new spec env).through ops).getBucketIds ↔
        (bucketAnswer env ops id).isSome = true := by
  have hprice : ∀ ops, ((((new spec env).through ops).asking answer).gas c).1 =
      ((bucketAnswer env ops (c.bucketId env)).elim
        ((answer (c.bucketId env)).map bucketMultiplier) .ok).map (c.priceAt spec) := by
    intro ops
    obtain ⟨hspec, hids, -⟩ := through_eq (new spec env) ops
    rw [asking_gas, hspec, hids c]
    exact congrArg (fun m : Option UInt64 => (m.elim _ Except.ok).map (c.priceAt spec))
      (lookup_through spec env ops (c.bucketId env))
  refine ⟨hprice ops, fun multiplier hfirst => ?_, fun id => ?_⟩
  · have hkept : bucketAnswer env (ops ++ ops') (c.bucketId env) = some multiplier := by
      unfold bucketAnswer at hfirst ⊢
      rw [List.map_append, Memo.firstAnswer_append, hfirst]
      refine Memo.firstAnswer_some _ _ fun hclear => ?_
      obtain ⟨op, hop, heq⟩ := List.mem_map.1 hclear
      cases op with
      | newBlock => exact h hop
      | charge answer c => cases heq
    rw [hprice, hkept]
    rfl
  · rw [← lookup_through spec env ops id, AList.lookup_isSome]
    rfl

/-- An environment whose only bucket grows and whose first answer fails. -/
def growingOps : List (PriceOp String) :=
  [.charge (fun _ => .error "timeout") (.newAccount 7), .charge (fun _ => .ok 512) (.newAccount 7)]

def oneBucket : SaltEnv String := ⟨fun _ => .ok 256, fun _ => 3, fun _ _ => 3⟩

/-- The bucket has doubled by the time of the second transaction; the price has not. -/
theorem price_of_first_answer_grown :
    ((((new .rex4 oneBucket).through (growingOps ++ [.charge (fun _ => .ok 1024)
      (.newAccount 8)])).asking fun _ => .ok 2048).gas (.newAccount 9)).1 = .ok 25000 := by
  have hnone : PriceOp.newBlock ∉ ([.charge (fun _ => .ok 1024) (.newAccount 8)] :
      List (PriceOp String)) := by simp
  exact (price_of_first_answer .rex4 oneBucket growingOps _ (fun _ => .ok 2048)
    (.newAccount 9) hnone).2.1 2 rfl

end DynamicGasCost

end MegaEvm.Salt
