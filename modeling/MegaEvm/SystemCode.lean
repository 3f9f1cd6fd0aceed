import MegaEvm.CreateRun
import MegaEvm.OracleReads
import MegaEvm.VolatileMarks

/-!
# The code of a system contract

The contracts a block calls before its first transaction run straight through: a
fixed line of instructions, of which only the block environment, the slots it
writes and the price of a new slot vary. What such a line uses is arithmetic. The
interpreter gets to its STOP if the gas covers the line and the usage stays within
the limits; otherwise it stops earlier and fails.
-/

set_option autoImplicit false

namespace MegaEvm

open AdditionalLimit

/-- `plain cost` is any instruction without effects outside the interpreter. -/
inductive SystemOp where
  | plain (cost : ℕ)
  | blockEnv (ty : VolatileDataAccessType)
  | sstore (key value : ℕ)
  deriving DecidableEq, Repr

/-- What the code of a contract finds: the slots as the call finds them, and the
storage gas for setting one of them, `none` without an answer of the environment. -/
structure SystemContract where
  address : Address
  slot : ℕ → ℕ
  sstoreSetStorageGas : ℕ → Option ℕ

namespace SystemOp

variable (x : SystemContract)

/-- The interpreter's gas; no slot was touched before the code writes it. -/
def cost : SystemOp → ℕ
  | plain cost => cost
  | blockEnv _ => 2
  | sstore key value => sstoreCost ⟨x.slot key, x.slot key, value⟩ true

def storageGas : SystemOp → Option ℕ
  | sstore key value => if x.slot key = 0 ∧ value ≠ 0 then x.sstoreSetStorageGas key else some 0
  | _ => some 0

/-- SSTORE does not run on a stipend. -/
def reserve : SystemOp → ℕ
  | sstore .. => constants.CALL_STIPEND + 1
  | _ => 0

def writes : SystemOp → List JournalEntry
  | sstore key value =>
    if value = x.slot key then [] else [.storageChanged x.address key (x.slot key)]
  | _ => []

def gasAfter (op : SystemOp) (gas : ℕ) : Option ℕ :=
  (op.storageGas x).bind fun storageGas =>
    if storageGas + max (op.cost x) op.reserve ≤ gas then some (gas - storageGas - op.cost x)
    else none

/-- The interpreter's own SSTORE, with `gas` left when it starts. -/
def innerSstore (key value gas : ℕ) : Inner :=
  if gas ≤ constants.CALL_STIPEND then .halt .outOfGas [] 0 []
  else .next ((sstore key value).cost x) ((sstore key value).writes x)

theorem next_opensFrame (cost : ℕ) (op : Opcode) (h : (Inner.next cost []).opensFrame = true) :
    op.opensFrame = true :=
  absurd h Bool.false_ne_true

theorem next_endsOk (cost : ℕ) (op : Opcode) (h : (Inner.next cost []).endsOk = true) :
    op.endsFrame = true :=
  absurd h Bool.false_ne_true

theorem innerSstore_opensFrame (key value gas : ℕ)
    (h : (innerSstore x key value gas).opensFrame = true) : Opcode.sstore.opensFrame = true := by
  unfold innerSstore at h
  split at h <;> cases h

theorem innerSstore_endsOk (key value gas : ℕ)
    (h : (innerSstore x key value gas).endsOk = true) : Opcode.sstore.endsFrame = true := by
  unfold innerSstore at h
  split at h <;> cases h

def event (gas : ℕ) : SystemOp → OpEvent
  | plain cost =>
    { opcode := .plain, stack := [], slot := none, targetEmpty := none, storageGas := none
      hostCalled := false, inner := .next cost []
      opens := next_opensFrame cost .plain, ends := next_endsOk cost .plain }
  | blockEnv ty =>
    { opcode := .blockEnv ty, stack := [], slot := none, targetEmpty := none, storageGas := none
      hostCalled := true, inner := .next 2 []
      opens := next_opensFrame 2 _, ends := next_endsOk 2 _ }
  | sstore key value =>
    { opcode := .sstore, stack := [key, value], slot := some (x.slot key, x.slot key)
      targetEmpty := none, storageGas := x.sstoreSetStorageGas key, hostCalled := true
      inner := innerSstore x key value (gas - ((sstore key value).storageGas x).getD 0)
      opens := innerSstore_opensFrame x key value _
      ends := innerSstore_endsOk x key value _ }

end SystemOp

def stopEvent : OpEvent where
  opcode := .plain
  stack := []
  slot := none
  targetEmpty := none
  storageGas := none
  hostCalled := false
  inner := .halt .stop [] 0 []
  opens := nofun
  ends := fun _ => rfl

def gasThrough (x : SystemContract) : List SystemOp → ℕ → Option ℕ
  | [], gas => some gas
  | op :: ops, gas => (op.gasAfter x gas).bind (gasThrough x ops)

/-- The interpreter runs the line, as far as it gets. -/
def runCode (env : Env) (x : SystemContract) : List SystemOp → State → Option State
  | [], s =>
    match s.phase with
    | .interp => step env s (.op stopEvent)
    | _ => some s
  | op :: ops, s =>
    match s.phase, s.frames with
    | .interp, f :: _ =>
      (step env s (.op (op.event x f.gas.remaining))).bind (runCode env x ops)
    | _, _ => some s

section Usage

/-- What the code has used: compute gas, slots changed, slots set from zero; and the
detained compute gas limit so far. -/
structure Usage where
  computeGas : ℕ
  slots : ℕ
  growth : ℕ
  detained : ℕ
  deriving DecidableEq, Repr

namespace Usage

variable (x : SystemContract) (env : Env) (ev : StartEvent)

def spend (u : Usage) (gas : ℕ) : Usage := { u with computeGas := u.computeGas + gas }

/-- A slot that the call has not touched is written. -/
def store (u : Usage) (presentValue newValue : ℕ) : Usage :=
  { u with
    slots := u.slots + if newValue = presentValue then 0 else 1
    growth := u.growth + if presentValue = 0 ∧ newValue ≠ 0 then 1 else 0 }

def checked (u : Usage) (op : SystemOp) : Usage :=
  match op with
  | .sstore key value => (u.spend (op.cost x)).store (x.slot key) value
  | _ => u.spend (op.cost x)

/-- A cap on compute gas; with frame budgets it counts from the access on. -/
def detain (u : Usage) (cap : ℕ) : Usage :=
  { u with
    detained :=
      min u.detained (if env.spec.isEnabled .rex4 then saturatingAdd u.computeGas cap else cap) }

/-- Reading the block environment detains, after the check. -/
def after (u : Usage) (op : SystemOp) : Usage :=
  match op with
  | .blockEnv _ => (u.checked x op).detain env ev.limits.blockEnvAccessComputeGasLimit
  | _ => u.checked x op

def through (u : Usage) (ops : List SystemOp) : Usage := ops.foldl (after x env ev) u

/-- Before frame budgets, the transaction's own size counts as well. -/
structure Within (u : Usage) : Prop where
  dataSize : (if env.spec.isEnabled .rex4 then 0 else intrinsicDataSize env) +
    u.slots * constants.STORAGE_SLOT_WRITE_SIZE ≤ ev.limits.txDataSizeLimit
  kvUpdates : (if env.spec.isEnabled .rex4 then 0 else intrinsicKvUpdates env) + u.slots ≤
    ev.limits.txKvUpdatesLimit
  stateGrowth : u.growth ≤ ev.limits.txStateGrowthLimit
  computeGas : u.computeGas ≤ min ev.limits.txComputeGasLimit u.detained

instance (u : Usage) : Decidable (u.Within env ev) :=
  decidable_of_iff ((if env.spec.isEnabled .rex4 then 0 else intrinsicDataSize env) +
      u.slots * constants.STORAGE_SLOT_WRITE_SIZE ≤ ev.limits.txDataSizeLimit ∧
    (if env.spec.isEnabled .rex4 then 0 else intrinsicKvUpdates env) + u.slots ≤
      ev.limits.txKvUpdatesLimit ∧
    u.growth ≤ ev.limits.txStateGrowthLimit ∧
    u.computeGas ≤ min ev.limits.txComputeGasLimit u.detained)
    ⟨fun ⟨hd, hk, hg, hc⟩ => ⟨hd, hk, hg, hc⟩, fun h => ⟨h.1, h.2, h.3, h.4⟩⟩

def initial : Usage where
  computeGas := 0
  slots := 0
  growth := 0
  detained := if env.spec.isEnabled .rex1 then ev.limits.txComputeGasLimit else ev.detainedLimit

/-- Nothing is given back and no detained limit is raised. -/
structure Le (u v : Usage) : Prop where
  computeGas : u.computeGas ≤ v.computeGas
  slots : u.slots ≤ v.slots
  growth : u.growth ≤ v.growth
  detained : v.detained ≤ u.detained

variable {x env ev} {u v w : Usage}

theorem Le.refl (u : Usage) : u.Le u := ⟨le_rfl, le_rfl, le_rfl, le_rfl⟩

theorem Le.trans (h : u.Le v) (h' : v.Le w) : u.Le w :=
  ⟨h.computeGas.trans h'.computeGas, h.slots.trans h'.slots, h.growth.trans h'.growth,
    h'.detained.trans h.detained⟩

theorem Within.anti (h : v.Within env ev) (hle : u.Le v) : u.Within env ev where
  dataSize := (Nat.add_le_add_left (Nat.mul_le_mul_right _ hle.slots) _).trans h.dataSize
  kvUpdates := (Nat.add_le_add_left hle.slots _).trans h.kvUpdates
  stateGrowth := hle.growth.trans h.stateGrowth
  computeGas := hle.computeGas.trans (h.computeGas.trans (min_le_min_left _ hle.detained))

theorem le_spend (u : Usage) (gas : ℕ) : u.Le (u.spend gas) :=
  ⟨Nat.le_add_right _ _, le_rfl, le_rfl, le_rfl⟩

theorem le_store (u : Usage) (presentValue newValue : ℕ) : u.Le (u.store presentValue newValue) :=
  ⟨le_rfl, Nat.le_add_right _ _, Nat.le_add_right _ _, le_rfl⟩

theorem le_checked (u : Usage) (op : SystemOp) : u.Le (u.checked x op) := by
  cases op with
  | plain | blockEnv => exact le_spend u _
  | sstore => exact (le_spend u _).trans (le_store _ _ _)

theorem checked_le_after (u : Usage) (op : SystemOp) : (u.checked x op).Le (u.after x env ev op) := by
  cases op with
  | plain | sstore => exact .refl _
  | blockEnv => exact ⟨le_rfl, le_rfl, le_rfl, min_le_left _ _⟩

theorem le_through (u : Usage) (ops : List SystemOp) : u.Le (u.through x env ev ops) := by
  induction ops generalizing u with
  | nil => exact .refl u
  | cons op ops ih => exact ((le_checked u op).trans (checked_le_after u op)).trans (ih _)

theorem within_checked {op : SystemOp} {ops : List SystemOp}
    (h : (u.through x env ev (op :: ops)).Within env ev) : (u.checked x op).Within env ev :=
  h.anti ((checked_le_after u op).trans (le_through _ ops))

end Usage

end Usage

section Metering

variable {env : Env} {ev : StartEvent} {target : Address} {u : Usage} {x : SystemContract}

def openedTrackers (env : Env) (ev : StartEvent) (target : Address) : AdditionalLimit :=
  { newTxTrackers env ev with
    stateGrowth := (newTxTrackers env ev).stateGrowth.pushFrameBy (env.spec.isEnabled .rex4) ()
    dataSize := (newTxTrackers env ev).dataSize.pushFrameBy (env.spec.isEnabled .rex4)
      ⟨some target, false⟩
    kvUpdate := (newTxTrackers env ev).kvUpdate.pushFrameBy (env.spec.isEnabled .rex4)
      ⟨some target, false⟩
    computeGas := (newTxTrackers env ev).computeGas.pushFrame (env.spec.isEnabled .rex4) }

def metered (env : Env) (ev : StartEvent) (target : Address) (u : Usage) : AdditionalLimit :=
  { openedTrackers env ev target with
    stateGrowth := (openedTrackers env ev target).stateGrowth.recordDiscardable u.growth
    dataSize := (openedTrackers env ev target).dataSize.recordDiscardable
      (u.slots * constants.STORAGE_SLOT_WRITE_SIZE)
    kvUpdate := (openedTrackers env ev target).kvUpdate.recordDiscardable u.slots
    computeGas := { (openedTrackers env ev target).computeGas.recordGasUsed u.computeGas with
      detainedLimit := u.detained } }

theorem recordDiscardable_add {ι : Type} (t : FrameLimitTracker ι) (m n : ℕ) :
    (t.recordDiscardable m).recordDiscardable n = t.recordDiscardable (m + n) := by
  obtain ⟨tx, stack⟩ := t
  cases stack with
  | nil => rfl
  | cons e rest =>
    simp [FrameLimitTracker.recordDiscardable, FrameLimitTracker.modifyFrame, Nat.add_assoc]

theorem settled_pushed {ι : Type} {t : FrameLimitTracker ι} (rex4 : Bool) (i : ι) (n : ℕ)
    (hf : t.frameStack = []) (hr : t.txEntry.refund = 0) :
    ((t.pushFrameBy rex4 i).recordDiscardable n).Settled rex4 ↔
      (if rex4 then 0 else t.txEntry.used) + n ≤ t.txLimit := by
  obtain ⟨tx, stack⟩ := t
  subst hf
  replace hr : tx.refund = 0 := hr
  cases rex4 with
  | true =>
    simp [FrameLimitTracker.Settled, FrameLimitTracker.TopWithin, FrameLimitTracker.pushFrameBy,
      FrameLimitTracker.pushFrame, FrameLimitTracker.pushFrameWithLimit,
      FrameLimitTracker.maxForwardLimit, FrameLimitTracker.recordDiscardable,
      FrameLimitTracker.modifyFrame, FrameLimitTracker.txLimit, FrameLimitEntry.Within,
      FrameLimitEntry.new, FrameLimitEntry.net, FrameLimitEntry.used]
  | false =>
    simp [FrameLimitTracker.Settled, FrameLimitTracker.TxWithin, FrameLimitTracker.pushFrameBy,
      FrameLimitTracker.pushFrameWithLimit, FrameLimitTracker.recordDiscardable,
      FrameLimitTracker.modifyFrame, FrameLimitTracker.txLimit, FrameLimitTracker.netUsage,
      FrameLimitTracker.totalUsed, FrameLimitTracker.totalRefund, FrameLimitEntry.new,
      FrameLimitEntry.used, hr]

theorem openedTrackers_computeGas (env : Env) (ev : StartEvent) (target : Address) :
    (openedTrackers env ev target).computeGas =
      ⟨(Usage.initial env ev).detained, ⟨.new ev.limits.txComputeGasLimit (),
        [.new (if env.spec.isEnabled .rex4 then ev.limits.txComputeGasLimit else u64Max) ()]⟩⟩ := by
  unfold openedTrackers newTxTrackers ComputeGasTracker.pushFrame FrameLimitTracker.pushFrameBy
  cases h4 : env.spec.isEnabled .rex4 with
  | true => rfl
  | false => rfl

theorem metered_computeGas : (metered env ev target u).computeGas =
    ⟨u.detained, ⟨.new ev.limits.txComputeGasLimit (),
      [⟨if env.spec.isEnabled .rex4 then ev.limits.txComputeGasLimit else u64Max,
        u.computeGas, 0, 0, ()⟩]⟩⟩ := by
  unfold metered
  simp [openedTrackers_computeGas, ComputeGasTracker.recordGasUsed,
    FrameLimitTracker.hasActiveFrame, FrameLimitTracker.modifyFrame, FrameLimitEntry.new]

theorem metered_txUsage : (metered env ev target u).computeGas.txUsage = u.computeGas := by
  rw [metered_computeGas]
  simp [ComputeGasTracker.txUsage, FrameLimitTracker.netUsage, FrameLimitTracker.totalUsed,
    FrameLimitTracker.totalRefund, FrameLimitEntry.new, FrameLimitEntry.used]

@[simp] theorem metered_rex4 : (metered env ev target u).rex4 = env.spec.isEnabled .rex4 := rfl

@[simp] theorem metered_hasExceededLimit :
    (metered env ev target u).hasExceededLimit = .withinLimit := rfl

theorem metered_exceeded : (metered env ev target u).exceeded = false := rfl

theorem settled_metered_computeGas :
    (metered env ev target u).computeGas.Settled (env.spec.isEnabled .rex4) ↔
      u.computeGas ≤ min ev.limits.txComputeGasLimit u.detained := by
  have husage : (metered env ev target u).computeGas.txUsage = u.computeGas := metered_txUsage
  constructor
  · intro h
    have htx := h.tx
    rw [husage, metered_computeGas] at htx
    exact htx
  · intro h
    constructor
    · intro h4
      rw [metered_computeGas]
      have hle : u.computeGas ≤ ev.limits.txComputeGasLimit := h.trans (min_le_left _ _)
      simpa [FrameLimitTracker.TopWithin, FrameLimitEntry.Within, FrameLimitEntry.net,
        FrameLimitEntry.used, h4] using hle
    · rw [husage, metered_computeGas]
      exact h

theorem settled_metered : (metered env ev target u).Settled ↔ u.Within env ev := by
  have hdata := settled_pushed (t := (newTxTrackers env ev).dataSize)
    (env.spec.isEnabled .rex4) ⟨some target, false⟩
    (u.slots * constants.STORAGE_SLOT_WRITE_SIZE) rfl rfl
  have hkv := settled_pushed (t := (newTxTrackers env ev).kvUpdate)
    (env.spec.isEnabled .rex4) ⟨some target, false⟩ u.slots rfl rfl
  have hgrowth := settled_pushed (t := (newTxTrackers env ev).stateGrowth)
    (env.spec.isEnabled .rex4) () u.growth rfl rfl
  have hcompute := @settled_metered_computeGas env ev target u
  have hsize : (newTxTrackers env ev).dataSize.txEntry.used = intrinsicDataSize env := by
    simp [newTxTrackers, DataSizeTracker.beforeTxStart, FrameLimitTracker.modifyTx,
      FrameLimitTracker.new, FrameLimitEntry.new, FrameLimitEntry.used, intrinsicDataSize]
  have hupdates : (newTxTrackers env ev).kvUpdate.txEntry.used = intrinsicKvUpdates env := by
    simp [newTxTrackers, KVUpdateTracker.beforeTxStart, FrameLimitTracker.modifyTx,
      FrameLimitTracker.new, FrameLimitEntry.new, FrameLimitEntry.used, intrinsicKvUpdates]
  have hzero : (newTxTrackers env ev).stateGrowth.txEntry.used = 0 := rfl
  rw [hsize] at hdata
  rw [hupdates] at hkv
  rw [hzero, ite_self, Nat.zero_add] at hgrowth
  constructor
  · intro h
    exact ⟨hdata.1 h.dataSize, hkv.1 h.kvUpdate, hgrowth.1 h.stateGrowth, hcompute.1 h.computeGas⟩
  · intro h
    exact ⟨hgrowth.2 h.stateGrowth, hdata.2 h.dataSize, hkv.2 h.kvUpdates, hcompute.2 h.computeGas⟩

theorem metered_checkLimit (hw : u.Within env ev) :
    (metered env ev target u).checkLimit = metered env ev target u :=
  checkLimit_eq_self rfl (settled_metered.2 hw)

theorem checkLimit_metered_exceeded :
    (metered env ev target u).checkLimit.exceeded = false ↔ u.Within env ev := by
  rw [exceeded_eq_false, checkLimit_within_iff, settled_metered]
  simp

theorem metered_recordComputeGas (gas : ℕ) : (metered env ev target u).recordComputeGas gas =
    (metered env ev target (u.spend gas)).checkLimit := by
  have hcompute : (metered env ev target u).computeGas.recordGasUsed gas =
      (metered env ev target (u.spend gas)).computeGas := by
    rw [metered_computeGas, metered_computeGas]
    rfl
  unfold recordComputeGas
  rw [hcompute]
  rfl

theorem metered_onSstore (value newValue : ℕ) :
    (metered env ev target u).onSstore ⟨value, value, newValue⟩ =
      (metered env ev target (u.store value newValue)).checkLimit := by
  have hunit : ∀ (unit : ℕ) (t : AccountTracker), AccountTracker.afterSstoreBy unit
      (t.recordDiscardable (u.slots * unit)) ⟨value, value, newValue⟩ =
      t.recordDiscardable ((u.slots + if newValue = value then 0 else 1) * unit) := by
    intro unit t
    by_cases hv : newValue = value
    · simp [AccountTracker.afterSstoreBy, SStoreResult.isOriginalEqPresent,
        SStoreResult.isOriginalEqNew, hv]
    · have hv' : ¬ value = newValue := fun h => hv h.symm
      simp [AccountTracker.afterSstoreBy, SStoreResult.isOriginalEqPresent,
        SStoreResult.isOriginalEqNew, hv, hv', recordDiscardable_add, Nat.add_mul]
  have hone := hunit 1 (openedTrackers env ev target).kvUpdate
  rw [Nat.mul_one, Nat.mul_one] at hone
  have hgrowth : ∀ t : StateGrowthTracker, StateGrowthTracker.afterSstore
      (t.recordDiscardable u.growth) ⟨value, value, newValue⟩ =
      t.recordDiscardable (u.growth + if value = 0 ∧ newValue ≠ 0 then 1 else 0) := by
    intro t
    by_cases hz : value = 0
    · by_cases hn : newValue = 0
      · simp [StateGrowthTracker.afterSstore, hz, hn]
      · have hne : (newValue == 0) = false := by simpa using hn
        simp [StateGrowthTracker.afterSstore, hz, hn, hne, recordDiscardable_add]
    · simp [StateGrowthTracker.afterSstore, hz]
  unfold onSstore metered
  simp only [DataSizeTracker.afterSstore, KVUpdateTracker.afterSstore, hunit, hone, hgrowth]
  rfl

theorem metered_setComputeGasLimit (cap : ℕ) :
    (metered env ev target u).setComputeGasLimit cap =
      metered env ev target (u.detain env cap) := by
  unfold setComputeGasLimit ComputeGasTracker.setDetainedLimit
  rw [metered_txUsage, metered_rex4]
  rfl

end Metering

section Instruction

variable {env : Env} {ev : StartEvent} {target : Address} {u : Usage} {x : SystemContract}
  {c : Ctx} {e : OpEvent} {gas cost : ℕ} {journal writes : List JournalEntry}

/-- Volatile data is accessible, and the only cap in force is that of the block
environment. -/
structure Unhindered (ev : StartEvent) (v : VolatileDataAccessTracker) : Prop where
  enabled : v.disableDepth = none
  limit : v.blockEnvAccessLimit = ev.limits.blockEnvAccessComputeGasLimit
  capped : ∀ cap ∈ v.computeGasLimit, cap = ev.limits.blockEnvAccessComputeGasLimit

/-- The code runs on, with that usage, gas and journal. -/
structure Metering (env : Env) (ev : StartEvent) (target : Address) (u : Usage) (gas : ℕ)
    (journal : List JournalEntry) (c : Ctx) : Prop where
  action : c.action = none
  gas : c.gas.remaining = gas
  limit : c.limit = metered env ev target u
  journal : c.journal = journal
  volatile : Unhindered ev c.volatile

def Ctx.Failing (c : Ctx) : Prop := ∃ r, c.action = some (.return r) ∧ r.result.isOk = false

theorem failing_halt {r : InstructionResult} (hr : r.isOk = false) : (c.halt r).Failing :=
  ⟨_, rfl, hr⟩

theorem Unhindered.mark {v : VolatileDataAccessTracker} (h : Unhindered ev v)
    (ty : VolatileDataAccessType) : Unhindered ev (v.markBlockEnvAccessed ty) where
  enabled := h.enabled
  limit := h.limit
  capped := fun cap hcap => by
    simp only [VolatileDataAccessTracker.markBlockEnvAccessed, VolatileDataAccessTracker.insert,
      VolatileDataAccessTracker.applyOrCreateLimit, Option.mem_def] at hcap
    cases hc : v.computeGasLimit with
    | none =>
      rw [hc] at hcap
      cases hcap
      exact h.limit
    | some current =>
      rw [hc, Option.some.injEq] at hcap
      rw [← hcap, h.capped current hc, h.limit, min_self]

theorem Unhindered.marked {v : VolatileDataAccessTracker} (h : Unhindered ev v)
    (ty : VolatileDataAccessType) : (v.markBlockEnvAccessed ty).computeGasLimit =
      some ev.limits.blockEnvAccessComputeGasLimit := by
  have hcap := (h.mark ty).capped
  cases hc : v.computeGasLimit with
  | none =>
    simp [VolatileDataAccessTracker.markBlockEnvAccessed, VolatileDataAccessTracker.insert,
      VolatileDataAccessTracker.applyOrCreateLimit, hc, h.limit]
  | some current =>
    have hsome : (v.markBlockEnvAccessed ty).computeGasLimit =
        some (min current v.blockEnvAccessLimit) := by
      simp [VolatileDataAccessTracker.markBlockEnvAccessed, VolatileDataAccessTracker.insert,
        VolatileDataAccessTracker.applyOrCreateLimit, hc]
    rw [hsome, hcap _ hsome]

theorem exceeded_of_not_within (hw : ¬ u.Within env ev) :
    (metered env ev target u).checkLimit.exceeded = true := by
  rw [← Bool.not_eq_false]
  exact fun hf => hw (checkLimit_metered_exceeded.1 hf)

theorem Metering.computeGas (h : Metering env ev target u gas journal c) (cost : ℕ) :
    ((u.spend cost).Within env ev →
      Metering env ev target (u.spend cost) gas journal (computeGas cost c)) ∧
    (¬ (u.spend cost).Within env ev → (MegaEvm.computeGas cost c).Failing) := by
  have hrecord : c.limit.recordComputeGas cost =
      (metered env ev target (u.spend cost)).checkLimit := by
    rw [h.limit, metered_recordComputeGas]
  unfold MegaEvm.computeGas
  dsimp only
  rw [hrecord]
  constructor
  · intro hw
    rw [metered_checkLimit hw, metered_exceeded]
    exact ⟨h.action, h.gas, rfl, h.journal, h.volatile⟩
  · intro hw
    rw [if_pos (exceeded_of_not_within hw)]
    exact failing_halt (exceedingInstructionResult_isOk _)

theorem Metering.onSstore (h : Metering env ev target u gas journal c) (value newValue : ℕ) :
    ((u.store value newValue).Within env ev →
      Metering env ev target (u.store value newValue) gas journal (AdditionalLimitExt.enforce
        { c with limit := c.limit.onSstore ⟨value, value, newValue⟩ })) ∧
    (¬ (u.store value newValue).Within env ev → (AdditionalLimitExt.enforce
      { c with limit := c.limit.onSstore ⟨value, value, newValue⟩ }).Failing) := by
  unfold AdditionalLimitExt.enforce
  dsimp only
  rw [h.limit, metered_onSstore]
  constructor
  · intro hw
    rw [metered_checkLimit hw, metered_exceeded]
    exact ⟨h.action, h.gas, rfl, h.journal, h.volatile⟩
  · intro hw
    rw [if_pos (exceeded_of_not_within hw)]
    exact failing_halt (exceedingInstructionResult_isOk _)

theorem Metering.runInner (h : Metering env ev target u gas journal c)
    (hi : e.inner = .next cost writes) (hv : Unhindered ev (touchHost env e c).volatile) :
    (cost ≤ gas → Metering env ev target u (gas - cost) (writes ++ journal) (runInner env e c)) ∧
    (¬ cost ≤ gas → MegaEvm.runInner env e c = (touchHost env e c).halt .outOfGas) := by
  have hgas : (touchHost env e c).gas = c.gas := rfl
  constructor
  · intro hle
    have hcharged := Gas.recordCost_eq_some.2
      ⟨(show cost ≤ c.gas.remaining by rw [h.gas]; exact hle), rfl⟩
    simp only [MegaEvm.runInner, hi, chargeInner, hgas, hcharged, id]
    exact ⟨h.action, by rw [← h.gas], h.limit, by rw [← h.journal]; rfl, hv⟩
  · intro hle
    have hnone : c.gas.recordCost cost = none :=
      Gas.recordCost_eq_none.2 (by rw [h.gas]; exact Nat.lt_of_not_le hle)
    simp only [MegaEvm.runInner, hi, chargeInner, hgas, hnone]

theorem Metering.wrap (h : Metering env ev target u gas journal c)
    (hi : e.inner = .next cost writes) (hv : Unhindered ev (touchHost env e c).volatile) :
    (cost ≤ gas ∧ (u.spend cost).Within env ev →
      Metering env ev target (u.spend cost) (gas - cost) (writes ++ journal)
        (ComputeGasExt.wrap env e c)) ∧
    (¬ (cost ≤ gas ∧ (u.spend cost).Within env ev) → (ComputeGasExt.wrap env e c).Failing) := by
  obtain ⟨hpaid, hunpaid⟩ := h.runInner hi hv
  by_cases hle : cost ≤ gas
  · have hnext := hpaid hle
    have hused : computeGasUsed c.gas.remaining (MegaEvm.runInner env e c) = cost := by
      have hspent : computeGasUsed c.gas.remaining (MegaEvm.runInner env e c) =
          c.gas.remaining - (MegaEvm.runInner env e c).gas.remaining := by
        simp only [computeGasUsed, hnext.action]
      rw [hspent, hnext.gas, h.gas]
      omega
    have hwrap : ComputeGasExt.wrap env e c =
        MegaEvm.computeGas cost (MegaEvm.runInner env e c) := by
      simp only [ComputeGasExt.wrap, runInnerOrAbort, isError_of_action hnext.action,
        Bool.false_eq_true, if_false, hused]
    rw [hwrap]
    exact ⟨fun hw => (hnext.computeGas cost).1 hw.2,
      fun hw => (hnext.computeGas cost).2 fun hwithin => hw ⟨hle, hwithin⟩⟩
  · refine ⟨fun hw => absurd hw.1 hle, fun _ => ?_⟩
    simp only [ComputeGasExt.wrap, runInnerOrAbort, hunpaid hle, isError_halt]
    exact failing_halt rfl

theorem failing_abort {inner rest : Ctx → Ctx} (h : (inner c).Failing)
    (hrest : ∀ c', c'.Failing → (rest c').Failing) : (runInnerOrAbort inner rest c).Failing := by
  unfold runInnerOrAbort
  split
  · exact h
  · exact hrest _ h

theorem failing_apply (h : c.Failing) : (VolatileDataExt.applyComputeGasLimit c).Failing := by
  unfold VolatileDataExt.applyComputeGasLimit
  split
  · exact h
  · exact h

theorem failing_enforce (h : c.Failing) : (AdditionalLimitExt.enforce c).Failing := by
  unfold AdditionalLimitExt.enforce
  split
  · exact failing_halt (exceedingInstructionResult_isOk _)
  · exact h

/-- What becomes of the code at one instruction. -/
structure OpSpec (env : Env) (ev : StartEvent) (x : SystemContract) (u : Usage) (gas : ℕ)
    (journal : List JournalEntry) (op : SystemOp) (c : Ctx) : Prop where
  passes : ∀ left, op.gasAfter x gas = some left → (u.checked x op).Within env ev →
    Metering env ev x.address (u.after x env ev op) left (op.writes x ++ journal) c
  fails : ¬ ((op.gasAfter x gas).isSome = true ∧ (u.checked x op).Within env ev) → c.Failing

theorem opSpec_free {op : SystemOp} (hs : op.storageGas x = some 0) (hr : op.reserve = 0)
    (hpass : op.cost x ≤ gas ∧ (u.checked x op).Within env ev →
      Metering env ev x.address (u.after x env ev op) (gas - op.cost x) (op.writes x ++ journal) c)
    (hfail : ¬ (op.cost x ≤ gas ∧ (u.checked x op).Within env ev) → c.Failing) :
    OpSpec env ev x u gas journal op c := by
  have hafter : op.gasAfter x gas = if op.cost x ≤ gas then some (gas - op.cost x) else none := by
    simp [SystemOp.gasAfter, hs, hr]
  by_cases hle : op.cost x ≤ gas
  · rw [if_pos hle] at hafter
    constructor
    · intro left hleft hw
      rw [hafter, Option.some.injEq] at hleft
      rw [← hleft]
      exact hpass ⟨hle, hw⟩
    · intro hn
      rw [hafter] at hn
      exact hfail fun hc => hn ⟨rfl, hc.2⟩
  · rw [if_neg hle] at hafter
    constructor
    · intro left hleft
      rw [hafter] at hleft
      cases hleft
    · exact fun _ => hfail fun hc => hle hc.1

theorem Metering.plain (h : Metering env ev x.address u gas journal c) (cost : ℕ) :
    OpSpec env ev x u gas journal (.plain cost)
      (instruction env ((SystemOp.plain cost).event x gas) c) := by
  have hinner : ((SystemOp.plain cost).event x gas).inner = .next cost [] := rfl
  obtain ⟨hpass, hfail⟩ := h.wrap hinner h.volatile
  exact opSpec_free rfl rfl hpass hfail

theorem Metering.blockEnv (h : Metering env ev x.address u gas journal c)
    (ty : VolatileDataAccessType) : OpSpec env ev x u gas journal (.blockEnv ty)
      (instruction env ((SystemOp.blockEnv ty).event x gas) c) := by
  have hmark : ∃ ty', (touchHost env ((SystemOp.blockEnv ty).event x gas) c).volatile =
      c.volatile.markBlockEnvAccessed ty' := by
    by_cases hty : ty = .difficulty
    · subst hty
      exact ⟨.prevRandao, rfl⟩
    · refine ⟨ty, ?_⟩
      simp [touchHost, SystemOp.event, markHost]
  obtain ⟨ty', hmark⟩ := hmark
  have hinner : ((SystemOp.blockEnv ty).event x gas).inner = .next 2 [] := rfl
  obtain ⟨hpass, hfail⟩ := h.wrap hinner (by rw [hmark]; exact h.volatile.mark ty')
  have hrun : instruction env ((SystemOp.blockEnv ty).event x gas) c =
      runInnerOrAbort (ComputeGasExt.wrap env ((SystemOp.blockEnv ty).event x gas))
        VolatileDataExt.applyComputeGasLimit c := by
    have hdisabled : VolatileDataExt.disabled c = false := by
      simp [VolatileDataExt.disabled, VolatileDataAccessTracker.volatileAccessDisabled,
        h.volatile.enabled]
    show VolatileDataExt.unconditional env _ ty c = _
    unfold VolatileDataExt.unconditional
    rw [hdisabled]
    rfl
  rw [hrun]
  refine opSpec_free rfl rfl (fun hp => ?_) fun hn => failing_abort (hfail hn) fun _ => failing_apply
  have hnext := hpass hp
  have hvolatile : (ComputeGasExt.wrap env ((SystemOp.blockEnv ty).event x gas) c).volatile =
      c.volatile.markBlockEnvAccessed ty' := by
    rw [← hmark, wrap_volatile]
    simp only [touchHost, markHost_eq]
  have hcap : (ComputeGasExt.wrap env ((SystemOp.blockEnv ty).event x gas) c).volatile.computeGasLimit =
      some ev.limits.blockEnvAccessComputeGasLimit := by
    rw [hvolatile, h.volatile.marked]
  unfold runInnerOrAbort VolatileDataExt.applyComputeGasLimit
  rw [isError_of_action hnext.action, hcap]
  refine ⟨hnext.action, hnext.gas, ?_, hnext.journal, hnext.volatile⟩
  show (ComputeGasExt.wrap env _ c).limit.setComputeGasLimit _ = _
  rw [hnext.limit, metered_setComputeGasLimit]
  rfl

theorem Metering.charged (h : Metering env ev target u gas journal c) {storageGas : ℕ}
    (hle : storageGas ≤ gas) (rest : Ctx → Ctx) : ∃ c', chargeThen storageGas rest c = rest c' ∧
      Metering env ev target u (gas - storageGas) journal c' := by
  have hcharged := Gas.recordCost_eq_some.2
    ⟨(show storageGas ≤ c.gas.remaining by rw [h.gas]; exact hle), rfl⟩
  refine ⟨{ c with gas := { c.gas with remaining := c.gas.remaining - storageGas } }, ?_,
    h.action, by rw [← h.gas], h.limit, h.journal, h.volatile⟩
  simp only [chargeThen, hcharged]

/-- Storage gas of zero is charged, too. -/
theorem storageSstore_eq (key value : ℕ) :
    StorageGasExt.sstore env ((SystemOp.sstore key value).event x gas) c =
      match (SystemOp.sstore key value).storageGas x with
      | some storageGas => chargeThen storageGas
          (ComputeGasExt.wrap env ((SystemOp.sstore key value).event x gas)) c
      | none => c.halt .fatalExternalError := by
  have hfree : ∀ rest : Ctx → Ctx, chargeThen 0 rest c = rest c := by
    intro rest
    simp [chargeThen, Gas.recordCost]
  show (if x.slot key == 0 && x.slot key == 0 && value != 0 then
      _ else ComputeGasExt.wrap env _ c) = _
  by_cases hset : x.slot key = 0 ∧ value ≠ 0
  · have hs : ((SystemOp.sstore key value).event x gas).storageGas =
        (SystemOp.sstore key value).storageGas x := (if_pos hset).symm
    rw [if_pos (by simpa using hset), hs]
    cases (SystemOp.sstore key value).storageGas x with
    | none | some => rfl
  · have hs : (SystemOp.sstore key value).storageGas x = some 0 := if_neg hset
    rw [hs, if_neg (by simpa using hset)]
    exact (hfree _).symm

/-- On a stipend the interpreter refuses. -/
theorem failing_stipend (hi : e.inner = .halt .outOfGas [] 0 []) :
    (ComputeGasExt.wrap env e c).Failing := by
  have hinner : runInner env e c = ({ touchHost env e c with
      gas := { c.gas with remaining := c.gas.remaining - 0 } } : Ctx).haltWith .outOfGas [] := by
    simp only [runInner, hi, chargeInner, Gas.recordCost, Nat.zero_le, if_true]
    rfl
  unfold ComputeGasExt.wrap runInnerOrAbort
  rw [hinner]
  exact ⟨_, rfl, rfl⟩

theorem Metering.storageSstore (h : Metering env ev x.address u gas journal c) (key value : ℕ) :
    (∀ left, (SystemOp.sstore key value).gasAfter x gas = some left →
      (u.spend ((SystemOp.sstore key value).cost x)).Within env ev →
      Metering env ev x.address (u.spend ((SystemOp.sstore key value).cost x)) left
        ((SystemOp.sstore key value).writes x ++ journal)
        (StorageGasExt.sstore env ((SystemOp.sstore key value).event x gas) c)) ∧
    (¬ (((SystemOp.sstore key value).gasAfter x gas).isSome = true ∧
        (u.spend ((SystemOp.sstore key value).cost x)).Within env ev) →
      (StorageGasExt.sstore env ((SystemOp.sstore key value).event x gas) c).Failing) := by
  rw [storageSstore_eq]
  cases hs : (SystemOp.sstore key value).storageGas x with
  | none =>
    have hnone : (SystemOp.sstore key value).gasAfter x gas = none := by
      simp [SystemOp.gasAfter, hs]
    rw [hnone]
    exact ⟨fun left hleft => (by cases hleft), fun _ => failing_halt rfl⟩
  | some storageGas =>
    have hafter : (SystemOp.sstore key value).gasAfter x gas =
        if storageGas + max ((SystemOp.sstore key value).cost x)
          (SystemOp.sstore key value).reserve ≤ gas
        then some (gas - storageGas - (SystemOp.sstore key value).cost x) else none := by
      rw [SystemOp.gasAfter, hs, Option.bind_some]
    have hreserve : (SystemOp.sstore key value).reserve = constants.CALL_STIPEND + 1 := rfl
    rw [hafter]
    dsimp only
    by_cases hle : storageGas ≤ gas
    · obtain ⟨c', hcharge, hnext⟩ := h.charged hle
        (ComputeGasExt.wrap env ((SystemOp.sstore key value).event x gas))
      have hinner : ((SystemOp.sstore key value).event x gas).inner =
          SystemOp.innerSstore x key value (gas - storageGas) := by
        simp [SystemOp.event, hs]
      rw [hcharge]
      by_cases hstipend : gas - storageGas ≤ constants.CALL_STIPEND
      · rw [SystemOp.innerSstore, if_pos hstipend] at hinner
        rw [if_neg (by omega)]
        exact ⟨fun left hleft => (by cases hleft), fun _ => failing_stipend hinner⟩
      · rw [SystemOp.innerSstore, if_neg hstipend] at hinner
        obtain ⟨hpass, hfail⟩ := hnext.wrap hinner hnext.volatile
        by_cases hcost : (SystemOp.sstore key value).cost x ≤ gas - storageGas
        · rw [if_pos (by omega)]
          constructor
          · intro left hleft hw
            rw [Option.some.injEq] at hleft
            rw [← hleft]
            exact hpass ⟨hcost, hw⟩
          · exact fun hn => hfail fun hc => hn ⟨rfl, hc.2⟩
        · rw [if_neg (by omega)]
          exact ⟨fun left hleft => (by cases hleft), fun _ => hfail fun hc => hcost hc.1⟩
    · have hshort : c.gas.recordCost storageGas = none :=
        Gas.recordCost_eq_none.2 (by rw [h.gas]; exact Nat.lt_of_not_le hle)
      rw [if_neg (by omega)]
      refine ⟨fun left hleft => (by cases hleft), fun _ => ?_⟩
      simp only [chargeThen, hshort]
      exact failing_halt rfl

theorem Metering.sstore (h : Metering env ev x.address u gas journal c) (key value : ℕ) :
    OpSpec env ev x u gas journal (.sstore key value)
      (instruction env ((SystemOp.sstore key value).event x gas) c) := by
  obtain ⟨hpass, hfail⟩ := h.storageSstore key value
  have hrun : instruction env ((SystemOp.sstore key value).event x gas) c =
      runInnerOrAbort (StorageGasExt.sstore env ((SystemOp.sstore key value).event x gas))
        (fun c => AdditionalLimitExt.enforce
          { c with limit := c.limit.onSstore ⟨x.slot key, x.slot key, value⟩ }) c := rfl
  rw [hrun]
  by_cases hspend : ((SystemOp.sstore key value).gasAfter x gas).isSome = true ∧
      (u.spend ((SystemOp.sstore key value).cost x)).Within env ev
  · obtain ⟨left, hleft⟩ := Option.isSome_iff_exists.1 hspend.1
    have hnext := hpass left hleft hspend.2
    obtain ⟨hkeep, hexceed⟩ := hnext.onSstore (x.slot key) value
    unfold runInnerOrAbort
    rw [isError_of_action hnext.action]
    constructor
    · intro left' hleft' hw
      rw [hleft, Option.some.injEq] at hleft'
      rw [← hleft']
      exact hkeep hw
    · exact fun hn => hexceed fun hw => hn ⟨hspend.1, hw⟩
  · have hfailing := hfail hspend
    constructor
    · intro left hleft hw
      exact absurd ⟨Option.isSome_iff_exists.2 ⟨left, hleft⟩, hw.anti (Usage.le_store _ _ _)⟩ hspend
    · exact fun _ => failing_abort hfailing fun c' hc' => failing_enforce (c := { c' with limit := _ }) hc'

theorem Metering.op (h : Metering env ev x.address u gas journal c) (op : SystemOp) :
    OpSpec env ev x u gas journal op (instruction env (op.event x gas) c) := by
  cases op with
  | plain cost => exact h.plain cost
  | blockEnv ty => exact h.blockEnv ty
  | sstore key value => exact h.sstore key value

/-- STOP is free, and checks the limits once more. -/
theorem Metering.stop (h : Metering env ev target u gas journal c) :
    (u.Within env ev → (instruction env stopEvent c).action = some (.return ⟨.stop, [], c.gas⟩) ∧
      (instruction env stopEvent c).limit = metered env ev target u ∧
      (instruction env stopEvent c).journal = journal) ∧
    (¬ u.Within env ev → (instruction env stopEvent c).Failing) := by
  have hinner : MegaEvm.runInner env stopEvent c = c.haltWith .stop [] := by
    simp only [MegaEvm.runInner, stopEvent, chargeInner, Gas.recordCost, Nat.zero_le, if_true]
    rfl
  have hrecord : c.limit.recordComputeGas 0 = (metered env ev target u).checkLimit := by
    rw [h.limit, recordComputeGas_zero]
  have hwrap : instruction env stopEvent c = MegaEvm.computeGas 0 (c.haltWith .stop []) := by
    have hused : computeGasUsed c.gas.remaining (c.haltWith .stop []) = 0 := by
      simp [computeGasUsed, Ctx.haltWith]
    show ComputeGasExt.wrap env stopEvent c = _
    unfold ComputeGasExt.wrap runInnerOrAbort
    rw [hinner]
    show MegaEvm.computeGas (computeGasUsed c.gas.remaining (c.haltWith .stop []))
      (c.haltWith .stop []) = _
    rw [hused]
  rw [hwrap]
  unfold MegaEvm.computeGas
  dsimp only [Ctx.haltWith]
  rw [hrecord]
  constructor
  · intro hw
    rw [metered_checkLimit hw, metered_exceeded]
    exact ⟨rfl, rfl, h.journal⟩
  · intro hw
    rw [if_pos (exceeded_of_not_within hw)]
    exact failing_halt (exceedingInstructionResult_isOk _)

end Instruction

section Code

variable {env : Env} {ev : StartEvent} {x : SystemContract} {u : Usage} {s s' : State} {f : Frame}
  {gas : ℕ} {journal : List JournalEntry}

structure Running (env : Env) (ev : StartEvent) (x : SystemContract) (u : Usage) (gas : ℕ)
    (journal : List JournalEntry) (s : State) (f : Frame) : Prop where
  phase : s.phase = .interp
  frames : s.frames = [f]
  isCall : f.isCreate = false
  ctx : Metering env ev x.address u gas journal (s.ctx f)

structure Finished (env : Env) (ev : StartEvent) (x : SystemContract) (u : Usage)
    (journal : List JournalEntry) (s : State) : Prop where
  phase : ∃ gas, s.phase = .action (.return ⟨.stop, [], gas⟩)
  frames : ∃ f, s.frames = [f] ∧ f.isCreate = false
  limit : s.limit = metered env ev x.address u
  within : u.Within env ev
  journal : s.journal = journal

structure BrokenOff (s : State) : Prop where
  phase : ∃ r, s.phase = .action (.return r) ∧ r.result.isOk = false
  frames : ∃ f, s.frames = [f] ∧ f.isCreate = false

def journalAfter (x : SystemContract) (ops : List SystemOp) (journal : List JournalEntry) :
    List JournalEntry :=
  ops.foldl (fun journal op => op.writes x ++ journal) journal

/-- What the steps of the frame loop keep, the code keeps. -/
theorem runCode_invariant {I : State → Prop}
    (hI : ∀ s e s', I s → step env s e = some s' → I s') {ops : List SystemOp} (hs : I s)
    (h : runCode env x ops s = some s') : I s' := by
  induction ops generalizing s with
  | nil =>
    unfold runCode at h
    split at h
    · exact hI s _ s' hs h
    · cases h
      exact hs
  | cons op ops ih =>
    unfold runCode at h
    split at h
    · obtain ⟨m, hm, hrest⟩ := Option.bind_eq_some_iff.1 h
      exact ih (hI s _ m hs hm) hrest
    · cases h
      exact hs

theorem Running.step_op (h : Running env ev x u gas journal s f) (e : OpEvent) :
    step env s (.op e) = some (interpStep env s f [] e) := by
  simp [step, h.phase, h.frames]

theorem BrokenOff.of_failing (h : Running env ev x u gas journal s f) {e : OpEvent}
    (hfail : (instruction env e (s.ctx f)).Failing) : BrokenOff (interpStep env s f [] e) := by
  obtain ⟨r, hr, hno⟩ := hfail
  constructor
  · refine ⟨r, ?_, hno⟩
    simp only [interpStep, hr]
  · exact ⟨_, rfl, h.isCall⟩

theorem Running.next (h : Running env ev x u gas journal s f) {e : OpEvent} {u' : Usage}
    {gas' : ℕ} {journal' : List JournalEntry}
    (hnext : Metering env ev x.address u' gas' journal' (instruction env e (s.ctx f))) :
    Running env ev x u' gas' journal' (interpStep env s f [] e)
      { f with gas := (instruction env e (s.ctx f)).gas } where
  phase := by simp only [interpStep, hnext.action]
  frames := rfl
  isCall := h.isCall
  ctx := ⟨rfl, hnext.gas, hnext.limit, hnext.journal, hnext.volatile⟩

theorem BrokenOff.runCode (h : BrokenOff s) (ops : List SystemOp) :
    MegaEvm.runCode env x ops s = some s := by
  obtain ⟨r, hr, -⟩ := h.phase
  cases ops with
  | nil | cons => simp [MegaEvm.runCode, hr]

/-- Whether the code gets to its end is a matter of its gas and its usage. -/
theorem Running.runCode (h : Running env ev x u gas journal s f) (ops : List SystemOp) :
    ∃ s', runCode env x ops s = some s' ∧
      ((gasThrough x ops gas).isSome = true ∧ (u.through x env ev ops).Within env ev →
        Finished env ev x (u.through x env ev ops) (journalAfter x ops journal) s') ∧
      (¬ ((gasThrough x ops gas).isSome = true ∧ (u.through x env ev ops).Within env ev) →
        BrokenOff s') := by
  induction ops generalizing s f u gas journal with
  | nil =>
    obtain ⟨hpass, hfail⟩ := h.ctx.stop
    refine ⟨interpStep env s f [] stopEvent, ?_, ?_, ?_⟩
    · simp only [MegaEvm.runCode, h.phase]
      exact h.step_op stopEvent
    · intro hw
      obtain ⟨haction, hlimit, hjournal⟩ := hpass hw.2
      refine ⟨⟨(s.ctx f).gas, ?_⟩, ⟨_, rfl, h.isCall⟩, hlimit, hw.2, hjournal⟩
      simp only [interpStep, haction]
    · exact fun hn => .of_failing h (hfail fun hw => hn ⟨rfl, hw⟩)
  | cons op ops ih =>
    have hspec := h.ctx.op op
    have hgas : f.gas.remaining = gas := h.ctx.gas
    have hrun : MegaEvm.runCode env x (op :: ops) s =
        MegaEvm.runCode env x ops (interpStep env s f [] (op.event x gas)) := by
      simp only [MegaEvm.runCode, h.phase, h.frames, hgas]
      rw [h.step_op]
      rfl
    rw [hrun]
    cases hleft : op.gasAfter x gas with
    | none =>
      have hbroken := BrokenOff.of_failing h (hspec.fails (by simp [hleft]))
      have hshort : gasThrough x (op :: ops) gas = none := by simp [gasThrough, hleft]
      refine ⟨_, hbroken.runCode ops, fun hw => ?_, fun _ => hbroken⟩
      rw [hshort] at hw
      cases hw.1
    | some left =>
      have hcont : gasThrough x (op :: ops) gas = gasThrough x ops left := by simp [gasThrough, hleft]
      rw [hcont]
      by_cases hw : (u.checked x op).Within env ev
      · exact ih (h.next (hspec.passes left hleft hw))
      · have hbroken := BrokenOff.of_failing h (hspec.fails fun hc => hw hc.2)
        refine ⟨_, hbroken.runCode ops, fun hwithin => ?_, fun _ => hbroken⟩
        exact absurd (Usage.within_checked hwithin.2) hw

end Code

end MegaEvm
