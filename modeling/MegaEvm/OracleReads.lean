import MegaEvm.Access
import MegaEvm.JournalState
import MegaEvm.Library.Lockstep
import MegaEvm.Library.UndoLog

/-!
# Oracle reads

An SLOAD of the oracle contract may be served by the oracle environment, past the
journal: the slot is neither loaded nor warmed, nor is a value that was written to
it seen. A transaction is a program over the host; its two runs, with and without
the service, are followed in lockstep.
-/

set_option autoImplicit false

namespace MegaEvm

open Reading UndoLog

section Journal

structure StateLoad (α : Type) where
  data : α
  isCold : Bool
  deriving DecidableEq, Repr

structure StorageSlot extends SlotValues where
  isCold : Bool
  deriving DecidableEq, Repr

namespace StorageSlot

def new (value : ℕ) (isCold : Bool) : StorageSlot := ⟨⟨value, value⟩, isCold⟩

def markWarm (s : StorageSlot) : StorageSlot := { s with isCold := false }

def markCold (s : StorageSlot) : StorageSlot := { s with isCold := true }

def write (s : StorageSlot) (value : ℕ) : StorageSlot := ⟨⟨s.originalValue, value⟩, s.isCold⟩

end StorageSlot

inductive StorageEntry where
  | storageWarmed (key : SlotKey)
  | storageChanged (key : SlotKey) (hadValue : ℕ)
  deriving DecidableEq, Repr

def StorageEntry.key : StorageEntry → SlotKey
  | storageWarmed key => key
  | storageChanged key _ => key

/-- The slots of revm's journal, and its entries since each open checkpoint. -/
structure StorageJournal where
  slots : SlotKey → Option StorageSlot
  entries : List (List StorageEntry)

namespace StorageJournal

variable (storage : SlotKey → ℕ) (j : StorageJournal)

def slot (key : SlotKey) : StorageSlot := (j.slots key).getD (.new (storage key) true)

def insert (key : SlotKey) (slot : StorageSlot) : StorageJournal :=
  { j with slots := Function.update j.slots key (some slot) }

def push (entry : StorageEntry) : StorageJournal := { j with entries := record entry j.entries }

def sload (key : SlotKey) : StateLoad ℕ × StorageJournal :=
  let slot := j.slot storage key
  let warmed := j.insert key slot.markWarm
  (⟨slot.presentValue, slot.isCold⟩,
    if slot.isCold then warmed.push (.storageWarmed key) else warmed)

def sstore (key : SlotKey) (value : ℕ) : StateLoad SStoreResult × StorageJournal :=
  let (present, j) := j.sload storage key
  let slot := j.slot storage key
  (⟨⟨slot.originalValue, present.data, value⟩, present.isCold⟩,
    if present.data = value then j
    else (j.insert key (slot.write value)).push (.storageChanged key present.data))

/-- `account` is where the slot of `address` is looked up; a slot that is not there is
read under `address`. -/
def inspectStorage (address account : Address) (key : ℕ) : SlotValues × StorageJournal :=
  match j.slots (account, key) with
  | some slot => (slot.toSlotValues, j)
  | none =>
    let slot := StorageSlot.new (storage (address, key)) true
    (slot.toSlotValues, j.insert (account, key) slot)

def undo (entry : StorageEntry) : StorageJournal :=
  match entry with
  | .storageWarmed key => j.insert key (j.slot storage key).markCold
  | .storageChanged key hadValue => j.insert key ((j.slot storage key).write hadValue)

def checkpoint : StorageJournal := { j with entries := [] :: j.entries }

def checkpointCommit : StorageJournal := { j with entries := commit j.entries }

def checkpointRevert : StorageJournal :=
  match j.entries with
  | [] => j
  | top :: rest => { undoAll (fun entry j => undo storage j entry) top j with entries := rest }

end StorageJournal

end Journal

section Views

abbrev StorageView := SlotKey → StorageSlot

def undoSlot (entry : StorageEntry) (v : StorageView) : StorageView :=
  match entry with
  | .storageWarmed key => Function.update v key (v key).markCold
  | .storageChanged key hadValue => Function.update v key ((v key).write hadValue)

/-- The journal stands for a view, and for a view at each open checkpoint. -/
structure StandsFor (storage : SlotKey → ℕ) (j : StorageJournal) (v : Snapshots StorageView) :
    Prop where
  view : j.slot storage = v.current
  restores : Restores undoSlot j.entries v
  loaded : ∀ es ∈ j.entries, ∀ e ∈ es, (j.slots e.key).isSome = true

variable {storage : SlotKey → ℕ} {j : StorageJournal} {v : Snapshots StorageView}

@[simp] theorem slot_insert (key : SlotKey) (slot : StorageSlot) :
    (j.insert key slot).slot storage = Function.update (j.slot storage) key slot := by
  ext k
  by_cases hk : k = key
  · subst hk
    simp [StorageJournal.slot, StorageJournal.insert]
  · simp [StorageJournal.slot, StorageJournal.insert, hk]

@[simp] theorem slot_push (e : StorageEntry) : (j.push e).slot storage = j.slot storage := rfl

theorem loaded_insert {key k : SlotKey} {slot : StorageSlot} :
    ((j.insert key slot).slots k).isSome = true ↔ k = key ∨ (j.slots k).isSome = true := by
  by_cases hk : k = key
  · subst hk
    simp [StorageJournal.insert]
  · simp [StorageJournal.insert, hk]

theorem slot_undoAll (es : List StorageEntry) (j : StorageJournal) :
    (undoAll (fun e j => j.undo storage e) es j).slot storage =
      undoAll undoSlot es (j.slot storage) := by
  induction es generalizing j with
  | nil => rfl
  | cons e es ih =>
    have he : (j.undo storage e).slot storage = undoSlot e (j.slot storage) := by
      cases e with
      | storageWarmed key => simp [StorageJournal.undo, undoSlot]
      | storageChanged key hadValue => simp [StorageJournal.undo, undoSlot]
    have hrest := ih (j.undo storage e)
    rw [he] at hrest
    exact hrest

theorem loaded_undoAll {es : List StorageEntry} {j : StorageJournal}
    (h : ∀ e ∈ es, (j.slots e.key).isSome = true) (k : SlotKey) :
    ((undoAll (fun e j => j.undo storage e) es j).slots k).isSome = true ↔
      (j.slots k).isSome = true := by
  induction es generalizing j with
  | nil => exact Iff.rfl
  | cons e es ih =>
    have hkey := h e List.mem_cons_self
    have hloaded : ∀ k, ((j.undo storage e).slots k).isSome = true ↔
        (j.slots k).isSome = true := by
      intro k
      have hinsert : ∃ slot, j.undo storage e = j.insert e.key slot := by
        cases e with
        | storageWarmed key => exact ⟨_, rfl⟩
        | storageChanged key hadValue => exact ⟨_, rfl⟩
      obtain ⟨slot, hslot⟩ := hinsert
      rw [hslot, loaded_insert]
      constructor
      · rintro (rfl | hk)
        · exact hkey
        · exact hk
      · exact .inr
    have hrest := ih (j := j.undo storage e) fun e' he' =>
      (hloaded e'.key).2 (h e' (List.mem_cons_of_mem _ he'))
    exact hrest.trans (hloaded k)

theorem loaded_sload {key k : SlotKey} :
    ((j.sload storage key).2.slots k).isSome = true ↔ k = key ∨ (j.slots k).isSome = true := by
  by_cases hcold : (j.slot storage key).isCold = true
  · simp only [StorageJournal.sload, if_pos hcold]
    exact loaded_insert
  · simp only [StorageJournal.sload, if_neg hcold]
    exact loaded_insert

theorem loaded_sstore {key k : SlotKey} {value : ℕ} :
    ((j.sstore storage key value).2.slots k).isSome = true ↔
      k = key ∨ (j.slots k).isSome = true := by
  by_cases hsame : (j.sload storage key).1.data = value
  · simp only [StorageJournal.sstore, if_pos hsame]
    exact loaded_sload
  · simp only [StorageJournal.sstore, if_neg hsame]
    have hor : k = key ∨ k = key ∨ (j.slots k).isSome = true ↔
        k = key ∨ (j.slots k).isSome = true := by
      rw [← or_assoc, or_self]
    exact (loaded_insert.trans (or_congr_right loaded_sload)).trans hor

theorem undoSlot_update {e : StorageEntry} {key : SlotKey} (h : e.key ≠ key) (w : StorageView)
    (slot : StorageSlot) :
    undoSlot e (Function.update w key slot) = Function.update (undoSlot e w) key slot := by
  cases e with
  | storageWarmed k =>
    have hk : k ≠ key := h
    simp only [undoSlot, Function.update_of_ne hk]
    exact (Function.update_comm hk _ _ _).symm
  | storageChanged k hadValue =>
    have hk : k ≠ key := h
    simp only [undoSlot, Function.update_of_ne hk]
    exact (Function.update_comm hk _ _ _).symm

namespace StandsFor

variable {key : SlotKey}

theorem refresh (h : StandsFor storage j v) (key : SlotKey) :
    StandsFor storage (j.insert key (v.current key)) v where
  view := by
    rw [slot_insert, h.view]
    exact Function.update_eq_self _ _
  restores := h.restores
  loaded es hes e he := loaded_insert.2 (.inr (h.loaded es hes e he))

theorem journaled (h : StandsFor storage j v) (e : StorageEntry) (slot : StorageSlot)
    (he : undoSlot e (Function.update v.current e.key slot) = v.current) :
    StandsFor storage ((j.insert e.key slot).push e)
      (v.set (Function.update v.current e.key slot)) where
  view := by
    rw [slot_push, slot_insert, h.view]
    rfl
  restores := h.restores.record he
  loaded es hes e' he' := by
    apply loaded_insert.2
    rcases mem_record hes he' with rfl | ⟨old, hold, he'⟩
    · exact .inl rfl
    · exact .inr (h.loaded old hold e' he')

theorem sload (h : StandsFor storage j v) (key : SlotKey) :
    (j.sload storage key).1 = ⟨(v.current key).presentValue, (v.current key).isCold⟩ ∧
      StandsFor storage (j.sload storage key).2
        (v.set (Function.update v.current key (v.current key).markWarm)) := by
  unfold StorageJournal.sload
  rw [h.view]
  constructor
  · rfl
  · by_cases hcold : (v.current key).isCold = true
    · simp only [if_pos hcold]
      apply h.journaled (.storageWarmed key)
      have hback : (v.current key).markWarm.markCold = v.current key := by
        simp only [StorageSlot.markWarm, StorageSlot.markCold, ← hcold]
      simp only [undoSlot, StorageEntry.key, Function.update_self, Function.update_idem, hback]
      exact Function.update_eq_self _ _
    · have hwarm : (v.current key).markWarm = v.current key := by
        simp only [StorageSlot.markWarm, ← Bool.eq_false_iff.2 hcold]
      simp only [if_neg hcold, hwarm, Function.update_eq_self]
      exact h.refresh key

theorem sstore (h : StandsFor storage j v) (key : SlotKey) (value : ℕ) :
    (j.sstore storage key value).1 =
        ⟨⟨(v.current key).originalValue, (v.current key).presentValue, value⟩,
          (v.current key).isCold⟩ ∧
      StandsFor storage (j.sstore storage key value).2
        (v.set (Function.update v.current key ((v.current key).markWarm.write value))) := by
  obtain ⟨hanswer, hloaded⟩ := h.sload key
  have hslot : (j.sload storage key).2.slot storage key = (v.current key).markWarm := by
    rw [hloaded.view]
    simp [Snapshots.set]
  unfold StorageJournal.sstore
  simp only [hanswer, hslot]
  constructor
  · rfl
  · by_cases hsame : (v.current key).presentValue = value
    · have hwrite : (v.current key).markWarm.write value = (v.current key).markWarm := by
        rw [← hsame]
        rfl
      rw [if_pos hsame, hwrite]
      exact hloaded
    · rw [if_neg hsame]
      have hchanged := hloaded.journaled (.storageChanged key (v.current key).presentValue)
        ((v.current key).markWarm.write value) (by
          simp only [undoSlot, StorageEntry.key, Snapshots.set, Function.update_self,
            Function.update_idem]
          rfl)
      simpa [Snapshots.set, StorageEntry.key] using hchanged

theorem load (h : StandsFor storage j v) (habsent : j.slots key = none) (slot : StorageSlot) :
    StandsFor storage (j.insert key slot) (v.map fun w => Function.update w key slot) where
  view := by
    rw [slot_insert, h.view]
    rfl
  restores := by
    apply h.restores.map
    intro es hes e he w
    apply undoSlot_update
    rintro rfl
    have hloaded := h.loaded es hes e he
    rw [habsent] at hloaded
    cases hloaded
  loaded es hes e he := loaded_insert.2 (.inr (h.loaded es hes e he))

theorem checkpoint (h : StandsFor storage j v) : StandsFor storage j.checkpoint v.checkpoint where
  view := h.view
  restores := h.restores.checkpoint
  loaded es hes e he := by
    rcases List.mem_cons.1 hes with rfl | hes
    · cases he
    · exact h.loaded es hes e he

theorem commit (h : StandsFor storage j v) : StandsFor storage j.checkpointCommit v.commit where
  view := h.view
  restores := h.restores.commit
  loaded es hes e he := by
    obtain ⟨old, hold, he⟩ := mem_commit hes he
    exact h.loaded old hold e he

theorem revert (h : StandsFor storage j v) :
    StandsFor storage (j.checkpointRevert storage) v.revert := by
  unfold StorageJournal.checkpointRevert
  cases hj : j.entries with
  | nil =>
    have hrestores := h.restores
    rw [hj] at hrestores
    rw [hrestores.revert_nil]
    exact h
  | cons top rest =>
    have hrestores := h.restores
    rw [hj] at hrestores
    obtain ⟨hcurrent, hrest⟩ := hrestores.revert
    have hloaded : ∀ es ∈ top :: rest, ∀ e ∈ es, (j.slots e.key).isSome = true := by
      rw [← hj]
      exact h.loaded
    exact {
      view := by
        show (undoAll (fun e j => j.undo storage e) top j).slot storage = v.revert.current
        rw [slot_undoAll, h.view, hcurrent]
      restores := hrest
      loaded := fun es hes e he =>
        (loaded_undoAll (hloaded top List.mem_cons_self) e.key).2
          (hloaded es (List.mem_cons_of_mem _ hes) e he) }

theorem loaded_revert (h : StandsFor storage j v) (k : SlotKey) :
    ((j.checkpointRevert storage).slots k).isSome = true ↔ (j.slots k).isSome = true := by
  unfold StorageJournal.checkpointRevert
  cases hj : j.entries with
  | nil => exact Iff.rfl
  | cons top rest =>
    apply loaded_undoAll
    intro e he
    apply h.loaded top _ e he
    rw [hj]
    exact List.mem_cons_self

end StandsFor

end Views

section Host

/-- The context but for its slots; `rest` is accounts, logs and frames. -/
structure Around (β : Type) where
  volatile : VolatileDataAccessTracker
  limit : AdditionalLimit
  rest : β

structure HostState (β : Type) where
  journal : StorageJournal
  around : Around β

inductive HostOp (O : Type) where
  | sload (address : Address) (key : ℕ)
  | sstore (address : Address) (key value : ℕ)
  | inspectStorage (address delegate : Address) (key : ℕ)
  | onSstore (result : SStoreResult)
  | checkpoint
  | checkpointCommit
  | checkpointRevert
  | other (op : O)

abbrev HostOp.Answer {O : Type} (γ : O → Type) : HostOp O → Type
  | .sload .. => StateLoad ℕ
  | .sstore .. => StateLoad SStoreResult
  | .inspectStorage .. => SlotValues
  | .onSstore _ => Bool
  | .checkpoint => Unit
  | .checkpointCommit => Unit
  | .checkpointRevert => Unit
  | .other op => γ op

/-- `other` are the operations that meet no slot; `opened`, `committed` and `reverted`
what a checkpoint does to what is not a slot. -/
structure HostEnv (O : Type) (γ : O → Type) (β : Type) where
  spec : MegaSpecId
  caller : Address
  storage : SlotKey → ℕ
  getOracleStorage : ℕ → Option ℕ
  other : ∀ op, Around β → γ op × Around β
  opened : Around β → Around β
  committed : Around β → Around β
  reverted : Around β → Around β

variable {O : Type} {γ : O → Type} {β : Type}

/-- The state a transaction starts from: `slots` are those loaded before. -/
def HostState.start (slots : SlotKey → Option StorageSlot) (around : Around β) : HostState β :=
  ⟨⟨slots, []⟩, around⟩

namespace HostEnv

variable (env : HostEnv O γ β)

def withoutOracle : HostEnv O γ β := { env with getOracleStorage := fun _ => none }

def isOracle (address : Address) : Bool :=
  env.spec.isEnabled .miniRex && address == ORACLE_CONTRACT_ADDRESS

def markOracleAccess (around : Around β) (address : Address) : Around β :=
  if env.spec.isEnabled .rex3 && env.caller != MEGA_SYSTEM_ADDRESS then
    { around with volatile := around.volatile.checkAndMarkOracleAccess address }
  else around

def sload (s : HostState β) (address : Address) (key : ℕ) : StateLoad ℕ × HostState β :=
  if env.isOracle address then
    let s := { s with around := env.markOracleAccess s.around address }
    match env.getOracleStorage key with
    | some value => (⟨value, true⟩, s)
    | none =>
      let (stateLoad, journal) := s.journal.sload env.storage (address, key)
      ({ stateLoad with isCold := true }, { s with journal := journal })
  else
    let (stateLoad, journal) := s.journal.sload env.storage (address, key)
    (stateLoad, { s with journal := journal })

/-- From the last spec on no delegation is followed. -/
def inspected (address delegate : Address) : Address :=
  if env.spec.isEnabled .rex4 then address else delegate

def handler : Handler (HostOp.Answer γ) (HostState β)
  | .sload address key, s => env.sload s address key
  | .sstore address key value, s =>
    let (result, journal) := s.journal.sstore env.storage (address, key) value
    (result, { s with journal := journal })
  | .inspectStorage address delegate key, s =>
    let (slot, journal) :=
      s.journal.inspectStorage env.storage address (env.inspected address delegate) key
    (slot, { s with journal := journal })
  | .onSstore result, s =>
    let limit := s.around.limit.onSstore result
    (!limit.exceeded, { s with around := { s.around with limit := limit } })
  | .checkpoint, s => ((), ⟨s.journal.checkpoint, env.opened s.around⟩)
  | .checkpointCommit, s => ((), ⟨s.journal.checkpointCommit, env.committed s.around⟩)
  | .checkpointRevert, s => ((), ⟨s.journal.checkpointRevert env.storage, env.reverted s.around⟩)
  | .other op, s =>
    let (answer, around) := env.other op s.around
    (answer, { s with around := around })

def value (s : HostState β) (key : SlotKey) : ℕ := (s.journal.slot env.storage key).presentValue

def changes (s : HostState β) (key : SlotKey) : Option ℕ :=
  let slot := s.journal.slot env.storage key
  if slot.presentValue = slot.originalValue then none else some slot.presentValue

def observed {α : Type} (x : α × HostState β) : α × (SlotKey → Option ℕ) × Around β :=
  (x.1, env.changes x.2, x.2.around)

def served (address : Address) (key : ℕ) : Option ℕ :=
  if env.isOracle address then env.getOracleStorage key else none

variable {env} {address : Address} {key : ℕ}

theorem sload_served {value : ℕ} (h : env.served address key = some value) (s : HostState β) :
    env.sload s address key =
      (⟨value, true⟩, { s with around := env.markOracleAccess s.around address }) := by
  unfold served at h
  by_cases ho : env.isOracle address = true
  · rw [if_pos ho] at h
    simp [sload, ho, h]
  · rw [if_neg ho] at h
    cases h

theorem sload_unserved (h : env.served address key = none) (s : HostState β) :
    env.sload s address key =
      (⟨(s.journal.sload env.storage (address, key)).1.data,
          env.isOracle address || (s.journal.sload env.storage (address, key)).1.isCold⟩,
        ⟨(s.journal.sload env.storage (address, key)).2,
          if env.isOracle address then env.markOracleAccess s.around address else s.around⟩) := by
  unfold served at h
  by_cases ho : env.isOracle address = true
  · rw [if_pos ho] at h
    simp [sload, ho, h]
  · simp [sload, ho]

theorem served_isOracle {value : ℕ} (h : env.served address key = some value) :
    env.isOracle address = true ∧ address = ORACLE_CONTRACT_ADDRESS := by
  unfold served at h
  by_cases ho : env.isOracle address = true
  · refine ⟨ho, ?_⟩
    simp only [isOracle, Bool.and_eq_true, beq_iff_eq] at ho
    exact ho.2
  · rw [if_neg ho] at h
    cases h

theorem served_withoutOracle (env : HostEnv O γ β) (address : Address) (key : ℕ) :
    env.withoutOracle.served address key = none := by
  unfold served
  split
  · rfl
  · rfl

end HostEnv

/-- The oracle slots that were served: in `reads` those whose frame is not reverted. -/
structure OracleReads where
  reads : Snapshots (List ℕ)
  ever : List ℕ

namespace OracleReads

def empty : OracleReads := ⟨⟨[], []⟩, []⟩

def next (env : HostEnv O γ β) (op : HostOp O) (r : OracleReads) : OracleReads :=
  match op with
  | .sload address key =>
    if (env.served address key).isSome then
      ⟨r.reads.set (key :: r.reads.current), key :: r.ever⟩
    else r
  | .checkpoint => { r with reads := r.reads.checkpoint }
  | .checkpointCommit => { r with reads := r.reads.commit }
  | .checkpointRevert => { r with reads := r.reads.revert }
  | _ => r

end OracleReads

/-- What the service does not disturb: a slot is served while it holds the value it had
at the start, and one that was served is not written while it is still cold. A slot
that is looked up through a delegation is loaded if it was ever served. -/
def Undisturbed (env : HostEnv O γ β) (start : HostState β) (x : HostState β × OracleReads) :
    HostOp O → Prop
  | .sload address key => (env.served address key).isSome = true →
    env.value x.1 (address, key) = env.value start (address, key)
  | .sstore address key _ => address = ORACLE_CONTRACT_ADDRESS → key ∈ x.2.reads.current →
    (x.1.journal.slot env.storage (address, key)).isCold = false
  | .inspectStorage address delegate key =>
    env.inspected address delegate = ORACLE_CONTRACT_ADDRESS → key ∈ x.2.ever →
      (x.1.journal.slots (env.inspected address delegate, key)).isSome = true ∨
        env.storage (address, key) = env.storage (env.inspected address delegate, key)
  | _ => True

end Host

section TwoRuns

/-- The view of the run that is not served: what was served is warm. -/
def warmedBy (q : List ℕ × StorageView) : StorageView := fun key =>
  if key.1 = ORACLE_CONTRACT_ADDRESS ∧ key.2 ∈ q.1 then (q.2 key).markWarm else q.2 key

section Warmed

variable {reads : List ℕ} {w : StorageView} {key : SlotKey}

theorem warmedBy_values (q : List ℕ × StorageView) (key : SlotKey) :
    (warmedBy q key).toSlotValues = (q.2 key).toSlotValues := by
  unfold warmedBy
  split
  · rfl
  · rfl

theorem warmedBy_isCold (q : List ℕ × StorageView) (key : SlotKey) :
    (warmedBy q key).isCold =
      ((q.2 key).isCold && !decide (key.1 = ORACLE_CONTRACT_ADDRESS ∧ key.2 ∈ q.1)) := by
  unfold warmedBy
  by_cases h : key.1 = ORACLE_CONTRACT_ADDRESS ∧ key.2 ∈ q.1
  · simp [h, StorageSlot.markWarm]
  · simp only [if_neg h, decide_eq_false h, Bool.not_false, Bool.and_true]

theorem warmedBy_update (f : StorageSlot → StorageSlot)
    (hf : ∀ slot, f slot.markWarm = (f slot).markWarm) :
    warmedBy (reads, Function.update w key (f (w key))) =
      Function.update (warmedBy (reads, w)) key (f (warmedBy (reads, w) key)) := by
  ext k : 1
  by_cases hk : k = key
  · subst hk
    simp only [warmedBy, Function.update_self]
    split
    · rw [hf]
    · rfl
  · simp only [warmedBy, Function.update_of_ne hk]

theorem warmedBy_load {slot : StorageSlot}
    (h : key.1 = ORACLE_CONTRACT_ADDRESS → key.2 ∉ reads) :
    warmedBy (reads, Function.update w key slot) =
      Function.update (warmedBy (reads, w)) key slot := by
  ext k : 1
  by_cases hk : k = key
  · subst hk
    have hno : ¬(k.1 = ORACLE_CONTRACT_ADDRESS ∧ k.2 ∈ reads) := fun hread => h hread.1 hread.2
    simp only [warmedBy, if_neg hno, Function.update_self]
  · simp only [warmedBy, Function.update_of_ne hk]

theorem warmedBy_cons (slot : ℕ) :
    warmedBy (slot :: reads, w) =
      Function.update (warmedBy (reads, w)) (ORACLE_CONTRACT_ADDRESS, slot)
        (warmedBy (reads, w) (ORACLE_CONTRACT_ADDRESS, slot)).markWarm := by
  ext k : 1
  by_cases hk : k = (ORACLE_CONTRACT_ADDRESS, slot)
  · subst hk
    simp only [warmedBy, Function.update_self, List.mem_cons, true_or, and_self, if_true, true_and]
    split
    · rfl
    · rfl
  · have hiff : (k.1 = ORACLE_CONTRACT_ADDRESS ∧ k.2 ∈ slot :: reads) ↔
        (k.1 = ORACLE_CONTRACT_ADDRESS ∧ k.2 ∈ reads) := by
      constructor
      · rintro ⟨ha, hmem⟩
        rcases List.mem_cons.1 hmem with hs | hmem
        · exact absurd (Prod.ext ha hs) hk
        · exact ⟨ha, hmem⟩
      · exact fun h => ⟨h.1, List.mem_cons_of_mem _ h.2⟩
    simp only [warmedBy, Function.update_of_ne hk, hiff]

end Warmed

variable {O : Type} {γ : O → Type} {β : Type} {env : HostEnv O γ β}
  {x : HostState β × OracleReads} {t : HostState β} {p : Snapshots (List ℕ × StorageView)}

/-- The two runs side by side; `p` holds the served reads and the view of the run that
is served. -/
structure Alike (env : HostEnv O γ β) (p : Snapshots (List ℕ × StorageView))
    (x : HostState β × OracleReads) (t : HostState β) : Prop where
  reads : p.map Prod.fst = x.2.reads
  served : StandsFor env.storage x.1.journal (p.map Prod.snd)
  unserved : StandsFor env.storage t.journal (p.map warmedBy)
  loaded : ∀ key, (t.journal.slots key).isSome = true ↔
    (x.1.journal.slots key).isSome = true ∨
      (key.1 = ORACLE_CONTRACT_ADDRESS ∧ key.2 ∈ x.2.ever)
  within : p.All fun q => ∀ key ∈ q.1, key ∈ x.2.ever
  enabled : ∀ key ∈ x.2.ever, env.isOracle ORACLE_CONTRACT_ADDRESS = true
  around : t.around = x.1.around

namespace Alike

theorem slot_served (h : Alike env p x t) (key : SlotKey) :
    x.1.journal.slot env.storage key = p.current.2 key := congrFun h.served.view key

theorem slot_unserved (h : Alike env p x t) (key : SlotKey) :
    t.journal.slot env.storage key = warmedBy p.current key := congrFun h.unserved.view key

theorem touched (h : Alike env p x t) (key : SlotKey) (f : StorageSlot → StorageSlot)
    (hf : ∀ slot, f slot.markWarm = (f slot).markWarm) {s s' : HostState β}
    (hj : StandsFor env.storage s.journal ((p.map Prod.snd).set
      (Function.update p.current.2 key (f (p.current.2 key)))))
    (hj' : StandsFor env.storage s'.journal ((p.map warmedBy).set
      (Function.update (warmedBy p.current) key (f (warmedBy p.current key)))))
    (hloaded : ∀ k, (s.journal.slots k).isSome = true ↔
      k = key ∨ (x.1.journal.slots k).isSome = true)
    (hloaded' : ∀ k, (s'.journal.slots k).isSome = true ↔
      k = key ∨ (t.journal.slots k).isSome = true)
    (haround : s'.around = s.around) :
    Alike env (p.set (p.current.1, Function.update p.current.2 key (f (p.current.2 key))))
      (s, x.2) s' where
  reads := by
    rw [← h.reads]
    rfl
  served := hj
  unserved := by
    rw [Snapshots.map_set, warmedBy_update f hf]
    exact hj'
  loaded k := by
    rw [hloaded k, hloaded' k, h.loaded k, or_assoc]
  within := h.within.set h.within.1
  enabled := h.enabled
  around := haround

variable {start : HostState β}

theorem sload_unserved (h : Alike env p x t) (address : Address) (key : ℕ) :
    env.withoutOracle.sload t address key =
      (⟨(p.current.2 (address, key)).presentValue,
          env.isOracle address || (warmedBy p.current (address, key)).isCold⟩,
        ⟨(t.journal.sload env.storage (address, key)).2,
          if env.isOracle address then env.markOracleAccess x.1.around address
          else x.1.around⟩) := by
  have hplain := HostEnv.sload_unserved (env.served_withoutOracle address key) t
  have hload : (t.journal.sload env.storage (address, key)).1 =
      ⟨(warmedBy p.current (address, key)).presentValue,
        (warmedBy p.current (address, key)).isCold⟩ := (h.unserved.sload (address, key)).1
  have hvalue : (warmedBy p.current (address, key)).presentValue =
      (p.current.2 (address, key)).presentValue :=
    congrArg SlotValues.presentValue (warmedBy_values p.current (address, key))
  rw [hvalue] at hload
  have hstorage : env.withoutOracle.storage = env.storage := rfl
  rw [hplain, hstorage, hload, h.around]
  rfl

theorem load_unserved (h : Alike env p x t) {key value : ℕ}
    (hs : env.served ORACLE_CONTRACT_ADDRESS key = some value) :
    Alike env (p.set (key :: p.current.1, p.current.2))
      ({ x.1 with around := env.markOracleAccess x.1.around ORACLE_CONTRACT_ADDRESS },
        x.2.next env (.sload ORACLE_CONTRACT_ADDRESS key))
      ⟨(t.journal.sload env.storage (ORACLE_CONTRACT_ADDRESS, key)).2,
        if env.isOracle ORACLE_CONTRACT_ADDRESS then
          env.markOracleAccess x.1.around ORACLE_CONTRACT_ADDRESS
        else x.1.around⟩ := by
  have ho := (HostEnv.served_isOracle hs).1
  have hnext : x.2.next env (.sload ORACLE_CONTRACT_ADDRESS key) =
      ⟨x.2.reads.set (key :: x.2.reads.current), key :: x.2.ever⟩ := by
    simp [OracleReads.next, hs]
  rw [hnext]
  exact {
    reads := by
      rw [← h.reads]
      rfl
    served := h.served
    unserved := by
      rw [Snapshots.map_set, warmedBy_cons]
      exact (h.unserved.sload (ORACLE_CONTRACT_ADDRESS, key)).2
    loaded := fun k => by
      have hk : k = (ORACLE_CONTRACT_ADDRESS, key) ↔
          k.1 = ORACLE_CONTRACT_ADDRESS ∧ k.2 = key := Prod.ext_iff
      rw [loaded_sload, h.loaded k, List.mem_cons, hk]
      tauto
    within := by
      have hwithin := h.within.mono fun q hq k hk => List.mem_cons_of_mem key (hq k hk)
      apply hwithin.set
      intro k hk
      rcases List.mem_cons.1 hk with rfl | hk
      · exact List.mem_cons_self
      · exact List.mem_cons_of_mem _ (h.within.1 k hk)
    enabled := fun _ _ => ho
    around := if_pos ho }

theorem sload (h : Alike env p x t) {address : Address} {key : ℕ}
    (hserves : ∀ value, env.getOracleStorage key = some value →
      value = env.value start (ORACLE_CONTRACT_ADDRESS, key)) :
    ((env.withoutOracle.sload t address key).1 = (env.sload x.1 address key).1 ↔
        Undisturbed env start x (.sload address key)) ∧
      ∃ p', Alike env p' ((env.sload x.1 address key).2, x.2.next env (.sload address key))
        (env.withoutOracle.sload t address key).2 := by
  have hview : env.value x.1 (address, key) = (p.current.2 (address, key)).presentValue :=
    congrArg (·.presentValue) (h.slot_served (address, key))
  rw [h.sload_unserved]
  cases hs : env.served address key with
  | some value =>
    obtain ⟨ho, haddress⟩ := HostEnv.served_isOracle hs
    have hvalue : value = env.value start (address, key) := by
      rw [haddress]
      apply hserves
      simpa [HostEnv.served, ho] using hs
    rw [HostEnv.sload_served hs]
    constructor
    · simp only [ho, Bool.true_or, Undisturbed, hs, Option.isSome_some, true_implies, hview,
        ← hvalue, StateLoad.mk.injEq, and_true]
    · subst haddress
      exact ⟨_, h.load_unserved hs⟩
  | none =>
    have hnext : x.2.next env (.sload address key) = x.2 := by
      simp [OracleReads.next, hs]
    have hload : (x.1.journal.sload env.storage (address, key)).1 =
        ⟨(p.current.2 (address, key)).presentValue, (p.current.2 (address, key)).isCold⟩ :=
      (h.served.sload (address, key)).1
    rw [HostEnv.sload_unserved hs, hload, hnext]
    constructor
    · have hcold : (env.isOracle address || (warmedBy p.current (address, key)).isCold) =
          (env.isOracle address || (p.current.2 (address, key)).isCold) := by
        by_cases hread : address = ORACLE_CONTRACT_ADDRESS ∧ key ∈ p.current.1
        · have ho := h.enabled key (h.within.1 key hread.2)
          rw [hread.1, ho, Bool.true_or, Bool.true_or]
        · have hsame : warmedBy p.current (address, key) = p.current.2 (address, key) :=
            if_neg hread
          rw [hsame]
      simp only [hcold, Undisturbed, hs, Option.isSome_none, Bool.false_eq_true, false_implies]
    · exact ⟨_, h.touched (address, key) StorageSlot.markWarm (fun _ => rfl)
        (h.served.sload (address, key)).2 (h.unserved.sload (address, key)).2
        (fun k => loaded_sload) (fun k => loaded_sload) rfl⟩

theorem sstore (h : Alike env p x t) (address : Address) (key value : ℕ) :
    ((t.journal.sstore env.storage (address, key) value).1 =
        (x.1.journal.sstore env.storage (address, key) value).1 ↔
        Undisturbed env start x (.sstore address key value)) ∧
      ∃ p', Alike env p'
        ({ x.1 with journal := (x.1.journal.sstore env.storage (address, key) value).2 }, x.2)
        { t with journal := (t.journal.sstore env.storage (address, key) value).2 } := by
  obtain ⟨hanswer, hserved⟩ := h.served.sstore (address, key) value
  obtain ⟨hanswer', hunserved⟩ := h.unserved.sstore (address, key) value
  constructor
  · have hvalues : (warmedBy p.current (address, key)).toSlotValues =
        (p.current.2 (address, key)).toSlotValues := warmedBy_values _ _
    have hreads : x.2.reads.current = p.current.1 := by
      rw [← h.reads]
      rfl
    rw [hanswer, hanswer']
    simp only [Snapshots.map_current, Undisturbed, h.slot_served, hreads, hvalues, warmedBy_isCold,
      StateLoad.mk.injEq, true_and]
    cases (p.current.2 (address, key)).isCold with
    | false => simp
    | true => simp [imp_iff_not_or]
  · exact ⟨_, h.touched (address, key) (fun slot => slot.markWarm.write value) (fun _ => rfl)
      hserved hunserved (fun k => loaded_sstore) (fun k => loaded_sstore) h.around⟩

theorem inspected_loaded (h : Alike env p x t) (address : Address) {account : Address} {key : ℕ}
    {slot slot' : StorageSlot} (hx : x.1.journal.slots (account, key) = some slot)
    (ht : t.journal.slots (account, key) = some slot') :
    (t.journal.inspectStorage env.storage address account key).1 =
      (x.1.journal.inspectStorage env.storage address account key).1 := by
  have hslot : slot = p.current.2 (account, key) := by
    rw [← h.slot_served]
    simp [StorageJournal.slot, hx]
  have hslot' : slot' = warmedBy p.current (account, key) := by
    rw [← h.slot_unserved]
    simp [StorageJournal.slot, ht]
  simp only [StorageJournal.inspectStorage, hx, ht, hslot, hslot', warmedBy_values]

theorem inspected_served (h : Alike env p x t) (address : Address) {account : Address} {key : ℕ}
    {slot' : StorageSlot} (hx : x.1.journal.slots (account, key) = none)
    (ht : t.journal.slots (account, key) = some slot') :
    p.current.2 (account, key) = .new (env.storage (account, key)) true ∧
      ((t.journal.inspectStorage env.storage address account key).1 =
          (x.1.journal.inspectStorage env.storage address account key).1 ↔
        env.storage (address, key) = env.storage (account, key)) := by
  have hdefault : p.current.2 (account, key) = .new (env.storage (account, key)) true := by
    rw [← h.slot_served]
    simp [StorageJournal.slot, hx]
  have hslot' : slot'.toSlotValues = ⟨env.storage (account, key), env.storage (account, key)⟩ := by
    have hsame : slot' = warmedBy p.current (account, key) := by
      rw [← h.slot_unserved]
      simp [StorageJournal.slot, ht]
    rw [hsame, warmedBy_values, hdefault]
    rfl
  refine ⟨hdefault, ?_⟩
  simp only [StorageJournal.inspectStorage, hx, ht, hslot', StorageSlot.new, SlotValues.mk.injEq,
    and_self]
  exact eq_comm

theorem load_served (h : Alike env p x t) (key : SlotKey)
    (hread : key.1 = ORACLE_CONTRACT_ADDRESS ∧ key.2 ∈ x.2.ever) :
    Alike env p ({ x.1 with journal := x.1.journal.insert key (p.current.2 key) }, x.2) t where
  reads := h.reads
  served := h.served.refresh key
  unserved := h.unserved
  loaded k := by
    rw [loaded_insert, h.loaded k]
    constructor
    · rintro (hk | hk)
      · exact .inl (.inr hk)
      · exact .inr hk
    · rintro ((rfl | hk) | hk)
      · exact .inr hread
      · exact .inl hk
      · exact .inr hk
  within := h.within
  enabled := h.enabled
  around := h.around

theorem load_new (h : Alike env p x t) {key : SlotKey} (slot : StorageSlot)
    (hx : x.1.journal.slots key = none) (ht : t.journal.slots key = none)
    (hread : ¬(key.1 = ORACLE_CONTRACT_ADDRESS ∧ key.2 ∈ x.2.ever)) :
    Alike env (p.map fun q => (q.1, Function.update q.2 key slot))
      ({ x.1 with journal := x.1.journal.insert key slot }, x.2)
      { t with journal := t.journal.insert key slot } where
  reads := by
    rw [Snapshots.map_map]
    exact h.reads
  served := by
    have hload := h.served.load hx slot
    rw [Snapshots.map_map] at hload ⊢
    exact hload
  unserved := by
    have hload := h.unserved.load ht slot
    rw [Snapshots.map_map] at hload ⊢
    have hsame : p.All fun q => warmedBy (q.1, Function.update q.2 key slot) =
        Function.update (warmedBy q) key slot :=
      h.within.mono fun q hq => warmedBy_load fun ha hk => hread ⟨ha, hq key.2 hk⟩
    rw [p.map_congr hsame]
    exact hload
  loaded k := by
    rw [loaded_insert, loaded_insert, h.loaded k, or_assoc]
  within := Snapshots.all_map h.within
  enabled := h.enabled
  around := h.around

theorem inspectStorage (h : Alike env p x t) (address delegate : Address) (key : ℕ) :
    ((t.journal.inspectStorage env.storage address (env.inspected address delegate) key).1 =
        (x.1.journal.inspectStorage env.storage address (env.inspected address delegate) key).1 ↔
        Undisturbed env start x (.inspectStorage address delegate key)) ∧
      (Undisturbed env start x (.inspectStorage address delegate key) → ∃ p', Alike env p'
        ({ x.1 with journal := (x.1.journal.inspectStorage env.storage address
          (env.inspected address delegate) key).2 }, x.2)
        { t with journal := (t.journal.inspectStorage env.storage address
          (env.inspected address delegate) key).2 }) := by
  generalize haccount : env.inspected address delegate = account
  have hloaded := h.loaded (account, key)
  simp only [Undisturbed, haccount]
  cases hx : x.1.journal.slots (account, key) with
  | some slot =>
    rw [hx] at hloaded
    obtain ⟨slot', ht⟩ := Option.isSome_iff_exists.1 (hloaded.2 (.inl rfl))
    have hanswer := h.inspected_loaded address hx ht
    simp only [Option.isSome_some, true_or, implies_true, iff_true, true_implies]
    constructor
    · exact hanswer
    · simp only [StorageJournal.inspectStorage, hx, ht]
      exact ⟨p, h⟩
  | none =>
    cases ht : t.journal.slots (account, key) with
    | some slot' =>
      obtain ⟨rfl, hkey⟩ : account = ORACLE_CONTRACT_ADDRESS ∧ key ∈ x.2.ever := by
        rw [ht, hx] at hloaded
        simpa using hloaded
      obtain ⟨hdefault, hanswer⟩ := h.inspected_served address hx ht
      simp only [hkey, Option.isSome_none, Bool.false_eq_true, false_or, true_implies]
      constructor
      · exact hanswer
      · intro hstorage
        have hserved := h.load_served (ORACLE_CONTRACT_ADDRESS, key) ⟨rfl, hkey⟩
        rw [hdefault, ← hstorage] at hserved
        simp only [StorageJournal.inspectStorage, hx, ht]
        exact ⟨p, hserved⟩
    | none =>
      have hunread : ¬(account = ORACLE_CONTRACT_ADDRESS ∧ key ∈ x.2.ever) := by
        intro hread
        rw [ht, hx] at hloaded
        simpa using hloaded.2 (.inr hread)
      simp only [StorageJournal.inspectStorage, hx, ht, true_iff]
      constructor
      · exact fun ha hk => absurd ⟨ha, hk⟩ hunread
      · exact fun _ => ⟨_, h.load_new (.new (env.storage (address, key)) true) hx ht hunread⟩

theorem checkpoint (h : Alike env p x t) :
    Alike env p.checkpoint
      (⟨x.1.journal.checkpoint, env.opened x.1.around⟩, { x.2 with reads := x.2.reads.checkpoint })
      ⟨t.journal.checkpoint, env.opened t.around⟩ where
  reads := congrArg Snapshots.checkpoint h.reads
  served := h.served.checkpoint
  unserved := h.unserved.checkpoint
  loaded := h.loaded
  within := h.within.checkpoint
  enabled := h.enabled
  around := congrArg env.opened h.around

theorem commit (h : Alike env p x t) :
    Alike env p.commit
      (⟨x.1.journal.checkpointCommit, env.committed x.1.around⟩,
        { x.2 with reads := x.2.reads.commit })
      ⟨t.journal.checkpointCommit, env.committed t.around⟩ where
  reads := by
    rw [Snapshots.map_commit, h.reads]
  served := by
    rw [Snapshots.map_commit]
    exact h.served.commit
  unserved := by
    rw [Snapshots.map_commit]
    exact h.unserved.commit
  loaded := h.loaded
  within := h.within.commit
  enabled := h.enabled
  around := congrArg env.committed h.around

theorem revert (h : Alike env p x t) :
    Alike env p.revert
      (⟨x.1.journal.checkpointRevert env.storage, env.reverted x.1.around⟩,
        { x.2 with reads := x.2.reads.revert })
      ⟨t.journal.checkpointRevert env.storage, env.reverted t.around⟩ where
  reads := by
    rw [Snapshots.map_revert, h.reads]
  served := by
    rw [Snapshots.map_revert]
    exact h.served.revert
  unserved := by
    rw [Snapshots.map_revert]
    exact h.unserved.revert
  loaded key := by
    rw [h.served.loaded_revert, h.unserved.loaded_revert]
    exact h.loaded key
  within := h.within.revert
  enabled := h.enabled
  around := congrArg env.reverted h.around

theorem changes (h : Alike env p x t) : env.changes t = env.changes x.1 := by
  ext key : 1
  simp only [HostEnv.changes, h.slot_served, h.slot_unserved, warmedBy_values]

end Alike

/-- One operation of the two runs: they are told the same exactly if it is not disturbed. -/
theorem oracle_lockstep (start : HostState β)
    (hserves : ∀ key value, env.getOracleStorage key = some value →
      value = env.value start (ORACLE_CONTRACT_ADDRESS, key)) :
    Lockstep (ghost env.handler (OracleReads.next env)) env.withoutOracle.handler
      (fun x t => ∃ p, Alike env p x t) (Undisturbed env start) where
  answer op x t h := by
    obtain ⟨p, h⟩ := h
    cases op with
    | sload address key => exact (h.sload (hserves key)).1
    | sstore address key value => exact (h.sstore address key value).1
    | inspectStorage address delegate key => exact (h.inspectStorage address delegate key).1
    | onSstore result =>
      simp only [ghost, HostEnv.handler, Undisturbed, h.around]
    | checkpoint | checkpointCommit | checkpointRevert => exact iff_of_true rfl trivial
    | other op =>
      have hother : env.withoutOracle.other = env.other := rfl
      simp only [ghost, HostEnv.handler, Undisturbed, h.around, hother]
  keeps op x t h hok := by
    obtain ⟨p, h⟩ := h
    cases op with
    | sload address key => exact (h.sload (hserves key)).2
    | sstore address key value => exact (@Alike.sstore O γ β env x t p start h address key value).2
    | inspectStorage address delegate key => exact (h.inspectStorage address delegate key).2 hok
    | onSstore result =>
      have haround := h.around
      exact ⟨p, { h with around := by simp only [ghost, HostEnv.handler, haround] }⟩
    | checkpoint => exact ⟨p.checkpoint, h.checkpoint⟩
    | checkpointCommit => exact ⟨p.commit, h.commit⟩
    | checkpointRevert => exact ⟨p.revert, h.revert⟩
    | other op =>
      have hother : env.withoutOracle.other = env.other := rfl
      have haround := h.around
      exact ⟨p, { h with around := by simp only [ghost, HostEnv.handler, haround, hother] }⟩

variable {α : Type}

theorem alike_start (env : HostEnv O γ β) (slots : SlotKey → Option StorageSlot)
    (around : Around β) :
    Alike env ⟨([], (HostState.start slots around).journal.slot env.storage), []⟩
      (HostState.start slots around, .empty) (HostState.start slots around) where
  reads := rfl
  served := ⟨rfl, trivial, fun es hes => by cases hes⟩
  unserved := by
    have hview : warmedBy ([], (HostState.start slots around).journal.slot env.storage) =
        (HostState.start slots around).journal.slot env.storage := by
      ext key : 1
      exact if_neg fun h => List.not_mem_nil h.2
    exact ⟨hview.symm, trivial, fun es hes => by cases hes⟩
  loaded key := by simp [OracleReads.empty]
  within := by
    constructor
    · intro key hk
      cases hk
    · intro q hq
      cases hq
  enabled key hk := by cases hk
  around := rfl

theorem oracle_answers_agree_iff (env : HostEnv O γ β) (slots : SlotKey → Option StorageSlot)
    (around : Around β) (p : Prog (HostOp.Answer γ) α)
    (hserves : ∀ key value, env.getOracleStorage key = some value →
      value = env.value (.start slots around) (ORACLE_CONTRACT_ADDRESS, key)) :
    trace env.withoutOracle.handler p (HostState.start slots around) =
        trace env.handler p (HostState.start slots around) ↔
      Steps (ghost env.handler (OracleReads.next env))
        (Undisturbed env (.start slots around)) p (HostState.start slots around, .empty) := by
  have hlockstep := oracle_lockstep (HostState.start slots around) hserves
  have hstart := alike_start env slots around
  rw [← hlockstep.trace_eq_iff ⟨_, hstart⟩, trace_ghost]

/-- A transaction that is not disturbed leaves the same with the service as without. -/
theorem oracle_reads_indistinguishable (env : HostEnv O γ β)
    (slots : SlotKey → Option StorageSlot) (around : Around β) (p : Prog (HostOp.Answer γ) α)
    (hserves : ∀ key value, env.getOracleStorage key = some value →
      value = env.value (.start slots around) (ORACLE_CONTRACT_ADDRESS, key))
    (hsteps : Steps (ghost env.handler (OracleReads.next env))
      (Undisturbed env (.start slots around)) p (HostState.start slots around, .empty)) :
    env.observed (exec env.withoutOracle.handler p (HostState.start slots around)) =
      env.observed (exec env.handler p (HostState.start slots around)) := by
  have hlockstep := oracle_lockstep (HostState.start slots around) hserves
  have hstart := alike_start env slots around
  obtain ⟨hresult, q, hend⟩ := hlockstep.exec_eq ⟨_, hstart⟩ hsteps
  obtain ⟨hghost, hghost'⟩ := exec_ghost env.handler (OracleReads.next env) p
    (HostState.start slots around) .empty
  rw [hghost] at hresult
  have hchanges := hend.changes
  have haround := hend.around
  rw [hghost'] at hchanges haround
  unfold HostEnv.observed
  rw [hresult, hchanges, haround]

end TwoRuns

section Instructions

variable {O : Type} {γ : O → Type}

/-- The gas of an SLOAD (EIP-2929). -/
def sloadCost (isCold : Bool) : ℕ := if isCold then 2100 else 100

/-- The gas of an SSTORE (EIP-2200, EIP-2929). -/
def sstoreCost (r : SStoreResult) (isCold : Bool) : ℕ :=
  (if r.newValue = r.presentValue then 100
    else if r.originalValue = r.presentValue then if r.originalValue = 0 then 20000 else 2900
    else 100) + if isCold then 2100 else 0

def sloadInstruction (address : Address) (key : ℕ) : Prog (HostOp.Answer γ) (ℕ × ℕ) :=
  .read (.sload address key) fun stateLoad => .done (stateLoad.data, sloadCost stateLoad.isCold)

def sstoreInstruction (sstoreSetStorageGas : ℕ) (target delegate : Address) (key value : ℕ) :
    Prog (HostOp.Answer γ) (Bool × ℕ) :=
  .read (.inspectStorage target delegate key) fun loaded =>
    .read (.inspectStorage target delegate key) fun slot =>
      let storageGas := if slot.originalValue = 0 ∧ slot.presentValue = 0 ∧ value ≠ 0 then
        sstoreSetStorageGas else 0
      .read (.sstore target key value) fun result =>
        .read (.onSstore ⟨loaded.originalValue, loaded.presentValue, value⟩) fun within =>
          .done (within, storageGas + sstoreCost result.data result.isCold)

def readThenWrite (slot written : ℕ) : Prog (HostOp.Answer γ) ℕ :=
  (sloadInstruction ORACLE_CONTRACT_ADDRESS slot).bind fun read =>
    (sstoreInstruction 0 ORACLE_CONTRACT_ADDRESS ORACLE_CONTRACT_ADDRESS written 12).bind
      fun write => .done (read.2 + write.2)

/-- Slot 3 of the oracle contract is served with what the database holds for it. -/
def serving : HostEnv Empty (fun _ => Unit) Unit where
  spec := .rex4
  caller := 7
  storage := fun key => if key = (ORACLE_CONTRACT_ADDRESS, 3) then 11 else 5
  getOracleStorage := fun key => if key = 3 then some 11 else none
  other := fun op => op.elim
  opened := id
  committed := id
  reverted := id

def fresh : Around Unit :=
  ⟨.new 20000000 20000000, .new .rex4 (EvmTxRuntimeLimits.fromSpec .rex4), ()⟩

theorem serving_start {key value : ℕ} (h : serving.getOracleStorage key = some value) :
    value = serving.value (.start (fun _ => none) fresh) (ORACLE_CONTRACT_ADDRESS, key) := by
  by_cases hkey : key = 3
  · subst hkey
    obtain rfl : 11 = value := Option.some.inj h
    rfl
  · simp [serving, hkey] at h

theorem oracle_reads_indistinguishable_other_slot :
    serving.observed (exec serving.withoutOracle.handler (readThenWrite 3 4)
        (HostState.start (fun _ => none) fresh)) =
      serving.observed (exec serving.handler (readThenWrite 3 4)
        (HostState.start (fun _ => none) fresh)) := by
  apply oracle_reads_indistinguishable serving (fun _ => none) fresh (readThenWrite 3 4)
  · exact fun key value => serving_start
  · have hother : (4 : ℕ) ∉ [3] := by decide
    refine ⟨fun _ => rfl, ?_, ?_, ?_, trivial, trivial⟩
    · exact fun _ h => absurd h hother
    · exact fun _ h => absurd h hother
    · exact fun _ h => absurd h hother

/-- The slot that was served is cold when it is written; without the service it is warm. -/
theorem oracle_read_then_write_told :
    ¬ ∀ (env : HostEnv Empty (fun _ => Unit) Unit) (slots : SlotKey → Option StorageSlot)
      (around : Around Unit) (p : Prog (HostOp.Answer fun _ => Unit) ℕ),
      (∀ key value, env.getOracleStorage key = some value →
        value = env.value (.start slots around) (ORACLE_CONTRACT_ADDRESS, key)) →
      env.observed (exec env.withoutOracle.handler p (HostState.start slots around)) =
        env.observed (exec env.handler p (HostState.start slots around)) := by
  intro h
  have hsame := h serving (fun _ => none) fresh (readThenWrite 3 3) fun key value => serving_start
  have hwithout : (exec serving.withoutOracle.handler (readThenWrite 3 3)
      (HostState.start (fun _ => none) fresh)).1 = 5000 := rfl
  have hserved : (exec serving.handler (readThenWrite 3 3)
      (HostState.start (fun _ => none) fresh)).1 = 7100 := rfl
  have hgas := congrArg Prod.fst hsame
  simp only [HostEnv.observed] at hgas
  rw [hwithout, hserved] at hgas
  cases hgas

end Instructions

end MegaEvm
