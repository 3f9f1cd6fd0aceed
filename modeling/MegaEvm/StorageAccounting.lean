import MegaEvm.JournalState
import MegaEvm.PairedLimits
import MegaEvm.Library.PointCount

/-!
# Slot writes are counted as what they change

Every open frame's ledger holds what the slot writes since its checkpoint
changed, so that the trackers and the journal take back the same writes when a
frame fails. Over the whole transaction the slot writes are worth the slots that
differ from their value at its start.
-/

set_option autoImplicit false

namespace MegaEvm

open Checkpoint PointCount

variable {env : JournalEnv}

namespace JournalState

variable {j j' : JournalState}

noncomputable def changedSlots (env : JournalEnv) (j : JournalState) : ℕ :=
  count (fun key v => v ≠ env.storage key) (j.value env)

noncomputable def newSlots (env : JournalEnv) (j : JournalState) : ℕ :=
  count (fun key v => env.storage key = 0 ∧ v ≠ 0) (j.value env)

/-- A change of accounts that delegates none. -/
def Moved (j j' : JournalState) : Prop :=
  j'.slots = j.slots ∧
    ∀ a, (j.accounts a).delegatedAddress = none → (j'.accounts a).delegatedAddress = none

theorem Moved.refl (j : JournalState) : j.Moved j := ⟨rfl, fun _ h => h⟩

theorem Moved.trans {j'' : JournalState} (h : j.Moved j') (h' : j'.Moved j'') : j.Moved j'' :=
  ⟨h'.1.trans h.1, fun a ha => h'.2 a (h.2 a ha)⟩

theorem moved_modifyAccount (j : JournalState) (address : Address)
    {f : JournalAccount → JournalAccount}
    (hf : ∀ a, a.delegatedAddress = none → (f a).delegatedAddress = none) :
    j.Moved (j.modifyAccount address f) := by
  constructor
  · rfl
  · intro a ha
    by_cases heq : a = address
    · subst heq
      simp only [modifyAccount, Function.update_self]
      exact hf _ ha
    · simp only [modifyAccount, Function.update_of_ne heq]
      exact ha

theorem moved_transfer (j : JournalState) (source target : Address) (value : ℕ) :
    j.Moved (j.transfer source target value) := by
  unfold transfer
  split
  · have hsub : j.Moved (j.subBalance source value) := moved_modifyAccount j source fun _ h => h
    apply hsub.trans
    exact moved_modifyAccount _ target fun _ h => h
  · exact Moved.refl j

theorem moved_callTransfer (j : JournalState) (i : CallInputs) : j.Moved (j.callTransfer i) := by
  unfold callTransfer
  split
  · exact moved_transfer j _ _ _
  · exact Moved.refl j

theorem moved_bumpNonce (j : JournalState) (address : Address) : j.Moved (j.bumpNonce address) :=
  moved_modifyAccount j address fun _ h => h

theorem moved_createAccount (j : JournalState) (creator created : Address) (value : ℕ) :
    j.Moved (j.createAccount creator created value) := by
  have hsub : j.Moved (j.subBalance creator value) := moved_modifyAccount j creator fun _ h => h
  apply hsub.trans
  exact moved_modifyAccount _ created fun _ h => h

theorem moved_selfdestruct (j : JournalState) (address target : Address) :
    j.Moved (j.selfdestruct address target) := by
  unfold selfdestruct
  split
  · exact Moved.refl j
  · exact moved_transfer j _ _ _

theorem Moved.value (h : j.Moved j') : j'.value env = j.value env := by
  ext key
  simp only [JournalState.value, h.1]

/-- A loaded slot keeps the value the transaction found, and finitely many have
another one. -/
structure Clean (env : JournalEnv) (j : JournalState) : Prop where
  originals : ∀ key slot, j.slots key = some slot → slot.originalValue = env.storage key
  finite : {key | j.value env key ≠ env.storage key}.Finite

def Direct (env : JournalEnv) (j : JournalState) : Prop :=
  env.spec.isEnabled .rex4 = true ∨ ∀ a, (j.accounts a).delegatedAddress = none

theorem Clean.of_slots (h : j.Clean env) (hs : j'.slots = j.slots) : j'.Clean env := by
  have hvalue : j'.value env = j.value env := by
    ext key
    simp only [JournalState.value, hs]
  constructor
  · intro key slot hslot
    rw [hs] at hslot
    exact h.originals key slot hslot
  · rw [hvalue]
    exact h.finite

theorem Direct.moved (h : j.Direct env) (hm : j.Moved j') : j'.Direct env := by
  rcases h with hrex4 | hnone
  · exact .inl hrex4
  · exact .inr fun a => hm.2 a (hnone a)

def store (env : JournalEnv) (j : JournalState) (key : SlotKey) (v : ℕ) : JournalState :=
  { j with slots := Function.update j.slots key (some ⟨env.storage key, v⟩) }

theorem value_store (j : JournalState) (key : SlotKey) (v : ℕ) :
    (j.store env key v).value env = Function.update (j.value env) key v := by
  ext k
  by_cases hk : k = key
  · subst hk
    simp [JournalState.value, store]
  · simp [JournalState.value, store, hk]

theorem Clean.store (h : j.Clean env) (key : SlotKey) (v : ℕ) : (j.store env key v).Clean env := by
  constructor
  · intro k slot hslot
    by_cases hk : k = key
    · subst hk
      simp only [JournalState.store, Function.update_self, Option.some.injEq] at hslot
      rw [← hslot]
    · simp only [JournalState.store, Function.update_of_ne hk] at hslot
      exact h.originals k slot hslot
  · rw [value_store]
    exact finite_update (P := fun key v => v ≠ env.storage key) h.finite key v

theorem Clean.inspectStorage (h : j.Clean env) (key : SlotKey)
    (hdirect : env.spec.isEnabled .rex4 = true ∨ (j.accounts key.1).delegatedAddress = none) :
    j.inspectStorage env key =
      (⟨env.storage key, j.value env key⟩, j.store env key (j.value env key)) := by
  have haccount : (if env.spec.isEnabled .rex4 then key.1
      else j.inspectAccountDelegated env key.1) = key.1 := by
    rcases hdirect with hrex4 | hnone
    · rw [if_pos hrex4]
    · split
      · rfl
      · rw [inspectAccountDelegated, hnone]
  unfold JournalState.inspectStorage
  rw [haccount]
  cases hslot : j.slots (key.1, key.2) with
  | none => simp [JournalState.value, JournalState.store, hslot]
  | some slot =>
    have hvalues : (⟨env.storage key, j.value env key⟩ : SlotValues) = slot := by
      rw [← h.originals key slot hslot]
      simp [JournalState.value, hslot]
    have hloaded : Function.update j.slots key (some slot) = j.slots := by
      rw [← hslot]
      exact Function.update_eq_self key j.slots
    simp only [hslot, JournalState.store, hvalues, hloaded]

theorem sstore_store (j : JournalState) (key : SlotKey) (u v : ℕ) :
    (j.store env key u).sstore env key v = j.store env key v := by
  simp [sstore, store]

theorem value_revertTo {opened : JournalState} (h : j.Clean env)
    (hloaded : ∀ key, j.slots key = none → opened.slots key = none) :
    (j.revertTo opened).value env = opened.value env := by
  ext key
  unfold JournalState.value revertTo
  cases hslot : j.slots key with
  | none => simp [hslot, hloaded key hslot]
  | some slot =>
    cases hopened : opened.slots key with
    | none => simp [hslot, hopened, h.originals key slot hslot]
    | some before => simp [hslot, hopened]

theorem Clean.revertTo {opened : JournalState} (h : j.Clean env) (ho : opened.Clean env)
    (hloaded : ∀ key, j.slots key = none → opened.slots key = none) :
    (j.revertTo opened).Clean env := by
  constructor
  · intro key slot hslot
    unfold JournalState.revertTo at hslot
    cases hj : j.slots key with
    | none => simp [hj] at hslot
    | some s =>
      simp only [hj, Option.some.injEq] at hslot
      rw [← hslot]
      exact h.originals key s hj
  · rw [value_revertTo h hloaded]
    exact ho.finite

theorem revertTo_slots_none {opened : JournalState} {key : SlotKey} :
    (j.revertTo opened).slots key = none ↔ j.slots key = none := by
  unfold revertTo
  cases hj : j.slots key with
  | none => simp [hj]
  | some s => simp [hj]

theorem Clean.newSlots_finite (h : j.Clean env) :
    {key | env.storage key = 0 ∧ j.value env key ≠ 0}.Finite := by
  apply h.finite.subset
  rintro key ⟨hzero, hne⟩
  show j.value env key ≠ env.storage key
  rwa [hzero]

theorem changedSlots_store (h : j.Clean env) (key : SlotKey) (v : ℕ) :
    ((j.store env key v).changedSlots env : ℤ) = j.changedSlots env +
      AccountTracker.slotAmount ⟨env.storage key, j.value env key, v⟩ := by
  have hcount := count_update (P := fun key v => v ≠ env.storage key) h.finite key v
  rw [← value_store] at hcount
  unfold changedSlots
  rw [hcount, AccountTracker.slotAmount]
  congr 2
  · by_cases hv : v = env.storage key <;> simp [weight, hv]
  · by_cases hv : j.value env key = env.storage key <;> simp [weight, hv]

theorem newSlots_store (h : j.Clean env) (key : SlotKey) (v : ℕ) :
    ((j.store env key v).newSlots env : ℤ) = j.newSlots env +
      StateGrowthTracker.slotAmount ⟨env.storage key, j.value env key, v⟩ := by
  have hcount := count_update (P := fun key v => env.storage key = 0 ∧ v ≠ 0)
    h.newSlots_finite key v
  rw [← value_store] at hcount
  unfold newSlots
  rw [hcount, StateGrowthTracker.slotAmount]
  by_cases hzero : env.storage key = 0
  · simp [weight, hzero]
  · simp [weight, hzero]

end JournalState

namespace FrameLimitTracker

theorem Paired.length {ι : Type} {g : Ledger} {t t' : FrameLimitTracker ι} (h : t.Paired g t') :
    g.frames.length = t.height := by
  rw [← h.gap, Ledger.sub_def, List.length_zipWith, ← h.length_eq, length_ledger, Nat.min_self]

theorem paired_self {ι : Type} {t : FrameLimitTracker ι} (hs : t.frameStack = [])
    (hr : t.txEntry.refund = 0) : t.Paired ⟨0, []⟩ t := by
  constructor
  · rfl
  · intro e he
    simp [hs] at he
  · intro e he
    simp [hs] at he
  · exact hr
  · intro e he
    simp [hs] at he
  · simp [Ledger.sub_def, ledger, hs]

end FrameLimitTracker

namespace JournalRun

open JournalState

/-- A ledger of a number that is read off the journal, at every checkpoint too. -/
def Keeps (D : ℤ → Prop) (level : JournalState → ℤ) (g : Ledger) (w : JournalRun) : Prop :=
  g.Slack D (w.checkpoints.map level) (level w.journal)

/-- The journal and its checkpoints load the slots the transaction found, and a slot
stays loaded. -/
structure SlotsKept (env : JournalEnv) (w : JournalRun) : Prop where
  clean : w.journal.Clean env
  opened : ∀ c ∈ w.checkpoints, c.Clean env
  loaded : ∀ c ∈ w.checkpoints, ∀ key, w.journal.slots key = none → c.slots key = none

namespace SlotsKept

variable {w w' : JournalRun} {opened : JournalState}

theorem moved (h : SlotsKept env w) (hc : w'.checkpoints = w.checkpoints)
    (hs : w'.journal.slots = w.journal.slots) : SlotsKept env w' := by
  constructor
  · exact h.clean.of_slots hs
  · rw [hc]
    exact h.opened
  · rw [hc, hs]
    exact h.loaded

theorem openFrame (h : SlotsKept env w) (hc : w'.checkpoints = opened :: w.checkpoints)
    (ho : opened.slots = w.journal.slots) (hs : w'.journal.slots = w.journal.slots) :
    SlotsKept env w' := by
  constructor
  · exact h.clean.of_slots hs
  · intro c hmem
    rw [hc] at hmem
    rcases List.mem_cons.1 hmem with rfl | hmem
    · exact h.clean.of_slots ho
    · exact h.opened c hmem
  · intro c hmem key hnone
    rw [hc] at hmem
    rw [hs] at hnone
    rcases List.mem_cons.1 hmem with rfl | hmem
    · rw [ho]
      exact hnone
    · exact h.loaded c hmem key hnone

theorem value_revertTo (h : SlotsKept env w) (hmem : opened ∈ w.checkpoints) :
    (w.journal.revertTo opened).value env = opened.value env :=
  JournalState.value_revertTo h.clean (h.loaded opened hmem)

theorem closeFrame (h : SlotsKept env w) {success : Bool}
    (hc : w.checkpoints = opened :: w'.checkpoints)
    (hj : w'.journal = if success then w.journal else w.journal.revertTo opened) :
    SlotsKept env w' := by
  have hmem : opened ∈ w.checkpoints := by
    rw [hc]
    exact List.mem_cons_self
  constructor
  · rw [hj]
    cases success with
    | true => exact h.clean
    | false => exact h.clean.revertTo (h.opened opened hmem) (h.loaded opened hmem)
  · intro c hin
    exact h.opened c (hc ▸ List.mem_cons_of_mem _ hin)
  · intro c hin key hnone
    have hbefore := h.loaded c (hc ▸ List.mem_cons_of_mem _ hin) key
    rw [hj] at hnone
    cases success with
    | true => exact hbefore hnone
    | false => exact hbefore (revertTo_slots_none.1 hnone)

theorem sstore_eq (h : SlotsKept env w) (key : SlotKey) (v : ℕ)
    (hdirect : env.spec.isEnabled .rex4 = true ∨
      (w.journal.accounts key.1).delegatedAddress = none) :
    w.sstore env key v =
      { w with
        limit := w.limit.onSstore ⟨env.storage key, w.journal.value env key, v⟩
        journal := w.journal.store env key v } := by
  unfold JournalRun.sstore
  rw [h.clean.inspectStorage key hdirect]
  simp only [sstore_store]

theorem store (h : SlotsKept env w) {key : SlotKey} {v : ℕ}
    (hc : w'.checkpoints = w.checkpoints) (hj : w'.journal = w.journal.store env key v) :
    SlotsKept env w' := by
  constructor
  · rw [hj]
    exact h.clean.store key v
  · rw [hc]
    exact h.opened
  · intro c hmem k hnone
    rw [hc] at hmem
    rw [hj] at hnone
    by_cases hk : k = key
    · subst hk
      simp [JournalState.store] at hnone
    · simp only [JournalState.store, Function.update_of_ne hk] at hnone
      exact h.loaded c hmem k hnone

end SlotsKept

/-- The limits with the slot writes are ahead of those without by what the slot
writes changed. -/
structure Tallied (env : JournalEnv) (w : JournalRun) : Prop where
  ledgers : ∃ gs gd gk, AdditionalLimit.Paired gs gd gk w.limit w.plain ∧
    w.Keeps (· = 0) (fun j => j.newSlots env) gs ∧
    w.Keeps (· = 0) (fun j => constants.STORAGE_SLOT_WRITE_SIZE * j.changedSlots env) gd ∧
    w.Keeps (· = 0) (fun j => j.changedSlots env) gk
  slots : SlotsKept env w

/-- Slot writes are tallied, and no slot can be read through a delegation. -/
structure Accounted (env : JournalEnv) (w : JournalRun) : Prop where
  ledgers : ∃ gs gd gk, AdditionalLimit.Paired gs gd gk w.limit w.plain ∧
    w.Keeps (· = 0) (fun j => j.newSlots env) gs ∧
    w.Keeps (· = 0) (fun j => constants.STORAGE_SLOT_WRITE_SIZE * j.changedSlots env) gd ∧
    w.Keeps (· = 0) (fun j => j.changedSlots env) gk
  slots : SlotsKept env w
  direct : w.journal.Direct env
  opened : ∀ c ∈ w.checkpoints, c.Direct env

section Keeps

variable {D : ℤ → Prop} {level : JournalState → ℤ} {g : Ledger} {w : JournalRun}

theorem Keeps.moved (h : w.Keeps D level g) {w' : JournalRun}
    (hc : w'.checkpoints = w.checkpoints) (hj : level w'.journal = level w.journal) :
    w'.Keeps D level g := by
  unfold Keeps
  rw [hc, hj]
  exact h

theorem Keeps.opened (h : w.Keeps D level g) {w' : JournalRun} {opened : JournalState}
    (hc : w'.checkpoints = opened :: w.checkpoints) (ho : level opened = level w.journal)
    (hj : level w'.journal = level w.journal) : w'.Keeps D level g.push := by
  unfold Keeps
  rw [hc, List.map_cons, ho, hj]
  exact Ledger.Slack.push h

theorem Keeps.closed (h : w.Keeps D level g) {w' : JournalRun} {opened : JournalState}
    {success : Bool} (hc : w.checkpoints = opened :: w'.checkpoints)
    (hj : level w'.journal = if success then level w.journal else level opened) :
    w'.Keeps D level (g.pop success) := by
  unfold Keeps at h ⊢
  rw [hc, List.map_cons] at h
  rw [hj]
  exact Ledger.Slack.pop h success

theorem Keeps.posted (h : w.Keeps D level g) {w' : JournalRun} {amount : ℤ}
    (hc : w'.checkpoints = w.checkpoints)
    (hpost : ∀ x, D x → D (x + (amount - (level w'.journal - level w.journal)))) :
    w'.Keeps D level (g.post amount) := by
  have hsum : level w'.journal = level w.journal + (level w'.journal - level w.journal) := by
    ring
  unfold Keeps
  rw [hc, hsum]
  exact Ledger.Slack.post h hpost

theorem Keeps.posted_exact (h : w.Keeps (· = 0) level g) {w' : JournalRun} {amount : ℤ}
    (hc : w'.checkpoints = w.checkpoints) (hj : level w'.journal = level w.journal + amount) :
    w'.Keeps (· = 0) level (g.post amount) := by
  apply h.posted hc
  intro x hx
  omega

end Keeps

section Create

variable (w : JournalRun) (creator created : Address) (value : ℕ) (i : CreateInputs)

/-- The nonce is bumped, if at all, before the checkpoint. -/
theorem create_opened : ∃ opened,
    (w.create creator created value i).checkpoints = opened :: w.checkpoints ∧
      w.journal.Moved opened ∧ w.journal.Moved (w.create creator created value i).journal := by
  have hbumped := moved_bumpNonce w.journal creator
  simp only [JournalRun.create]
  split
  · exact ⟨_, rfl, Moved.refl _, Moved.refl _⟩
  · split
    · exact ⟨_, rfl, hbumped, hbumped⟩
    · exact ⟨_, rfl, hbumped, hbumped.trans (moved_createAccount _ _ _ _)⟩

variable {w} in
theorem paired_create {gs gd gk : Ledger}
    (hp : AdditionalLimit.Paired gs gd gk w.limit w.plain) :
    AdditionalLimit.Paired gs.push gd.push gk.push (w.create creator created value i).limit
      (w.create creator created value i).plain := by
  have hopened := hp.openFrame (.create i) false
  simp only [JournalRun.create]
  split
  · exact hopened
  · split
    · exact hopened
    · exact hopened.afterFrameInitItem _

end Create

namespace Tallied

variable {w w' : JournalRun}

theorem hooked (h : Tallied env w)
    (hp : ∀ gs gd gk, AdditionalLimit.Paired gs gd gk w.limit w.plain →
      AdditionalLimit.Paired gs gd gk w'.limit w'.plain)
    (hc : w'.checkpoints = w.checkpoints) (hm : w.journal.Moved w'.journal) :
    Tallied env w' := by
  obtain ⟨gs, gd, gk, hpaired, hs, hd, hk⟩ := h.ledgers
  have hvalue : w'.journal.value env = w.journal.value env := hm.value
  constructor
  · refine ⟨gs, gd, gk, hp _ _ _ hpaired, hs.moved hc ?_, hd.moved hc ?_, hk.moved hc ?_⟩
    · simp only [newSlots, hvalue]
    · simp only [changedSlots, hvalue]
    · simp only [changedSlots, hvalue]
  · exact h.slots.moved hc hm.1

theorem openFrame (h : Tallied env w) {opened : JournalState}
    (hp : ∀ gs gd gk, AdditionalLimit.Paired gs gd gk w.limit w.plain →
      AdditionalLimit.Paired gs.push gd.push gk.push w'.limit w'.plain)
    (hc : w'.checkpoints = opened :: w.checkpoints) (ho : w.journal.Moved opened)
    (hm : w.journal.Moved w'.journal) : Tallied env w' := by
  obtain ⟨gs, gd, gk, hpaired, hs, hd, hk⟩ := h.ledgers
  have hvalue : w'.journal.value env = w.journal.value env := hm.value
  have hvalue' : opened.value env = w.journal.value env := ho.value
  constructor
  · refine ⟨_, _, _, hp _ _ _ hpaired, hs.opened hc ?_ ?_, hd.opened hc ?_ ?_,
      hk.opened hc ?_ ?_⟩
    · simp only [newSlots, hvalue']
    · simp only [newSlots, hvalue]
    · simp only [changedSlots, hvalue']
    · simp only [changedSlots, hvalue]
    · simp only [changedSlots, hvalue']
    · simp only [changedSlots, hvalue]
  · exact h.slots.openFrame hc ho.1 hm.1

theorem closeFrame (h : Tallied env w) {opened : JournalState} {checkpoints : List JournalState}
    (hc : w.checkpoints = opened :: checkpoints) (success : Bool) :
    Tallied env { w.hook fun l => l.closeFrame success with
      journal := if success then w.journal else w.journal.revertTo opened
      checkpoints := checkpoints } := by
  obtain ⟨gs, gd, gk, hpaired, hs, hd, hk⟩ := h.ledgers
  have hmem : opened ∈ w.checkpoints := by
    rw [hc]
    exact List.mem_cons_self
  have hvalue := h.slots.value_revertTo hmem
  constructor
  · refine ⟨_, _, _, hpaired.closeFrame success, hs.closed hc ?_, hd.closed hc ?_,
      hk.closed hc ?_⟩
    · cases success with
      | true => rfl
      | false => simp [newSlots, hvalue]
    · cases success with
      | true => rfl
      | false => simp [changedSlots, hvalue]
    · cases success with
      | true => rfl
      | false => simp [changedSlots, hvalue]
  · exact h.slots.closeFrame hc rfl

theorem sstore (h : Tallied env w) (hne : w.checkpoints ≠ []) (key : SlotKey) (v : ℕ)
    (hdirect : env.spec.isEnabled .rex4 = true ∨
      (w.journal.accounts key.1).delegatedAddress = none) :
    Tallied env (w.sstore env key v) := by
  rw [h.slots.sstore_eq key v hdirect]
  obtain ⟨gs, gd, gk, hpaired, hs, hd, hk⟩ := h.ledgers
  have hopen {ι : Type} {g : Ledger} {t t' : FrameLimitTracker ι} (hp : t.Paired g t')
      {level : JournalState → ℤ} (hkeeps : w.Keeps (· = 0) level g) : t.frameStack ≠ [] := by
    intro hnil
    have hlength := hp.length
    rw [Ledger.Slack.length hkeeps, List.length_map] at hlength
    simp [FrameLimitTracker.height, hnil] at hlength
    exact hne hlength
  constructor
  · refine ⟨_, _, _, hpaired.onSstore (hopen hpaired.stateGrowth hs) (hopen hpaired.dataSize hd)
      (hopen hpaired.kvUpdate hk) _, hs.posted_exact rfl ?_, hd.posted_exact rfl ?_,
      hk.posted_exact rfl ?_⟩
    · exact newSlots_store h.slots.clean key v
    · simp only
      rw [changedSlots_store h.slots.clean key v, mul_add]
    · exact changedSlots_store h.slots.clean key v
  · exact h.slots.store rfl rfl

theorem create (h : Tallied env w) (creator created : Address) (value : ℕ) (i : CreateInputs) :
    Tallied env (w.create creator created value i) := by
  obtain ⟨opened, hc, ho, hm⟩ := create_opened w creator created value i
  apply h.openFrame
  · exact fun _ _ _ hp => paired_create creator created value i hp
  · exact hc
  · exact ho
  · exact hm

theorem step (h : Tallied env w) {op : JournalOp} (hs : JournalRun.step env w op = some w')
    (hdirect : ∀ address key v, op = .sstore address key v →
      env.spec.isEnabled .rex4 = true ∨ (w.journal.accounts address).delegatedAddress = none) :
    Tallied env w' := by
  cases step_cases hs with
  | call i =>
    apply h.openFrame
    · exact fun _ _ _ hp => hp.openFrame _ _
    · rfl
    · exact Moved.refl _
    · exact moved_callTransfer _ i
  | create may => exact h.create _ _ _ _
  | answered =>
    apply h.openFrame
    · exact fun _ _ _ hp => hp.pushEmptyFrame
    · rfl
    · exact Moved.refl _
    · exact Moved.refl _
  | deploy nonce =>
    apply h.hooked
    · exact fun _ _ _ hp => hp
    · rfl
    · exact moved_modifyAccount _ _ fun _ _ => rfl
  | sstore inFrame => exact h.sstore inFrame _ _ (hdirect _ _ _ rfl)
  | selfdestruct =>
    apply h.hooked
    · exact fun _ _ _ hp => hp
    · rfl
    · exact moved_selfdestruct _ _ _
  | log numTopics dataSize =>
    exact h.hooked (fun _ _ _ hp => hp.onLog _ _) rfl (Moved.refl _)
  | compute gas => exact h.hooked (fun _ _ _ hp => hp.recordComputeGas gas) rfl (Moved.refl _)
  | output isCreate action =>
    exact h.hooked (fun _ _ _ hp => hp.countOutput isCreate action) rfl (Moved.refl _)
  | close top => exact h.closeFrame top _

/-- The KV updates are never refunded below what is not a slot write. -/
theorem kvUpdate_nonneg (h : Tallied env w) : 0 ≤ w.limit.kvUpdate.ledger.total := by
  obtain ⟨gs, gd, gk, hpaired, -, -, hk⟩ := h.ledgers
  have hslack : gk.total - (w.journal.changedSlots env : ℤ) = 0 := Ledger.Slack.total hk
  rw [hpaired.kvUpdate.total]
  omega

end Tallied

namespace Accounted

variable {w w' : JournalRun} {opened : JournalState}

theorem tallied (h : Accounted env w) : Tallied env w := ⟨h.ledgers, h.slots⟩

theorem of_moved (h : Accounted env w) (ht : Tallied env w')
    (hc : w'.checkpoints = w.checkpoints) (hm : w.journal.Moved w'.journal) :
    Accounted env w' := by
  constructor
  · exact ht.ledgers
  · exact ht.slots
  · exact h.direct.moved hm
  · rw [hc]
    exact h.opened

theorem of_opened (h : Accounted env w) (ht : Tallied env w')
    (hc : w'.checkpoints = opened :: w.checkpoints) (ho : w.journal.Moved opened)
    (hm : w.journal.Moved w'.journal) : Accounted env w' := by
  constructor
  · exact ht.ledgers
  · exact ht.slots
  · exact h.direct.moved hm
  · intro c hmem
    rw [hc] at hmem
    rcases List.mem_cons.1 hmem with rfl | hmem
    · exact h.direct.moved ho
    · exact h.opened c hmem

theorem step (h : Accounted env w) {op : JournalOp} (hs : JournalRun.step env w op = some w') :
    Accounted env w' := by
  have hdirect (address : Address) : env.spec.isEnabled .rex4 = true ∨
      (w.journal.accounts address).delegatedAddress = none :=
    h.direct.imp_right fun hnone => hnone address
  have ht : Tallied env w' := h.tallied.step hs fun address _ _ _ => hdirect address
  cases step_cases hs with
  | call i => exact h.of_opened ht rfl (Moved.refl _) (moved_callTransfer _ i)
  | create may =>
    obtain ⟨opened, hc, ho, hm⟩ := create_opened w _ _ _ _
    exact h.of_opened ht hc ho hm
  | answered => exact h.of_opened ht rfl (Moved.refl _) (Moved.refl _)
  | deploy nonce => exact h.of_moved ht rfl (moved_modifyAccount _ _ fun _ _ => rfl)
  | @sstore address key v inFrame =>
    rw [h.slots.sstore_eq (address, key) v (hdirect address)] at ht ⊢
    exact ⟨ht.ledgers, ht.slots, h.direct, h.opened⟩
  | selfdestruct => exact h.of_moved ht rfl (moved_selfdestruct _ _ _)
  | log numTopics dataSize => exact h.of_moved ht rfl (Moved.refl _)
  | compute gas => exact h.of_moved ht rfl (Moved.refl _)
  | output isCreate action => exact h.of_moved ht rfl (Moved.refl _)
  | @close success opened checkpoints top =>
    have hmem : opened ∈ w.checkpoints := by
      rw [top]
      exact List.mem_cons_self
    constructor
    · exact ht.ledgers
    · exact ht.slots
    · cases success with
      | true => exact h.direct
      | false => exact h.opened opened hmem
    · intro c hin
      exact h.opened c (top ▸ List.mem_cons_of_mem _ hin)

end Accounted

theorem value_start (limits : EvmTxRuntimeLimits) (tx : MegaTransaction)
    (accounts : Address → JournalAccount) (accessList : List SlotKey) :
    (start env limits tx accounts accessList).journal.value env = env.storage := by
  ext key
  by_cases hkey : key ∈ accessList
  · simp [JournalState.value, start, hkey]
  · simp [JournalState.value, start, hkey]

theorem slotsKept_start (limits : EvmTxRuntimeLimits) (tx : MegaTransaction)
    (accounts : Address → JournalAccount) (accessList : List SlotKey) :
    SlotsKept env (start env limits tx accounts accessList) := by
  constructor
  · constructor
    · intro key slot hslot
      simp only [start] at hslot
      split at hslot
      · obtain rfl := Option.some.inj hslot
        rfl
      · cases hslot
    · simp [value_start]
  · intro c hc
    simp [start] at hc
  · intro c hc
    simp [start] at hc

theorem tallied_start (limits : EvmTxRuntimeLimits) (tx : MegaTransaction)
    (accounts : Address → JournalAccount) (accessList : List SlotKey) :
    Tallied env (start env limits tx accounts accessList) := by
  have hvalue := @value_start env limits tx accounts accessList
  have hchanged : (start env limits tx accounts accessList).journal.changedSlots env = 0 := by
    simp [changedSlots, count, hvalue]
  have hnew : (start env limits tx accounts accessList).journal.newSlots env = 0 := by
    simp [newSlots, count, hvalue]
  constructor
  · refine ⟨⟨0, []⟩, ⟨0, []⟩, ⟨0, []⟩, ?_, ?_, ?_, ?_⟩
    · constructor
      · rfl
      · simp only [start, AdditionalLimit.beforeTxStart, AdditionalLimit.checkLimit_stateGrowth]
        exact FrameLimitTracker.paired_self rfl rfl
      · simp only [start, AdditionalLimit.beforeTxStart, AdditionalLimit.checkLimit_dataSize]
        exact FrameLimitTracker.paired_self rfl rfl
      · simp only [start, AdditionalLimit.beforeTxStart, AdditionalLimit.checkLimit_kvUpdate]
        exact FrameLimitTracker.paired_self rfl rfl
    · show (0 : ℤ) - ((start env limits tx accounts accessList).journal.newSlots env : ℤ) = 0
      rw [hnew]
      rfl
    · show (0 : ℤ) - constants.STORAGE_SLOT_WRITE_SIZE *
        ((start env limits tx accounts accessList).journal.changedSlots env : ℤ) = 0
      rw [hchanged]
      rfl
    · show (0 : ℤ) - ((start env limits tx accounts accessList).journal.changedSlots env : ℤ) = 0
      rw [hchanged]
      rfl
  · exact slotsKept_start limits tx accounts accessList

theorem accounted_start (limits : EvmTxRuntimeLimits) (tx : MegaTransaction)
    {accounts : Address → JournalAccount} (accessList : List SlotKey)
    (hdirect : env.spec.isEnabled .rex4 = true ∨ ∀ a, (accounts a).delegatedAddress = none) :
    Accounted env (start env limits tx accounts accessList) := by
  have htallied : Tallied env (start env limits tx accounts accessList) :=
    tallied_start limits tx accounts accessList
  constructor
  · exact htallied.ledgers
  · exact htallied.slots
  · exact hdirect
  · intro c hc
    simp [start] at hc

/-- What the slot writes of a run cost is what they changed, whatever was kept and
whatever was taken back. -/
theorem storage_accounting_exact (limits : EvmTxRuntimeLimits) (tx : MegaTransaction)
    (accounts : Address → JournalAccount) (accessList : List SlotKey) (ops : List JournalOp)
    (w : JournalRun)
    (hdirect : env.spec.isEnabled .rex4 = true ∨ ∀ a, (accounts a).delegatedAddress = none)
    (hrun : Run.run (step env) (start env limits tx accounts accessList) ops = some w) :
    {key | w.journal.value env key ≠ env.storage key}.Finite ∧
    w.limit.kvUpdate.netUsage = w.plain.kvUpdate.netUsage +
      {key | w.journal.value env key ≠ env.storage key}.ncard ∧
    w.limit.dataSize.netUsage = w.plain.dataSize.netUsage +
      40 * {key | w.journal.value env key ≠ env.storage key}.ncard ∧
    w.limit.stateGrowth.netUsage = w.plain.stateGrowth.netUsage +
      {key | env.storage key = 0 ∧ w.journal.value env key ≠ 0}.ncard := by
  have hw : Accounted env w := by
    apply Run.invariant' (I := Accounted env) _ (accounted_start limits tx accessList hdirect) hrun
    intro w op w' h hs
    exact h.step hs
  obtain ⟨gs, gd, gk, hpaired, hs, hd, hk⟩ := hw.ledgers
  have htotal {level : JournalState → ℤ} {g : Ledger} (h : w.Keeps (· = 0) level g) :
      g.total = level w.journal := by
    have hslack := Ledger.Slack.total h
    omega
  refine ⟨hw.slots.clean.finite, ?_, ?_, ?_⟩
  · exact hpaired.kvUpdate.netUsage (htotal hk)
  · apply hpaired.dataSize.netUsage
    rw [htotal hd]
    push_cast
    rfl
  · exact hpaired.stateGrowth.netUsage (htotal hs)

/-- Two frames: the inner one clears what the outer one wrote, and fails. -/
theorem storage_accounting_exact_reverted :
    let env : JournalEnv := ⟨.rex4, 1, fun key => if key = (7, 0) then 5 else 0, 0⟩
    let tx : MegaTransaction := ⟨1, .call 7, 0, .other, 0, 0, 0, [], 1000000⟩
    let inputs : CallInputs := ⟨.call, 1, 7, .transfer 0, .other, 1000000⟩
    let accounts : Address → JournalAccount := fun _ => ⟨0, 1, .legacy, false⟩
    let ops : List JournalOp := [.call inputs, .sstore 7 0 9, .sstore 7 1 3, .call inputs,
      .sstore 7 0 5, .sstore 7 1 0, .close false, .close true]
    ∃ w, Run.run (step env) (start env .noLimits tx accounts []) ops = some w ∧
      w.limit.kvUpdate.netUsage = w.plain.kvUpdate.netUsage +
        {key | w.journal.value env key ≠ env.storage key}.ncard ∧
      w.limit.kvUpdate.netUsage = w.plain.kvUpdate.netUsage + 2 := by
  intro env tx inputs accounts ops
  refine ⟨_, rfl, ?_, by decide⟩
  exact (storage_accounting_exact .noLimits tx accounts [] ops _ (.inl rfl) rfl).2.1

end JournalRun

end MegaEvm
