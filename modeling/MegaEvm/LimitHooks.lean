import MegaEvm.AdditionalLimit

/-!
# What the hooks keep

For every hook: the trackers stay aligned and restorable, the exceed flag is
sticky, a frame-local flag names a budget of the open frame, and a hook that
ends without a flag leaves the trackers settled.
-/

set_option autoImplicit false

namespace MegaEvm

namespace AdditionalLimit

open FrameLimitTracker

variable {l : AdditionalLimit} {n : ℕ}

/-- The flag stands for an exceed that halts the transaction. -/
def TxExceeded (l : AdditionalLimit) : Prop :=
  l.exceeded = true ∧ l.hasExceededLimit.isFrameLocal = false

instance (l : AdditionalLimit) : Decidable l.TxExceeded :=
  inferInstanceAs (Decidable (l.exceeded = true ∧ l.hasExceededLimit.isFrameLocal = false))

def ComputeClear (l : AdditionalLimit) : Prop := l.computeGas.txUsage ≤ l.computeGas.txLimit

/-- A frame-local flag of another resource does not hide a compute gas exceed. -/
def Unmasked (l : AdditionalLimit) : Prop :=
  ∀ kind limit used, l.hasExceededLimit = .exceedsLimit kind limit used true →
    kind ≠ .computeGas → l.ComputeClear

theorem owned_of_within (h : l.hasExceededLimit = .withinLimit) : l.Owned := by
  intro k lim u hf
  rw [h] at hf
  cases hf

theorem unmasked_of_within (h : l.hasExceededLimit = .withinLimit) : l.Unmasked := by
  intro k lim u hf
  rw [h] at hf
  cases hf

theorem owned_of_txExceeded (h : l.TxExceeded) : l.Owned := by
  intro k lim u hf
  have := h.2
  rw [hf] at this
  simp at this

theorem unmasked_of_txExceeded (h : l.TxExceeded) : l.Unmasked := by
  intro k lim u hf
  have := h.2
  rw [hf] at this
  simp at this

theorem exceeded_eq_true : l.exceeded = true ↔ l.hasExceededLimit ≠ .withinLimit := by
  rw [← Bool.not_eq_false, ne_eq, not_iff_not]
  exact exceeded_eq_false

section Examine

theorem examine_frameLocal {k : LimitKind} {lim u : ℕ}
    (h : l.examine = .exceedsLimit k lim u true) :
    l.rex4 = true ∧ ∃ net, l.openBudget k = some (lim, net) ∧ lim < net := by
  unfold examine at h
  split at h
  · obtain ⟨rfl, hb, he⟩ := checkLimitBy_eq_exceeds h
    obtain ⟨e, rest, hs, rfl, hlt⟩ := he hb.symm
    exact ⟨hb.symm, e.net, by simp [openBudget, hs], hlt⟩
  · split at h
    · obtain ⟨rfl, hb, he⟩ := checkLimitBy_eq_exceeds h
      obtain ⟨e, rest, hs, rfl, hlt⟩ := he hb.symm
      exact ⟨hb.symm, e.net, by simp [openBudget, hs], hlt⟩
    · split at h
      · obtain ⟨rfl, ht, -⟩ := ComputeGasTracker.checkLimit_eq_exceeds h
        obtain ⟨hr, e, rest, hs, rfl, hlt⟩ := ht rfl
        exact ⟨hr, e.net, by simp [openBudget, hs], hlt⟩
      · split at h
        · obtain ⟨rfl, hb, he⟩ := checkLimitBy_eq_exceeds h
          obtain ⟨e, rest, hs, rfl, hlt⟩ := he hb.symm
          exact ⟨hb.symm, e.net, by simp [openBudget, hs], hlt⟩
        · cases h

theorem examine_order {k : LimitKind} {lim u : ℕ} {b : Bool}
    (h : l.examine = .exceedsLimit k lim u b) :
    match k with
    | .dataSize => ¬ l.dataSize.Settled l.rex4
    | .kvUpdate => ¬ l.kvUpdate.Settled l.rex4
    | .computeGas => l.dataSize.Settled l.rex4 ∧ l.kvUpdate.Settled l.rex4
    | .stateGrowth => l.computeGas.Settled l.rex4 ∧ ¬ l.stateGrowth.Settled l.rex4 := by
  have hd : l.dataSize.checkLimitBy l.rex4 .dataSize = .withinLimit ↔ _ :=
    checkLimitBy_eq_within
  have hk : l.kvUpdate.checkLimitBy l.rex4 .kvUpdate = .withinLimit ↔ _ :=
    checkLimitBy_eq_within
  have hc : l.computeGas.checkLimit l.rex4 = .withinLimit ↔ _ :=
    ComputeGasTracker.checkLimit_eq_within
  have hs : l.stateGrowth.checkLimitBy l.rex4 .stateGrowth = .withinLimit ↔ _ :=
    checkLimitBy_eq_within
  rw [← LimitCheck.exceededLimit_eq_false] at hd hk hc hs
  unfold examine at h
  split at h
  case isTrue hx =>
    obtain ⟨rfl, -, -⟩ := checkLimitBy_eq_exceeds h
    rw [← hd]
    simpa [DataSizeTracker.checkLimit] using hx
  case isFalse hxd =>
    have hds := hd.1 (by simpa [DataSizeTracker.checkLimit] using hxd)
    split at h
    case isTrue hx =>
      obtain ⟨rfl, -, -⟩ := checkLimitBy_eq_exceeds h
      rw [← hk]
      simpa [KVUpdateTracker.checkLimit] using hx
    case isFalse hxk =>
      have hks := hk.1 (by simpa [KVUpdateTracker.checkLimit] using hxk)
      split at h
      case isTrue =>
        obtain ⟨rfl, -, -⟩ := ComputeGasTracker.checkLimit_eq_exceeds h
        exact ⟨hds, hks⟩
      case isFalse hxc =>
        have hcs := hc.1 (by simpa using hxc)
        split at h
        case isTrue hx =>
          obtain ⟨rfl, -, -⟩ := checkLimitBy_eq_exceeds h
          refine ⟨hcs, ?_⟩
          rw [← hs]
          simpa [StateGrowthTracker.checkLimit] using hx
        case isFalse => cases h

end Examine

section CheckLimit

theorem restorable_checkLimit : l.checkLimit.Restorable ↔ l.Restorable := by
  simp only [restorable_iff, checkLimit_stateGrowth, checkLimit_dataSize, checkLimit_kvUpdate,
    checkLimit_computeGas, checkLimit_rex4]

theorem aligned_checkLimit : l.checkLimit.Aligned n ↔ l.Aligned n := by
  simp only [Aligned, checkLimit_budgets]

theorem settled_checkLimit : l.checkLimit.Settled ↔ l.Settled := by
  simp only [settled_iff, checkLimit_stateGrowth, checkLimit_dataSize, checkLimit_kvUpdate,
    checkLimit_computeGas, checkLimit_rex4]

theorem checkLimit_sticky (h : l.exceeded = true) :
    l.checkLimit.hasExceededLimit = l.hasExceededLimit := by
  rw [checkLimit_of_exceeded h]

theorem exceeded_of_checkLimit (h : l.checkLimit.exceeded = false) : l.exceeded = false := by
  by_contra hx
  rw [checkLimit_of_exceeded (by simpa using hx)] at h
  exact hx h

theorem settled_of_unflagged (h : l.checkLimit.exceeded = false) : l.checkLimit.Settled :=
  settled_checkLimit.2 (checkLimit_within_iff.1 (exceeded_eq_false.1 h)).2

theorem checkLimit_of_settled (h : l.hasExceededLimit = .withinLimit) (hs : l.Settled) :
    l.checkLimit.hasExceededLimit = .withinLimit := checkLimit_within_iff.2 ⟨h, hs⟩

theorem checkLimit_eq_self (h : l.hasExceededLimit = .withinLimit) (hs : l.Settled) :
    l.checkLimit = l := by
  rw [checkLimit_of_within h, examine_eq_within.2 hs]
  cases l
  simp_all

theorem Owned.checkLimit (h : l.Owned) : l.checkLimit.Owned := by
  by_cases hx : l.exceeded = true
  · rw [checkLimit_of_exceeded hx]
    exact h
  · have hw := exceeded_eq_false.1 (by simpa using hx)
    rw [checkLimit_of_within hw]
    intro k lim u hf
    exact examine_frameLocal hf

theorem unmasked_checkLimit (h : l.Unmasked)
    (hc : l.exceeded = false → l.rex4 = true → l.ComputeClear) : l.checkLimit.Unmasked := by
  by_cases hx : l.exceeded = true
  · rw [checkLimit_of_exceeded hx]
    exact h
  · have hf : l.exceeded = false := by simpa using hx
    rw [checkLimit_of_within (exceeded_eq_false.1 hf)]
    intro k lim u hex _
    exact hc hf (examine_frameLocal hex).1

end CheckLimit

section Rescue

variable (l : AdditionalLimit) (g : Gas)

@[simp] theorem tryRescueGas_spec : (l.tryRescueGas g).spec = l.spec := by
  unfold tryRescueGas; split <;> simp [rescueGas]
@[simp] theorem tryRescueGas_rex4 : (l.tryRescueGas g).rex4 = l.rex4 := by
  simp [rex4]
@[simp] theorem tryRescueGas_hasExceededLimit :
    (l.tryRescueGas g).hasExceededLimit = l.checkLimit.hasExceededLimit := by
  unfold tryRescueGas; split <;> simp [rescueGas]
@[simp] theorem tryRescueGas_stateGrowth : (l.tryRescueGas g).stateGrowth = l.stateGrowth := by
  unfold tryRescueGas; split <;> simp [rescueGas]
@[simp] theorem tryRescueGas_dataSize : (l.tryRescueGas g).dataSize = l.dataSize := by
  unfold tryRescueGas; split <;> simp [rescueGas]
@[simp] theorem tryRescueGas_kvUpdate : (l.tryRescueGas g).kvUpdate = l.kvUpdate := by
  unfold tryRescueGas; split <;> simp [rescueGas]
@[simp] theorem tryRescueGas_computeGas : (l.tryRescueGas g).computeGas = l.computeGas := by
  unfold tryRescueGas; split <;> simp [rescueGas]

variable {l g}

theorem tryRescueGas_rescuedGas : (l.tryRescueGas g).rescuedGas =
    l.rescuedGas + if l.checkLimit.TxExceeded then g.remaining else 0 := by
  have hiff : (l.checkLimit.exceeded && !l.checkLimit.hasExceededLimit.isFrameLocal) = true ↔
      l.checkLimit.TxExceeded := by
    simp [TxExceeded]
  unfold tryRescueGas
  by_cases ht : l.checkLimit.TxExceeded
  · rw [if_pos (hiff.2 ht), if_pos ht, rescueGas, checkLimit_rescuedGas]
  · rw [if_neg (mt hiff.1 ht), if_neg ht, checkLimit_rescuedGas, Nat.add_zero]

theorem restorable_tryRescueGas : (l.tryRescueGas g).Restorable ↔ l.Restorable := by
  simp only [restorable_iff, tryRescueGas_stateGrowth, tryRescueGas_dataSize,
    tryRescueGas_kvUpdate, tryRescueGas_computeGas, tryRescueGas_rex4]

@[simp] theorem tryRescueGas_budgets : (l.tryRescueGas g).budgets = l.budgets := by
  funext k
  cases k <;> simp [budgets]

theorem aligned_tryRescueGas : (l.tryRescueGas g).Aligned n ↔ l.Aligned n := by
  simp only [Aligned, tryRescueGas_budgets]

theorem settled_tryRescueGas : (l.tryRescueGas g).Settled ↔ l.Settled := by
  simp only [settled_iff, tryRescueGas_stateGrowth, tryRescueGas_dataSize,
    tryRescueGas_kvUpdate, tryRescueGas_computeGas, tryRescueGas_rex4]

theorem exceeded_tryRescueGas : (l.tryRescueGas g).exceeded = l.checkLimit.exceeded := by
  simp [exceeded]

theorem Owned.tryRescueGas (h : l.Owned) : (l.tryRescueGas g).Owned := by
  intro k lim u hf
  rw [tryRescueGas_hasExceededLimit] at hf
  obtain ⟨hr, net, hb, hlt⟩ := h.checkLimit k lim u hf
  refine ⟨by simpa using hr, net, ?_, hlt⟩
  rw [checkLimit_openBudget] at hb
  cases k <;> simpa [openBudget] using hb

theorem Unmasked.tryRescueGas (h : l.checkLimit.Unmasked) : (l.tryRescueGas g).Unmasked := by
  intro k lim u hf hk
  rw [tryRescueGas_hasExceededLimit] at hf
  simpa [ComputeClear] using h k lim u hf hk

end Rescue

section Record

variable (g : ℕ)

@[simp] theorem recordComputeGas_spec : (l.recordComputeGas g).spec = l.spec := by
  simp [recordComputeGas]
@[simp] theorem recordComputeGas_rex4 : (l.recordComputeGas g).rex4 = l.rex4 := by
  simp [rex4]
@[simp] theorem recordComputeGas_rescuedGas :
    (l.recordComputeGas g).rescuedGas = l.rescuedGas := by
  simp [recordComputeGas]
@[simp] theorem recordComputeGas_stateGrowth :
    (l.recordComputeGas g).stateGrowth = l.stateGrowth := by
  simp [recordComputeGas]
@[simp] theorem recordComputeGas_dataSize : (l.recordComputeGas g).dataSize = l.dataSize := by
  simp [recordComputeGas]
@[simp] theorem recordComputeGas_kvUpdate : (l.recordComputeGas g).kvUpdate = l.kvUpdate := by
  simp [recordComputeGas]
@[simp] theorem recordComputeGas_computeGas :
    (l.recordComputeGas g).computeGas = l.computeGas.recordGasUsed g := by
  simp [recordComputeGas]

variable {g}

theorem Restorable.recordComputeGas (h : l.Restorable) : (l.recordComputeGas g).Restorable :=
  restorable_checkLimit.2 ⟨h.stateGrowth, h.dataSize, h.kvUpdate, h.computeGas.recordGasUsed g⟩

theorem budgets_recordComputeGas : (l.recordComputeGas g).budgets = l.budgets := by
  funext k
  cases k <;> simp [budgets]

theorem Aligned.recordComputeGas (h : l.Aligned n) : (l.recordComputeGas g).Aligned n :=
  h.of_eq budgets_recordComputeGas

theorem recordComputeGas_sticky (h : l.exceeded = true) :
    (l.recordComputeGas g).hasExceededLimit = l.hasExceededLimit :=
  checkLimit_sticky (l := { l with computeGas := l.computeGas.recordGasUsed g }) h

theorem exceeded_of_recordComputeGas (h : (l.recordComputeGas g).exceeded = false) :
    l.exceeded = false :=
  exceeded_of_checkLimit (l := { l with computeGas := l.computeGas.recordGasUsed g }) h

theorem settled_recordComputeGas (h : (l.recordComputeGas g).exceeded = false) :
    (l.recordComputeGas g).Settled := settled_of_unflagged h

theorem recordComputeGas_zero : l.recordComputeGas 0 = l.checkLimit := by
  rw [recordComputeGas, ComputeGasTracker.recordGasUsed_zero]

theorem Owned.grow {l' : AdditionalLimit} (h : l.Owned)
    (hflag : l'.hasExceededLimit = l.hasExceededLimit) (hr : l'.rex4 = l.rex4)
    (hb : ∀ k lim net, l.openBudget k = some (lim, net) → lim < net →
      ∃ net', l'.openBudget k = some (lim, net') ∧ net ≤ net') : l'.Owned := by
  intro k lim u hf
  rw [hflag] at hf
  obtain ⟨h4, net, hopen, hlt⟩ := h k lim u hf
  obtain ⟨net', hopen', hle⟩ := hb k lim net hopen hlt
  exact ⟨hr.trans h4, net', hopen', hlt.trans_le hle⟩

theorem head?_recordDiscardable {ι : Type} {t : FrameLimitTracker ι} {lim net : ℕ} (m : ℕ)
    (h : t.frameStack.head?.map (fun e => (e.limit, e.net)) = some (lim, net)) :
    ∃ net', (t.recordDiscardable m).frameStack.head?.map (fun e => (e.limit, e.net)) =
      some (lim, net') ∧ net ≤ net' := by
  obtain ⟨tx, stack⟩ := t
  cases stack with
  | nil => simp at h
  | cons e rest =>
    simp only [List.head?_cons, Option.map_some, Option.some.injEq, Prod.mk.injEq] at h
    obtain ⟨rfl, rfl⟩ := h
    refine ⟨_, rfl, ?_⟩
    simp only [FrameLimitEntry.net, FrameLimitEntry.used]
    omega

theorem head?_recordGasUsed {t : ComputeGasTracker} {lim net : ℕ} (m : ℕ)
    (h : t.frameTracker.frameStack.head?.map (fun e => (e.limit, e.net)) = some (lim, net)) :
    ∃ net', (t.recordGasUsed m).frameTracker.frameStack.head?.map (fun e => (e.limit, e.net)) =
      some (lim, net') ∧ net ≤ net' := by
  obtain ⟨d, tx, stack⟩ := t
  cases stack with
  | nil => simp at h
  | cons e rest =>
    simp only [List.head?_cons, Option.map_some, Option.some.injEq, Prod.mk.injEq] at h
    obtain ⟨rfl, rfl⟩ := h
    refine ⟨_, rfl, ?_⟩
    simp only [FrameLimitEntry.net, FrameLimitEntry.used]
    omega

theorem Owned.recordComputeGas (h : l.Owned) : (l.recordComputeGas g).Owned := by
  have hgrow : ({ l with computeGas := l.computeGas.recordGasUsed g } : AdditionalLimit).Owned := by
    refine h.grow rfl rfl fun k lim net hopen _ => ?_
    cases k with
    | computeGas => exact head?_recordGasUsed g hopen
    | dataSize => exact ⟨net, hopen, le_rfl⟩
    | kvUpdate => exact ⟨net, hopen, le_rfl⟩
    | stateGrowth => exact ⟨net, hopen, le_rfl⟩
  exact hgrow.checkLimit

theorem unmasked_recordComputeGas (hw : l.exceeded = false)
    (hs : l.rex4 = true → l.dataSize.Settled l.rex4 ∧ l.kvUpdate.Settled l.rex4) :
    (l.recordComputeGas g).Unmasked := by
  have hflag : ({ l with computeGas := l.computeGas.recordGasUsed g } :
      AdditionalLimit).hasExceededLimit = .withinLimit := exceeded_eq_false.1 hw
  rw [recordComputeGas, checkLimit_of_within hflag]
  intro k lim u hf hne
  have ho := examine_order hf
  cases k with
  | computeGas => exact absurd rfl hne
  | stateGrowth => exact ho.1.tx
  | dataSize => exact absurd (hs (examine_frameLocal hf).1).1 ho
  | kvUpdate => exact absurd (hs (examine_frameLocal hf).1).2 ho

end Record

section Sstore

@[simp] theorem onSstore_spec (r : SStoreResult) : (l.onSstore r).spec = l.spec := by
  simp [onSstore]
@[simp] theorem onSstore_rex4 (r : SStoreResult) : (l.onSstore r).rex4 = l.rex4 := by
  simp [rex4]
@[simp] theorem onSstore_rescuedGas (r : SStoreResult) :
    (l.onSstore r).rescuedGas = l.rescuedGas := by
  simp [onSstore]
@[simp] theorem onSstore_computeGas (r : SStoreResult) :
    (l.onSstore r).computeGas = l.computeGas := by
  simp [onSstore]
@[simp] theorem onLog_spec (a b : ℕ) : (l.onLog a b).spec = l.spec := by
  simp [onLog]
@[simp] theorem onLog_rex4 (a b : ℕ) : (l.onLog a b).rex4 = l.rex4 := by
  simp [rex4]
@[simp] theorem onLog_rescuedGas (a b : ℕ) : (l.onLog a b).rescuedGas = l.rescuedGas := by
  simp [onLog]
@[simp] theorem onLog_computeGas (a b : ℕ) : (l.onLog a b).computeGas = l.computeGas := by
  simp [onLog]

theorem Restorable.onSstore (h : l.Restorable) (r : SStoreResult) : (l.onSstore r).Restorable :=
  restorable_checkLimit.2
    ⟨StateGrowthTracker.restorable_afterSstore h.stateGrowth r,
      AccountTracker.restorable_afterSstoreBy h.dataSize r,
      AccountTracker.restorable_afterSstoreBy h.kvUpdate r, h.computeGas⟩

theorem exceeded_of_onSstore {r : SStoreResult} (h : (l.onSstore r).exceeded = false) :
    l.exceeded = false :=
  exceeded_of_checkLimit (l := { l with
    stateGrowth := StateGrowthTracker.afterSstore l.stateGrowth r
    dataSize := DataSizeTracker.afterSstore l.dataSize r
    kvUpdate := KVUpdateTracker.afterSstore l.kvUpdate r }) h

theorem exceeded_of_onLog {a b : ℕ} (h : (l.onLog a b).exceeded = false) : l.exceeded = false :=
  exceeded_of_checkLimit (l := { l with dataSize := DataSizeTracker.afterLog l.dataSize a b }) h

theorem budgets_onSstore (r : SStoreResult) : (l.onSstore r).budgets = l.budgets := by
  funext k
  cases k with
  | dataSize => simp [budgets, AdditionalLimit.onSstore, DataSizeTracker.afterSstore]
  | kvUpdate => simp [budgets, AdditionalLimit.onSstore, KVUpdateTracker.afterSstore]
  | computeGas => simp [budgets]
  | stateGrowth => simp [budgets, AdditionalLimit.onSstore]

theorem Restorable.onLog (h : l.Restorable) (a b : ℕ) : (l.onLog a b).Restorable :=
  restorable_checkLimit.2
    ⟨h.stateGrowth, h.dataSize.recordDiscardable _, h.kvUpdate, h.computeGas⟩

theorem budgets_onLog (a b : ℕ) : (l.onLog a b).budgets = l.budgets := by
  funext k
  cases k <;> simp [budgets, AdditionalLimit.onLog]

def ComputeFlag (l : AdditionalLimit) : Prop :=
  ∀ kind limit used, l.hasExceededLimit = .exceedsLimit kind limit used true →
    kind = .computeGas

theorem computeFlag_recordComputeGas {g : ℕ} (hw : l.exceeded = false)
    (hs : l.rex4 = true → l.Settled) : (l.recordComputeGas g).ComputeFlag := by
  have hflag : ({ l with computeGas := l.computeGas.recordGasUsed g } :
      AdditionalLimit).hasExceededLimit = .withinLimit := exceeded_eq_false.1 hw
  rw [recordComputeGas, checkLimit_of_within hflag]
  intro k lim u hf
  have ho := examine_order hf
  have hset := hs (examine_frameLocal hf).1
  cases k with
  | computeGas => rfl
  | stateGrowth => exact absurd hset.stateGrowth ho.2
  | dataSize => exact absurd hset.dataSize ho
  | kvUpdate => exact absurd hset.kvUpdate ho

theorem Owned.of_computeFlag {l' : AdditionalLimit} (h : l.Owned) (hc : l.ComputeFlag)
    (hflag : l'.hasExceededLimit = l.hasExceededLimit) (hr : l'.rex4 = l.rex4)
    (hcg : l'.computeGas = l.computeGas) : l'.checkLimit.Owned := by
  refine Owned.checkLimit ?_
  intro k lim u hf
  rw [hflag] at hf
  obtain rfl := hc k lim u hf
  obtain ⟨h4, net, hopen, hlt⟩ := h _ lim u hf
  exact ⟨hr.trans h4, net, by rw [openBudget, hcg]; exact hopen, hlt⟩

theorem unmasked_of_computeFlag {l' : AdditionalLimit} (hc : l.ComputeFlag)
    (hflag : l'.hasExceededLimit = l.hasExceededLimit) (hr : l'.rex4 = l.rex4)
    (hcg : l'.computeGas = l.computeGas)
    (hclear : l.exceeded = false → l.rex4 = true → l.ComputeClear) :
    l'.checkLimit.Unmasked := by
  refine unmasked_checkLimit ?_ ?_
  · intro k lim u hf hne
    rw [hflag] at hf
    exact absurd (hc k lim u hf) hne
  · intro hx h4
    rw [exceeded, hflag] at hx
    rw [ComputeClear, hcg]
    exact hclear hx (hr.symm.trans h4)

end Sstore

section Detain

variable (cap : ℕ)

@[simp] theorem setComputeGasLimit_exceeded :
    (l.setComputeGasLimit cap).exceeded = l.exceeded := rfl

theorem Restorable.setComputeGasLimit (h : l.Restorable) :
    (l.setComputeGasLimit cap).Restorable :=
  ⟨h.stateGrowth, h.dataSize, h.kvUpdate, h.computeGas.setDetainedLimit cap⟩

@[simp] theorem setComputeGasLimit_budgets :
    (l.setComputeGasLimit cap).budgets = l.budgets := by
  funext k
  cases k <;> rfl

theorem Owned.setComputeGasLimit (h : l.Owned) : (l.setComputeGasLimit cap).Owned := by
  intro k lim u hf
  obtain ⟨hr, net, hopen, hlt⟩ := h k lim u hf
  exact ⟨hr, net, by cases k <;> exact hopen, hlt⟩

theorem ComputeClear.setComputeGasLimit (h : l.ComputeClear) (hr : l.rex4 = true)
    (hc : l.Restorable) : (l.setComputeGasLimit cap).ComputeClear := by
  have hcg := hc.computeGas
  rw [hr] at hcg
  simp only [ComputeClear, AdditionalLimit.setComputeGasLimit, hr]
  exact hcg.txWithin_setDetainedLimit h cap

theorem Settled.setComputeGasLimit (h : l.Settled) (hr : l.rex4 = true) (hc : l.Restorable) :
    (l.setComputeGasLimit cap).Settled :=
  ⟨h.stateGrowth, h.dataSize, h.kvUpdate, h.computeGas.frame,
    ComputeClear.setComputeGasLimit cap h.computeGas.tx hr hc⟩

end Detain

end AdditionalLimit

end MegaEvm
