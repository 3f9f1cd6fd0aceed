import MegaEvm.FrameInvariant

/-!
# Larger limits

Limits with the same usage and at least as much room. Whatever a hook records, it records
the same in both, and the budget of a frame it opens is at least as large in the roomier
one. So a hook that finds nothing exceeded finds nothing exceeded there either.
-/

set_option autoImplicit false

namespace MegaEvm

namespace FrameLimitEntry

variable {ι κ : Type} {e e' : FrameLimitEntry ι}

def Roomier (e e' : FrameLimitEntry ι) : Prop :=
  ∃ room, e' = { e with limit := e.limit + room }

theorem Roomier.used_eq (h : e.Roomier e') : e'.used = e.used := by
  obtain ⟨room, rfl⟩ := h
  rfl

theorem Roomier.net_eq (h : e.Roomier e') : e'.net = e.net := by
  obtain ⟨room, rfl⟩ := h
  rfl

theorem Roomier.refund_eq (h : e.Roomier e') : e'.refund = e.refund := by
  obtain ⟨room, rfl⟩ := h
  rfl

theorem Roomier.limit_le (h : e.Roomier e') : e.limit ≤ e'.limit := by
  obtain ⟨room, rfl⟩ := h
  exact Nat.le_add_right e.limit room

theorem Roomier.remaining_le (h : e.Roomier e') : e.remaining ≤ e'.remaining := by
  have hlimit := h.limit_le
  have hnet := h.net_eq
  rw [remaining_eq, remaining_eq, hnet]
  omega

theorem Roomier.within (h : e.Roomier e') (hw : e.Within) : e'.Within := by
  have hlimit := h.limit_le
  have hnet := h.net_eq
  unfold Within at *
  omega

theorem roomier_new {l l' : ℕ} (h : l ≤ l') (i : ι) : (new l i).Roomier (new l' i) := by
  obtain ⟨room, rfl⟩ := Nat.exists_eq_add_of_le h
  exact ⟨room, rfl⟩

theorem Roomier.absorb {p p' : FrameLimitEntry κ} (hp : p.Roomier p') (h : e.Roomier e')
    (success : Bool) : (p.absorb e success).Roomier (p'.absorb e' success) := by
  obtain ⟨room, rfl⟩ := hp
  obtain ⟨spare, rfl⟩ := h
  exact ⟨room, rfl⟩

end FrameLimitEntry

namespace FrameLimitTracker

variable {ι : Type} {rex4 : Bool} {t t' : FrameLimitTracker ι}

/-- The same open frames with the same usage, each in a budget at least as large. -/
structure Roomier (t t' : FrameLimitTracker ι) : Prop where
  tx : t.txEntry.Roomier t'.txEntry
  frames : List.Forall₂ FrameLimitEntry.Roomier t.frameStack t'.frameStack

theorem map_eq_of_roomier {es es' : List (FrameLimitEntry ι)} {f : FrameLimitEntry ι → ℕ}
    (hf : ∀ e e', e.Roomier e' → f e' = f e) (h : List.Forall₂ FrameLimitEntry.Roomier es es') :
    es'.map f = es.map f := by
  induction h with
  | nil => rfl
  | cons he _ ih => rw [List.map_cons, List.map_cons, hf _ _ he, ih]

namespace Roomier

theorem txLimit_le (h : t.Roomier t') : t.txLimit ≤ t'.txLimit := h.tx.limit_le

theorem totalUsed_eq (h : t.Roomier t') : t'.totalUsed = t.totalUsed := by
  have hused := map_eq_of_roomier (fun _ _ he => he.used_eq) h.frames
  rw [totalUsed, totalUsed, hused, h.tx.used_eq]

theorem totalRefund_eq (h : t.Roomier t') : t'.totalRefund = t.totalRefund := by
  have hrefund := map_eq_of_roomier (fun _ _ he => he.refund_eq) h.frames
  rw [totalRefund, totalRefund, hrefund, h.tx.refund_eq]

theorem netUsage_eq (h : t.Roomier t') : t'.netUsage = t.netUsage := by
  rw [netUsage, netUsage, h.totalUsed_eq, h.totalRefund_eq]

theorem hasActiveFrame_eq (h : t.Roomier t') : t'.hasActiveFrame = t.hasActiveFrame := by
  obtain ⟨tx, stack⟩ := t
  obtain ⟨tx', stack'⟩ := t'
  cases h.frames with
  | nil => rfl
  | cons => rfl

theorem settled (h : t.Roomier t') (hs : t.Settled rex4) : t'.Settled rex4 := by
  cases rex4 with
  | true =>
    obtain ⟨tx, stack⟩ := t
    obtain ⟨tx', stack'⟩ := t'
    cases h.frames with
    | nil => exact hs
    | cons he hrest =>
      intro e hmem
      obtain rfl := Option.mem_some_iff.1 hmem
      exact he.within (hs _ rfl)
  | false =>
    have hnet := h.netUsage_eq
    have hlimit := h.txLimit_le
    simp only [Settled, TxWithin, Bool.false_eq_true, if_false] at *
    omega

theorem maxForwardLimit_le (h : t.Roomier t') : t.maxForwardLimit ≤ t'.maxForwardLimit := by
  obtain ⟨tx, stack⟩ := t
  obtain ⟨tx', stack'⟩ := t'
  cases h.frames with
  | nil => exact h.tx.limit_le
  | cons he hrest =>
    have hremaining := he.remaining_le
    exact Nat.div_le_div_right (Nat.mul_le_mul_right _ hremaining)

theorem pushFrameWithLimit (h : t.Roomier t') {l l' : ℕ} (hl : l ≤ l') (i : ι) :
    (t.pushFrameWithLimit l i).Roomier (t'.pushFrameWithLimit l' i) :=
  ⟨h.tx, .cons (FrameLimitEntry.roomier_new hl i) h.frames⟩

/-- The new frame's share of a larger remainder is larger. -/
theorem pushFrameBy (h : t.Roomier t') (i : ι) :
    (t.pushFrameBy rex4 i).Roomier (t'.pushFrameBy rex4 i) := by
  cases rex4 with
  | true => exact h.pushFrameWithLimit h.maxForwardLimit_le i
  | false => exact h.pushFrameWithLimit le_rfl i

theorem popFrame (h : t.Roomier t') (success : Bool) :
    (t.popFrame success).Roomier (t'.popFrame success) := by
  obtain ⟨tx, stack⟩ := t
  obtain ⟨tx', stack'⟩ := t'
  cases h.frames with
  | nil => exact h
  | cons hchild hrest =>
    cases hrest with
    | nil => exact ⟨h.tx.absorb hchild success, .nil⟩
    | cons hparent hrest => exact ⟨h.tx, .cons (hparent.absorb hchild success) hrest⟩

theorem modifyFrame (h : t.Roomier t') {f : FrameLimitEntry ι → FrameLimitEntry ι}
    (hf : ∀ e e', e.Roomier e' → (f e).Roomier (f e')) :
    (t.modifyFrame f).Roomier (t'.modifyFrame f) := by
  obtain ⟨tx, stack⟩ := t
  obtain ⟨tx', stack'⟩ := t'
  cases h.frames with
  | nil => exact h
  | cons he hrest => exact ⟨h.tx, .cons (hf _ _ he) hrest⟩

theorem modifyTx (h : t.Roomier t') {f : FrameLimitEntry Unit → FrameLimitEntry Unit}
    (hf : ∀ e e', e.Roomier e' → (f e).Roomier (f e')) :
    (t.modifyTx f).Roomier (t'.modifyTx f) := ⟨hf _ _ h.tx, h.frames⟩

theorem recordDiscardable (h : t.Roomier t') (n : ℕ) :
    (t.recordDiscardable n).Roomier (t'.recordDiscardable n) :=
  h.modifyFrame fun _ _ ⟨room, he⟩ => ⟨room, he ▸ rfl⟩

theorem recordRefund (h : t.Roomier t') (n : ℕ) :
    (t.recordRefund n).Roomier (t'.recordRefund n) :=
  h.modifyFrame fun _ _ ⟨room, he⟩ => ⟨room, he ▸ rfl⟩

theorem reset (h : t.Roomier t') : t.reset.Roomier t'.reset :=
  ⟨FrameLimitEntry.roomier_new h.txLimit_le (), .nil⟩

end Roomier

theorem roomier_new {l l' : ℕ} (h : l ≤ l') : (new l : FrameLimitTracker ι).Roomier (new l') :=
  ⟨FrameLimitEntry.roomier_new h (), .nil⟩

end FrameLimitTracker

namespace AccountTracker

open FrameLimitTracker.Roomier

variable {rex4 : Bool} {t t' : AccountTracker} (unit : ℕ)

theorem parentNeedsUpdate_roomier (h : t.Roomier t') :
    parentNeedsUpdate t' = parentNeedsUpdate t := by
  obtain ⟨tx, stack⟩ := t
  obtain ⟨tx', stack'⟩ := t'
  cases h.frames with
  | nil => rfl
  | cons he hrest =>
    obtain ⟨room, rfl⟩ := he
    rfl

theorem roomier_recordIf (h : t.Roomier t') (b : Bool) :
    (recordIf b unit t).Roomier (recordIf b unit t') := by
  cases b with
  | true => exact h.recordDiscardable unit
  | false => exact h

theorem roomier_beforeFrameInitBy (h : t.Roomier t') (input : FrameInput) :
    (beforeFrameInitBy unit rex4 t input).Roomier (beforeFrameInitBy unit rex4 t' input) := by
  unfold beforeFrameInitBy
  rw [parentNeedsUpdate_roomier h]
  cases input with
  | call i =>
    have hpushed := @pushFrameBy _ rex4 _ _ h ⟨some i.targetAddress, i.transfersValue⟩
    simp only
    split
    · exact (roomier_recordIf unit hpushed _).recordDiscardable unit
    · exact hpushed
  | create i => exact roomier_recordIf unit (h.pushFrameBy _) _

theorem roomier_afterFrameInitOnFrameBy (h : t.Roomier t') (created : Option Address) :
    (afterFrameInitOnFrameBy unit t created).Roomier
      (afterFrameInitOnFrameBy unit t' created) := by
  cases created with
  | none => exact h
  | some a => exact h.modifyFrame fun _ _ ⟨room, he⟩ => ⟨room, he ▸ rfl⟩

theorem roomier_afterSstoreBy (h : t.Roomier t') (r : SStoreResult) :
    (afterSstoreBy unit t r).Roomier (afterSstoreBy unit t' r) := by
  unfold afterSstoreBy
  repeat' split
  · exact h.recordDiscardable unit
  · exact h
  · exact h.recordRefund unit
  · exact h

end AccountTracker

theorem DataSizeTracker.roomier_beforeTxStart {t t' : AccountTracker} (h : t.Roomier t')
    (tx : MegaTransaction) : (beforeTxStart t tx).Roomier (beforeTxStart t' tx) := by
  unfold beforeTxStart
  apply FrameLimitTracker.Roomier.modifyTx h
  rintro e e' ⟨room, rfl⟩
  exact ⟨room, rfl⟩

theorem KVUpdateTracker.roomier_beforeTxStart {t t' : AccountTracker} (h : t.Roomier t')
    (tx : MegaTransaction) : (beforeTxStart t tx).Roomier (beforeTxStart t' tx) := by
  unfold beforeTxStart
  apply FrameLimitTracker.Roomier.modifyTx h
  rintro e e' ⟨room, rfl⟩
  exact ⟨room, rfl⟩

namespace StateGrowthTracker

open FrameLimitTracker.Roomier

variable {rex4 : Bool} {t t' : StateGrowthTracker}

theorem roomier_beforeFrameInit (h : t.Roomier t') (input : FrameInput) (targetEmpty : Bool) :
    (beforeFrameInit rex4 t input targetEmpty).Roomier
      (beforeFrameInit rex4 t' input targetEmpty) := by
  have hpushed := @pushFrameBy _ rex4 _ _ h ()
  cases input with
  | call i =>
    simp only [beforeFrameInit]
    split
    · exact hpushed.recordDiscardable 1
    · exact hpushed
  | create i => exact hpushed.recordDiscardable 1

theorem roomier_afterSstore (h : t.Roomier t') (r : SStoreResult) :
    (afterSstore t r).Roomier (afterSstore t' r) := by
  unfold afterSstore
  split
  · exact h.recordDiscardable 1
  · exact h.recordRefund 1
  · exact h

end StateGrowthTracker

namespace ComputeGasTracker

variable {rex4 : Bool} {t t' : ComputeGasTracker}

structure Roomier (t t' : ComputeGasTracker) : Prop where
  detainedLimit : t.detainedLimit ≤ t'.detainedLimit
  frameTracker : t.frameTracker.Roomier t'.frameTracker

namespace Roomier

theorem txUsage_eq (h : t.Roomier t') : t'.txUsage = t.txUsage := h.frameTracker.netUsage_eq

theorem txLimit_le (h : t.Roomier t') : t.txLimit ≤ t'.txLimit :=
  min_le_min h.frameTracker.txLimit_le h.detainedLimit

theorem settled (h : t.Roomier t') (hs : t.Settled rex4) : t'.Settled rex4 where
  frame := fun hr => by
    have htop : t.frameTracker.Settled true := hs.frame hr
    exact h.frameTracker.settled htop
  tx := by
    have husage := h.txUsage_eq
    have hlimit := h.txLimit_le
    have htx := hs.tx
    omega

theorem recordGasUsed (h : t.Roomier t') (gas : ℕ) :
    (t.recordGasUsed gas).Roomier (t'.recordGasUsed gas) := by
  unfold ComputeGasTracker.recordGasUsed
  rw [h.frameTracker.hasActiveFrame_eq]
  split
  · refine ⟨h.detainedLimit, h.frameTracker.modifyFrame ?_⟩
    rintro e e' ⟨room, rfl⟩
    exact ⟨room, rfl⟩
  · have hrecorded : ∀ e e' : FrameLimitEntry Unit, e.Roomier e' →
        { e with persistentUsage := e.persistentUsage + gas }.Roomier
          { e' with persistentUsage := e'.persistentUsage + gas } := by
      rintro e e' ⟨room, rfl⟩
      exact ⟨room, rfl⟩
    exact ⟨h.detainedLimit, h.frameTracker.modifyTx hrecorded⟩

theorem reset (h : t.Roomier t') (rex1 : Bool) : (t.reset rex1).Roomier (t'.reset rex1) := by
  refine ⟨?_, h.frameTracker.reset⟩
  unfold ComputeGasTracker.reset
  split
  · exact h.frameTracker.txLimit_le
  · exact h.detainedLimit

theorem setDetainedLimit (h : t.Roomier t') {cap cap' : ℕ} (hcap : cap ≤ cap') :
    (t.setDetainedLimit rex4 cap).Roomier (t'.setDetainedLimit rex4 cap') := by
  refine ⟨?_, h.frameTracker⟩
  have hdetained := h.detainedLimit
  have husage := h.txUsage_eq
  simp only [ComputeGasTracker.setDetainedLimit, saturatingAdd, husage]
  split <;> omega

theorem pushFrame (h : t.Roomier t') : (t.pushFrame rex4).Roomier (t'.pushFrame rex4) :=
  ⟨h.detainedLimit, h.frameTracker.pushFrameBy ()⟩

theorem popFrame (h : t.Roomier t') (success : Bool) :
    (t.popFrame success).Roomier (t'.popFrame success) :=
  ⟨h.detainedLimit, h.frameTracker.popFrame success⟩

end Roomier

end ComputeGasTracker

namespace AdditionalLimit

open FrameLimitTracker

variable {l l' : AdditionalLimit}

structure Roomier (l l' : AdditionalLimit) : Prop where
  spec : l'.spec = l.spec
  rescuedGas : l'.rescuedGas = l.rescuedGas
  stateGrowth : l.stateGrowth.Roomier l'.stateGrowth
  dataSize : l.dataSize.Roomier l'.dataSize
  kvUpdate : l.kvUpdate.Roomier l'.kvUpdate
  computeGas : l.computeGas.Roomier l'.computeGas
  within : l'.hasExceededLimit = .withinLimit

namespace Roomier

theorem rex4 (h : l.Roomier l') : l'.rex4 = l.rex4 := by
  rw [AdditionalLimit.rex4, AdditionalLimit.rex4, h.spec]

theorem exceeded (h : l.Roomier l') : l'.exceeded = false := exceeded_eq_false.2 h.within

theorem settled (h : l.Roomier l') (hs : l.Settled) : l'.Settled where
  stateGrowth := h.rex4 ▸ h.stateGrowth.settled hs.stateGrowth
  dataSize := h.rex4 ▸ h.dataSize.settled hs.dataSize
  kvUpdate := h.rex4 ▸ h.kvUpdate.settled hs.kvUpdate
  computeGas := h.rex4 ▸ h.computeGas.settled hs.computeGas

theorem checkLimit_eq (h : l.Roomier l') (hx : l.checkLimit.exceeded = false) :
    l'.checkLimit = l' := by
  have hsettled := (checkLimit_within_iff.1 (exceeded_eq_false.1 hx)).2
  exact checkLimit_eq_self h.within (h.settled hsettled)

theorem checkLimit (h : l.Roomier l') (hx : l.checkLimit.exceeded = false) :
    l.checkLimit.Roomier l'.checkLimit := by
  obtain ⟨hflag, hsettled⟩ := checkLimit_within_iff.1 (exceeded_eq_false.1 hx)
  rw [h.checkLimit_eq hx, checkLimit_eq_self hflag hsettled]
  exact h

theorem recordComputeGas (h : l.Roomier l') (g : ℕ)
    (hx : (l.recordComputeGas g).exceeded = false) :
    (l.recordComputeGas g).Roomier (l'.recordComputeGas g) := by
  refine checkLimit ?_ hx
  exact { h with computeGas := h.computeGas.recordGasUsed g }

theorem setComputeGasLimit (h : l.Roomier l') {cap cap' : ℕ} (hcap : cap ≤ cap') :
    (l.setComputeGasLimit cap).Roomier (l'.setComputeGasLimit cap') := by
  have hdetained := @ComputeGasTracker.Roomier.setDetainedLimit l.rex4 _ _ h.computeGas _ _ hcap
  rw [AdditionalLimit.setComputeGasLimit, AdditionalLimit.setComputeGasLimit, h.rex4]
  exact { h with computeGas := hdetained }

theorem onSstore (h : l.Roomier l') (r : SStoreResult) (hx : (l.onSstore r).exceeded = false) :
    (l.onSstore r).Roomier (l'.onSstore r) := by
  refine checkLimit ?_ hx
  exact { h with
    stateGrowth := StateGrowthTracker.roomier_afterSstore h.stateGrowth r
    dataSize := AccountTracker.roomier_afterSstoreBy _ h.dataSize r
    kvUpdate := AccountTracker.roomier_afterSstoreBy _ h.kvUpdate r }

theorem onLog (h : l.Roomier l') (numTopics size : ℕ)
    (hx : (l.onLog numTopics size).exceeded = false) :
    (l.onLog numTopics size).Roomier (l'.onLog numTopics size) := by
  refine checkLimit ?_ hx
  exact { h with dataSize := h.dataSize.recordDiscardable _ }

theorem openFrame (h : l.Roomier l') (input : FrameInput) (targetEmpty : Bool)
    (hx : (l.openFrame input targetEmpty).exceeded = false) :
    (l.openFrame input targetEmpty).Roomier (l'.openFrame input targetEmpty) := by
  have hopened : Roomier
      { l with
        stateGrowth := StateGrowthTracker.beforeFrameInit l.rex4 l.stateGrowth input targetEmpty
        dataSize := DataSizeTracker.beforeFrameInit l.rex4 l.dataSize input
        kvUpdate := KVUpdateTracker.beforeFrameInit l.rex4 l.kvUpdate input
        computeGas := l.computeGas.pushFrame l.rex4 }
      { l' with
        stateGrowth := StateGrowthTracker.beforeFrameInit l.rex4 l'.stateGrowth input targetEmpty
        dataSize := DataSizeTracker.beforeFrameInit l.rex4 l'.dataSize input
        kvUpdate := KVUpdateTracker.beforeFrameInit l.rex4 l'.kvUpdate input
        computeGas := l'.computeGas.pushFrame l.rex4 } :=
    { h with
      stateGrowth := StateGrowthTracker.roomier_beforeFrameInit h.stateGrowth input targetEmpty
      dataSize := AccountTracker.roomier_beforeFrameInitBy _ h.dataSize input
      kvUpdate := AccountTracker.roomier_beforeFrameInitBy _ h.kvUpdate input
      computeGas := h.computeGas.pushFrame }
  rw [AdditionalLimit.openFrame.eq_1 l', h.rex4]
  exact hopened.checkLimit hx

theorem pushEmptyFrame (h : l.Roomier l') : l.pushEmptyFrame.Roomier l'.pushEmptyFrame := by
  rw [AdditionalLimit.pushEmptyFrame, AdditionalLimit.pushEmptyFrame, h.rex4]
  exact { h with
    stateGrowth := h.stateGrowth.pushFrameBy ()
    dataSize := h.dataSize.pushFrameBy _
    kvUpdate := h.kvUpdate.pushFrameBy _
    computeGas := h.computeGas.pushFrame }

theorem afterFrameInitItem (h : l.Roomier l') (created : Option Address) :
    (l.afterFrameInitItem created).Roomier (l'.afterFrameInitItem created) :=
  { h with
    dataSize := AccountTracker.roomier_afterFrameInitOnFrameBy _ h.dataSize created
    kvUpdate := AccountTracker.roomier_afterFrameInitOnFrameBy _ h.kvUpdate created }

theorem countOutput (h : l.Roomier l') (isCreate : Bool) (action : InterpreterAction) :
    (l.countOutput isCreate action).Roomier (l'.countOutput isCreate action) := by
  refine { h with dataSize := ?_ }
  cases action with
  | newFrame i => exact h.dataSize
  | «return» r =>
    cases isCreate with
    | true => exact h.dataSize.recordDiscardable _
    | false => exact h.dataSize

theorem closeFrame (h : l.Roomier l') (success : Bool)
    (hx : (l.closeFrame success).exceeded = false) :
    (l.closeFrame success).Roomier (l'.closeFrame success) := by
  refine checkLimit ?_ hx
  exact { h with
    stateGrowth := h.stateGrowth.popFrame success
    dataSize := h.dataSize.popFrame success
    kvUpdate := h.kvUpdate.popFrame success
    computeGas := h.computeGas.popFrame success }

theorem tryRescueGas (h : l.Roomier l') (gas : Gas) (hx : (l.tryRescueGas gas).exceeded = false) :
    (l.tryRescueGas gas).Roomier (l'.tryRescueGas gas) := by
  rw [exceeded_tryRescueGas] at hx
  have hcheck := h.checkLimit hx
  unfold AdditionalLimit.tryRescueGas
  rw [hx, hcheck.exceeded]
  exact hcheck

end Roomier

end AdditionalLimit

end MegaEvm
