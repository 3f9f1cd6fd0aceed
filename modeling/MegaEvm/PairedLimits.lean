import MegaEvm.TrackerLedger

/-!
# Two runs of the hooks side by side

Limits that see the slot writes of a run, and limits that see everything else of
it. Every hook but the one for slot writes does the same to both, so that what
separates them is a ledger of its own: the slot writes of the open frames.
-/

set_option autoImplicit false

namespace MegaEvm

open Checkpoint

namespace FrameLimitTracker

variable {ι : Type} {g : Ledger} {t t' : FrameLimitTracker ι}

structure SameFrames (t t' : FrameLimitTracker ι) : Prop where
  infos : t.frameStack.map (·.info) = t'.frameStack.map (·.info)
  discardable : t.Discardable
  discardable' : t'.Discardable

namespace SameFrames

theorem height_eq (h : SameFrames t t') : t.height = t'.height := by
  have hlen := congrArg List.length h.infos
  simpa [height] using hlen

theorem length_eq (h : SameFrames t t') :
    t.ledger.frames.length = t'.ledger.frames.length := by
  rw [length_ledger, length_ledger, h.height_eq]

theorem frameStack_nil (h : SameFrames t t') : t.frameStack = [] ↔ t'.frameStack = [] := by
  have hinfos := h.infos
  constructor
  · intro hnil
    rw [hnil] at hinfos
    exact List.map_eq_nil_iff.1 hinfos.symm
  · intro hnil
    rw [hnil] at hinfos
    exact List.map_eq_nil_iff.1 hinfos

theorem pushFrameBy (h : SameFrames t t') (rex4 : Bool) (i : ι) :
    SameFrames (t.pushFrameBy rex4 i) (t'.pushFrameBy rex4 i) := by
  have hinfos (t : FrameLimitTracker ι) :
      (t.pushFrameBy rex4 i).frameStack.map (·.info) = i :: t.frameStack.map (·.info) := by
    unfold FrameLimitTracker.pushFrameBy
    split <;> rfl
  have hdiscardable {t : FrameLimitTracker ι} (ht : t.Discardable) :
      (t.pushFrameBy rex4 i).Discardable := by
    unfold FrameLimitTracker.pushFrameBy
    split <;> exact ht.pushFrameWithLimit _ i
  constructor
  · rw [hinfos, hinfos, h.infos]
  · exact hdiscardable h.discardable
  · exact hdiscardable h.discardable'

theorem popFrame (h : SameFrames t t') (success : Bool) :
    SameFrames (t.popFrame success) (t'.popFrame success) := by
  have hinfos (t : FrameLimitTracker ι) :
      (t.popFrame success).frameStack.map (·.info) = (t.frameStack.map (·.info)).tail := by
    obtain ⟨tx, stack⟩ := t
    cases stack with
    | nil => rfl
    | cons e stack =>
      cases stack with
      | nil => rfl
      | cons p rest => rfl
  constructor
  · rw [hinfos, hinfos, h.infos]
  · exact h.discardable.popFrame success
  · exact h.discardable'.popFrame success

theorem modifyFrame (h : SameFrames t t') {f f' : FrameLimitEntry ι → FrameLimitEntry ι}
    (hinfo : ∀ e e', e.info = e'.info → (f e).info = (f' e').info)
    (hf : ∀ e, (f e).persistentUsage = e.persistentUsage)
    (hf' : ∀ e, (f' e).persistentUsage = e.persistentUsage) :
    SameFrames (t.modifyFrame f) (t'.modifyFrame f') := by
  constructor
  · have hinfos := h.infos
    obtain ⟨tx, stack⟩ := t
    obtain ⟨tx', stack'⟩ := t'
    match stack, stack' with
    | [], [] => rfl
    | [], _ :: _ => cases hinfos
    | _ :: _, [] => cases hinfos
    | e :: rest, e' :: rest' =>
      simp only [List.map_cons, List.cons.injEq] at hinfos
      simp [FrameLimitTracker.modifyFrame, hinfo e e' hinfos.1, hinfos.2]
  · exact h.discardable.modifyFrame hf
  · exact h.discardable'.modifyFrame hf'

end SameFrames

theorem modifyFrame_nil (h : t.frameStack = []) (f : FrameLimitEntry ι → FrameLimitEntry ι) :
    t.modifyFrame f = t := by
  unfold FrameLimitTracker.modifyFrame
  rw [h]

/-- The same open frames; only the first tracker has refunds, and `g` is what it
holds beyond the second. -/
structure Paired (g : Ledger) (t t' : FrameLimitTracker ι) : Prop where
  infos : t.frameStack.map (·.info) = t'.frameStack.map (·.info)
  discardable : t.Discardable
  discardable' : t'.Discardable
  txRefund : t'.txEntry.refund = 0
  refunds : ∀ e ∈ t'.frameStack, e.refund = 0
  gap : t.ledger - t'.ledger = g

namespace Paired

theorem sameFrames (h : Paired g t t') : SameFrames t t' :=
  ⟨h.infos, h.discardable, h.discardable'⟩

theorem length_eq (h : Paired g t t') :
    t.ledger.frames.length = t'.ledger.frames.length := h.sameFrames.length_eq

theorem frameStack_ne (h : Paired g t t') (hne : t.frameStack ≠ []) : t'.frameStack ≠ [] :=
  mt h.sameFrames.frameStack_nil.2 hne

theorem pushFrameBy (h : Paired g t t') (rex4 : Bool) (i : ι) :
    Paired g.push (t.pushFrameBy rex4 i) (t'.pushFrameBy rex4 i) := by
  have hsame := h.sameFrames.pushFrameBy rex4 i
  have hstack : ∃ l, (t'.pushFrameBy rex4 i).frameStack = .new l i :: t'.frameStack := by
    unfold FrameLimitTracker.pushFrameBy
    split <;> exact ⟨_, rfl⟩
  constructor
  · exact hsame.infos
  · exact hsame.discardable
  · exact hsame.discardable'
  · unfold FrameLimitTracker.pushFrameBy
    split <;> exact h.txRefund
  · intro e he
    obtain ⟨l, hl⟩ := hstack
    rw [hl] at he
    rcases List.mem_cons.1 he with rfl | he
    · rfl
    · exact h.refunds e he
  · rw [ledger_pushFrameBy, ledger_pushFrameBy, Ledger.push_sub_push, h.gap]

theorem popFrame (h : Paired g t t') (success : Bool) :
    Paired (g.pop success) (t.popFrame success) (t'.popFrame success) := by
  have hsame := h.sameFrames.popFrame success
  constructor
  · exact hsame.infos
  · exact hsame.discardable
  · exact hsame.discardable'
  · have hr := h.refunds
    have htx := h.txRefund
    obtain ⟨tx, stack⟩ := t'
    cases stack with
    | nil => exact htx
    | cons e stack =>
      cases stack with
      | nil =>
        have he := hr e (by simp)
        simp [FrameLimitTracker.popFrame, FrameLimitEntry.absorb, he] at htx ⊢
        exact htx
      | cons p rest => exact htx
  · have hr := h.refunds
    obtain ⟨tx, stack⟩ := t'
    cases stack with
    | nil => exact hr
    | cons e stack =>
      cases stack with
      | nil =>
        intro e' he'
        simp [FrameLimitTracker.popFrame] at he'
      | cons p rest =>
        intro e' he'
        rcases List.mem_cons.1 he' with rfl | he'
        · have h1 := hr e (by simp)
          have h2 := hr p (by simp)
          simp [FrameLimitEntry.absorb, h1, h2]
        · exact hr e' (by simp [he'])
  · rw [ledger_popFrame h.discardable, ledger_popFrame h.discardable',
      Ledger.pop_sub_pop h.length_eq, h.gap]

theorem modifyFrame (h : Paired g t t') {f : FrameLimitEntry ι → FrameLimitEntry ι} (amount : ℤ)
    (hinfo : ∀ e e', e.info = e'.info → (f e).info = (f e').info)
    (hpersistent : ∀ e, (f e).persistentUsage = e.persistentUsage)
    (hrefund : ∀ e, (f e).refund = e.refund) (hsigned : ∀ e, (f e).signed = e.signed + amount) :
    Paired g (t.modifyFrame f) (t'.modifyFrame f) := by
  have hsame := h.sameFrames.modifyFrame hinfo hpersistent hpersistent
  by_cases hne : t.frameStack = []
  · rw [modifyFrame_nil hne, modifyFrame_nil (h.sameFrames.frameStack_nil.1 hne)]
    exact h
  · constructor
    · exact hsame.infos
    · exact hsame.discardable
    · exact hsame.discardable'
    · unfold FrameLimitTracker.modifyFrame
      split <;> exact h.txRefund
    · have hr := h.refunds
      obtain ⟨tx', stack'⟩ := t'
      cases stack' with
      | nil => exact hr
      | cons e rest =>
        intro e' he'
        rcases List.mem_cons.1 he' with rfl | he'
        · rw [hrefund]
          exact hr e (by simp)
        · exact hr e' (by simp [he'])
    · rw [ledger_modifyFrame hne hsigned, ledger_modifyFrame (h.frameStack_ne hne) hsigned,
        Ledger.post_sub_post h.length_eq, h.gap, sub_self, Ledger.post_zero]

theorem recordDiscardable (h : Paired g t t') (n : ℕ) :
    Paired g (t.recordDiscardable n) (t'.recordDiscardable n) := by
  apply h.modifyFrame n
  · exact fun _ _ h => h
  · exact fun _ => rfl
  · exact fun _ => rfl
  · intro e
    simp only [FrameLimitEntry.signed, FrameLimitEntry.used]
    push_cast
    ring

theorem post (h : Paired g t t') {s : FrameLimitTracker ι} {amount : ℤ}
    (hinfos : s.frameStack.map (·.info) = t.frameStack.map (·.info)) (hd : s.Discardable)
    (hl : s.ledger = t.ledger.post amount) : Paired (g.post amount) s t' := by
  constructor
  · rw [hinfos, h.infos]
  · exact hd
  · exact h.discardable'
  · exact h.txRefund
  · exact h.refunds
  · have hpost := Ledger.post_sub_post h.length_eq amount 0
    rw [Ledger.post_zero, h.gap, sub_zero] at hpost
    rw [hl, hpost]

theorem totalRefund_eq_zero (h : Paired g t t') : t'.totalRefund = 0 := by
  rw [totalRefund, h.txRefund, Nat.zero_add]
  apply List.sum_eq_zero
  intro r hr
  obtain ⟨e, he, rfl⟩ := List.mem_map.1 hr
  exact h.refunds e he

theorem total (h : Paired g t t') : t.ledger.total = t'.totalUsed + g.total := by
  have htotal := Ledger.total_sub h.length_eq
  rw [h.gap, total_ledger t', h.totalRefund_eq_zero] at htotal
  push_cast at htotal
  omega

theorem netUsage (h : Paired g t t') {n : ℕ} (hn : g.total = n) :
    t.netUsage = t'.netUsage + n := by
  have hplain : t'.netUsage = t'.totalUsed := by
    rw [FrameLimitTracker.netUsage, h.totalRefund_eq_zero, Nat.sub_zero]
  apply netUsage_of_total
  rw [h.total, hn, hplain]
  push_cast
  rfl

end Paired

end FrameLimitTracker

namespace AccountTracker

open FrameLimitTracker

variable {g : Ledger} {t t' : AccountTracker} (unit : ℕ) (rex4 : Bool)

theorem parentNeedsUpdate_sameFrames (h : SameFrames t t') :
    parentNeedsUpdate t = parentNeedsUpdate t' := by
  have hinfos := h.infos
  obtain ⟨tx, stack⟩ := t
  obtain ⟨tx', stack'⟩ := t'
  match stack, stack' with
  | [], [] => rfl
  | [], _ :: _ => cases hinfos
  | _ :: _, [] => cases hinfos
  | e :: _, e' :: _ =>
    simp only [List.map_cons, List.cons.injEq] at hinfos
    simp [parentNeedsUpdate, hinfos.1]

theorem paired_recordIf (h : Paired g t t') (b : Bool) (n : ℕ) :
    Paired g (recordIf b n t) (recordIf b n t') := by
  cases b with
  | true => exact h.recordDiscardable n
  | false => exact h

theorem paired_beforeFrameInitBy (h : Paired g t t') (input : FrameInput) :
    Paired g.push (beforeFrameInitBy unit rex4 t input)
      (beforeFrameInitBy unit rex4 t' input) := by
  cases input with
  | call i =>
    have hp := h.pushFrameBy rex4 ⟨some i.targetAddress, i.transfersValue⟩
    simp only [beforeFrameInitBy, parentNeedsUpdate_sameFrames h.sameFrames]
    split
    · exact (paired_recordIf hp _ unit).recordDiscardable unit
    · exact hp
  | create i =>
    simp only [beforeFrameInitBy, parentNeedsUpdate_sameFrames h.sameFrames]
    exact paired_recordIf (h.pushFrameBy rex4 ⟨none, true⟩) _ unit

theorem paired_afterFrameInitOnFrameBy (h : Paired g t t') (a : Option Address) :
    Paired g (afterFrameInitOnFrameBy unit t a) (afterFrameInitOnFrameBy unit t' a) := by
  cases a with
  | none => exact h
  | some a =>
    apply h.modifyFrame unit
    · intro e e' he
      simp only [he]
    · exact fun _ => rfl
    · exact fun _ => rfl
    · intro e
      simp only [FrameLimitEntry.signed, FrameLimitEntry.used]
      push_cast
      ring

theorem paired_afterSstoreBy (h : Paired g t t') (hne : t.frameStack ≠ []) (r : SStoreResult) :
    Paired (g.post (unit * slotAmount r)) (afterSstoreBy unit t r) t' := by
  have hmodify {f : FrameLimitEntry CallFrameInfo → FrameLimitEntry CallFrameInfo}
      (hf : ∀ e, (f e).info = e.info) :
      (t.modifyFrame f).frameStack.map (·.info) = t.frameStack.map (·.info) := by
    obtain ⟨tx, stack⟩ := t
    cases stack with
    | nil => rfl
    | cons e rest => simp [FrameLimitTracker.modifyFrame, hf]
  apply h.post
  · unfold afterSstoreBy
    split
    · split
      · exact hmodify fun _ => rfl
      · rfl
    · split
      · exact hmodify fun _ => rfl
      · rfl
  · unfold afterSstoreBy
    split
    · split
      · exact h.discardable.modifyFrame fun _ => rfl
      · exact h.discardable
    · split
      · exact h.discardable.modifyFrame fun _ => rfl
      · exact h.discardable
  · exact ledger_afterSstoreBy hne unit r

end AccountTracker

namespace StateGrowthTracker

open FrameLimitTracker

variable {g : Ledger} {t t' : StateGrowthTracker} (rex4 : Bool)

theorem paired_beforeFrameInit (h : Paired g t t') (input : FrameInput) (te : Bool) :
    Paired g.push (beforeFrameInit rex4 t input te) (beforeFrameInit rex4 t' input te) := by
  have hp := h.pushFrameBy rex4 ()
  cases input with
  | call i =>
    simp only [beforeFrameInit]
    split
    · exact hp.recordDiscardable 1
    · exact hp
  | create i => exact hp.recordDiscardable 1

theorem paired_afterSstore (h : Paired g t t') (hne : t.frameStack ≠ []) (r : SStoreResult) :
    Paired (g.post (slotAmount r)) (afterSstore t r) t' := by
  have hinfos (s : StateGrowthTracker) (hs : s.height = t.height) :
      s.frameStack.map (·.info) = t.frameStack.map (·.info) := by
    apply List.ext_getElem
    · simpa [height] using hs
    · exact fun _ _ _ => rfl
  apply h.post
  · apply hinfos
    rw [← length_budgets, ← length_budgets, budgets_afterSstore]
  · unfold afterSstore
    split
    · exact h.discardable.modifyFrame fun _ => rfl
    · exact h.discardable.modifyFrame fun _ => rfl
    · exact h.discardable
  · exact ledger_afterSstore hne r

end StateGrowthTracker

namespace AdditionalLimit

open FrameLimitTracker

variable {gs gd gk : Ledger} {l l' : AdditionalLimit}

structure Paired (gs gd gk : Ledger) (l l' : AdditionalLimit) : Prop where
  rex4 : l.rex4 = l'.rex4
  stateGrowth : l.stateGrowth.Paired gs l'.stateGrowth
  dataSize : l.dataSize.Paired gd l'.dataSize
  kvUpdate : l.kvUpdate.Paired gk l'.kvUpdate

namespace Paired

theorem checkLimit (h : Paired gs gd gk l l') : Paired gs gd gk l.checkLimit l'.checkLimit := by
  constructor
  · rw [checkLimit_rex4, checkLimit_rex4, h.rex4]
  · rw [checkLimit_stateGrowth, checkLimit_stateGrowth]
    exact h.stateGrowth
  · rw [checkLimit_dataSize, checkLimit_dataSize]
    exact h.dataSize
  · rw [checkLimit_kvUpdate, checkLimit_kvUpdate]
    exact h.kvUpdate

theorem recordComputeGas (h : Paired gs gd gk l l') (g : ℕ) :
    Paired gs gd gk (l.recordComputeGas g) (l'.recordComputeGas g) := by
  apply Paired.checkLimit
  exact ⟨h.rex4, h.stateGrowth, h.dataSize, h.kvUpdate⟩

theorem openFrame (h : Paired gs gd gk l l') (input : FrameInput) (te : Bool) :
    Paired gs.push gd.push gk.push (l.openFrame input te) (l'.openFrame input te) := by
  apply Paired.checkLimit
  have hgrowth := StateGrowthTracker.paired_beforeFrameInit l.rex4 h.stateGrowth input te
  have hdata := AccountTracker.paired_beforeFrameInitBy constants.ACCOUNT_INFO_WRITE_SIZE l.rex4
    h.dataSize input
  have hkv := AccountTracker.paired_beforeFrameInitBy 1 l.rex4 h.kvUpdate input
  rw [← h.rex4]
  exact ⟨h.rex4, hgrowth, hdata, hkv⟩

theorem pushEmptyFrame (h : Paired gs gd gk l l') :
    Paired gs.push gd.push gk.push l.pushEmptyFrame l'.pushEmptyFrame := by
  have hgrowth := h.stateGrowth.pushFrameBy l.rex4 ()
  have hdata := h.dataSize.pushFrameBy l.rex4 ⟨none, false⟩
  have hkv := h.kvUpdate.pushFrameBy l.rex4 ⟨none, false⟩
  unfold AdditionalLimit.pushEmptyFrame
  rw [← h.rex4]
  exact ⟨h.rex4, hgrowth, hdata, hkv⟩

theorem afterFrameInitItem (h : Paired gs gd gk l l') (created : Option Address) :
    Paired gs gd gk (l.afterFrameInitItem created) (l'.afterFrameInitItem created) :=
  ⟨h.rex4, h.stateGrowth, AccountTracker.paired_afterFrameInitOnFrameBy _ h.dataSize created,
    AccountTracker.paired_afterFrameInitOnFrameBy _ h.kvUpdate created⟩

theorem countOutput (h : Paired gs gd gk l l') (isCreate : Bool) (action : InterpreterAction) :
    Paired gs gd gk (l.countOutput isCreate action) (l'.countOutput isCreate action) := by
  refine ⟨h.rex4, h.stateGrowth, ?_, h.kvUpdate⟩
  cases action with
  | newFrame i => exact h.dataSize
  | «return» r =>
    cases isCreate with
    | true => exact h.dataSize.recordDiscardable r.output.length
    | false => exact h.dataSize

theorem onLog (h : Paired gs gd gk l l') (numTopics dataSize : ℕ) :
    Paired gs gd gk (l.onLog numTopics dataSize) (l'.onLog numTopics dataSize) := by
  apply Paired.checkLimit
  exact ⟨h.rex4, h.stateGrowth, h.dataSize.recordDiscardable _, h.kvUpdate⟩

theorem closeFrame (h : Paired gs gd gk l l') (success : Bool) :
    Paired (gs.pop success) (gd.pop success) (gk.pop success) (l.closeFrame success)
      (l'.closeFrame success) := by
  apply Paired.checkLimit
  exact ⟨h.rex4, h.stateGrowth.popFrame success, h.dataSize.popFrame success,
    h.kvUpdate.popFrame success⟩

theorem onSstore (h : Paired gs gd gk l l') (hs : l.stateGrowth.frameStack ≠ [])
    (hd : l.dataSize.frameStack ≠ []) (hk : l.kvUpdate.frameStack ≠ []) (r : SStoreResult) :
    Paired (gs.post (StateGrowthTracker.slotAmount r))
      (gd.post (constants.STORAGE_SLOT_WRITE_SIZE * AccountTracker.slotAmount r))
      (gk.post (AccountTracker.slotAmount r)) (l.onSstore r) l' := by
  have hpaired : Paired (gs.post (StateGrowthTracker.slotAmount r))
      (gd.post (constants.STORAGE_SLOT_WRITE_SIZE * AccountTracker.slotAmount r))
      (gk.post (AccountTracker.slotAmount r))
      { l with
        stateGrowth := StateGrowthTracker.afterSstore l.stateGrowth r
        dataSize := DataSizeTracker.afterSstore l.dataSize r
        kvUpdate := KVUpdateTracker.afterSstore l.kvUpdate r } l' := by
    have hone := AccountTracker.paired_afterSstoreBy 1 h.kvUpdate hk r
    rw [Nat.cast_one, one_mul] at hone
    exact ⟨h.rex4, StateGrowthTracker.paired_afterSstore h.stateGrowth hs r,
      AccountTracker.paired_afterSstoreBy _ h.dataSize hd r, hone⟩
  constructor
  · rw [onSstore_rex4]
    exact h.rex4
  · rw [AdditionalLimit.onSstore, checkLimit_stateGrowth]
    exact hpaired.stateGrowth
  · rw [AdditionalLimit.onSstore, checkLimit_dataSize]
    exact hpaired.dataSize
  · rw [AdditionalLimit.onSstore, checkLimit_kvUpdate]
    exact hpaired.kvUpdate

end Paired

end AdditionalLimit

end MegaEvm
