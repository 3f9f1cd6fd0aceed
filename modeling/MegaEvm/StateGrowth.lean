import MegaEvm.StorageAccounting

/-!
# State growth against the journal

What the state-growth tracker counts, against the accounts and slots that come
into being: a value call to an empty account, a create frame and a slot write
each post at least what they bring about. SELFDESTRUCT posts nothing, and its
balance can go to an account that does not exist yet.
-/

set_option autoImplicit false

namespace MegaEvm

open Checkpoint PointCount

variable {env : JournalEnv} {excepted : Set Address} {before : Address → JournalAccount}

namespace StateGrowthTracker

open FrameLimitTracker

def openAmount (input : FrameInput) (targetEmpty : Bool) : ℤ :=
  match input with
  | .call i => if i.transfersValue && targetEmpty then 1 else 0
  | .create _ => 1

theorem ledger_beforeFrameInit (rex4 : Bool) (t : StateGrowthTracker) (input : FrameInput)
    (te : Bool) :
    (beforeFrameInit rex4 t input te).ledger = t.ledger.push.post (openAmount input te) := by
  have hne : (t.pushFrameBy rex4 ()).frameStack ≠ [] := by
    unfold pushFrameBy
    split <;> exact List.cons_ne_nil _ _
  cases input with
  | call i =>
    simp only [beforeFrameInit, openAmount]
    split
    · rw [ledger_recordDiscardable hne, ledger_pushFrameBy]
      rfl
    · rw [ledger_pushFrameBy, Ledger.post_zero]
  | create i =>
    simp only [beforeFrameInit, openAmount]
    rw [ledger_recordDiscardable hne, ledger_pushFrameBy]
    rfl

end StateGrowthTracker

namespace JournalAccount

theorem isEmpty_balance {a : JournalAccount} (h : a.isEmpty = true) : a.balance = 0 := by
  simp only [isEmpty, Bool.and_eq_true, beq_iff_eq] at h
  exact h.1.1

theorem isEmpty_sub {a : JournalAccount} (h : a.isEmpty = true) (value : ℕ) :
    ({ a with balance := a.balance - value } : JournalAccount).isEmpty = true := by
  simp only [isEmpty, Bool.and_eq_true, beq_iff_eq] at h ⊢
  obtain ⟨⟨hb, hn⟩, hc⟩ := h
  exact ⟨⟨by omega, hn⟩, hc⟩

theorem delegatedAddress_of_isEmpty {a : JournalAccount} (h : a.isEmpty = true) :
    a.delegatedAddress = none := by
  simp only [isEmpty, Bool.and_eq_true, beq_iff_eq] at h
  rw [delegatedAddress, h.2]

end JournalAccount

namespace JournalState

variable {j j' : JournalState}

/-- An account that comes into being: it is empty before the transaction, and not
empty now. -/
def Counts (excepted : Set Address) (before : Address → JournalAccount) (a : Address)
    (account : JournalAccount) : Prop :=
  a ∉ excepted ∧ (before a).isEmpty = true ∧ account.isEmpty = false

noncomputable def newAccounts (excepted : Set Address) (before : Address → JournalAccount)
    (j : JournalState) : ℕ :=
  count (Counts excepted before) j.accounts

/-- The accounts and slots that come into being. -/
noncomputable def growth (env : JournalEnv) (excepted : Set Address)
    (before : Address → JournalAccount) (j : JournalState) : ℤ :=
  (j.newAccounts excepted before : ℤ) + j.newSlots env

/-- Outside of `filled`, what was empty stays so. -/
def Fills (filled : Set Address) (j j' : JournalState) : Prop :=
  ∀ a, a ∉ filled → (j.accounts a).isEmpty = true → (j'.accounts a).isEmpty = true

def Settled (excepted : Set Address) (before : Address → JournalAccount)
    (filled : Set Address) : Prop :=
  ∀ a ∈ filled, a ∈ excepted ∨ (before a).isEmpty = false

namespace Fills

variable {filled : Set Address}

theorem counts (h : j.Fills filled j') {a : Address} (ha : a ∉ filled)
    (hc : Counts excepted before a (j'.accounts a)) : Counts excepted before a (j.accounts a) := by
  refine ⟨hc.1, hc.2.1, ?_⟩
  by_contra hne
  have hempty := h a ha (by simpa using hne)
  rw [hc.2.2] at hempty
  cases hempty

theorem counts_settled (h : j.Fills filled j') (hs : Settled excepted before filled) {a : Address}
    (hc : Counts excepted before a (j'.accounts a)) : Counts excepted before a (j.accounts a) := by
  by_cases ha : a ∈ filled
  · rcases hs a ha with hex | hbefore
    · exact absurd hex hc.1
    · have hempty := hc.2.1
      rw [hbefore] at hempty
      cases hempty
  · exact h.counts ha hc

theorem mono {filled' : Set Address} (h : j.Fills filled j') (hsub : filled ⊆ filled') :
    j.Fills filled' j' :=
  fun a ha => h a fun hin => ha (hsub hin)

theorem refl (j : JournalState) : j.Fills filled j := fun _ _ h => h

theorem trans {j'' : JournalState} (h : j.Fills filled j') (h' : j'.Fills filled j'') :
    j.Fills filled j'' :=
  fun a ha hempty => h' a ha (h a ha hempty)

end Fills

theorem fills_modifyAccount (j : JournalState) (address : Address)
    (f : JournalAccount → JournalAccount) : j.Fills {address} (j.modifyAccount address f) := by
  intro a ha hempty
  have hne : a ≠ address := ha
  simp only [modifyAccount, Function.update_of_ne hne]
  exact hempty

theorem fills_modifyAccount_of {f : JournalAccount → JournalAccount} (j : JournalState)
    (address : Address) (hf : (j.accounts address).isEmpty = true →
      (f (j.accounts address)).isEmpty = true) : j.Fills ∅ (j.modifyAccount address f) := by
  intro a _ hempty
  by_cases heq : a = address
  · subst heq
    simp only [modifyAccount, Function.update_self]
    exact hf hempty
  · simp only [modifyAccount, Function.update_of_ne heq]
    exact hempty

theorem fills_transfer (j : JournalState) (source target : Address) (value : ℕ) :
    j.Fills {target} (j.transfer source target value) := by
  unfold transfer
  split
  · have hsub : j.Fills ∅ (j.subBalance source value) :=
      fills_modifyAccount_of j source fun h => JournalAccount.isEmpty_sub h value
    apply Fills.trans (hsub.mono (Set.empty_subset _))
    exact fills_modifyAccount _ target _
  · exact Fills.refl j

theorem fills_transfer_of {source target : Address} {value : ℕ}
    (h : (j.accounts target).isEmpty = true → source = target ∨ value = 0) :
    j.Fills ∅ (j.transfer source target value) := by
  intro a ha hempty
  by_cases heq : a = target
  · subst heq
    unfold transfer
    split
    · rename_i hpaid
      have hzero : value = 0 := by
        rcases h hempty with rfl | hzero
        · have hbalance := JournalAccount.isEmpty_balance hempty
          omega
        · exact hzero
      subst hzero
      have hsame : (j.subBalance source 0).addBalance a 0 = j := by
        simp [subBalance, addBalance, modifyAccount]
      rw [hsame]
      exact hempty
    · exact hempty
  · exact fills_transfer j source target value a heq hempty

theorem fills_createAccount (j : JournalState) (creator created : Address) (value : ℕ) :
    j.Fills {created} (j.createAccount creator created value) := by
  have hsub : j.Fills ∅ (j.subBalance creator value) :=
    fills_modifyAccount_of j creator fun h => JournalAccount.isEmpty_sub h value
  apply Fills.trans (hsub.mono (Set.empty_subset _))
  exact fills_modifyAccount _ created _

def FewNew (excepted : Set Address) (before : Address → JournalAccount) (j : JournalState) : Prop :=
  {a | Counts excepted before a (j.accounts a)}.Finite

section Growth

variable {filled : Set Address}

theorem newSlots_of_slots (hs : j'.slots = j.slots) : j'.newSlots env = j.newSlots env := by
  have hvalue : j'.value env = j.value env := by
    ext key
    simp only [JournalState.value, hs]
  rw [newSlots, newSlots, hvalue]

theorem FewNew.settled (h : j.FewNew excepted before) (hf : j.Fills filled j')
    (hset : Settled excepted before filled) : j'.FewNew excepted before :=
  finite_of_imp h fun _ hc => hf.counts_settled hset hc

theorem FewNew.oneFilled (h : j.FewNew excepted before) {a : Address} (hf : j.Fills {a} j') :
    j'.FewNew excepted before :=
  finite_of_imp_ne h a fun _ hne hc => hf.counts hne hc

theorem growth_le (h : j.FewNew excepted before) (hs : j'.slots = j.slots)
    (hf : j.Fills filled j') (hset : Settled excepted before filled) :
    j'.growth env excepted before ≤ j.growth env excepted before := by
  have hle : j'.newAccounts excepted before ≤ j.newAccounts excepted before :=
    count_le h fun _ hc => hf.counts_settled hset hc
  rw [growth, growth, newSlots_of_slots hs]
  omega

theorem growth_le_succ (h : j.FewNew excepted before) (hs : j'.slots = j.slots) {a : Address}
    (hf : j.Fills {a} j') :
    j'.growth env excepted before ≤ j.growth env excepted before + 1 := by
  have hle : j'.newAccounts excepted before ≤ j.newAccounts excepted before + 1 :=
    count_le_succ h a fun _ hne hc => hf.counts hne hc
  rw [growth, growth, newSlots_of_slots hs]
  omega

theorem settled_empty : Settled excepted before ∅ := fun _ h => h.elim

end Growth

end JournalState

namespace JournalRun

open JournalState FrameLimitTracker

/-- The slot write goes to the slot it is counted for. -/
def Undelegated (env : JournalEnv) (j : JournalState) (address : Address) : Prop :=
  env.spec.isEnabled .rex4 = true ∨ (j.accounts address).delegatedAddress = none

/-- A destroyed account has nothing, or its balance goes to an account that is there
already or cannot count. -/
def SettledBalance (excepted : Set Address) (before : Address → JournalAccount)
    (j : JournalState) (address target : Address) : Prop :=
  target = address ∨ (j.accounts address).balance = 0 ∨
    (j.accounts target).isEmpty = false ∨ target ∈ excepted ∨ (before target).isEmpty = false

def GrowthCounted (env : JournalEnv) (excepted : Set Address) (before : Address → JournalAccount)
    (w : JournalRun) : JournalOp → Prop
  | .sstore address _ _ => Undelegated env w.journal address
  | .selfdestruct address target => SettledBalance excepted before w.journal address target
  | _ => True

structure Grown (env : JournalEnv) (excepted : Set Address) (before : Address → JournalAccount)
    (w : JournalRun) : Prop where
  slots : SlotsKept env w
  fewNew : w.journal.FewNew excepted before
  opened : ∀ c ∈ w.checkpoints, c.FewNew excepted before
  discardable : w.limit.stateGrowth.Discardable
  covered : w.Keeps (0 ≤ ·) (growth env excepted before) w.limit.stateGrowth.ledger

namespace Grown

variable {w w' : JournalRun}

theorem kept (h : Grown env excepted before w) {filled : Set Address}
    (hset : Settled excepted before filled) (hl : w'.limit.stateGrowth = w.limit.stateGrowth)
    (hc : w'.checkpoints = w.checkpoints) (hs : w'.journal.slots = w.journal.slots)
    (hf : w.journal.Fills filled w'.journal) : Grown env excepted before w' := by
  constructor
  · exact h.slots.moved hc hs
  · exact h.fewNew.settled hf hset
  · rw [hc]
    exact h.opened
  · rw [hl]
    exact h.discardable
  · have hle := @growth_le env _ _ _ _ _ h.fewNew hs hf hset
    have hposted : w'.Keeps (0 ≤ ·) (growth env excepted before)
        (w.limit.stateGrowth.ledger.post 0) := by
      apply h.covered.posted hc
      intro x hx
      omega
    rw [Ledger.post_zero] at hposted
    rw [hl]
    exact hposted

theorem openFrame (h : Grown env excepted before w) {j : JournalState} {filled : Set Address}
    {amount : ℤ} (hset : Settled excepted before filled) (hs : j.slots = w.journal.slots)
    (hf : w.journal.Fills filled j) (hc : w'.checkpoints = j :: w.checkpoints)
    (hs' : w'.journal.slots = j.slots) (hfew : w'.journal.FewNew excepted before)
    (hle : w'.journal.growth env excepted before ≤ j.growth env excepted before + amount)
    (hd : w'.limit.stateGrowth.Discardable)
    (hl : w'.limit.stateGrowth.ledger = w.limit.stateGrowth.ledger.push.post amount) :
    Grown env excepted before w' := by
  constructor
  · exact h.slots.openFrame hc hs (hs'.trans hs)
  · exact hfew
  · intro c hmem
    rw [hc] at hmem
    rcases List.mem_cons.1 hmem with rfl | hmem
    · exact h.fewNew.settled hf hset
    · exact h.opened c hmem
  · exact hd
  · have hmoved : Grown env excepted before { w with journal := j } :=
      h.kept hset rfl rfl hs hf
    have hopened : JournalRun.Keeps (0 ≤ ·) (growth env excepted before)
        w.limit.stateGrowth.ledger.push (JournalRun.openFrame { w with journal := j } j) :=
      hmoved.covered.opened rfl rfl rfl
    rw [hl]
    apply hopened.posted hc
    intro x hx
    show 0 ≤ x + (amount - (w'.journal.growth env excepted before -
      j.growth env excepted before))
    omega

theorem discardable_openFrame (h : w.limit.stateGrowth.Discardable) (input : FrameInput)
    (te : Bool) : (w.limit.openFrame input te).stateGrowth.Discardable := by
  have hpush : (w.limit.stateGrowth.pushFrameBy w.limit.rex4 ()).Discardable := by
    unfold FrameLimitTracker.pushFrameBy
    split <;> exact h.pushFrameWithLimit _ ()
  have hrecord {t : StateGrowthTracker} (ht : t.Discardable) :
      (t.recordDiscardable 1).Discardable := ht.modifyFrame fun _ => rfl
  rw [AdditionalLimit.openFrame, AdditionalLimit.checkLimit_stateGrowth]
  cases input with
  | call i =>
    simp only [StateGrowthTracker.beforeFrameInit]
    split
    · exact hrecord hpush
    · exact hpush
  | create i => exact hrecord hpush

theorem ledger_openFrame (w : JournalRun) (input : FrameInput) (te : Bool) :
    (w.limit.openFrame input te).stateGrowth.ledger =
      w.limit.stateGrowth.ledger.push.post (StateGrowthTracker.openAmount input te) := by
  rw [AdditionalLimit.openFrame, AdditionalLimit.checkLimit_stateGrowth]
  exact StateGrowthTracker.ledger_beforeFrameInit _ _ _ _

theorem call (h : Grown env excepted before w) (i : CallInputs) :
    Grown env excepted before
      { (w.hook fun l => l.openFrame (.call i) (callTargetEmpty env w.journal i)).openFrame
          w.journal with
        journal := w.journal.callTransfer i } := by
  have hslots : (w.journal.callTransfer i).slots = w.journal.slots :=
    (moved_callTransfer w.journal i).1
  by_cases hcounts : i.transfersValue = true ∧ callTargetEmpty env w.journal i = true
  · have hamount : StateGrowthTracker.openAmount (.call i) (callTargetEmpty env w.journal i) = 1 := by
      simp [StateGrowthTracker.openAmount, hcounts]
    have hfills : w.journal.Fills {i.targetAddress} (w.journal.callTransfer i) := by
      unfold callTransfer
      split
      · exact fills_transfer _ _ _ _
      · exact Fills.refl _
    apply h.openFrame settled_empty rfl (Fills.refl _) rfl hslots
    · exact h.fewNew.oneFilled hfills
    · exact growth_le_succ h.fewNew hslots hfills
    · exact discardable_openFrame h.discardable _ _
    · rw [← hamount]
      exact ledger_openFrame w _ _
  · have hamount : StateGrowthTracker.openAmount (.call i) (callTargetEmpty env w.journal i) = 0 := by
      simp only [StateGrowthTracker.openAmount, Bool.and_eq_true, if_neg hcounts]
    have hfills : w.journal.Fills ∅ (w.journal.callTransfer i) := by
      unfold callTransfer
      split
      · rename_i value hvalue
        apply fills_transfer_of
        intro hempty
        right
        -- an empty account is not delegated, so it is the one that is looked at
        have htarget : callTargetEmpty env w.journal i = true := by
          rw [callTargetEmpty, inspectAccountDelegated,
            JournalAccount.delegatedAddress_of_isEmpty hempty]
          exact hempty
        by_contra hpos
        apply hcounts
        refine ⟨?_, htarget⟩
        simp only [CallInputs.transfersValue, hvalue, decide_eq_true_eq]
        omega
      · exact Fills.refl _
    apply h.openFrame settled_empty rfl (Fills.refl _) rfl hslots
    · exact h.fewNew.settled hfills settled_empty
    · rw [add_zero]
      exact growth_le h.fewNew hslots hfills settled_empty
    · exact discardable_openFrame h.discardable _ _
    · rw [← hamount]
      exact ledger_openFrame w _ _

theorem create (h : Grown env excepted before w) (hsender : env.sender ∈ excepted)
    {creator : Address} (hmay : mayCreate env w.journal creator = true) (created : Address)
    (value : ℕ) (i : CreateInputs) :
    Grown env excepted before (w.create creator created value i) := by
  have hbumped : w.journal.Fills {creator} (w.journal.bumpNonce creator) :=
    fills_modifyAccount _ _ _
  -- the creator is there already, or it is the sender
  have hfills : w.journal.Fills ({creator} ∩ excepted) (w.journal.bumpNonce creator) := by
    intro a ha hempty
    apply hbumped a _ hempty
    intro heq
    obtain rfl : a = creator := heq
    simp only [mayCreate, hempty, Bool.not_true, Bool.false_or, beq_iff_eq] at hmay
    exact ha ⟨rfl, hmay ▸ hsender⟩
  have hset : Settled excepted before ({creator} ∩ excepted) := fun a ha => .inl ha.2
  have hkept := (moved_bumpNonce w.journal creator).1
  have hdiscardable := discardable_openFrame h.discardable (.create i) false
  have hledger := ledger_openFrame w (.create i) false
  have hnone {j : JournalState} (hj : w.journal.Fills ({creator} ∩ excepted) j) :
      j.FewNew excepted before := h.fewNew.settled hj hset
  simp only [JournalRun.create]
  split
  · refine h.openFrame settled_empty rfl (Fills.refl w.journal) rfl rfl h.fewNew ?_
      hdiscardable hledger
    show w.journal.growth env excepted before ≤ w.journal.growth env excepted before + 1
    omega
  · split
    · refine h.openFrame hset hkept hfills rfl rfl (hnone hfills) ?_ hdiscardable hledger
      show (w.journal.bumpNonce creator).growth env excepted before ≤
        (w.journal.bumpNonce creator).growth env excepted before + 1
      omega
    · have hcreated := fills_createAccount (w.journal.bumpNonce creator) creator created value
      have hslots := (moved_createAccount (w.journal.bumpNonce creator) creator created value).1
      refine h.openFrame hset hkept hfills rfl hslots ?_ ?_ hdiscardable hledger
      · exact (hnone hfills).oneFilled hcreated
      · exact growth_le_succ (hnone hfills) hslots hcreated

theorem sstore (h : Grown env excepted before w) (hne : w.checkpoints ≠ []) (key : SlotKey)
    (v : ℕ) (hdirect : Undelegated env w.journal key.1) :
    Grown env excepted before (w.sstore env key v) := by
  rw [h.slots.sstore_eq key v hdirect]
  have hopen : w.limit.stateGrowth.frameStack ≠ [] := by
    intro hnil
    have hlength := Ledger.Slack.length h.covered
    rw [FrameLimitTracker.length_ledger, List.length_map] at hlength
    simp only [FrameLimitTracker.height, hnil, List.length_nil] at hlength
    exact hne (List.eq_nil_of_length_eq_zero hlength.symm)
  constructor
  · exact h.slots.store rfl rfl
  · exact h.fewNew
  · exact h.opened
  · rw [AdditionalLimit.onSstore, AdditionalLimit.checkLimit_stateGrowth]
    simp only [StateGrowthTracker.afterSstore]
    split
    · exact h.discardable.modifyFrame fun _ => rfl
    · exact h.discardable.modifyFrame fun _ => rfl
    · exact h.discardable
  · rw [AdditionalLimit.onSstore, AdditionalLimit.checkLimit_stateGrowth]
    simp only
    rw [StateGrowthTracker.ledger_afterSstore hopen]
    refine h.covered.posted rfl ?_
    intro x hx
    have hstored := newSlots_store h.slots.clean key v
    have haccounts : (w.journal.store env key v).newAccounts excepted before =
        w.journal.newAccounts excepted before := rfl
    simp only [growth, hstored, haccounts]
    omega

theorem closeFrame (h : Grown env excepted before w) {opened : JournalState}
    {checkpoints : List JournalState} (hc : w.checkpoints = opened :: checkpoints)
    (success : Bool) : Grown env excepted before
      { w.hook fun l => l.closeFrame success with
        journal := if success then w.journal else w.journal.revertTo opened
        checkpoints := checkpoints } := by
  have hmem : opened ∈ w.checkpoints := by
    rw [hc]
    exact List.mem_cons_self
  have hgrowth : (w.journal.revertTo opened).growth env excepted before =
      opened.growth env excepted before := by
    rw [growth, growth, newSlots, newSlots, h.slots.value_revertTo hmem]
    rfl
  constructor
  · exact h.slots.closeFrame hc rfl
  · cases success with
    | true => exact h.fewNew
    | false => exact h.opened opened hmem
  · intro c hin
    exact h.opened c (hc ▸ List.mem_cons_of_mem _ hin)
  · simp only [hook, AdditionalLimit.closeFrame, AdditionalLimit.checkLimit_stateGrowth]
    exact h.discardable.popFrame success
  · have hledger := ledger_popFrame h.discardable success
    have hclosed : JournalRun.Keeps (0 ≤ ·) (growth env excepted before)
        (w.limit.stateGrowth.ledger.pop success)
        { w.hook fun l => l.closeFrame success with
          journal := if success then w.journal else w.journal.revertTo opened
          checkpoints := checkpoints } := by
      refine h.covered.closed hc ?_
      cases success with
      | true => rfl
      | false => simp [hgrowth]
    rw [← hledger] at hclosed
    simp only [hook, AdditionalLimit.closeFrame, AdditionalLimit.checkLimit_stateGrowth]
    exact hclosed

theorem selfdestruct (h : Grown env excepted before w) {address target : Address}
    (hok : SettledBalance excepted before w.journal address target) :
    Grown env excepted before { w with journal := w.journal.selfdestruct address target } := by
  have hslots := (moved_selfdestruct w.journal address target).1
  have hstays (hsafe : (w.journal.accounts target).isEmpty = true → address = target ∨
      (w.journal.accounts address).balance = 0) :
      w.journal.Fills ∅ (w.journal.selfdestruct address target) := by
    unfold JournalState.selfdestruct
    split
    · exact Fills.refl _
    · exact fills_transfer_of hsafe
  rcases hok with hself | hzero | hthere | hcannot
  · refine h.kept settled_empty rfl rfl hslots ?_
    exact hstays fun _ => .inl hself.symm
  · refine h.kept settled_empty rfl rfl hslots ?_
    exact hstays fun _ => .inr hzero
  · refine h.kept settled_empty rfl rfl hslots ?_
    apply hstays
    intro hempty
    rw [hthere] at hempty
    cases hempty
  · have hset : Settled excepted before {target} := by
      rintro a rfl
      exact hcannot
    have hfills : w.journal.Fills {target} (w.journal.selfdestruct address target) := by
      unfold JournalState.selfdestruct
      split
      · exact Fills.refl _
      · exact fills_transfer _ _ _ _
    refine h.kept hset rfl rfl hslots ?_
    exact hfills

theorem deploy (h : Grown env excepted before w) {created : Address}
    (hnonce : (w.journal.accounts created).nonce ≠ 0) :
    Grown env excepted before
      { w with journal := w.journal.modifyAccount created fun a => { a with code := .legacy } } := by
  have hfills : w.journal.Fills ∅
      (w.journal.modifyAccount created fun a => { a with code := .legacy }) := by
    apply fills_modifyAccount_of
    intro hempty
    simp only [JournalAccount.isEmpty, Bool.and_eq_true, beq_iff_eq] at hempty
    exact absurd hempty.1.2 hnonce
  refine h.kept settled_empty rfl rfl rfl ?_
  exact hfills

theorem step (h : Grown env excepted before w) (hsender : env.sender ∈ excepted)
    {op : JournalOp} (hok : GrowthCounted env excepted before w op)
    (hs : JournalRun.step env w op = some w') : Grown env excepted before w' := by
  have hhook {f : AdditionalLimit → AdditionalLimit}
      (hf : (f w.limit).stateGrowth = w.limit.stateGrowth) :
      Grown env excepted before (w.hook f) :=
    h.kept settled_empty hf rfl rfl (Fills.refl _)
  cases step_cases hs with
  | call i => exact h.call i
  | create may => exact h.create hsender may _ _ _
  | answered =>
    refine h.openFrame settled_empty rfl (Fills.refl w.journal) rfl rfl h.fewNew
      (le_of_eq (add_zero _).symm) ?_ ?_
    · show (w.limit.stateGrowth.pushFrameBy w.limit.rex4 ()).Discardable
      unfold FrameLimitTracker.pushFrameBy
      split <;> exact h.discardable.pushFrameWithLimit _ ()
    · rw [Ledger.post_zero]
      exact ledger_pushFrameBy w.limit.rex4 ()
  | deploy nonce => exact h.deploy nonce
  | sstore inFrame => exact h.sstore inFrame _ _ hok
  | selfdestruct => exact h.selfdestruct hok
  | log numTopics dataSize =>
    apply hhook
    rw [AdditionalLimit.onLog, AdditionalLimit.checkLimit_stateGrowth]
  | compute gas =>
    apply hhook
    exact AdditionalLimit.recordComputeGas_stateGrowth gas
  | output isCreate action => exact hhook rfl
  | close top => exact h.closeFrame top _

end Grown

theorem grown_start (limits : EvmTxRuntimeLimits) (tx : MegaTransaction)
    {accounts : Address → JournalAccount} (accessList : List SlotKey)
    (hbefore : ∀ a, a ∉ excepted → before a = accounts a) :
    Grown env excepted before (start env limits tx accounts accessList) := by
  have hnone : {a | Counts excepted before a
      ((start env limits tx accounts accessList).journal.accounts a)} = ∅ := by
    ext a
    constructor
    · rintro ⟨hex, hempty, hthere⟩
      rw [hbefore a hex] at hempty
      exact absurd (hempty.symm.trans hthere) (by decide)
    · exact fun h => h.elim
  constructor
  · exact slotsKept_start limits tx accounts accessList
  · rw [FewNew, hnone]
    exact Set.finite_empty
  · intro c hc
    simp [start] at hc
  · simp only [start, AdditionalLimit.beforeTxStart, AdditionalLimit.checkLimit_stateGrowth]
    intro e he
    simp [AdditionalLimit.reset, FrameLimitTracker.reset] at he
  · have hvalue := @value_start env limits tx accounts accessList
    have hnew : (start env limits tx accounts accessList).journal.newSlots env = 0 := by
      simp [newSlots, count, hvalue]
    have hgrowth : (start env limits tx accounts accessList).journal.growth env excepted before =
        0 := by
      rw [growth, hnew, newAccounts, count, hnone, Set.ncard_empty]
      rfl
    simp only [start, AdditionalLimit.beforeTxStart, AdditionalLimit.checkLimit_stateGrowth]
    show (0 : ℤ) ≤ 0 - (start env limits tx accounts accessList).journal.growth env excepted before
    rw [hgrowth, sub_zero]

/-- The growth that is counted covers the accounts and the slots that came into
being, as long as no destroyed account's balance brings one into being and no slot
is counted for another account. -/
theorem state_growth_covers (limits : EvmTxRuntimeLimits) (tx : MegaTransaction)
    (accounts : Address → JournalAccount) (accessList : List SlotKey) (ops : List JournalOp)
    (w : JournalRun) (hsender : env.sender ∈ excepted)
    (hbefore : ∀ a, a ∉ excepted → before a = accounts a)
    (hok : Run.Guarded (step env) (GrowthCounted env excepted before)
      (start env limits tx accounts accessList) ops)
    (hrun : Run.run (step env) (start env limits tx accounts accessList) ops = some w) :
    {a | a ∉ excepted ∧ (before a).isEmpty = true ∧
        (w.journal.accounts a).isEmpty = false}.Finite ∧
    {key | env.storage key = 0 ∧ w.journal.value env key ≠ 0}.Finite ∧
    {a | a ∉ excepted ∧ (before a).isEmpty = true ∧
        (w.journal.accounts a).isEmpty = false}.ncard +
      {key | env.storage key = 0 ∧ w.journal.value env key ≠ 0}.ncard ≤
        w.limit.stateGrowth.netUsage := by
  have hw : Grown env excepted before w := by
    apply Run.invariant _ (grown_start limits tx accessList hbefore) hok hrun
    intro w op w' h hop hs
    exact h.step hsender hop hs
  refine ⟨hw.fewNew, hw.slots.clean.newSlots_finite, ?_⟩
  have hcovered := Ledger.Slack.total hw.covered
  have hnet := total_le_netUsage (t := w.limit.stateGrowth)
  have hgrowth : (((w.journal.newAccounts excepted before + w.journal.newSlots env : ℕ)) : ℤ) =
      w.journal.growth env excepted before := by
    rw [growth]
    push_cast
    rfl
  have hle : w.journal.newAccounts excepted before + w.journal.newSlots env ≤
      w.limit.stateGrowth.netUsage := by
    omega
  exact hle

/-- A value call fills an account, a slot is written, and the balance of a destroyed
account goes to the sender. -/
theorem state_growth_covers_call :
    let env : JournalEnv := ⟨.rex4, 1, fun _ => 0, 0⟩
    let tx : MegaTransaction := ⟨1, .call 7, 0, .other, 0, 0, 0, [], 1000000⟩
    let accounts : Address → JournalAccount := fun a =>
      if a = 1 ∨ a = 7 then ⟨10, 1, .legacy, false⟩ else ⟨0, 0, .empty, false⟩
    let ops : List JournalOp := [.call ⟨.call, 1, 7, .transfer 0, .other, 1000000⟩,
      .call ⟨.call, 7, 9, .transfer 3, .other, 1000000⟩, .close true, .sstore 7 0 5,
      .selfdestruct 7 1, .close true]
    ∃ w, Run.run (step env) (start env .noLimits tx accounts []) ops = some w ∧
      {a | a ∉ ({1} : Set Address) ∧ (accounts a).isEmpty = true ∧
          (w.journal.accounts a).isEmpty = false}.ncard +
        {key | env.storage key = 0 ∧ w.journal.value env key ≠ 0}.ncard ≤
          w.limit.stateGrowth.netUsage ∧ w.limit.stateGrowth.netUsage = 2 := by
  intro env tx accounts ops
  have hok : Run.Guarded (step env) (GrowthCounted env {1} accounts)
      (start env .noLimits tx accounts []) ops := by
    refine ⟨trivial, ?_⟩
    rintro _ ⟨⟩
    refine ⟨trivial, ?_⟩
    rintro _ ⟨⟩
    refine ⟨trivial, ?_⟩
    rintro _ ⟨⟩
    refine ⟨.inl rfl, ?_⟩
    rintro _ ⟨⟩
    refine ⟨.inr (.inr (.inl rfl)), ?_⟩
    rintro _ ⟨⟩
    exact ⟨trivial, fun _ _ => trivial⟩
  have hsender : env.sender ∈ ({1} : Set Address) := rfl
  refine ⟨_, rfl, ?_, by decide⟩
  exact (state_growth_covers .noLimits tx accounts [] ops _ hsender (fun _ _ => rfl) hok rfl).2.2

/-- The balance of a destroyed account goes to one that did not exist. -/
theorem state_growth_missed :
    let env : JournalEnv := ⟨.rex2, 1, fun _ => 0, 0⟩
    let tx : MegaTransaction := ⟨1, .call 7, 0, .other, 0, 0, 0, [], 1000000⟩
    let accounts : Address → JournalAccount := fun a =>
      if a = 1 ∨ a = 7 then ⟨10, 1, .legacy, false⟩ else ⟨0, 0, .empty, false⟩
    let ops : List JournalOp :=
      [.call ⟨.call, 1, 7, .transfer 0, .other, 1000000⟩, .selfdestruct 7 9, .close true]
    ∃ w, Run.run (step env) (start env .noLimits tx accounts []) ops = some w ∧
      w.limit.hasExceededLimit = .withinLimit ∧
      ¬ {a | a ∉ ({1} : Set Address) ∧ (accounts a).isEmpty = true ∧
          (w.journal.accounts a).isEmpty = false}.ncard +
        {key | env.storage key = 0 ∧ w.journal.value env key ≠ 0}.ncard ≤
          w.limit.stateGrowth.netUsage := by
  intro env tx accounts ops
  let opened := (start env .noLimits tx accounts []).journal.callTransfer
    ⟨.call, 1, 7, .transfer 0, .other, 1000000⟩
  have hcall : JournalState.Fills {7} ⟨accounts, fun _ => none⟩ opened := fills_transfer _ _ _ _
  have hdestroyed : opened.Fills {9} (opened.selfdestruct 7 9) :=
    fills_transfer opened 7 9 (opened.accounts 7).balance
  have hfinite : {a | a ∉ ({1} : Set Address) ∧ (accounts a).isEmpty = true ∧
      ((opened.selfdestruct 7 9).accounts a).isEmpty = false}.Finite := by
    apply (Set.toFinite ({7, 9} : Set Address)).subset
    rintro a ⟨_, hempty, hthere⟩
    by_contra hne
    have hopened := hcall a (fun h => hne (.inl h)) hempty
    have hafter := hdestroyed a (fun h => hne (.inr h)) hopened
    rw [hthere] at hafter
    cases hafter
  have hpos : 0 < {a | a ∉ ({1} : Set Address) ∧ (accounts a).isEmpty = true ∧
      ((opened.selfdestruct 7 9).accounts a).isEmpty = false}.ncard := by
    rw [Set.ncard_pos hfinite]
    refine ⟨9, by simp, by decide, by decide⟩
  refine ⟨_, rfl, by decide, ?_⟩
  intro hle
  have hcount := Nat.lt_of_lt_of_le hpos ((Nat.le_add_right _ _).trans hle)
  revert hcount
  decide

end JournalRun

end MegaEvm
