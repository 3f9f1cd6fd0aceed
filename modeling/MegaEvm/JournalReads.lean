import MegaEvm.Library.Reading
import MegaEvm.JournalInspect
import MegaEvm.SandboxContext

/-!
# What the journal reads and reports

The interpreter asks the journal, and the journal asks the database for what it does
not hold; the wrappers of the instructions look accounts and slots up on their own.
Every lookup reports what it reads, by an entry of the returned state or of the gas
cache, but one: before the last spec a slot that is inspected for a delegated account
is read of that account, and entered under the one it is delegated to.

The world hands over an account with its code, which its hash determines.
-/

set_option autoImplicit false

namespace MegaEvm

open KeyedFold Reading

section Reads

inductive Read where
  | account (a : Address)
  | slot (a : Address) (key : ℕ)
  | blockHash (number : ℕ)
  | bucket (id : ℕ)
  deriving DecidableEq, Repr

abbrev Read.Value : Read → Type
  | .account _ => Option AccountInfo
  | .slot .. => ℕ
  | .blockHash _ => ℕ
  | .bucket _ => ℕ

abbrev Reads (α : Type) := Prog Read.Value α

structure TxState where
  journal : EvmState
  bucketCostMultipliers : Map ℕ ℕ

def InState (state : EvmState) : Read → Prop
  | .account a => (state.lookup a).isSome = true
  | .slot a key => ∃ acc, state.lookup a = some acc ∧ (acc.slot key).isSome = true
  | .blockHash _ => False
  | .bucket _ => False

theorem inState_account {state : EvmState} {a : Address} :
    InState state (.account a) ↔ (state.lookup a).isSome = true := Iff.rfl

/-- The read set of a transaction that ends with `s`; block hashes are reported by
the database they are asked of. -/
def Reported (s : TxState) : Read → Prop
  | .account a => InState s.journal (.account a)
  | .slot a key => InState s.journal (.slot a key)
  | .blockHash _ => True
  | .bucket id => (s.bucketCostMultipliers.lookup id).isSome = true

/-- In `w` the program reports all that was reported before, and what it reads but for
the `past` reads. -/
structure ReportsBut {α : Type} (past : Read → Prop) (w : World Read.Value) (s : TxState)
    (p : Reads (α × TxState)) : Prop where
  keeps : ∀ r, Reported s r → Reported (run w p).2 r
  covers : ∀ r ∈ reads w p, Reported (run w p).2 r ∨ past r

abbrev Reports {α : Type} (w : World Read.Value) (s : TxState) (p : Reads (α × TxState)) :=
  ReportsBut (fun _ => False) w s p

variable {α β : Type} {past past' : Read → Prop} {w : World Read.Value} {s : TxState}

theorem ReportsBut.mono {p : Reads (α × TxState)} (h : ReportsBut past w s p)
    (hpast : ∀ r, past r → past' r) : ReportsBut past' w s p where
  keeps := h.keeps
  covers r hr := (h.covers r hr).imp_right (hpast r)

theorem Reports.but {p : Reads (α × TxState)} (h : Reports w s p) : ReportsBut past w s p :=
  h.mono fun _ hr => hr.elim

theorem reports_done (w : World Read.Value) (s : TxState) (a : α) :
    Reports w s (.done (a, s)) where
  keeps r hr := hr
  covers r hr := by cases hr

theorem ReportsBut.bind {p : Reads (α × TxState)} {f : α × TxState → Reads (β × TxState)}
    (hp : ReportsBut past w s p) (hf : ReportsBut past w (run w p).2 (f (run w p))) :
    ReportsBut past w s (p.bind f) := by
  constructor
  · intro r hr
    rw [run_bind]
    exact hf.keeps r (hp.keeps r hr)
  · intro r hr
    rw [reads_bind, List.mem_append] at hr
    rw [run_bind]
    rcases hr with hr | hr
    · exact (hp.covers r hr).imp_left (hf.keeps r)
    · exact hf.covers r hr

theorem ReportsBut.map {p : Reads (α × TxState)} (h : ReportsBut past w s p) (f : α → β) :
    ReportsBut past w s (p.bind fun x => .done (f x.1, x.2)) :=
  h.bind (reports_done w _ _).but

end Reads

section Entries

namespace TxState

def put (s : TxState) (a : Address) (account : Account) : TxState :=
  { s with journal := s.journal.insert a account }

def entry (s : TxState) (a : Address) : Account := (s.journal.lookup a).getD default

def setAccount (s : TxState) (a : Address) (info : AccountInfo) (status : AccountStatus) :
    TxState :=
  match s.journal.lookup a with
  | some account => s.put a { account with info := info, status := status }
  | none => s

def putSlot (s : TxState) (a : Address) (key : ℕ) (slot : EvmStorageSlot) : TxState :=
  match s.journal.lookup a with
  | some account => s.put a { account with storage := account.storage.insert key slot }
  | none => s

end TxState

variable {s : TxState} {a : Address} {account : Account}

theorem Account.slot_insert (account : Account) (key key' : ℕ) (slot : EvmStorageSlot) :
    ({ account with storage := account.storage.insert key slot } : Account).slot key' =
      if key' = key then some slot.presentValue else account.slot key' := by
  unfold Account.slot
  split
  · next h =>
    rw [h, AList.lookup_insert]
    rfl
  · next h => rw [AList.lookup_insert_ne h]

theorem reported_put (h : ∀ old key, s.journal.lookup a = some old →
    (old.slot key).isSome = true → (account.slot key).isSome = true) {r : Read}
    (hr : Reported s r) : Reported (s.put a account) r := by
  cases r with
  | account b =>
    by_cases hb : b = a
    · subst hb
      simp [Reported, InState, TxState.put]
    · simpa [Reported, InState, TxState.put, AList.lookup_insert_ne hb] using hr
  | slot b key =>
    obtain ⟨old, hl, hslot⟩ := hr
    by_cases hb : b = a
    · subst hb
      exact ⟨account, AList.lookup_insert _, h old key hl hslot⟩
    · refine ⟨old, ?_, hslot⟩
      rw [TxState.put, AList.lookup_insert_ne hb]
      exact hl
  | blockHash n => trivial
  | bucket id => exact hr

theorem reported_put_self (s : TxState) (a : Address) (account : Account) :
    Reported (s.put a account) (.account a) := by
  simp [Reported, InState, TxState.put]

theorem reported_setAccount {info : AccountInfo} {status : AccountStatus} {r : Read}
    (hr : Reported s r) : Reported (s.setAccount a info status) r := by
  unfold TxState.setAccount
  cases hl : s.journal.lookup a with
  | none => exact hr
  | some account =>
    apply reported_put _ hr
    intro old key hold hslot
    obtain rfl : account = old := Option.some.inj (hl.symm.trans hold)
    exact hslot

theorem reported_putSlot {key : ℕ} {slot : EvmStorageSlot} {r : Read} (hr : Reported s r) :
    Reported (s.putSlot a key slot) r := by
  unfold TxState.putSlot
  cases hl : s.journal.lookup a with
  | none => exact hr
  | some account =>
    apply reported_put _ hr
    intro old key' hold hslot
    obtain rfl : account = old := Option.some.inj (hl.symm.trans hold)
    rw [Account.slot_insert]
    split
    · rfl
    · exact hslot

theorem reported_putSlot_self {key : ℕ} {slot : EvmStorageSlot} (ha : Reported s (.account a)) :
    Reported (s.putSlot a key slot) (.slot a key) := by
  obtain ⟨account, hl⟩ := Option.isSome_iff_exists.1 ha
  refine ⟨{ account with storage := account.storage.insert key slot }, ?_, ?_⟩
  · simp [TxState.putSlot, hl, TxState.put]
  · rw [Account.slot_insert, if_pos rfl]
    rfl

end Entries

section Lookups

/-- The account a database answers with. -/
def answered : Option AccountInfo → Account
  | some info => .ofInfo info
  | none => .newNotExisting 0

namespace TxState

/-- An account of the journal, or one that is read and entered with a mark. -/
def lookUp (mark : Account → Account) (s : TxState) (a : Address) : Reads (Account × TxState) :=
  match s.journal.lookup a with
  | some account => .done (account, s)
  | none => .read (.account a) fun info =>
    .done (mark (answered info), s.put a (mark (answered info)))

def loadAccount : TxState → Address → Reads (Account × TxState) := lookUp id

def inspectAccount : TxState → Address → Reads (Account × TxState) := lookUp Account.withColdMark

/-- The journal's `sload`: the slots of a created account are zero. -/
def loadSlot (s : TxState) (a : Address) (key : ℕ) : Reads (EvmStorageSlot × TxState) :=
  (s.loadAccount a).bind fun x =>
    match x.1.storage.lookup key with
    | some slot => .done (slot, x.2)
    | none =>
      if x.1.isCreated then
        .done (EvmStorageSlot.new 0 0, x.2.putSlot a key (EvmStorageSlot.new 0 0))
      else .read (.slot a key) fun value =>
        .done (EvmStorageSlot.new value 0, x.2.putSlot a key (EvmStorageSlot.new value 0))

/-- The loop of `inspect_account_delegated`, with the address it stops at. -/
def followDelegation : ℕ → TxState → Address → List Address → Reads (Address × TxState)
  | 0, s, current, _ => (s.inspectAccount current).bind fun x => .done (current, x.2)
  | hops + 1, s, current, visited =>
    (s.inspectAccount current).bind fun x =>
      match x.1.delegatedAddress with
      | none => .done (current, x.2)
      | some next =>
        if next ∈ visited then .done (current, x.2)
        else followDelegation hops x.2 next (visited ++ [current])

/-- The address whose entry `inspect_account_delegated` returns; `hops` bounds the
delegations that are followed. -/
def inspectAccountDelegated (spec : MegaSpecId) (hops : ℕ) (s : TxState) (a : Address) :
    Reads (Address × TxState) :=
  (s.inspectAccount a).bind fun x =>
    match x.1.delegatedAddress with
    | none => .done (a, x.2)
    | some delegated =>
      if spec.isEnabled .rex4 then
        (x.2.inspectAccount delegated).bind fun y => .done (delegated, y.2)
      else followDelegation hops x.2 delegated [a]

def inspectStorageAccount (spec : MegaSpecId) (hops : ℕ) (s : TxState) (a : Address) :
    Reads (Address × TxState) :=
  if spec.isEnabled .rex4 then (s.inspectAccount a).bind fun x => .done (a, x.2)
  else s.inspectAccountDelegated spec hops a

/-- The slot is read of `a`, and entered where it was looked for. -/
def inspectStorage (spec : MegaSpecId) (hops : ℕ) (s : TxState) (a : Address) (key : ℕ) :
    Reads (EvmStorageSlot × TxState) :=
  (s.inspectStorageAccount spec hops a).bind fun x =>
    match (x.2.entry x.1).storage.lookup key with
    | some slot =>
      (x.2.inspectStorageAccount spec hops a).bind fun y => .done (slot, y.2)
    | none => .read (.slot a key) fun value =>
      let slot := (EvmStorageSlot.new value 0).markCold
      (x.2.inspectStorageAccount spec hops a).bind fun y =>
        .done (slot, y.2.putSlot y.1 key slot)

end TxState

variable {w : World Read.Value} {s s' : TxState} {a : Address} {key hops : ℕ} {spec : MegaSpecId}

theorem reports_lookUp (mark : Account → Account) (w : World Read.Value) (s : TxState)
    (a : Address) : Reports w s (s.lookUp mark a) := by
  unfold TxState.lookUp
  cases hl : s.journal.lookup a with
  | some account => exact reports_done w s account
  | none =>
    constructor
    · intro r hr
      apply reported_put _ hr
      intro old key hold
      rw [hl] at hold
      cases hold
    · intro r hr
      obtain rfl : r = .account a := by simpa using hr
      exact .inl (reported_put_self s a _)

theorem lookUp_held (mark : Account → Account) (w : World Read.Value) (s : TxState)
    (a : Address) : Reported (run w (s.lookUp mark a)).2 (.account a) := by
  unfold TxState.lookUp
  cases hl : s.journal.lookup a with
  | some account => simp [Reported, InState, hl]
  | none => exact reported_put_self s a _

def TxState.Extends (s s' : TxState) : Prop :=
  ∀ a account, s.journal.lookup a = some account → s'.journal.lookup a = some account

theorem TxState.Extends.trans {s'' : TxState} (h : s.Extends s') (h' : s'.Extends s'') :
    s.Extends s'' := fun a account hl => h' a account (h a account hl)

theorem lookUp_extends (mark : Account → Account) (w : World Read.Value) (s : TxState)
    (a : Address) : s.Extends (run w (s.lookUp mark a)).2 := by
  intro b account hb
  unfold TxState.lookUp
  cases hl : s.journal.lookup a with
  | some account' => exact hb
  | none =>
    have hne : b ≠ a := by
      rintro rfl
      rw [hl] at hb
      cases hb
    simpa [TxState.put, AList.lookup_insert_ne hne] using hb

theorem lookUp_again {mark : Account → Account} (h : (run w (s.lookUp mark a)).2.Extends s') :
    s'.lookUp mark a = .done ((run w (s.lookUp mark a)).1, s') := by
  have hheld : (run w (s.lookUp mark a)).2.journal.lookup a = some (run w (s.lookUp mark a)).1 := by
    unfold TxState.lookUp
    cases hl : s.journal.lookup a with
    | some account => exact hl
    | none => simp [TxState.put]
  have hfound := h a _ hheld
  rw [TxState.lookUp, hfound]

theorem followDelegation_extends (w : World Read.Value) (s : TxState) (current : Address)
    (visited : List Address) :
    s.Extends (run w (s.followDelegation hops current visited)).2 := by
  induction hops generalizing s current visited with
  | zero =>
    simp only [TxState.followDelegation, run_bind, run_done]
    exact lookUp_extends _ w s current
  | succ hops ih =>
    have hfirst : s.Extends (run w (s.inspectAccount current)).2 := lookUp_extends _ w s current
    simp only [TxState.followDelegation, run_bind]
    split
    · exact hfirst
    · split
      · exact hfirst
      · exact hfirst.trans (ih _ _ _)

theorem followDelegation_again {current : Address} {visited : List Address}
    (h : (run w (s.followDelegation hops current visited)).2.Extends s') :
    run w (s'.followDelegation hops current visited) =
        ((run w (s.followDelegation hops current visited)).1, s') ∧
      reads w (s'.followDelegation hops current visited) = [] := by
  induction hops generalizing s current visited with
  | zero =>
    simp only [TxState.followDelegation, run_bind, run_done, TxState.inspectAccount] at h ⊢
    simp [lookUp_again h]
  | succ hops ih =>
    have hagain (hfirst : (run w (s.inspectAccount current)).2.Extends s') :
        s'.inspectAccount current = .done ((run w (s.inspectAccount current)).1, s') :=
      lookUp_again hfirst
    simp only [TxState.followDelegation, run_bind, reads_bind] at h ⊢
    cases hd : (run w (s.inspectAccount current)).1.delegatedAddress with
    | none =>
      simp only [hd, run_done] at h
      simp [hagain h, hd]
    | some next =>
      simp only [hd] at h
      by_cases hv : next ∈ visited
      · simp only [hv, if_true, run_done] at h
        simp [hagain h, hd, hv]
      · simp only [hv, if_false] at h
        simp [hagain ((followDelegation_extends w _ _ _).trans h), hd, hv, ih h]

theorem inspectAccountDelegated_again
    (h : (run w (s.inspectAccountDelegated spec hops a)).2.Extends s') :
    run w (s'.inspectAccountDelegated spec hops a) =
        ((run w (s.inspectAccountDelegated spec hops a)).1, s') ∧
      reads w (s'.inspectAccountDelegated spec hops a) = [] := by
  have hagain (hfirst : (run w (s.inspectAccount a)).2.Extends s') :
      s'.inspectAccount a = .done ((run w (s.inspectAccount a)).1, s') := lookUp_again hfirst
  simp only [TxState.inspectAccountDelegated, run_bind, reads_bind] at h ⊢
  cases hd : (run w (s.inspectAccount a)).1.delegatedAddress with
  | none =>
    simp only [hd, run_done] at h
    simp [hagain h, hd]
  | some delegated =>
    simp only [hd] at h
    by_cases h4 : spec.isEnabled .rex4 = true
    · simp only [h4, if_true, run_bind, run_done] at h
      have hsecond : s'.inspectAccount delegated =
          .done ((run w ((run w (s.inspectAccount a)).2.inspectAccount delegated)).1, s') :=
        lookUp_again h
      simp [hagain ((lookUp_extends _ w _ _).trans h), hd, h4, hsecond]
    · simp only [h4, if_false, Bool.false_eq_true] at h
      simp [hagain ((followDelegation_extends w _ _ _).trans h), hd, h4,
        followDelegation_again h]

theorem inspectStorageAccount_again :
    let x := run w (s.inspectStorageAccount spec hops a)
    run w (x.2.inspectStorageAccount spec hops a) = (x.1, x.2) ∧
      reads w (x.2.inspectStorageAccount spec hops a) = [] := by
  unfold TxState.inspectStorageAccount
  by_cases h4 : spec.isEnabled .rex4 = true
  · have hagain : (run w (s.inspectAccount a)).2.inspectAccount a =
        .done ((run w (s.inspectAccount a)).1, (run w (s.inspectAccount a)).2) :=
      lookUp_again fun _ _ hl => hl
    simp [h4, hagain]
  · simp only [h4, if_false, Bool.false_eq_true]
    exact inspectAccountDelegated_again fun _ _ hl => hl

theorem reports_followDelegation (w : World Read.Value) (s : TxState) (current : Address)
    (visited : List Address) : Reports w s (s.followDelegation hops current visited) := by
  induction hops generalizing s current visited with
  | zero => exact (reports_lookUp _ w s current).map fun _ => current
  | succ hops ih =>
    apply (reports_lookUp _ w s current).bind
    split
    · exact reports_done w _ _
    · split
      · exact reports_done w _ _
      · exact ih _ _ _

theorem reports_inspectAccountDelegated (spec : MegaSpecId) (hops : ℕ) (w : World Read.Value)
    (s : TxState) (a : Address) : Reports w s (s.inspectAccountDelegated spec hops a) := by
  apply (reports_lookUp _ w s a).bind
  split
  · exact reports_done w _ _
  · split
    · exact (reports_lookUp _ w _ _).map fun _ => _
    · exact reports_followDelegation w _ _ _

theorem reports_inspectStorageAccount (spec : MegaSpecId) (hops : ℕ) (w : World Read.Value)
    (s : TxState) (a : Address) : Reports w s (s.inspectStorageAccount spec hops a) := by
  unfold TxState.inspectStorageAccount
  split
  · exact (reports_lookUp _ w s a).map fun _ => a
  · exact reports_inspectAccountDelegated spec hops w s a

theorem reports_loadSlot (w : World Read.Value) (s : TxState) (a : Address) (key : ℕ) :
    Reports w s (s.loadSlot a key) := by
  have hheld : Reported (run w (s.loadAccount a)).2 (.account a) := lookUp_held _ w s a
  apply (reports_lookUp _ w s a).bind
  split
  · exact reports_done w _ _
  · split
    · constructor
      · exact fun r hr => reported_putSlot hr
      · exact fun r hr => by cases hr
    · constructor
      · exact fun r hr => reported_putSlot hr
      · intro r hr
        obtain rfl : r = .slot a key := by simpa using hr
        exact .inl (reported_putSlot_self hheld)

theorem inspectStorageAccount_held (w : World Read.Value) (s : TxState) (a : Address) :
    Reported (run w (s.inspectStorageAccount spec hops a)).2 (.account a) := by
  have hheld : Reported (run w (s.inspectAccount a)).2 (.account a) := lookUp_held _ w s a
  unfold TxState.inspectStorageAccount
  split
  · simpa using hheld
  · simp only [TxState.inspectAccountDelegated, run_bind]
    split
    · exact hheld
    · split
      · rw [run_bind]
        exact (reports_lookUp _ w _ _).keeps _ hheld
      · exact (reports_followDelegation w _ _ _).keeps _ hheld

/-- The slot is entered under another account than the one it is read of. -/
def SlotMisplaced (spec : MegaSpecId) (hops : ℕ) (w : World Read.Value) (s : TxState)
    (a : Address) : Prop :=
  (run w (s.inspectStorageAccount spec hops a)).1 ≠ a

theorem slotMisplaced_spec (h : SlotMisplaced spec hops w s a) :
    spec.isEnabled .rex4 = false := by
  by_contra h4
  simp only [Bool.not_eq_false] at h4
  apply h
  simp [TxState.inspectStorageAccount, h4]

theorem reports_inspectStorage (spec : MegaSpecId) (hops : ℕ) (w : World Read.Value)
    (s : TxState) (a : Address) (key : ℕ) :
    ReportsBut (fun r => SlotMisplaced spec hops w s a ∧ r = .slot a key) w s
      (s.inspectStorage spec hops a key) := by
  have hfirst := reports_inspectStorageAccount spec hops w s a
  obtain ⟨hagain, hnone⟩ := @inspectStorageAccount_again w s a hops spec
  apply hfirst.but.bind
  split
  · constructor
    · intro r hr
      simpa [hagain] using hr
    · intro r hr
      simp [hnone] at hr
  · constructor
    · intro r hr
      simp only [run_read, run_bind, run_done, hagain]
      exact reported_putSlot hr
    · intro r hr
      obtain rfl : r = .slot a key := by simpa [hnone] using hr
      by_cases hm : (run w (s.inspectStorageAccount spec hops a)).1 = a
      · left
        simp only [run_read, run_bind, run_done, hagain]
        rw [hm]
        exact reported_putSlot_self (inspectStorageAccount_held w s a)
      · exact .inr ⟨hm, rfl⟩

end Lookups

section Gas

namespace constants

def NEW_ACCOUNT_STORAGE_GAS : ℕ := 2000000
def NEW_ACCOUNT_STORAGE_GAS_BASE : ℕ := 25000
def CONTRACT_CREATION_STORAGE_GAS_BASE : ℕ := 32000

end constants

def loadBucketCostMultiplier (s : TxState) (bucketId : ℕ) : Reads (ℕ × TxState) :=
  match s.bucketCostMultipliers.lookup bucketId with
  | some multiplier => .done (multiplier, s)
  | none => .read (.bucket bucketId) fun capacity =>
    let multiplier := capacity / constants.MIN_BUCKET_SIZE
    .done (multiplier, { s with
      bucketCostMultipliers := s.bucketCostMultipliers.insert bucketId multiplier })

def newAccountStorageGas (spec : MegaSpecId) (multiplier : ℕ) : ℕ :=
  if spec.isEnabled .rex then constants.NEW_ACCOUNT_STORAGE_GAS_BASE * (multiplier - 1)
  else constants.NEW_ACCOUNT_STORAGE_GAS * multiplier

def createContractStorageGas (spec : MegaSpecId) (multiplier : ℕ) : ℕ :=
  if spec.isEnabled .rex then constants.CONTRACT_CREATION_STORAGE_GAS_BASE * (multiplier - 1)
  else constants.NEW_ACCOUNT_STORAGE_GAS * multiplier

theorem reports_loadBucketCostMultiplier (w : World Read.Value) (s : TxState) (id : ℕ) :
    Reports w s (loadBucketCostMultiplier s id) := by
  unfold loadBucketCostMultiplier
  cases hm : s.bucketCostMultipliers.lookup id with
  | some multiplier => exact reports_done w s multiplier
  | none =>
    constructor
    · intro r hr
      cases r with
      | account a | slot a key => exact hr
      | blockHash n => trivial
      | bucket b =>
        by_cases hb : b = id
        · subst hb
          simp [Reported]
        · simpa [Reported, AList.lookup_insert_ne hb] using hr
    · intro r hr
      obtain rfl : r = .bucket id := by simpa using hr
      simp [Reported]

end Gas

section Calls

/-- What the interpreter asks of its journal; all it changes there are entries. -/
inductive RevmCall where
  | loadAccount (a : Address)
  | loadSlot (a : Address) (key : ℕ)
  | setAccount (a : Address) (info : AccountInfo) (status : AccountStatus)
  | setSlot (a : Address) (key : ℕ) (slot : EvmStorageSlot)
  | blockHash (number : ℕ)

abbrev RevmCall.Value : RevmCall → Type
  | .loadAccount _ => Account
  | .loadSlot .. => EvmStorageSlot
  | .setAccount .. | .setSlot .. => Unit
  | .blockHash _ => ℕ

/-- What frames ask: the wrappers of the instructions and the hooks of the limits
inspect the journal besides, and price storage. -/
inductive JournalCall where
  | revm (call : RevmCall)
  | inspectAccountDelegated (a : Address)
  | inspectStorage (a : Address) (key : ℕ)
  | bucketCostMultiplier (bucketId : ℕ)

abbrev JournalCall.Value : JournalCall → Type
  | .revm call => call.Value
  | .inspectAccountDelegated _ => Account
  | .inspectStorage .. => EvmStorageSlot
  | .bucketCostMultiplier _ => ℕ

def RevmCall.answer (s : TxState) : ∀ call : RevmCall, Reads (call.Value × TxState)
  | .loadAccount a => s.loadAccount a
  | .loadSlot a key => s.loadSlot a key
  | .setAccount a info status => .done ((), s.setAccount a info status)
  | .setSlot a key slot => .done ((), s.putSlot a key slot)
  | .blockHash number => .read (.blockHash number) fun hash => .done (hash, s)

def JournalCall.answer (spec : MegaSpecId) (hops : ℕ) (s : TxState) :
    ∀ call : JournalCall, Reads (call.Value × TxState)
  | .revm call => call.answer s
  | .inspectAccountDelegated a =>
    (s.inspectAccountDelegated spec hops a).bind fun x => .done (x.2.entry x.1, x.2)
  | .inspectStorage a key => s.inspectStorage spec hops a key
  | .bucketCostMultiplier id => loadBucketCostMultiplier s id

variable {α : Type} {spec : MegaSpecId} {hops : ℕ} {w : World Read.Value} {s : TxState}

theorem RevmCall.reports_answer (w : World Read.Value) (s : TxState) (call : RevmCall) :
    Reports w s (call.answer s) := by
  cases call with
  | loadAccount a => exact reports_lookUp _ w s a
  | loadSlot a key => exact reports_loadSlot w s a key
  | setAccount a info status =>
    constructor
    · exact fun r hr => reported_setAccount hr
    · exact fun r hr => by cases hr
  | setSlot a key slot =>
    constructor
    · exact fun r hr => reported_putSlot hr
    · exact fun r hr => by cases hr
  | blockHash n =>
    constructor
    · exact fun r hr => hr
    · intro r hr
      obtain rfl : r = .blockHash n := by simpa [RevmCall.answer] using hr
      exact .inl trivial

def JournalCall.Past (spec : MegaSpecId) (hops : ℕ) (w : World Read.Value) (s : TxState)
    (r : Read) : JournalCall → Prop
  | .inspectStorage a key => SlotMisplaced spec hops w s a ∧ r = .slot a key
  | _ => False

theorem JournalCall.reports_answer (spec : MegaSpecId) (hops : ℕ) (w : World Read.Value)
    (s : TxState) (call : JournalCall) :
    ReportsBut (fun r => call.Past spec hops w s r) w s (call.answer spec hops s) := by
  cases call with
  | revm call => exact (call.reports_answer w s).but
  | inspectAccountDelegated a =>
    have hreports := reports_inspectAccountDelegated spec hops w s a
    exact hreports.but.bind (reports_done w _ _).but
  | inspectStorage a key => exact reports_inspectStorage spec hops w s a key
  | bucketCostMultiplier id => exact (reports_loadBucketCostMultiplier w s id).but

abbrev RevmProg (α : Type) := Prog RevmCall.Value α

abbrev FrameProg (α : Type) := Prog JournalCall.Value α

def RevmProg.onJournal (p : RevmProg α) (s : TxState) : Reads (α × TxState) :=
  p.thread (fun call s => call.answer s) s

def FrameProg.onJournal (spec : MegaSpecId) (hops : ℕ) (p : FrameProg α) (s : TxState) :
    Reads (α × TxState) :=
  p.thread (fun call s => call.answer spec hops s) s

def FrameProg.Past (spec : MegaSpecId) (hops : ℕ) (w : World Read.Value) (r : Read) :
    FrameProg α → TxState → Prop
  | .done _, _ => False
  | .read call next, s => call.Past spec hops w s r ∨
      FrameProg.Past spec hops w r (next (run w (call.answer spec hops s)).1)
        (run w (call.answer spec hops s)).2

theorem RevmProg.reports (w : World Read.Value) (p : RevmProg α) (s : TxState) :
    Reports w s (p.onJournal s) := by
  induction p generalizing s with
  | done a => exact reports_done w s a
  | read call next ih => exact (call.reports_answer w s).bind (ih _ _)

theorem FrameProg.reports (w : World Read.Value) (p : FrameProg α) (s : TxState) :
    ReportsBut (fun r => p.Past spec hops w r s) w s (p.onJournal spec hops s) := by
  induction p generalizing s with
  | done a => exact (reports_done w s a).but
  | read call next ih =>
    have hcall := call.reports_answer spec hops w s
    exact (hcall.mono fun r => .inl).bind ((ih _ _).mono fun r => .inr)

end Calls

end MegaEvm
