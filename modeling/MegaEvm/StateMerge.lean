import MegaEvm.EvmState
import MegaEvm.Library.Run

/-!
# Merging account states

Folding the states of consecutive transactions into one and committing it once
leaves what committing them one by one leaves. Two things get lost: the account
that the raw first state destroys and a later one fills again, and the bytecode
of an account that a later state holds by its hash only.
-/

set_option autoImplicit false

namespace MegaEvm

open KeyedFold

structure CodeTable where
  codeOf : ℕ → Bytes
  empty : ∀ hash, codeOf hash = [] → hash = KECCAK_EMPTY

def AccountInfo.Same (i j : AccountInfo) : Prop :=
  i.balance = j.balance ∧ i.nonce = j.nonce ∧ i.codeHash = j.codeHash

theorem AccountInfo.Same.refl (i : AccountInfo) : i.Same i := ⟨rfl, rfl, rfl⟩

theorem AccountInfo.Same.symm {i j : AccountInfo} (h : i.Same j) : j.Same i :=
  ⟨h.1.symm, h.2.1.symm, h.2.2.symm⟩

theorem AccountInfo.Same.trans {i j k : AccountInfo} (h : i.Same j) (h' : j.Same k) : i.Same k :=
  ⟨h.1.trans h'.1, h.2.1.trans h'.2.1, h.2.2.trans h'.2.2⟩

namespace Db

/-- The databases hold the same accounts, with the same bytecode available. -/
def Agrees (db db' : Db) : Prop := ∀ a, (db.info a).Same (db'.info a) ∧
  (∀ key, db.storage a key = db'.storage a key) ∧
    db.codeByHash (db.info a).codeHash = db'.codeByHash (db'.info a).codeHash

structure Known (codes : CodeTable) (db : Db) : Prop where
  sound : db.CodeSound codes.codeOf
  known : ∀ a, (db.info a).codeHash ≠ KECCAK_EMPTY →
    (db.contracts (db.info a).codeHash).isSome = true

end Db

/-- What holds of the state a transaction returns that ran on `db`. A created
account has no storage there, nor in the database `db₀` the sequence began on;
what is not touched was only read. -/
structure Returned (codes : CodeTable) (db₀ db : Db) (state : EvmState) : Prop where
  destroyed : ∀ a acc, state.lookup a = some acc → acc.isSelfdestructed = true →
    acc.isCreated = true
  created : ∀ a acc, state.lookup a = some acc → acc.isCreated = true →
    acc.isTouched = true ∧ (∀ key, db₀.storage a key = 0) ∧ ∀ key, db.storage a key = 0
  read : ∀ a acc, state.lookup a = some acc → acc.isTouched = false →
    acc.info.Same (db.info a) ∧ ∀ key v, acc.slot key = some v → v = db.storage a key
  code : ∀ a acc c, state.lookup a = some acc → acc.info.code = some c →
    c = codes.codeOf acc.info.codeHash
  deployed : ∀ a acc, state.lookup a = some acc →
    acc.info.codeHash ≠ (db.info a).codeHash →
      acc.info.codeHash = KECCAK_EMPTY ∨ acc.info.code.isSome = true

section Keep

/-- Merging `acc` into `b` neither fills an account that `b` still marks as
destroyed, nor forgets bytecode that only `b` carries. -/
def keepsAccount (db₀ : Db) (b acc : Account) : Bool :=
  acc.isSelfdestructed ||
    ((!b.isSelfdestructed || !acc.isTouched ||
        acc.isCreated && b.storage.entries.all fun e =>
          e.2.presentValue == 0 || (acc.storage.lookup e.1).isSome) &&
      (b.info.code.isNone || acc.info.code.isSome || acc.info.codeHash == KECCAK_EMPTY ||
        (db₀.contracts acc.info.codeHash).isSome))

def keepsAccounts (db₀ : Db) (this other : EvmState) : Bool :=
  other.entries.all fun e => match this.lookup e.1 with
    | some b => keepsAccount db₀ b e.2
    | none => true

variable {db₀ : Db} {this other : EvmState} {a : Address} {b acc : Account}

theorem keepsAccount_of_lookup (h : keepsAccounts db₀ this other = true)
    (hb : this.lookup a = some b) (hacc : other.lookup a = some acc) :
    keepsAccount db₀ b acc = true := by
  have he := List.all_eq_true.1 h ⟨a, acc⟩ (AList.mem_lookup_iff.1 hacc)
  simpa [hb] using he

theorem keepsAccount_destroyed (h : keepsAccount db₀ b acc = true)
    (hacc : acc.isSelfdestructed = false) (hb : b.isSelfdestructed = true)
    (ht : acc.isTouched = true) : acc.isCreated = true ∧
      ∀ key v, b.slot key = some v → acc.slot key = none → v = 0 := by
  simp only [keepsAccount, hacc, hb, ht, Bool.false_or, Bool.not_true, Bool.and_eq_true] at h
  refine ⟨h.1.1, fun key v hv hnone => ?_⟩
  rw [Account.slot, Option.map_eq_some_iff] at hv
  obtain ⟨slot, hslot, rfl⟩ := hv
  have he := List.all_eq_true.1 h.1.2 ⟨key, slot⟩ (AList.mem_lookup_iff.1 hslot)
  rw [Account.slot, Option.map_eq_none_iff] at hnone
  simpa [hnone] using he

theorem keepsAccount_code (h : keepsAccount db₀ b acc = true)
    (hacc : acc.isSelfdestructed = false) (hb : b.info.code.isSome = true)
    (hne : acc.info.codeHash ≠ KECCAK_EMPTY) :
    acc.info.code.isSome = true ∨ (db₀.contracts acc.info.codeHash).isSome = true := by
  have hnone : b.info.code.isNone = false := by simpa using hb
  have hhash : (acc.info.codeHash == KECCAK_EMPTY) = false := by simpa using hne
  simp only [keepsAccount, hacc, hnone, hhash, Bool.false_or, Bool.or_false, Bool.and_eq_true,
    Bool.or_eq_true] at h
  exact h.2

end Keep

section Represent

/-- What an account of the merged state says about the committed one. -/
structure Represented (codes : CodeTable) (db₀ db : Db) (a : Address) (b : Account) : Prop where
  destroyed : b.isSelfdestructed = true → b.isTouched = true ∧
    (db.info a).Same default ∧ ∀ key, db.storage a key = 0
  info : b.isSelfdestructed = false → b.info.Same (db.info a)
  slot : b.isSelfdestructed = false → ∀ key v, b.slot key = some v → v = db.storage a key
  unloaded : b.isSelfdestructed = false → ∀ key, b.slot key = none →
    db.storage a key = db₀.storage a key
  read : b.isTouched = false → (db.info a).Same (db₀.info a) ∧
    ∀ key, db.storage a key = db₀.storage a key
  created : b.isCreated = true → ∀ key, db₀.storage a key = 0
  sound : ∀ c, b.info.code = some c → c = codes.codeOf b.info.codeHash
  code : b.isSelfdestructed = false → b.info.codeHash ≠ KECCAK_EMPTY →
    (db₀.contracts b.info.codeHash).isSome = true ∨
      (b.isTouched = true ∧ b.info.code.isSome = true)

/-- The merged state stands for `db`, reached from `db₀` by commits. -/
structure Represents (codes : CodeTable) (db₀ : Db) (merged : EvmState) (db : Db) : Prop where
  known : db.Known codes
  absent : ∀ a, merged.lookup a = none → (db.info a).Same (db₀.info a) ∧
    ∀ key, db.storage a key = db₀.storage a key
  present : ∀ a b, merged.lookup a = some b → Represented codes db₀ db a b

variable {codes : CodeTable} {db₀ db : Db} {merged state : EvmState} {a : Address}
  {b acc : Account}

theorem represents_empty (h : db₀.Known codes) : Represents codes db₀ ∅ db₀ where
  known := h
  absent := fun a _ => ⟨.refl _, fun _ => rfl⟩
  present := fun a b hb => by
    rw [AList.lookup_empty] at hb
    cases hb

theorem codeByHash_eq {db db' : Db} {hash : ℕ} (h : db.CodeSound codes.codeOf)
    (h' : db'.CodeSound codes.codeOf)
    (hk : hash ≠ KECCAK_EMPTY → (db.contracts hash).isSome = true)
    (hk' : hash ≠ KECCAK_EMPTY → (db'.contracts hash).isSome = true) :
    db.codeByHash hash = db'.codeByHash hash := by
  unfold Db.codeByHash
  by_cases hempty : hash = KECCAK_EMPTY
  · rw [if_pos hempty, if_pos hempty]
  · obtain ⟨c, hc⟩ := Option.isSome_iff_exists.1 (hk hempty)
    obtain ⟨c', hc'⟩ := Option.isSome_iff_exists.1 (hk' hempty)
    rw [if_neg hempty, if_neg hempty, hc, hc', h hash c hc, h' hash c' hc']

theorem Represented.committed (h : Represented codes db₀ db a b) :
    (Db.committedInfo b (db₀.info a)).Same (db.info a) ∧
      ∀ key, Db.committedStorage b (db₀.storage a) key = db.storage a key := by
  unfold Db.committedInfo Db.committedStorage
  cases ht : b.isTouched with
  | false =>
    obtain ⟨hinfo, hstorage⟩ := h.read ht
    exact ⟨hinfo.symm, fun key => (hstorage key).symm⟩
  | true =>
    simp only [Bool.not_true, Bool.false_eq_true, if_false]
    cases hs : b.isSelfdestructed with
    | true =>
      obtain ⟨-, hinfo, hstorage⟩ := h.destroyed hs
      exact ⟨hinfo.symm, fun key => (hstorage key).symm⟩
    | false =>
      refine ⟨h.info hs, fun key => ?_⟩
      simp only [Bool.false_eq_true, if_false]
      cases hv : b.slot key with
      | some v => exact h.slot hs key v hv
      | none =>
        have hdb := h.unloaded hs key hv
        by_cases hc : b.isCreated = true
        · rw [if_pos hc, hdb, h.created hc key]
          rfl
        · rw [if_neg hc, hdb]
          rfl

theorem CodeTable.nonempty {hash : ℕ} {c : Bytes} (hc : c = codes.codeOf hash)
    (hne : hash ≠ KECCAK_EMPTY) : c ≠ [] := by
  rintro rfl
  exact hne (codes.empty hash hc.symm)

theorem known_commit {m : EvmState} (h : db.Known codes)
    (hsound : ∀ a acc c, m.lookup a = some acc → acc.info.code = some c →
      c = codes.codeOf acc.info.codeHash)
    (hcode : ∀ a acc, m.lookup a = some acc → acc.isTouched = true →
      acc.isSelfdestructed = false → acc.info.codeHash ≠ KECCAK_EMPTY →
        (db.contracts acc.info.codeHash).isSome = true ∨ acc.info.code.isSome = true) :
    (db.commit m).Known codes := by
  constructor
  · exact h.sound.commit hsound
  · intro a hne
    have hkeep : ((db.commit m).info a).codeHash = (db.info a).codeHash →
        ((db.commit m).contracts ((db.commit m).info a).codeHash).isSome = true := by
      intro heq
      rw [heq] at hne ⊢
      exact Db.commit_known (h.known a hne)
    cases hl : m.lookup a with
    | none =>
      apply hkeep
      rw [Db.commit_info, hl]
    | some acc =>
      have hinfo : (db.commit m).info a = Db.committedInfo acc (db.info a) := by
        rw [Db.commit_info, hl]
      by_cases ht : acc.isTouched = true
      · by_cases hs : acc.isSelfdestructed = true
        · rw [hinfo] at hne
          simp only [Db.committedInfo, ht, hs] at hne
          exact absurd rfl hne
        · have hdead : acc.isSelfdestructed = false := by simpa using hs
          have hown : (db.commit m).info a = acc.info := by
            rw [hinfo]
            simp [Db.committedInfo, ht, hdead]
          rw [hown] at hne ⊢
          rcases hcode a acc hl ht hdead hne with hk | hk
          · exact Db.commit_known hk
          · obtain ⟨c, hc⟩ := Option.isSome_iff_exists.1 hk
            exact Db.commit_own hl ht hdead hc (CodeTable.nonempty (hsound a acc c hl hc) hne)
      · apply hkeep
        rw [hinfo]
        simp [Db.committedInfo, ht]

theorem Represents.agrees (h : Represents codes db₀ merged db) (h₀ : db₀.Known codes) :
    (db₀.commit merged).Agrees db := by
  have hknown : (db₀.commit merged).Known codes := by
    apply known_commit h₀
    · intro a b c hl hc
      exact (h.present a b hl).sound c hc
    · intro a b hl ht hs hne
      rcases (h.present a b hl).code hs hne with hk | ⟨-, hk⟩
      · exact .inl hk
      · exact .inr hk
  intro a
  have hsame : ((db₀.commit merged).info a).Same (db.info a) ∧
      ∀ key, (db₀.commit merged).storage a key = db.storage a key := by
    rw [Db.commit_info, Db.commit_storage]
    cases hl : merged.lookup a with
    | none =>
      obtain ⟨hinfo, hstorage⟩ := h.absent a hl
      exact ⟨hinfo.symm, fun key => (hstorage key).symm⟩
    | some b => exact (h.present a b hl).committed
  obtain ⟨hinfo, hstorage⟩ := hsame
  have hhash : ((db₀.commit merged).info a).codeHash = (db.info a).codeHash := hinfo.2.2
  have hcode : (db₀.commit merged).codeByHash (db.info a).codeHash =
      db.codeByHash (db.info a).codeHash := by
    apply codeByHash_eq hknown.sound h.known.sound
    · intro hne
      rw [← hhash] at hne ⊢
      exact hknown.known a hne
    · exact h.known.known a
  rw [hhash]
  exact ⟨hinfo, hstorage, hcode⟩

end Represent

section Returned

variable {codes : CodeTable} {db₀ db : Db} {merged state : EvmState} {a : Address}
  {b acc : Account}

theorem commit_touched (hl : state.lookup a = some acc) (ht : acc.isTouched = true)
    (hs : acc.isSelfdestructed = false) : (db.commit state).info a = acc.info ∧
      ∀ key, (db.commit state).storage a key =
        (acc.slot key).getD (if acc.isCreated then 0 else db.storage a key) := by
  rw [Db.commit_info, Db.commit_storage, hl]
  simp [Db.committedInfo, Db.committedStorage, ht, hs]

theorem commit_untouched (hl : state.lookup a = some acc) (ht : acc.isTouched = false) :
    (db.commit state).info a = db.info a ∧ (db.commit state).storage a = db.storage a := by
  rw [Db.commit_info, Db.commit_storage, hl]
  simp [Db.committedInfo, Db.committedStorage, ht]

theorem commit_absent (hl : state.lookup a = none) :
    (db.commit state).info a = db.info a ∧ (db.commit state).storage a = db.storage a := by
  rw [Db.commit_info, Db.commit_storage, hl]
  exact ⟨rfl, rfl⟩

theorem commit_destroyed (hl : state.lookup a = some acc) (ht : acc.isTouched = true)
    (hs : acc.isSelfdestructed = true) : (db.commit state).info a = default ∧
      ∀ key, (db.commit state).storage a key = 0 := by
  rw [Db.commit_info, Db.commit_storage, hl]
  simp [Db.committedInfo, Db.committedStorage, ht, hs]

namespace Returned

theorem same (h : Returned codes db₀ db state) (hl : state.lookup a = some acc)
    (hs : acc.isSelfdestructed = false) : acc.info.Same ((db.commit state).info a) := by
  by_cases ht : acc.isTouched = true
  · rw [(commit_touched hl ht hs).1]
    exact .refl _
  · have hread : acc.isTouched = false := by simpa using ht
    rw [(commit_untouched hl hread).1]
    exact (h.read a acc hl hread).1

theorem slot (h : Returned codes db₀ db state) (hl : state.lookup a = some acc)
    (hs : acc.isSelfdestructed = false) {key v : ℕ} (hv : acc.slot key = some v) :
    v = (db.commit state).storage a key := by
  by_cases ht : acc.isTouched = true
  · rw [(commit_touched hl ht hs).2, hv]
    rfl
  · have hread : acc.isTouched = false := by simpa using ht
    rw [(commit_untouched hl hread).2]
    exact (h.read a acc hl hread).2 key v hv

theorem unloaded (h : Returned codes db₀ db state) (hl : state.lookup a = some acc)
    (hs : acc.isSelfdestructed = false) {key : ℕ} (hv : acc.slot key = none) :
    (db.commit state).storage a key = db.storage a key := by
  by_cases ht : acc.isTouched = true
  · rw [(commit_touched hl ht hs).2, hv]
    by_cases hc : acc.isCreated = true
    · rw [if_pos hc, (h.created a acc hl hc).2.2 key]
      rfl
    · rw [if_neg hc]
      rfl
  · have hread : acc.isTouched = false := by simpa using ht
    rw [(commit_untouched hl hread).2]

theorem deployed_touched (h : Returned codes db₀ db state) (hl : state.lookup a = some acc)
    (hne : acc.info.codeHash ≠ KECCAK_EMPTY)
    (hnew : acc.info.codeHash ≠ (db.info a).codeHash) :
    acc.isTouched = true ∧ acc.info.code.isSome = true := by
  constructor
  · by_contra ht
    have hread : acc.isTouched = false := by simpa using ht
    exact hnew (h.read a acc hl hread).1.2.2
  · rcases h.deployed a acc hl hnew with hempty | hcode
    · exact absurd hempty hne
    · exact hcode

theorem known (h : Returned codes db₀ db state) (hdb : db.Known codes) :
    (db.commit state).Known codes := by
  apply known_commit hdb
  · intro a acc c hl hc
    exact h.code a acc c hl hc
  · intro a acc hl _ _ hne
    by_cases hnew : acc.info.codeHash = (db.info a).codeHash
    · left
      rw [hnew] at hne ⊢
      exact hdb.known a hne
    · right
      exact (h.deployed_touched hl hne hnew).2

end Returned

end Returned

section Step

variable {codes : CodeTable} {db₀ db db' : Db} {merged state : EvmState} {a : Address}
  {b b' acc : Account}

theorem Represented.congr (h : Represented codes db₀ db a b) (hinfo : b'.info = b.info)
    (hslot : ∀ key, b'.slot key = b.slot key) (hs : b'.isSelfdestructed = b.isSelfdestructed)
    (ht : b'.isTouched = b.isTouched) (hc : b'.isCreated = b.isCreated)
    (hdb : db'.info a = db.info a) (hst : db'.storage a = db.storage a) :
    Represented codes db₀ db' a b' where
  destroyed := by
    rw [hs, ht, hdb, hst]
    exact h.destroyed
  info := by
    rw [hs, hinfo, hdb]
    exact h.info
  slot := by
    rw [hs, hst]
    intro hl key v
    rw [hslot]
    exact h.slot hl key v
  unloaded := by
    rw [hs, hst]
    intro hl key
    rw [hslot]
    exact h.unloaded hl key
  read := by
    rw [ht, hdb, hst]
    exact h.read
  created := by
    rw [hc]
    exact h.created
  sound := by
    rw [hinfo]
    exact h.sound
  code := by
    rw [hs, hinfo, ht]
    exact h.code

theorem Returned.represented (h : Returned codes db₀ db state) (h₀ : db₀.Known codes)
    (hinfo : (db.info a).Same (db₀.info a)) (hst : ∀ key, db.storage a key = db₀.storage a key)
    (hl : state.lookup a = some acc) : Represented codes db₀ (db.commit state) a acc where
  destroyed hs := by
    have ht := (h.created a acc hl (h.destroyed a acc hl hs)).1
    obtain ⟨hempty, hzero⟩ := @commit_destroyed db state a acc hl ht hs
    rw [hempty]
    exact ⟨ht, .refl _, hzero⟩
  info hs := h.same hl hs
  slot hs key v hv := h.slot hl hs hv
  unloaded hs key hv := by rw [h.unloaded hl hs hv, hst]
  read ht := by
    obtain ⟨hkept, hstorage⟩ := @commit_untouched db state a acc hl ht
    rw [hkept, hstorage]
    exact ⟨hinfo, hst⟩
  created hc := (h.created a acc hl hc).2.1
  sound c hc := h.code a acc c hl hc
  code hs hne := by
    by_cases hnew : acc.info.codeHash = (db.info a).codeHash
    · left
      rw [hnew, hinfo.2.2] at hne ⊢
      exact h₀.known a hne
    · right
      exact h.deployed_touched hl hne hnew

theorem Returned.represented_destroyed (h : Returned codes db₀ db state)
    (hl : state.lookup a = some acc) (hs : acc.isSelfdestructed = true) (hi : b.info = default)
    (hslot : ∀ key, b.slot key = none) (hdead : b.isSelfdestructed = false)
    (hc : b.isCreated = false) (ht : b.isTouched = true) :
    Represented codes db₀ (db.commit state) a b := by
  have hcreated := h.created a acc hl (h.destroyed a acc hl hs)
  obtain ⟨hempty, hzero⟩ := @commit_destroyed db state a acc hl hcreated.1 hs
  have hno : ∀ {p : Prop}, b.isSelfdestructed = true → p := by
    intro p hb
    rw [hdead] at hb
    cases hb
  exact
    { destroyed := hno
      info := fun _ => by
        rw [hi, hempty]
        exact .refl _
      slot := fun _ key v hv => by
        rw [hslot] at hv
        cases hv
      unloaded := fun _ key _ => by rw [hzero, hcreated.2.1]
      read := fun hb => by
        rw [ht] at hb
        cases hb
      created := fun hb => by
        rw [hc] at hb
        cases hb
      sound := fun c hb => by
        rw [hi] at hb
        cases hb
      code := fun _ hne => by
        rw [hi] at hne
        exact absurd rfl hne }

theorem slot_mergeAccountState (b acc : Account) (flag : Bool) (key : ℕ) :
    (mergeAccountState b acc flag).slot key =
      match acc.slot key with
      | some v => some v
      | none => b.slot key := by
  have hslot := slot_mergeEvmStorage b.storage acc.storage key
  unfold Account.slot
  rw [mergeAccountState, hslot]
  cases acc.storage.lookup key with
  | none | some v => rfl

theorem mergeAccountState_destroyed (hs : acc.isSelfdestructed = false) :
    (mergeAccountState b acc true).isSelfdestructed =
      (b.isSelfdestructed && !acc.isCreated) := by
  have hstatus : (mergeAccountState b acc true).isSelfdestructed =
      ((b.isSelfdestructed && !acc.isCreated) || acc.isSelfdestructed) := rfl
  rw [hstatus, hs, Bool.or_false]

theorem mergeAccountState_revived (hs : acc.isSelfdestructed = false)
    (hm : (mergeAccountState b acc true).isSelfdestructed = false)
    (hbs : b.isSelfdestructed = true) : acc.isCreated = true := by
  have hdead := @mergeAccountState_destroyed b acc hs
  simpa [hbs] using hdead.symm.trans hm

theorem mergeAccountState_untouched (hs : acc.isSelfdestructed = false)
    (hk : keepsAccount db₀ b acc = true)
    (hm : (mergeAccountState b acc true).isSelfdestructed = true) :
    acc.isTouched = false ∧ b.isSelfdestructed = true := by
  rw [mergeAccountState_destroyed hs, Bool.and_eq_true, Bool.not_eq_true'] at hm
  refine ⟨?_, hm.1⟩
  by_contra ht
  have hfilled := (keepsAccount_destroyed hk hs hm.1 (by simpa using ht)).1
  rw [hm.2] at hfilled
  cases hfilled

theorem Returned.merged_slot (h : Returned codes db₀ db state)
    (hb : Represented codes db₀ db a b) (hl : state.lookup a = some acc)
    (hs : acc.isSelfdestructed = false) (hk : keepsAccount db₀ b acc = true)
    (hm : (mergeAccountState b acc true).isSelfdestructed = false) {key v : ℕ}
    (hv : b.slot key = some v) (hacc : acc.slot key = none) : v = db.storage a key := by
  by_cases hbs : b.isSelfdestructed = true
  · have hc := mergeAccountState_revived hs hm hbs
    have ht := (h.created a acc hl hc).1
    rw [(hb.destroyed hbs).2.2 key]
    exact (keepsAccount_destroyed hk hs hbs ht).2 key v hv hacc
  · exact hb.slot (by simpa using hbs) key v hv

theorem Returned.merged_unloaded (h : Returned codes db₀ db state)
    (hb : Represented codes db₀ db a b) (hl : state.lookup a = some acc)
    (hs : acc.isSelfdestructed = false)
    (hm : (mergeAccountState b acc true).isSelfdestructed = false) {key : ℕ}
    (hv : b.slot key = none) : db.storage a key = db₀.storage a key := by
  by_cases hbs : b.isSelfdestructed = true
  · have hc := mergeAccountState_revived hs hm hbs
    obtain ⟨-, hzero, hzero'⟩ := h.created a acc hl hc
    rw [hzero, hzero']
  · exact hb.unloaded (by simpa using hbs) key hv

theorem Represented.merged_code (h₀ : db₀.Known codes) (hb : Represented codes db₀ db a b)
    (hs : acc.isSelfdestructed = false) (hk : keepsAccount db₀ b acc = true)
    (hne : acc.info.codeHash ≠ KECCAK_EMPTY) (hold : acc.info.codeHash = (db.info a).codeHash) :
    (db₀.contracts acc.info.codeHash).isSome = true ∨
      ((b.isTouched || acc.isTouched) = true ∧ acc.info.code.isSome = true) := by
  by_cases hbt : b.isTouched = true
  · by_cases hbs : b.isSelfdestructed = true
    · have hempty : (db.info a).codeHash = KECCAK_EMPTY := (hb.destroyed hbs).2.1.2.2
      exact absurd (hold.trans hempty) hne
    · have hlive : b.isSelfdestructed = false := by simpa using hbs
      have hhash : acc.info.codeHash = b.info.codeHash := by
        rw [hold, (hb.info hlive).2.2]
      rw [hbt]
      rcases hb.code hlive (by rwa [← hhash]) with hstored | ⟨-, hcarried⟩
      · left
        rwa [hhash]
      · rcases keepsAccount_code hk hs hcarried hne with hcode | hstored
        · exact .inr ⟨rfl, hcode⟩
        · exact .inl hstored
  · left
    have hsame := (hb.read (by simpa using hbt)).1
    rw [hold, hsame.2.2] at hne ⊢
    exact h₀.known a hne

theorem Returned.represented_merged (h : Returned codes db₀ db state) (h₀ : db₀.Known codes)
    (hb : Represented codes db₀ db a b) (hl : state.lookup a = some acc)
    (hs : acc.isSelfdestructed = false) (hk : keepsAccount db₀ b acc = true) :
    Represented codes db₀ (db.commit state) a (mergeAccountState b acc true) := by
  have htouched : (mergeAccountState b acc true).isTouched = (b.isTouched || acc.isTouched) := rfl
  have hcreated : (mergeAccountState b acc true).isCreated = (b.isCreated || acc.isCreated) := rfl
  constructor
  case destroyed =>
    intro hm
    obtain ⟨ht, hbs⟩ := mergeAccountState_untouched hs hk hm
    obtain ⟨hinfo, hstorage⟩ := @commit_untouched db state a acc hl ht
    rw [hinfo, hstorage, htouched, ht, Bool.or_false]
    exact hb.destroyed hbs
  case info =>
    intro _
    have hsame := h.same hl hs
    exact hsame
  case slot =>
    intro hm key v hv
    rw [slot_mergeAccountState] at hv
    cases hacc : acc.slot key with
    | some w =>
      rw [hacc, Option.some.injEq] at hv
      subst hv
      exact h.slot hl hs hacc
    | none =>
      rw [hacc] at hv
      rw [h.unloaded hl hs hacc]
      exact h.merged_slot hb hl hs hk hm hv hacc
  case unloaded =>
    intro hm key hv
    rw [slot_mergeAccountState] at hv
    cases hacc : acc.slot key with
    | some w =>
      rw [hacc] at hv
      cases hv
    | none =>
      rw [hacc] at hv
      rw [h.unloaded hl hs hacc]
      exact h.merged_unloaded hb hl hs hm hv
  case read =>
    intro hm
    rw [htouched, Bool.or_eq_false_iff] at hm
    obtain ⟨hinfo, hstorage⟩ := @commit_untouched db state a acc hl hm.2
    rw [hinfo, hstorage]
    exact hb.read hm.1
  case created =>
    intro hm
    rw [hcreated, Bool.or_eq_true] at hm
    rcases hm with hc | hc
    · exact hb.created hc
    · exact (h.created a acc hl hc).2.1
  case sound =>
    intro c hc
    exact h.code a acc c hl hc
  case code =>
    intro hm hne
    have hinfo : (mergeAccountState b acc true).info = acc.info := rfl
    rw [hinfo] at hne ⊢
    by_cases hnew : acc.info.codeHash = (db.info a).codeHash
    · exact hb.merged_code h₀ hs hk hne hnew
    · right
      obtain ⟨ht, hcode⟩ := h.deployed_touched hl hne hnew
      rw [htouched, ht, Bool.or_true]
      exact ⟨rfl, hcode⟩

theorem Represents.entry (h : Represents codes db₀ merged db) (h₀ : db₀.Known codes)
    (hret : Returned codes db₀ db state) (hk : keepsAccounts db₀ merged state = true)
    (hl : state.lookup a = some acc) :
    Represented codes db₀ (db.commit state) a (mergeEntry true (merged.lookup a) acc) := by
  unfold mergeEntry
  by_cases hs : acc.isSelfdestructed = true
  · rw [if_pos hs]
    cases hm : merged.lookup a with
    | none => exact hret.represented_destroyed hl hs rfl (fun key => rfl) rfl rfl rfl
    | some b =>
      simp only
      split
      · exact hret.represented_destroyed hl hs rfl (fun key => rfl) rfl rfl rfl
      · exact hret.represented_destroyed hl hs rfl (fun key => rfl) rfl rfl rfl
  · rw [if_neg hs]
    have hlive : acc.isSelfdestructed = false := by simpa using hs
    cases hm : merged.lookup a with
    | none =>
      obtain ⟨hinfo, hst⟩ := h.absent a hm
      apply (hret.represented h₀ hinfo hst hl).congr
      · rfl
      · intro key
        have hslot : (mapValues (·.markCold) acc.storage).lookup key =
            (acc.storage.lookup key).map (·.markCold) := lookup_mapValues _ _ _
        change ((mapValues (·.markCold) acc.storage).lookup key).map (·.presentValue) =
          (acc.storage.lookup key).map (·.presentValue)
        rw [hslot, Option.map_map]
        rfl
      · rfl
      · rfl
      · rfl
      · rfl
      · rfl
    | some b =>
      have hkept := keepsAccount_of_lookup hk hm hl
      exact hret.represented_merged h₀ (h.present a b hm) hl hlive hkept

theorem Represents.step (h : Represents codes db₀ merged db) (h₀ : db₀.Known codes)
    (hret : Returned codes db₀ db state) (hk : keepsAccounts db₀ merged state = true) :
    Represents codes db₀ (mergeWith (mergeEntry true) merged state) (db.commit state) where
  known := hret.known h.known
  absent a ha := by
    rw [lookup_mergeWith] at ha
    cases hl : state.lookup a with
    | none =>
      obtain ⟨hinfo, hst⟩ := @commit_absent db state a hl
      rw [hl] at ha
      rw [hinfo, hst]
      exact h.absent a ha
    | some acc =>
      rw [hl] at ha
      cases ha
  present a b hb := by
    rw [lookup_mergeWith] at hb
    cases hl : state.lookup a with
    | none =>
      obtain ⟨hinfo, hst⟩ := @commit_absent db state a hl
      rw [hl] at hb
      exact (h.present a b hb).congr rfl (fun key => rfl) rfl rfl rfl hinfo hst
    | some acc =>
      rw [hl, Option.some.injEq] at hb
      subst hb
      exact h.entry h₀ hret hk hl

theorem represents_first (h : Returned codes db₀ db₀ state) (h₀ : db₀.Known codes) :
    Represents codes db₀ state (db₀.commit state) where
  known := h.known h₀
  absent a ha := by
    obtain ⟨hinfo, hst⟩ := @commit_absent db₀ state a ha
    rw [hinfo, hst]
    exact ⟨.refl _, fun key => rfl⟩
  present a b hb := h.represented h₀ (.refl _) (fun key => rfl) hb

end Step

section Fold

variable {codes : CodeTable} {db₀ db : Db} {merged : EvmState} {states : List EvmState}

def foldMerge : EvmState → List EvmState → Option EvmState
  | this, [] => some this
  | this, other :: rest => (mergeEvmState this other).bind fun merged => foldMerge merged rest

def Db.commitAll (db : Db) (states : List EvmState) : Db := states.foldl Db.commit db

/-- Both at once, with what the next transaction runs on. -/
def foldStep (x : EvmState × Db) (state : EvmState) : Option (EvmState × Db) :=
  (mergeEvmState x.1 state).map fun merged => (merged, x.2.commit state)

theorem run_foldStep (this : EvmState) (db : Db) (states : List EvmState) :
    Run.run foldStep (this, db) states =
      (foldMerge this states).map fun merged => (merged, db.commitAll states) := by
  induction states generalizing this db with
  | nil => rfl
  | cons state rest ih =>
    simp only [Run.run, foldMerge, foldStep]
    cases mergeEvmState this state with
    | none => rfl
    | some merged => exact ih merged (db.commit state)

/-- The next state is that of a transaction on the committed database, and its
merge keeps what it has to. -/
def Merges (codes : CodeTable) (db₀ : Db) (x : EvmState × Db) (state : EvmState) : Prop :=
  Returned codes db₀ x.2 state ∧ keepsAccounts db₀ x.1 state = true

theorem foldStep_merges {x : EvmState × Db} {state : EvmState} (h : Merges codes db₀ x state) :
    foldStep x state = some (mergeWith (mergeEntry true) x.1 state, x.2.commit state) := by
  rw [foldStep, mergeEvmState, mergeEvmState_of_created h.1.destroyed]
  rfl

theorem represents_fold {x : EvmState × Db} (h : Represents codes db₀ x.1 x.2)
    (h₀ : db₀.Known codes) (hg : Run.Guarded foldStep (Merges codes db₀) x states) :
    ∃ y, Run.run foldStep x states = some y ∧ Represents codes db₀ y.1 y.2 := by
  induction states generalizing x with
  | nil => exact ⟨x, rfl, h⟩
  | cons state rest ih =>
    have hstep := foldStep_merges hg.1
    obtain ⟨y, hy, hr⟩ := ih (h.step h₀ hg.1.1 hg.1.2) (hg.2 _ hstep)
    refine ⟨y, ?_, hr⟩
    rw [Run.run, hstep]
    exact hy

/-- The empty state with nothing committed, or the raw state of the first
transaction with that committed. -/
inductive FoldStart (codes : CodeTable) (db₀ : Db) : EvmState × Db → Prop where
  | empty : FoldStart codes db₀ (∅, db₀)
  | first {state : EvmState} : Returned codes db₀ db₀ state →
    FoldStart codes db₀ (state, db₀.commit state)

/-- Folding the states and committing once is committing them in order. -/
theorem fold_agrees {x : EvmState × Db} (h₀ : db₀.Known codes) (hx : FoldStart codes db₀ x)
    (hg : Run.Guarded foldStep (Merges codes db₀) x states) :
    ∃ merged, foldMerge x.1 states = some merged ∧
      (db₀.commit merged).Agrees (x.2.commitAll states) := by
  have hfirst : Represents codes db₀ x.1 x.2 := by
    cases hx with
    | empty => exact represents_empty h₀
    | first hret => exact represents_first hret h₀
  obtain ⟨y, hy, hr⟩ := represents_fold hfirst h₀ hg
  have hrun := run_foldStep x.1 x.2 states
  rw [Prod.mk.eta, hy] at hrun
  obtain ⟨merged, hm, rfl⟩ := Option.map_eq_some_iff.1 hrun.symm
  exact ⟨merged, hm, hr.agrees h₀⟩

end Fold

section Refilled

/-- Hash 9 stands for a bytecode, and no account exists. -/
def sampleCodes : CodeTable where
  codeOf hash := if hash = KECCAK_EMPTY then [] else [1]
  empty hash h := by
    by_contra hne
    rw [if_neg hne] at h
    cases h

def emptyDb : Db := ⟨fun _ => default, fun _ _ => 0, fun _ => none⟩

theorem emptyDb_known : emptyDb.Known sampleCodes where
  sound hash code h := by cases h
  known a h := absurd rfl h

def sampleAccount (info : AccountInfo) (created destroyed : Bool) : Account where
  info := info
  transactionId := 0
  storage := ∅
  status := { (default : AccountStatus) with
    created := created
    selfDestructed := destroyed
    touched := true }

def soleAccount (a : Address) (acc : Account) : EvmState := (∅ : EvmState).insert a acc

theorem lookup_soleAccount {a b : Address} {acc acc' : Account}
    (h : (soleAccount a acc).lookup b = some acc') : b = a ∧ acc' = acc := by
  unfold soleAccount at h
  by_cases hb : b = a
  · subst hb
    rw [AList.lookup_insert, Option.some.injEq] at h
    exact ⟨rfl, h.symm⟩
  · rw [AList.lookup_insert_ne hb, AList.lookup_empty] at h
    cases h

theorem returned_soleAccount {codes : CodeTable} {db₀ db : Db} {a : Address} {acc : Account}
    (hd : acc.isSelfdestructed = true → acc.isCreated = true) (ht : acc.isTouched = true)
    (hz : ∀ key, db₀.storage a key = 0 ∧ db.storage a key = 0)
    (hc : ∀ c, acc.info.code = some c → c = codes.codeOf acc.info.codeHash)
    (hnew : acc.info.codeHash ≠ (db.info a).codeHash →
      acc.info.codeHash = KECCAK_EMPTY ∨ acc.info.code.isSome = true) :
    Returned codes db₀ db (soleAccount a acc) := by
  constructor
  · intro b acc' h
    obtain ⟨rfl, rfl⟩ := lookup_soleAccount h
    exact hd
  · intro b acc' h _
    obtain ⟨rfl, rfl⟩ := lookup_soleAccount h
    exact ⟨ht, fun key => (hz key).1, fun key => (hz key).2⟩
  · intro b acc' h hread
    obtain ⟨rfl, rfl⟩ := lookup_soleAccount h
    rw [ht] at hread
    cases hread
  · intro b acc' c h
    obtain ⟨rfl, rfl⟩ := lookup_soleAccount h
    exact hc c
  · intro b acc' h
    obtain ⟨rfl, rfl⟩ := lookup_soleAccount h
    exact hnew

def destroyedState : EvmState :=
  soleAccount 7 (sampleAccount ⟨0, 1, KECCAK_EMPTY, some []⟩ true true)

def deployedState : EvmState := soleAccount 7 (sampleAccount ⟨0, 1, 9, some [1]⟩ true false)

def fundedState (hash : ℕ) (code : Option Bytes) : EvmState :=
  soleAccount 7 (sampleAccount ⟨5, 0, hash, code⟩ false false)

theorem returned_destroyed : Returned sampleCodes emptyDb emptyDb destroyedState := by
  apply returned_soleAccount
  · decide
  · rfl
  · exact fun key => ⟨rfl, rfl⟩
  · rintro c ⟨⟩
    decide
  · exact fun _ => .inl rfl

theorem returned_deployed : Returned sampleCodes emptyDb emptyDb deployedState := by
  apply returned_soleAccount
  · decide
  · rfl
  · exact fun key => ⟨rfl, rfl⟩
  · rintro c ⟨⟩
    decide
  · exact fun _ => .inr rfl

theorem returned_called : Returned sampleCodes emptyDb (emptyDb.commit deployedState)
    (fundedState 9 (some [1])) := by
  apply returned_soleAccount
  · decide
  · rfl
  · exact fun key => ⟨rfl, rfl⟩
  · rintro c ⟨⟩
    decide
  · exact fun _ => .inr rfl

theorem fold_agrees_called : ∃ merged, foldMerge deployedState [fundedState 9 (some [1])] =
    some merged ∧ (emptyDb.commit merged).Agrees
      ((emptyDb.commit deployedState).commitAll [fundedState 9 (some [1])]) :=
  @fold_agrees sampleCodes emptyDb [fundedState 9 (some [1])]
    (deployedState, emptyDb.commit deployedState) emptyDb_known (.first returned_deployed)
    ⟨⟨returned_called, by decide⟩, fun _ _ => trivial⟩

/-- The account the raw first state destroys is sent a value afterwards; the merged
account is still marked as destroyed and loses it. -/
theorem fold_loses_balance :
    ¬ ∀ codes db₀ x states, db₀.Known codes → FoldStart codes db₀ x →
      Run.Guarded foldStep (fun x state => Returned codes db₀ x.2 state) x states →
      ∃ merged, foldMerge x.1 states = some merged ∧
        (db₀.commit merged).Agrees (x.2.commitAll states) := by
  intro h
  have hfunded : Returned sampleCodes emptyDb (emptyDb.commit destroyedState)
      (fundedState KECCAK_EMPTY none) := by
    apply returned_soleAccount
    · decide
    · rfl
    · exact fun key => ⟨rfl, rfl⟩
    · intro c hc
      cases hc
    · exact fun _ => .inl rfl
  obtain ⟨merged, hm, hagrees⟩ := h sampleCodes emptyDb
    (destroyedState, emptyDb.commit destroyedState) [fundedState KECCAK_EMPTY none]
    emptyDb_known (.first returned_destroyed) ⟨hfunded, fun _ _ => trivial⟩
  have hbalance : (foldMerge destroyedState [fundedState KECCAK_EMPTY none]).map
      (fun merged => ((emptyDb.commit merged).info 7).balance) = some 0 := by decide
  rw [hm, Option.map_some, Option.some.injEq] at hbalance
  have hkept := (hagrees 7).1.1
  have hcommitted : (((emptyDb.commit destroyedState).commitAll
      [fundedState KECCAK_EMPTY none]).info 7).balance = 5 := by decide
  rw [hbalance] at hkept
  exact absurd (hkept.trans hcommitted) (by decide)

-- a state that holds the account by its hash makes the merged one forget its bytecode
example :
    ((foldMerge deployedState [fundedState 9 none]).map fun merged =>
        (emptyDb.commit merged).codeByHash 9) = some none ∧
      ((emptyDb.commit deployedState).commitAll [fundedState 9 none]).codeByHash 9 =
        some [1] := by
  decide

end Refilled

end MegaEvm
