import MegaEvm.StateMerge

/-!
# The state of a keyless deployment

The sandbox runs on the journal of its transaction over the database, and its
state is merged into that journal without the status of its accounts. The
transaction sees all of it afterwards; what a commit sees depends on the marks of
the journal, which are those from before the sandbox.
-/

set_option autoImplicit false

namespace MegaEvm

open KeyedFold

section Sandbox

/-- Accounts of the journal by the hash of the bytecode they carry. -/
def codeIndex (journalState : EvmState) : ℕ → Option Address :=
  foldEntries (fun index address account =>
    match account.info.code with
    | some code =>
      if code.isEmpty then index
      else Function.update index account.info.codeHash (some address)
    | none => index) (fun _ => none) journalState

/-- `SandboxDb`: the journal first, then the database; the nonce of one address
may be overridden. -/
def sandboxDb (journalState : EvmState) (db : Db) (nonceOverrideAddress : Option Address) : Db where
  info address :=
    let info := match journalState.lookup address with
      | some account => account.info
      | none => db.info address
    if nonceOverrideAddress = some address then { info with nonce := 0 } else info
  storage address index :=
    match journalState.lookup address with
    | some account => (account.slot index).getD (db.storage address index)
    | none => db.storage address index
  contracts hash :=
    match (codeIndex journalState hash).bind journalState.lookup with
    | some account => some (account.info.code.getD [])
    | none => db.contracts hash

def applySandboxState (journalState sandboxState : EvmState) : Option EvmState :=
  mergeEvmStateOptionalStatus journalState sandboxState false

end Sandbox

section Outer

def uint256Max : ℕ := 2 ^ 256 - 1

def AccountInfo.credit (info : AccountInfo) (amount : ℕ) : AccountInfo :=
  { info with balance := min (info.balance + amount) uint256Max }

/-- `balance_incr` of the journal, by which the transaction pays back and rewards
after its frames: the account is loaded and touched. -/
def balanceIncr (db : Db) (journalState : EvmState) (credit : Address × ℕ) : EvmState :=
  match journalState.lookup credit.1 with
  | some account =>
    journalState.insert credit.1
      { account with info := account.info.credit credit.2 }.withTouchedMark
  | none =>
    journalState.insert credit.1
      { (default : Account) with info := (db.info credit.1).credit credit.2 }.withTouchedMark

def settle (db : Db) (journalState : EvmState) (credits : List (Address × ℕ)) : EvmState :=
  credits.foldl (balanceIncr db) journalState

def Db.credit (db : Db) (credit : Address × ℕ) : Db :=
  { db with info := Function.update db.info credit.1 ((db.info credit.1).credit credit.2) }

def Db.creditAll (db : Db) (credits : List (Address × ℕ)) : Db := credits.foldl Db.credit db

end Outer

section Journal

/-- What the transaction sees: its journal over the database. -/
def Db.loaded (db : Db) (journalState : EvmState) : Db := sandboxDb journalState db none

/-- Bytecode in the journal is what its hash stands for; what is not there is in
the database. -/
structure Carries (codes : CodeTable) (db : Db) (journalState : EvmState) : Prop where
  sound : ∀ a acc c, journalState.lookup a = some acc → acc.info.code = some c →
    c = codes.codeOf acc.info.codeHash
  carried : ∀ a acc, journalState.lookup a = some acc → acc.info.codeHash ≠ KECCAK_EMPTY →
    acc.info.code.isSome = true ∨ (db.contracts acc.info.codeHash).isSome = true

/-- No account is left destroyed, and a created one has no storage in the database. -/
def Committable (db : Db) (journalState : EvmState) : Prop :=
  ∀ a acc, journalState.lookup a = some acc → acc.isSelfdestructed = false ∧
    (acc.isCreated = true → ∀ key, db.storage a key = 0)

variable {codes : CodeTable} {db : Db} {journal : EvmState} {a : Address} {acc : Account}

theorem loaded_present (hl : journal.lookup a = some acc) :
    (db.loaded journal).info a = acc.info ∧
      ∀ key, (db.loaded journal).storage a key = (acc.slot key).getD (db.storage a key) := by
  simp [Db.loaded, sandboxDb, hl]

theorem loaded_absent (hl : journal.lookup a = none) :
    (db.loaded journal).info a = db.info a ∧
      ∀ key, (db.loaded journal).storage a key = db.storage a key := by
  simp [Db.loaded, sandboxDb, hl]

theorem codeIndex_sound {hash : ℕ} (h : codeIndex journal hash = some a) :
    ∃ acc c, journal.lookup a = some acc ∧ acc.info.code = some c ∧
      acc.info.codeHash = hash := by
  have hall : ∀ hash a, codeIndex journal hash = some a → ∃ acc c,
      journal.lookup a = some acc ∧ acc.info.code = some c ∧ acc.info.codeHash = hash := by
    apply @foldEntries_induction _ _ _ _ (fun index : ℕ → Option Address =>
      ∀ hash a, index hash = some a → ∃ acc c, journal.lookup a = some acc ∧
        acc.info.code = some c ∧ acc.info.codeHash = hash)
    · intro index b acc hb ih hash a ha
      cases hc : acc.info.code with
      | none =>
        simp only [hc] at ha
        exact ih hash a ha
      | some c =>
        simp only [hc] at ha
        split at ha
        · exact ih hash a ha
        · by_cases hh : hash = acc.info.codeHash
          · subst hh
            rw [Function.update_self, Option.some.injEq] at ha
            subst ha
            exact ⟨acc, c, hb, hc, rfl⟩
          · rw [Function.update_of_ne hh] at ha
            exact ih hash a ha
    · intro hash a ha
      cases ha
  exact hall hash a h

theorem codeIndex_known {c : Bytes} (hl : journal.lookup a = some acc)
    (hc : acc.info.code = some c) (hne : c ≠ []) :
    (codeIndex journal acc.info.codeHash).isSome = true := by
  have hempty : c.isEmpty = false := by simpa using hne
  apply @foldEntries_establish _ _ _ _ (fun index : ℕ → Option Address =>
    (index acc.info.codeHash).isSome = true) _ _ _ _ hl
  · intro index
    simp [hc, hempty]
  · intro index b acc' hi
    cases hc' : acc'.info.code with
    | none => exact hi
    | some c' =>
      simp only
      split
      · exact hi
      · by_cases hh : acc.info.codeHash = acc'.info.codeHash
        · rw [hh, Function.update_self]
          rfl
        · rw [Function.update_of_ne hh]
          exact hi

theorem loaded_contracts {hash : ℕ} (h : (db.contracts hash).isSome = true) :
    ((db.loaded journal).contracts hash).isSome = true := by
  simp only [Db.loaded, sandboxDb]
  split
  · rfl
  · exact h

theorem known_loaded (h : db.Known codes) (hc : Carries codes db journal) :
    (db.loaded journal).Known codes := by
  constructor
  · intro hash code hcode
    simp only [Db.loaded, sandboxDb] at hcode
    cases hi : codeIndex journal hash with
    | none =>
      rw [hi] at hcode
      exact h.sound hash code hcode
    | some a =>
      obtain ⟨acc, c, hl, hcarried, rfl⟩ := codeIndex_sound hi
      simp only [hi, Option.bind_some, hl, hcarried, Option.getD_some, Option.some.injEq] at hcode
      subst hcode
      exact hc.sound a acc c hl hcarried
  · intro a hne
    cases hl : journal.lookup a with
    | none =>
      rw [(loaded_absent hl).1] at hne ⊢
      exact loaded_contracts (h.known a hne)
    | some acc =>
      rw [(loaded_present hl).1] at hne ⊢
      rcases hc.carried a acc hl hne with hcarried | hstored
      · obtain ⟨c, hcode⟩ := Option.isSome_iff_exists.1 hcarried
        have hindex := codeIndex_known hl hcode
          (CodeTable.nonempty (hc.sound a acc c hl hcode) hne)
        obtain ⟨b, hb⟩ := Option.isSome_iff_exists.1 hindex
        obtain ⟨acc', c', hl', -, -⟩ := codeIndex_sound hb
        simp [Db.loaded, sandboxDb, hb, hl']
      · exact loaded_contracts hstored

/-- What an account that is not touched loses by a commit: nothing. -/
def Unchanged (db : Db) (a : Address) (acc : Account) : Prop :=
  acc.info.Same (db.info a) ∧ ∀ key v, acc.slot key = some v → v = db.storage a key

theorem Unchanged.storage (h : Unchanged db a acc) (key : ℕ) :
    (acc.slot key).getD (db.storage a key) = db.storage a key := by
  cases hv : acc.slot key with
  | none => rfl
  | some v => exact h.2 key v hv

theorem committed_loaded (hc : Committable db journal)
    (h : ∀ acc, journal.lookup a = some acc → acc.isTouched = false → Unchanged db a acc) :
    ((db.commit journal).info a).Same ((db.loaded journal).info a) ∧
      ∀ key, (db.commit journal).storage a key = (db.loaded journal).storage a key := by
  cases hl : journal.lookup a with
  | none =>
    obtain ⟨hinfo, hstorage⟩ := @commit_absent db journal a hl
    obtain ⟨hinfo', hstorage'⟩ := @loaded_absent db journal a hl
    rw [hinfo, hinfo', hstorage]
    exact ⟨.refl _, fun key => (hstorage' key).symm⟩
  | some acc =>
    obtain ⟨hinfo', hstorage'⟩ := @loaded_present db journal a acc hl
    obtain ⟨hdead, hzero⟩ := hc a acc hl
    by_cases ht : acc.isTouched = true
    · obtain ⟨hinfo, hstorage⟩ := @commit_touched db journal a acc hl ht hdead
      rw [hinfo, hinfo']
      constructor
      · exact .refl _
      · intro key
        rw [hstorage, hstorage']
        by_cases hcr : acc.isCreated = true
        · rw [if_pos hcr, hzero hcr key]
        · rw [if_neg hcr]
    · have hread : acc.isTouched = false := by simpa using ht
      obtain ⟨hinfo, hstorage⟩ := @commit_untouched db journal a acc hl hread
      have hsame := h acc hl hread
      rw [hinfo, hinfo', hstorage]
      constructor
      · exact hsame.1.symm
      · intro key
        rw [hstorage', hsame.storage key]

theorem known_committed (h : db.Known codes) (hc : Carries codes db journal) :
    (db.commit journal).Known codes := by
  apply known_commit h hc.sound
  intro a acc hl _ _ hne
  exact (hc.carried a acc hl hne).symm

/-- A commit loses nothing exactly if what is not touched did not change. -/
theorem commit_agrees_iff (h : db.Known codes) (hcarries : Carries codes db journal)
    (hc : Committable db journal) : (db.commit journal).Agrees (db.loaded journal) ↔
      ∀ a acc, journal.lookup a = some acc → acc.isTouched = false → Unchanged db a acc := by
  constructor
  · intro hagrees a acc hl ht
    obtain ⟨hinfo, hstorage, -⟩ := hagrees a
    obtain ⟨hinfo', hstorage'⟩ := @commit_untouched db journal a acc hl ht
    rw [hinfo', (loaded_present hl).1] at hinfo
    constructor
    · exact hinfo.symm
    · intro key v hv
      have hkey := hstorage key
      rw [hstorage', (loaded_present hl).2, hv] at hkey
      exact hkey.symm
  · intro hun a
    obtain ⟨hinfo, hstorage⟩ := @committed_loaded db journal a hc (hun a)
    have hknown := known_committed h hcarries
    have hknown' := known_loaded h hcarries
    refine ⟨hinfo, hstorage, ?_⟩
    rw [← hinfo.2.2]
    apply codeByHash_eq hknown.sound hknown'.sound (hknown.known a)
    rw [hinfo.2.2]
    exact hknown'.known a

end Journal

section Agreement

variable {codes : CodeTable} {db db' db'' : Db}

theorem Db.Agrees.symm (h : db.Agrees db') : db'.Agrees db := fun a =>
  ⟨(h a).1.symm, fun key => ((h a).2.1 key).symm, (h a).2.2.symm⟩

theorem Db.Agrees.trans (h : db.Agrees db') (h' : db'.Agrees db'') : db.Agrees db'' := fun a =>
  ⟨(h a).1.trans (h' a).1, fun key => ((h a).2.1 key).trans ((h' a).2.1 key),
    (h a).2.2.trans (h' a).2.2⟩

theorem agrees_of_same (h : db.Known codes) (h' : db'.Known codes)
    (hsame : ∀ a, (db.info a).Same (db'.info a) ∧ ∀ key, db.storage a key = db'.storage a key) :
    db.Agrees db' := by
  intro a
  obtain ⟨hinfo, hstorage⟩ := hsame a
  refine ⟨hinfo, hstorage, ?_⟩
  rw [← hinfo.2.2]
  apply codeByHash_eq h.sound h'.sound (h.known a)
  rw [hinfo.2.2]
  exact h'.known a

end Agreement

section Credits

variable {codes : CodeTable} {db ref : Db} {journal : EvmState} {a : Address}
  {pay : Address × ℕ} {credits : List (Address × ℕ)}

theorem AccountInfo.Same.credit {i j : AccountInfo} (h : i.Same j) (n : ℕ) :
    (i.credit n).Same (j.credit n) := by
  unfold AccountInfo.credit
  rw [h.1]
  exact ⟨rfl, h.2⟩

theorem credit_info_self (db : Db) (pay : Address × ℕ) :
    (db.credit pay).info pay.1 = (db.info pay.1).credit pay.2 := by
  simp [Db.credit]

theorem credit_info_other (h : a ≠ pay.1) : (db.credit pay).info a = db.info a := by
  simp [Db.credit, h]

theorem lookup_balanceIncr_other (h : a ≠ pay.1) :
    (balanceIncr db journal pay).lookup a = journal.lookup a := by
  unfold balanceIncr
  split
  · rw [AList.lookup_insert_ne h]
  · rw [AList.lookup_insert_ne h]

theorem lookup_balanceIncr_same (db : Db) (journal : EvmState) (pay : Address × ℕ) :
    ∃ acc, (balanceIncr db journal pay).lookup pay.1 = some acc ∧ acc.isTouched = true ∧
      acc.info = ((db.loaded journal).info pay.1).credit pay.2 ∧
      acc.slot = (((journal.lookup pay.1).getD default).slot) ∧
      acc.isSelfdestructed = ((journal.lookup pay.1).getD default).isSelfdestructed ∧
      acc.isCreated = ((journal.lookup pay.1).getD default).isCreated := by
  unfold balanceIncr
  cases hl : journal.lookup pay.1 with
  | none =>
    refine ⟨_, AList.lookup_insert journal, rfl, ?_, rfl, rfl, rfl⟩
    rw [(loaded_absent hl).1]
    rfl
  | some acc =>
    refine ⟨_, AList.lookup_insert journal, rfl, ?_, rfl, rfl, rfl⟩
    rw [(loaded_present hl).1]
    rfl

theorem loaded_balanceIncr (db : Db) (journal : EvmState) (pay : Address × ℕ) (a : Address) :
    (db.loaded (balanceIncr db journal pay)).info a =
        ((db.loaded journal).credit pay).info a ∧
      ∀ key, (db.loaded (balanceIncr db journal pay)).storage a key =
        (db.loaded journal).storage a key := by
  by_cases ha : a = pay.1
  · subst ha
    obtain ⟨acc, hl, -, hinfo, hslot, -, -⟩ := lookup_balanceIncr_same db journal pay
    obtain ⟨hinfo', hstorage'⟩ := @loaded_present db _ _ acc hl
    rw [hinfo', hinfo, credit_info_self]
    constructor
    · rfl
    · intro key
      rw [hstorage', hslot]
      cases hj : journal.lookup pay.1 with
      | none =>
        rw [(loaded_absent hj).2]
        rfl
      | some acc' =>
        rw [(loaded_present hj).2]
        rfl
  · have hl := @lookup_balanceIncr_other db journal a pay ha
    rw [credit_info_other ha]
    cases hj : journal.lookup a with
    | none =>
      rw [hj] at hl
      rw [(loaded_absent hl).1, (loaded_absent hj).1]
      exact ⟨rfl, fun key => by rw [(loaded_absent hl).2, (loaded_absent hj).2]⟩
    | some acc =>
      rw [hj] at hl
      rw [(loaded_present hl).1, (loaded_present hj).1]
      exact ⟨rfl, fun key => by rw [(loaded_present hl).2, (loaded_present hj).2]⟩

/-- Bytecode that the database returns with an account is what its hash stands for. -/
def Db.Sourced (codes : CodeTable) (db : Db) : Prop :=
  ∀ a c, (db.info a).code = some c → c = codes.codeOf (db.info a).codeHash

theorem Carries.balanceIncr (h : Carries codes db journal) (hdb : db.Known codes)
    (hs : db.Sourced codes) : Carries codes db (balanceIncr db journal pay) := by
  obtain ⟨acc₁, hl₁, -, hinfo, -⟩ := lookup_balanceIncr_same db journal pay
  have hcarry : (∀ c, acc₁.info.code = some c → c = codes.codeOf acc₁.info.codeHash) ∧
      (acc₁.info.codeHash ≠ KECCAK_EMPTY → acc₁.info.code.isSome = true ∨
        (db.contracts acc₁.info.codeHash).isSome = true) := by
    rw [hinfo]
    cases hj : journal.lookup pay.1 with
    | none =>
      rw [(loaded_absent hj).1]
      exact ⟨hs pay.1, fun hne => .inr (hdb.known pay.1 hne)⟩
    | some acc =>
      rw [(loaded_present hj).1]
      exact ⟨fun c => h.sound pay.1 acc c hj, h.carried pay.1 acc hj⟩
  constructor
  · intro a acc c hl
    by_cases ha : a = pay.1
    · subst ha
      obtain rfl : acc₁ = acc := Option.some.inj (hl₁.symm.trans hl)
      exact hcarry.1 c
    · rw [lookup_balanceIncr_other ha] at hl
      exact h.sound a acc c hl
  · intro a acc hl
    by_cases ha : a = pay.1
    · subst ha
      obtain rfl : acc₁ = acc := Option.some.inj (hl₁.symm.trans hl)
      exact hcarry.2
    · rw [lookup_balanceIncr_other ha] at hl
      exact h.carried a acc hl

theorem Committable.balanceIncr (h : Committable db journal) :
    Committable db (balanceIncr db journal pay) := by
  intro a acc hl
  by_cases ha : a = pay.1
  · subst ha
    obtain ⟨acc₁, hl₁, -, -, -, hdead, hcreated⟩ := lookup_balanceIncr_same db journal pay
    obtain rfl : acc₁ = acc := Option.some.inj (hl₁.symm.trans hl)
    rw [hdead, hcreated]
    cases hj : journal.lookup pay.1 with
    | none => exact ⟨rfl, fun hc => by cases hc⟩
    | some acc' => exact h pay.1 acc' hj
  · rw [lookup_balanceIncr_other ha] at hl
    exact h a acc hl

theorem known_credit (h : ref.Known codes) : (ref.credit pay).Known codes := by
  constructor
  · exact h.sound
  · intro a
    have hhash : ((ref.credit pay).info a).codeHash = (ref.info a).codeHash := by
      by_cases ha : a = pay.1
      · subst ha
        rw [credit_info_self]
        rfl
      · rw [credit_info_other ha]
    rw [hhash]
    exact h.known a

/-- What a settled journal shows is the settled state, and it is as committable. -/
structure Shows (codes : CodeTable) (db ref : Db) (journal : EvmState) : Prop where
  carries : Carries codes db journal
  committable : Committable db journal
  known : ref.Known codes
  agrees : (db.loaded journal).Agrees ref

theorem Shows.credit (h : Shows codes db ref journal) (hdb : db.Known codes)
    (hs : db.Sourced codes) : Shows codes db (ref.credit pay) (balanceIncr db journal pay)
    where
  carries := h.carries.balanceIncr hdb hs
  committable := h.committable.balanceIncr
  known := known_credit h.known
  agrees := by
    apply agrees_of_same (known_loaded hdb (h.carries.balanceIncr hdb hs)) (known_credit h.known)
    intro a
    obtain ⟨hinfo, hstorage⟩ := loaded_balanceIncr db journal pay a
    rw [hinfo]
    constructor
    · by_cases ha : a = pay.1
      · subst ha
        rw [credit_info_self, credit_info_self]
        exact (h.agrees pay.1).1.credit pay.2
      · rw [credit_info_other ha, credit_info_other ha]
        exact (h.agrees a).1
    · intro key
      rw [hstorage]
      exact (h.agrees a).2.1 key

theorem Shows.creditAll (h : Shows codes db ref journal) (hdb : db.Known codes)
    (hs : db.Sourced codes) :
    Shows codes db (ref.creditAll credits) (settle db journal credits) := by
  induction credits generalizing journal ref with
  | nil => exact h
  | cons pay rest ih => exact ih (h.credit hdb hs)

theorem lookup_settle (db : Db) (journal : EvmState) (credits : List (Address × ℕ)) (a : Address) :
    (a ∉ credits.map Prod.fst → (settle db journal credits).lookup a = journal.lookup a) ∧
      (a ∈ credits.map Prod.fst → ∀ acc, (settle db journal credits).lookup a = some acc →
        acc.isTouched = true) := by
  induction credits generalizing journal with
  | nil => exact ⟨fun _ => rfl, fun h => by cases h⟩
  | cons pay rest ih =>
    obtain ⟨hother, hsame⟩ := ih (balanceIncr db journal pay)
    rw [List.map_cons, List.mem_cons, not_or]
    constructor
    · intro ⟨ha, hrest⟩
      rw [← @lookup_balanceIncr_other db journal a pay ha]
      exact hother hrest
    · intro ha acc hl
      by_cases hrest : a ∈ rest.map Prod.fst
      · exact hsame hrest acc hl
      · rcases ha with rfl | ha
        · obtain ⟨acc₁, hl₁, ht, -⟩ := lookup_balanceIncr_same db journal pay
          have hkept := hother hrest
          rw [hl₁] at hkept
          obtain rfl : acc₁ = acc := Option.some.inj (hkept.symm.trans hl)
          exact ht
        · exact absurd ha hrest

end Credits

section Merge

/-- The journal of a transaction before its first frame: no account is created or
destroyed, no slot is written, and what is not touched was only read. -/
structure BeforeFrames (codes : CodeTable) (db : Db) (journal : EvmState) : Prop where
  carries : Carries codes db journal
  fresh : ∀ a acc, journal.lookup a = some acc →
    acc.isCreated = false ∧ acc.isSelfdestructed = false
  slot : ∀ a acc key v, journal.lookup a = some acc → acc.slot key = some v →
    v = db.storage a key
  read : ∀ a acc, journal.lookup a = some acc → acc.isTouched = false →
    acc.info.Same (db.info a)

/-- What a completed sandbox returns: the state of a transaction on the sandbox's
database. Its signer is charged, and bytecode that came with an account stays. -/
structure Sandboxed (codes : CodeTable) (db : Db) (journal : EvmState) (signer : Address)
    (state : EvmState) : Prop where
  returned : Returned codes (sandboxDb journal db (some signer))
    (sandboxDb journal db (some signer)) state
  charged : ∃ acc, state.lookup signer = some acc ∧ acc.isTouched = true
  loaded : ∀ a acc, state.lookup a = some acc →
    acc.info.codeHash = ((db.loaded journal).info a).codeHash →
      ((db.loaded journal).info a).code.isSome = true → acc.info.code.isSome = true

variable {codes : CodeTable} {db : Db} {journal state : EvmState} {signer a : Address}
  {acc p : Account} {credits : List (Address × ℕ)}

theorem BeforeFrames.storage (h : BeforeFrames codes db journal) (a : Address) (key : ℕ) :
    (db.loaded journal).storage a key = db.storage a key := by
  cases hl : journal.lookup a with
  | none => exact (loaded_absent hl).2 key
  | some acc =>
    rw [(loaded_present hl).2]
    cases hv : acc.slot key with
    | none => rfl
    | some v => exact h.slot a acc key v hl hv

theorem override_info (hne : a ≠ signer) :
    (sandboxDb journal db (some signer)).info a = (db.loaded journal).info a := by
  simp [sandboxDb, Db.loaded, hne.symm]

theorem override_codeHash (a : Address) :
    ((sandboxDb journal db (some signer)).info a).codeHash =
      ((db.loaded journal).info a).codeHash := by
  by_cases ha : a = signer
  · subst ha
    simp [sandboxDb, Db.loaded]
  · rw [override_info ha]

theorem Sandboxed.returned_loaded (h : Sandboxed codes db journal signer state) :
    Returned codes (db.loaded journal) (db.loaded journal) state where
  destroyed := h.returned.destroyed
  created := h.returned.created
  read a acc hl ht := by
    have hne : a ≠ signer := by
      rintro rfl
      obtain ⟨acc', hl', ht'⟩ := h.charged
      obtain rfl : acc' = acc := Option.some.inj (hl'.symm.trans hl)
      rw [ht] at ht'
      cases ht'
    rw [← override_info hne]
    exact h.returned.read a acc hl ht
  code := h.returned.code
  deployed a acc hl := by
    rw [← override_codeHash]
    exact h.returned.deployed a acc hl

def applied (journal state : EvmState) : EvmState := mergeWith (mergeEntry false) journal state

theorem applySandboxState_eq (h : Sandboxed codes db journal signer state) :
    applySandboxState journal state = some (applied journal state) :=
  mergeEvmState_of_created h.returned.destroyed

/-- How an account of the journal came out of the merge. -/
inductive Applied (journal state : EvmState) (a : Address) (m : Account) : Prop where
  | kept : state.lookup a = none → journal.lookup a = some m → Applied journal state a m
  | destroyed {acc : Account} : state.lookup a = some acc → acc.isSelfdestructed = true →
    m.info = default → (∀ key, m.slot key = none) → m.isSelfdestructed = false →
      m.isCreated = false → m.isTouched = true → Applied journal state a m
  | new {acc : Account} : state.lookup a = some acc → acc.isSelfdestructed = false →
    journal.lookup a = none → m.info = acc.info → m.slot = acc.slot →
      m.isSelfdestructed = false → m.isCreated = acc.isCreated →
        m.isTouched = acc.isTouched → Applied journal state a m
  | merged {acc p : Account} : state.lookup a = some acc → acc.isSelfdestructed = false →
    journal.lookup a = some p → m.info = acc.info →
      (∀ key, m.slot key = match acc.slot key with
        | some v => some v
        | none => p.slot key) →
        m.isSelfdestructed = p.isSelfdestructed → m.isCreated = p.isCreated →
          m.isTouched = p.isTouched → Applied journal state a m

theorem slot_mapValues_markCold (acc : Account) :
    ({ acc with storage := mapValues (·.markCold) acc.storage } : Account).slot = acc.slot := by
  ext1 key
  have hslot : (mapValues (·.markCold) acc.storage).lookup key =
      (acc.storage.lookup key).map (·.markCold) := lookup_mapValues _ _ _
  unfold Account.slot
  rw [hslot, Option.map_map]
  rfl

theorem applied_cases {m : Account} (hm : (applied journal state).lookup a = some m) :
    Applied journal state a m := by
  unfold applied at hm
  rw [lookup_mergeWith] at hm
  cases hl : state.lookup a with
  | none =>
    rw [hl] at hm
    exact .kept hl hm
  | some acc =>
    rw [hl] at hm
    simp only [mergeEntry, Option.some.injEq] at hm
    by_cases hs : acc.isSelfdestructed = true
    · rw [if_pos hs] at hm
      cases hj : journal.lookup a with
      | none =>
        rw [hj] at hm
        subst hm
        exact .destroyed hl hs rfl (fun key => rfl) rfl rfl rfl
      | some p =>
        simp only [hj] at hm
        split at hm
        · subst hm
          exact .destroyed hl hs rfl (fun key => rfl) rfl rfl rfl
        · subst hm
          exact .destroyed hl hs rfl (fun key => rfl) rfl rfl rfl
    · rw [if_neg hs] at hm
      have hlive : acc.isSelfdestructed = false := by simpa using hs
      cases hj : journal.lookup a with
      | none =>
        rw [hj] at hm
        subst hm
        exact .new hl hlive hj rfl (slot_mapValues_markCold acc) hlive rfl rfl
      | some p =>
        rw [hj] at hm
        subst hm
        exact .merged hl hlive hj rfl (slot_mergeAccountState p acc false) rfl rfl rfl

theorem applied_none (hm : (applied journal state).lookup a = none) :
    state.lookup a = none ∧ journal.lookup a = none := by
  unfold applied at hm
  rw [lookup_mergeWith] at hm
  cases hl : state.lookup a with
  | none =>
    rw [hl] at hm
    exact ⟨rfl, hm⟩
  | some acc =>
    rw [hl] at hm
    cases hm

theorem carries_applied (hdb : db.Known codes) (hb : BeforeFrames codes db journal)
    (h : Sandboxed codes db journal signer state) :
    Carries codes db (applied journal state) := by
  have hret := h.returned_loaded
  -- the bytecode of an account the sandbox returned
  have hcarried : ∀ a acc, state.lookup a = some acc → acc.info.codeHash ≠ KECCAK_EMPTY →
      acc.info.code.isSome = true ∨ (db.contracts acc.info.codeHash).isSome = true := by
    intro a acc hl hne
    by_cases hnew : acc.info.codeHash = ((db.loaded journal).info a).codeHash
    · have hkeep := h.loaded a acc hl hnew
      cases hj : journal.lookup a with
      | none =>
        right
        rw [(loaded_absent hj).1] at hnew
        rw [hnew] at hne ⊢
        exact hdb.known a hne
      | some p =>
        rw [(loaded_present hj).1] at hnew hkeep
        rw [hnew] at hne ⊢
        rcases hb.carries.carried a p hj hne with hcode | hstored
        · exact .inl (hkeep hcode)
        · exact .inr hstored
    · left
      exact (hret.deployed_touched hl hne hnew).2
  constructor
  · intro a m c hm hc
    cases applied_cases hm with
    | kept hl hj => exact hb.carries.sound a m c hj hc
    | destroyed hl hs hi =>
      rw [hi] at hc
      cases hc
    | new hl hs hj hi | merged hl hs hj hi =>
      rw [hi] at hc ⊢
      exact hret.code a _ c hl hc
  · intro a m hm hne
    cases applied_cases hm with
    | kept hl hj => exact hb.carries.carried a m hj hne
    | destroyed hl hs hi =>
      rw [hi] at hne
      exact absurd rfl hne
    | new hl hs hj hi | merged hl hs hj hi =>
      rw [hi] at hne ⊢
      exact hcarried a _ hl hne

theorem committable_applied (hb : BeforeFrames codes db journal)
    (h : Sandboxed codes db journal signer state) :
    Committable db (applied journal state) := by
  intro a m hm
  cases applied_cases hm with
  | kept hl hj =>
    obtain ⟨hcr, hdead⟩ := hb.fresh a m hj
    rw [hcr]
    exact ⟨hdead, fun hc => by cases hc⟩
  | destroyed hl hs hi hslot hdead hcr =>
    rw [hcr]
    exact ⟨hdead, fun hc => by cases hc⟩
  | new hl hs hj hi hslot hdead hcr =>
    rw [hcr]
    refine ⟨hdead, fun hc key => ?_⟩
    rw [← hb.storage a key]
    exact (h.returned_loaded.created a _ hl hc).2.1 key
  | merged hl hs hj hi hslot hdead hcr =>
    obtain ⟨hcr', hdead'⟩ := hb.fresh a _ hj
    rw [hcr, hcr', hdead, hdead']
    exact ⟨rfl, fun hc => by cases hc⟩

theorem shows_applied (hdb : db.Known codes) (hb : BeforeFrames codes db journal)
    (h : Sandboxed codes db journal signer state) :
    Shows codes db ((db.loaded journal).commit state) (applied journal state) := by
  have hret := h.returned_loaded
  have hknown := hret.known (known_loaded hdb hb.carries)
  have hcarries := carries_applied hdb hb h
  refine ⟨hcarries, committable_applied hb h, hknown, ?_⟩
  apply agrees_of_same (known_loaded hdb hcarries) hknown
  intro a
  cases hm : (applied journal state).lookup a with
  | none =>
    obtain ⟨hl, hj⟩ := applied_none hm
    obtain ⟨hinfo, hstorage⟩ := @commit_absent (db.loaded journal) state a hl
    rw [(loaded_absent hm).1, hinfo, (loaded_absent hj).1]
    refine ⟨.refl _, fun key => ?_⟩
    rw [(loaded_absent hm).2, hstorage, (loaded_absent hj).2]
  | some m =>
    obtain ⟨hinfo, hstorage⟩ := @loaded_present db (applied journal state) a m hm
    rw [hinfo]
    cases applied_cases hm with
    | kept hl hj =>
      obtain ⟨hinfo', hstorage'⟩ := @commit_absent (db.loaded journal) state a hl
      rw [hinfo', (loaded_present hj).1]
      refine ⟨.refl _, fun key => ?_⟩
      rw [hstorage, hstorage', (loaded_present hj).2]
    | destroyed hl hs hi hslot =>
      have hcreated := hret.created a _ hl (hret.destroyed a _ hl hs)
      obtain ⟨hempty, hzero⟩ := @commit_destroyed (db.loaded journal) state a _ hl hcreated.1 hs
      rw [hi, hempty]
      refine ⟨.refl _, fun key => ?_⟩
      rw [hstorage, hslot, hzero, Option.getD_none, ← hb.storage a key]
      exact hcreated.2.1 key
    | @new acc hl hs hj hi hslot =>
      rw [hi]
      refine ⟨hret.same hl hs, fun key => ?_⟩
      rw [hstorage, hslot]
      cases hv : acc.slot key with
      | some v => exact hret.slot hl hs hv
      | none =>
        rw [hret.unloaded hl hs hv, hb.storage]
        rfl
    | @merged acc p hl hs hj hi hslot =>
      rw [hi]
      refine ⟨hret.same hl hs, fun key => ?_⟩
      rw [hstorage, hslot]
      cases hv : acc.slot key with
      | some v => exact hret.slot hl hs hv
      | none =>
        rw [hret.unloaded hl hs hv, (loaded_present hj).2]

/-- What the sandbox changed of an account that the journal only read is lost,
unless a credit touches the account afterwards. -/
def NoneLost (db : Db) (journal state : EvmState) (credits : List (Address × ℕ)) : Prop :=
  ∀ a p acc, journal.lookup a = some p → p.isTouched = false → state.lookup a = some acc →
    acc.isTouched = true → acc.isSelfdestructed = false → a ∉ credits.map Prod.fst →
      Unchanged db a acc

theorem applied_over (hj : journal.lookup a = some p) (hl : state.lookup a = some acc)
    (hs : acc.isSelfdestructed = false) : ∃ m, (applied journal state).lookup a = some m ∧
      m.isTouched = p.isTouched ∧ m.info = acc.info ∧
        ∀ key v, acc.slot key = some v → m.slot key = some v := by
  cases hm : (applied journal state).lookup a with
  | none =>
    have habsent := (applied_none hm).1
    rw [hl] at habsent
    cases habsent
  | some m =>
    refine ⟨m, rfl, ?_⟩
    cases applied_cases hm with
    | kept hl' =>
      rw [hl] at hl'
      cases hl'
    | @destroyed acc' hl' hs' =>
      obtain rfl : acc = acc' := Option.some.inj (hl.symm.trans hl')
      rw [hs] at hs'
      cases hs'
    | new hl' hs' hj' =>
      rw [hj] at hj'
      cases hj'
    | @merged acc' p' hl' hs' hj' hi hslot hdead hcr ht =>
      obtain rfl : acc = acc' := Option.some.inj (hl.symm.trans hl')
      obtain rfl : p = p' := Option.some.inj (hj.symm.trans hj')
      refine ⟨ht, hi, fun key v hv => ?_⟩
      rw [hslot, hv]

theorem applied_unchanged {m : Account} (hb : BeforeFrames codes db journal)
    (h : Sandboxed codes db journal signer state) (hm : (applied journal state).lookup a = some m)
    (ht : m.isTouched = false)
    (hnone : ∀ p acc, journal.lookup a = some p → p.isTouched = false →
      state.lookup a = some acc → acc.isTouched = true → acc.isSelfdestructed = false →
        Unchanged db a acc) : Unchanged db a m := by
  have hret := h.returned_loaded
  cases applied_cases hm with
  | kept hl hj => exact ⟨hb.read a m hj ht, fun key v => hb.slot a m key v hj⟩
  | destroyed hl hs hi hslot hdead hcr hmt =>
    rw [ht] at hmt
    cases hmt
  | @new acc hl hs hj hi hslot hdead hcr hmt =>
    obtain ⟨hsame, hread⟩ := hret.read a acc hl (hmt.symm.trans ht)
    rw [(loaded_absent hj).1] at hsame
    unfold Unchanged
    rw [hi, hslot]
    refine ⟨hsame, fun key v hv => ?_⟩
    rw [← hb.storage a key]
    exact hread key v hv
  | @merged acc p hl hs hj hi hslot hdead hcr hmt =>
    have hp : p.isTouched = false := hmt.symm.trans ht
    have hacc : Unchanged db a acc := by
      by_cases hat : acc.isTouched = true
      · exact hnone p acc hj hp hl hat hs
      · obtain ⟨hsame, hread⟩ := hret.read a acc hl (by simpa using hat)
        rw [(loaded_present hj).1] at hsame
        refine ⟨hsame.trans (hb.read a p hj hp), fun key v hv => ?_⟩
        rw [← hb.storage a key]
        exact hread key v hv
    unfold Unchanged
    rw [hi]
    refine ⟨hacc.1, fun key v hv => ?_⟩
    rw [hslot] at hv
    cases hk : acc.slot key with
    | some w =>
      rw [hk, Option.some.injEq] at hv
      subst hv
      exact hacc.2 key w hk
    | none =>
      rw [hk] at hv
      exact hb.slot a p key v hj hv

/-- Committing the journal gives every account what the sandbox left of it, and the
credits, exactly if none of the changes is lost. -/
theorem sandbox_state_kept_iff (hdb : db.Known codes) (hsource : db.Sourced codes)
    (hb : BeforeFrames codes db journal) (h : Sandboxed codes db journal signer state) :
    ∃ merged, applySandboxState journal state = some merged ∧
      ((db.commit (settle db merged credits)).Agrees
          (((db.loaded journal).commit state).creditAll credits) ↔
        NoneLost db journal state credits) := by
  have hret := h.returned_loaded
  have hshows := @Shows.creditAll _ _ _ _ credits (shows_applied hdb hb h) hdb hsource
  refine ⟨_, applySandboxState_eq h, ?_⟩
  have hiff := commit_agrees_iff hdb hshows.carries hshows.committable
  constructor
  · intro hagrees a p acc hj hp hl ht hs hcredit
    obtain ⟨m, hm, hmt, hi, hslot⟩ := applied_over hj hl hs
    rw [← (lookup_settle db (applied journal state) credits a).1 hcredit] at hm
    obtain ⟨hsame, hread⟩ :=
      hiff.1 (hagrees.trans hshows.agrees.symm) a m hm (hmt.trans hp)
    rw [hi] at hsame
    exact ⟨hsame, fun key v hv => hread key v (hslot key v hv)⟩
  · intro hnone
    apply Db.Agrees.trans (hiff.2 _) hshows.agrees
    intro a m hm ht
    obtain ⟨hother, hcredited⟩ := lookup_settle db (applied journal state) credits a
    have hcredit : a ∉ credits.map Prod.fst := by
      intro hmem
      have htouched := hcredited hmem m hm
      rw [ht] at htouched
      cases htouched
    rw [hother hcredit] at hm
    apply applied_unchanged hb h hm ht
    intro p acc hj hp hl hat hs
    exact hnone a p acc hj hp hl hat hs hcredit

end Merge

section Signer

def richDb : Db := ⟨fun _ => ⟨100, 0, KECCAK_EMPTY, none⟩, fun _ _ => 0, fun _ => none⟩

theorem richDb_known : richDb.Known sampleCodes where
  sound hash code h := by cases h
  known a h := absurd rfl h

theorem richDb_sourced : richDb.Sourced sampleCodes := by
  intro a c h
  cases h

def loadedAccount : Account where
  info := ⟨100, 0, KECCAK_EMPTY, none⟩
  transactionId := 0
  storage := (∅ : EvmStorage).insert 3 ⟨0, 0, 0, false⟩
  status := default

theorem loadedAccount_slot {key v : ℕ} (h : loadedAccount.slot key = some v) : v = 0 := by
  unfold loadedAccount Account.slot at h
  by_cases hk : key = 3
  · subst hk
    rw [AList.lookup_insert] at h
    exact (Option.some.inj h).symm
  · rw [AList.lookup_insert_ne hk] at h
    cases h

theorem beforeFrames_empty {codes : CodeTable} {db : Db} : BeforeFrames codes db ∅ where
  carries :=
    { sound := fun a acc c hl => by
        rw [AList.lookup_empty] at hl
        cases hl
      carried := fun a acc hl => by
        rw [AList.lookup_empty] at hl
        cases hl }
  fresh a acc hl := by
    rw [AList.lookup_empty] at hl
    cases hl
  slot a acc key v hl := by
    rw [AList.lookup_empty] at hl
    cases hl
  read a acc hl := by
    rw [AList.lookup_empty] at hl
    cases hl

theorem BeforeFrames.insert {codes : CodeTable} {db : Db} {journal : EvmState} {a : Address}
    {acc : Account} (h : BeforeFrames codes db journal) (hc : acc.info.codeHash = KECCAK_EMPTY)
    (hcode : acc.info.code = none)
    (hfresh : acc.isCreated = false ∧ acc.isSelfdestructed = false)
    (hslot : ∀ key v, acc.slot key = some v → v = db.storage a key)
    (hread : acc.isTouched = false → acc.info.Same (db.info a)) :
    BeforeFrames codes db (journal.insert a acc) := by
  have hcases : ∀ b acc', (journal.insert a acc).lookup b = some acc' →
      (b = a ∧ acc' = acc) ∨ journal.lookup b = some acc' := by
    intro b acc' hl
    by_cases hb : b = a
    · subst hb
      rw [AList.lookup_insert, Option.some.injEq] at hl
      exact .inl ⟨rfl, hl.symm⟩
    · rw [AList.lookup_insert_ne hb] at hl
      exact .inr hl
  refine ⟨⟨?_, ?_⟩, ?_, ?_, ?_⟩
  · intro b acc' c hl hsome
    rcases hcases b acc' hl with ⟨rfl, rfl⟩ | hl
    · rw [hcode] at hsome
      cases hsome
    · exact h.carries.sound b acc' c hl hsome
  · intro b acc' hl hne
    rcases hcases b acc' hl with ⟨rfl, rfl⟩ | hl
    · exact absurd hc hne
    · exact h.carries.carried b acc' hl hne
  · intro b acc' hl
    rcases hcases b acc' hl with ⟨rfl, rfl⟩ | hl
    · exact hfresh
    · exact h.fresh b acc' hl
  · intro b acc' key v hl hv
    rcases hcases b acc' hl with ⟨rfl, rfl⟩ | hl
    · exact hslot key v hv
    · exact h.slot b acc' key v hl hv
  · intro b acc' hl ht
    rcases hcases b acc' hl with ⟨rfl, rfl⟩ | hl
    · exact hread ht
    · exact h.read b acc' hl ht

/-- The sandbox failed: the signer 7 paid 40 and used its nonce. -/
def chargedState : EvmState := soleAccount 7 (sampleAccount ⟨60, 1, KECCAK_EMPTY, none⟩ false false)

theorem sandboxed_charged {journal : EvmState}
    (hz : ∀ key, (sandboxDb journal richDb (some 7)).storage 7 key = 0)
    (hcode : ((richDb.loaded journal).info 7).code = none) :
    Sandboxed sampleCodes richDb journal 7 chargedState where
  returned := by
    apply returned_soleAccount
    · decide
    · rfl
    · exact fun key => ⟨hz key, hz key⟩
    · intro c hc
      cases hc
    · exact fun _ => .inl rfl
  charged := ⟨_, rfl, rfl⟩
  loaded a acc hl _ hsome := by
    obtain ⟨rfl, rfl⟩ := lookup_soleAccount hl
    rw [hcode] at hsome
    cases hsome

def senderJournal : EvmState := soleAccount 2 (sampleAccount ⟨90, 1, KECCAK_EMPTY, none⟩ false false)

theorem beforeFrames_sender : BeforeFrames sampleCodes richDb senderJournal := by
  apply beforeFrames_empty.insert rfl rfl ⟨rfl, rfl⟩
  · intro key v hv
    cases hv
  · intro ht
    cases ht

/-- The deploy signer is in the access list of the transaction, with a storage key. -/
def listedJournal : EvmState := senderJournal.insert 7 loadedAccount

theorem sandbox_state_kept_sender : ∃ merged,
    applySandboxState senderJournal chargedState = some merged ∧
      ((richDb.commit (settle richDb merged [(2, 5), (1, 3)])).Agrees
          (((richDb.loaded senderJournal).commit chargedState).creditAll [(2, 5), (1, 3)]) ↔
        NoneLost richDb senderJournal chargedState [(2, 5), (1, 3)]) := by
  apply sandbox_state_kept_iff richDb_known richDb_sourced
  · exact beforeFrames_sender
  · exact sandboxed_charged (fun key => rfl) rfl

/-- The charge of a signer that the access list loaded does not reach the database. -/
theorem sandbox_charge_lost :
    ¬ ∀ codes db journal signer state credits, db.Known codes → db.Sourced codes →
      BeforeFrames codes db journal → Sandboxed codes db journal signer state →
      ∃ merged, applySandboxState journal state = some merged ∧
        (db.commit (settle db merged credits)).Agrees
          (((db.loaded journal).commit state).creditAll credits) := by
  intro h
  have hb : BeforeFrames sampleCodes richDb listedJournal :=
    beforeFrames_sender.insert rfl rfl ⟨rfl, rfl⟩ (fun _ _ => loadedAccount_slot)
      (fun _ => .refl _)
  obtain ⟨merged, hm, hagrees⟩ := h sampleCodes richDb listedJournal 7 chargedState
    [(2, 5), (1, 3)] richDb_known richDb_sourced hb (sandboxed_charged (hb.storage 7) rfl)
  have hbalance : (applySandboxState listedJournal chargedState).map (fun merged =>
      ((richDb.commit (settle richDb merged [(2, 5), (1, 3)])).info 7).balance) = some 100 := by
    decide
  rw [hm, Option.map_some, Option.some.injEq] at hbalance
  have hkept := (hagrees 7).1.1
  have hpaid : ((((richDb.loaded listedJournal).commit chargedState).creditAll
      [(2, 5), (1, 3)]).info 7).balance = 60 := by decide
  rw [hbalance] at hkept
  exact absurd (hkept.trans hpaid) (by decide)

end Signer

end MegaEvm
