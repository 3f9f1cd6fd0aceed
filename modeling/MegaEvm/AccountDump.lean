import MegaEvm.JournalInspect

/-!
# Dumping and loading accounts

The tool writes a state as one record for each account and reads such records back.
A record has the code and its hash, both optional, and the reader checks the one
against the other. An account may leave its code to be asked for by hash; the writer
puts no code beside that hash.
-/

set_option autoImplicit false

namespace MegaEvm

open KeyedFold

section Bytecode

inductive BytecodeDecodeError where
  | invalidLength
  | unsupportedVersion
  deriving DecidableEq, Repr

/-- `Bytecode::new_raw_checked`. A bytecode is kept as its original bytes. -/
class RawBytecode where
  newRawChecked : Bytes → Except BytecodeDecodeError Bytes
  original : ∀ bytes code, newRawChecked bytes = .ok code → code = bytes

export RawBytecode (newRawChecked)

section

variable [RawBytecode]

def IsBytecode (code : Bytes) : Prop := ∃ bytes, newRawChecked bytes = .ok code

theorem IsBytecode.newRawChecked_eq {code : Bytes} (h : IsBytecode code) :
    newRawChecked code = .ok code := by
  obtain ⟨bytes, hbytes⟩ := h
  obtain rfl := RawBytecode.original bytes code hbytes
  exact hbytes

end

variable (keccak256 : Bytes → ℕ)

def hashSlow (code : Bytes) : ℕ := if code.isEmpty then KECCAK_EMPTY else keccak256 code

theorem hashSlow_nil : hashSlow keccak256 [] = KECCAK_EMPTY := rfl

end Bytecode

structure AccountState where
  balance : Option ℕ
  nonce : Option ℕ
  code : Option Bytes
  codeHash : Option ℕ
  storage : Option (Map ℕ ℕ)

inductive EvmeError (E : Type) where
  | invalidBytecode (error : BytecodeDecodeError)
  | codeHashMismatch (expected computed : ℕ)
  | fetchAccount (address : Address) (error : E)
  | fetchCodeByHash (codeHash : ℕ) (error : E)
  | fetchStorage (address : Address) (index : ℕ) (error : E)
  deriving DecidableEq, Repr

namespace AccountState

def fromAccount (account : Account) : AccountState where
  balance := some account.info.balance
  nonce := some account.info.nonce
  code := some (account.info.code.getD [])
  codeHash := some account.info.codeHash
  storage := some (collect (·.presentValue) account.storage)

variable [RawBytecode] {E : Type} (keccak256 : Bytes → ℕ)

def bytecode (state : AccountState) : Except (EvmeError E) Bytes :=
  let code := state.code.getD []
  if code.isEmpty then .ok [] else (newRawChecked code).mapError .invalidBytecode

def withCode (state : AccountState) (bytecode : Bytes) (computedHash : ℕ) : Account where
  info := ⟨state.balance.getD 0, state.nonce.getD 0, computedHash, some bytecode⟩
  transactionId := 0
  storage := collect (EvmStorageSlot.new · 0) (state.storage.getD ∅)
  status := default

def intoAccount (state : AccountState) : Except (EvmeError E) Account :=
  match state.bytecode with
  | .error e => .error e
  | .ok bytecode =>
    let computedHash := hashSlow keccak256 bytecode
    match state.codeHash with
    | some codeHash =>
      if computedHash ≠ codeHash then .error (.codeHashMismatch codeHash computedHash)
      else .ok (state.withCode bytecode computedHash)
    | none => .ok (state.withCode bytecode computedHash)

end AccountState

theorem AccountState.codeHash_intoAccount [RawBytecode] {E : Type} {keccak256 : Bytes → ℕ}
    {state : AccountState} {account : Account} (h : state.intoAccount (E := E) keccak256 = .ok account) :
    hashSlow keccak256 (account.info.code.getD []) = account.info.codeHash := by
  unfold intoAccount at h
  split at h
  · cases h
  · dsimp only at h
    split at h
    · split at h
      · cases h
      · cases h
        rfl
    · cases h
      rfl

/-- The records of a state; how they are written as text is left out. -/
def convertEvmState (state : EvmState) : Map Address AccountState :=
  collect AccountState.fromAccount state

def loadAccounts [RawBytecode] {E : Type} (keccak256 : Bytes → ℕ)
    (loaded : Map Address AccountState) : Except (EvmeError E) EvmState :=
  tryCollect (AccountState.intoAccount keccak256) loaded

section RoundTrip

variable [RawBytecode] {E : Type} {keccak256 : Bytes → ℕ} {account loaded : Account}

def Account.CodeHashed (keccak256 : Bytes → ℕ) (account : Account) : Prop :=
  ∃ code, IsBytecode code ∧ hashSlow keccak256 code = account.info.codeHash ∧
    (account.info.code = some code ∨ account.info.code = none)

/-- All that matters of an account is in the other one. Code that was not loaded is
known by its hash. -/
structure Account.SameAs (keccak256 : Bytes → ℕ) (account loaded : Account) : Prop where
  balance : loaded.info.balance = account.info.balance
  nonce : loaded.info.nonce = account.info.nonce
  codeHash : loaded.info.codeHash = account.info.codeHash
  code : ∃ code, loaded.info.code = some code ∧ hashSlow keccak256 code = account.info.codeHash ∧
    ∀ known, account.info.code = some known → code = known
  slots : ∀ key, loaded.slot key = account.slot key

/-- An account without its code cannot be loaded unless it has none. -/
def Account.LoadedIfAny (account : Account) : Prop :=
  account.info.code = none → account.info.codeHash = KECCAK_EMPTY

namespace AccountState

theorem fromAccount_bytecode (hh : account.CodeHashed keccak256) :
    (fromAccount account).bytecode (E := E) = .ok (account.info.code.getD []) := by
  obtain ⟨code, hcode, -, hloaded | hnone⟩ := hh
  · simp only [bytecode, fromAccount, hloaded, Option.getD_some]
    split
    case isTrue hempty => rw [List.isEmpty_iff.mp hempty]
    case isFalse => rw [hcode.newRawChecked_eq]; rfl
  · simp [bytecode, fromAccount, hnone]

theorem intoAccount_fromAccount (hh : account.CodeHashed keccak256) :
    (fromAccount account).intoAccount (E := E) keccak256 =
      if hashSlow keccak256 (account.info.code.getD []) = account.info.codeHash then
        .ok ((fromAccount account).withCode (account.info.code.getD []) account.info.codeHash)
      else .error (.codeHashMismatch account.info.codeHash
        (hashSlow keccak256 (account.info.code.getD []))) := by
  have hhash : (fromAccount account).codeHash = some account.info.codeHash := rfl
  simp only [intoAccount, fromAccount_bytecode hh, hhash]
  by_cases hsame : hashSlow keccak256 (account.info.code.getD []) = account.info.codeHash
  · simp only [hsame, ne_eq, not_true_eq_false, if_false, if_true]
  · simp only [ne_eq, hsame, not_false_eq_true, if_true, if_false]

omit [RawBytecode] in
theorem slot_withCode (account : Account) (code : Bytes) (hash key : ℕ) :
    ((fromAccount account).withCode code hash).slot key = account.slot key := by
  simp only [Account.slot, withCode, fromAccount, Option.getD_some, lookup_collect,
    Option.map_map]
  rfl

/-- One record comes back as the account it was written for exactly when there is no
code left to load. -/
theorem load_account_iff (hh : account.CodeHashed keccak256) :
    (∃ loaded, (fromAccount account).intoAccount (E := E) keccak256 = .ok loaded ∧
      account.SameAs keccak256 loaded) ↔ account.LoadedIfAny := by
  rw [intoAccount_fromAccount hh]
  constructor
  · rintro ⟨loaded, hok, -⟩ hnone
    split at hok
    case isTrue hsame =>
      rw [hnone, Option.getD_none, hashSlow_nil] at hsame
      exact hsame.symm
    case isFalse => cases hok
  · intro hany
    have hsame : hashSlow keccak256 (account.info.code.getD []) = account.info.codeHash := by
      obtain ⟨code, -, hcode, hloaded | hnone⟩ := hh
      · rw [hloaded, Option.getD_some, hcode]
      · rw [hnone, Option.getD_none, hashSlow_nil, hany hnone]
    rw [if_pos hsame]
    exact ⟨_, rfl,
      { balance := rfl
        nonce := rfl
        codeHash := rfl
        code := ⟨_, rfl, hsame, fun known hknown => by rw [hknown, Option.getD_some]⟩
        slots := slot_withCode account _ _ }⟩

end AccountState

def EvmState.SameAs (keccak256 : Bytes → ℕ) (state loaded : EvmState) : Prop :=
  ∀ a, Option.Rel (Account.SameAs keccak256) (state.lookup a) (loaded.lookup a)

/-- A dump can be loaded, and is what was dumped, exactly when no account has code
that was not loaded. -/
theorem load_dump_iff {state : EvmState}
    (hh : ∀ a account, state.lookup a = some account → account.CodeHashed keccak256) :
    (∃ loaded, loadAccounts (E := E) keccak256 (convertEvmState state) = .ok loaded ∧
      state.SameAs keccak256 loaded) ↔
      ∀ a account, state.lookup a = some account → account.LoadedIfAny := by
  have heach : ∀ a account, state.lookup a = some account →
      ((∃ loaded, (AccountState.fromAccount account).intoAccount (E := E) keccak256 = .ok loaded ∧
        account.SameAs keccak256 loaded) ↔ account.LoadedIfAny) :=
    fun a account ha => AccountState.load_account_iff (hh a account ha)
  have htrip : (∃ loaded, loadAccounts (E := E) keccak256 (convertEvmState state) = .ok loaded ∧
      state.SameAs keccak256 loaded) ↔ ∀ a account, state.lookup a = some account →
        ∃ loaded, (AccountState.fromAccount account).intoAccount (E := E) keccak256 = .ok loaded ∧
          account.SameAs keccak256 loaded := tryCollect_collect_iff
  rw [htrip]
  constructor
  · intro hloads a account ha
    exact (heach a account ha).mp (hloads a account ha)
  · intro hany a account ha
    exact (heach a account ha).mpr (hany a account ha)

end RoundTrip

section Samples

/-- Only what begins like a delegation can be refused. -/
@[reducible]
def checkedBytecode : RawBytecode where
  newRawChecked bytes :=
    if bytes.take 2 ≠ [0xef, 0x01] then .ok bytes
    else if bytes.length ≠ 23 then .error .invalidLength
    else if bytes[2]? ≠ some 0 then .error .unsupportedVersion
    else .ok bytes
  original bytes code h := by
    split at h
    · exact (Except.ok.inj h).symm
    · split at h
      · cases h
      · split at h
        · cases h
        · exact (Except.ok.inj h).symm

attribute [local instance] checkedBytecode

def sampleKeccak (code : Bytes) : ℕ := code.length + 1

def contractState (code : Option Bytes) : EvmState :=
  AList.insert 7 ⟨⟨5, 1, 2, code⟩, 0, AList.insert 3 (EvmStorageSlot.new 9 0) ∅, default⟩ ∅

theorem contractState_codeHashed {code : Option Bytes} (h : code = some [0x5b] ∨ code = none)
    (a : Address) (account : Account) (ha : (contractState code).lookup a = some account) :
    account.CodeHashed sampleKeccak := by
  by_cases hseven : a = 7
  · subst hseven
    rw [contractState, AList.lookup_insert, Option.some.injEq] at ha
    subst ha
    exact ⟨[0x5b], ⟨[0x5b], rfl⟩, rfl, h⟩
  · rw [contractState, AList.lookup_insert_ne hseven, AList.lookup_empty] at ha
    cases ha

theorem load_dump_contract : ∃ loaded,
    loadAccounts (E := Empty) sampleKeccak (convertEvmState (contractState (some [0x5b]))) =
      .ok loaded ∧ (contractState (some [0x5b])).SameAs sampleKeccak loaded := by
  refine (load_dump_iff (contractState_codeHashed (.inl rfl))).mpr fun a account ha => ?_
  intro hnone
  by_cases hseven : a = 7
  · subst hseven
    rw [contractState, AList.lookup_insert, Option.some.injEq] at ha
    subst ha
    cases hnone
  · rw [contractState, AList.lookup_insert_ne hseven, AList.lookup_empty] at ha
    cases ha

/-- The dump of an account whose code was never asked for is refused. -/
theorem unloaded_contract_refused :
    (∀ a account, (contractState none).lookup a = some account →
      account.CodeHashed sampleKeccak) ∧
    loadAccounts (E := Empty) sampleKeccak (convertEvmState (contractState none)) =
      .error (.codeHashMismatch 2 KECCAK_EMPTY) :=
  ⟨contractState_codeHashed (.inr rfl), rfl⟩

end Samples

end MegaEvm
