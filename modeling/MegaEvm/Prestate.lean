import MegaEvm.AccountDump
import MegaEvm.Library.Run
import MegaEvm.SystemDeploy

/-!
# Prestate overrides

The tool runs over an empty database or over one that asks a remote chain, and puts
accounts in front of it: those of a file, and those that overrides name. An override of
an address without an entry makes one out of the default account, which then hides the
account of the backend, and setting code leaves the code hash as it was. What the
overrides are for is an abstract view, where each changes the field or the slots it
names.
-/

set_option autoImplicit false

namespace MegaEvm

open KeyedFold

section Overrides

namespace EvmState

/-- `prestate.entry(address).or_default()`, changed in place. -/
def modifyOrDefault (prestate : EvmState) (address : Address) (f : Account → Account) : EvmState :=
  prestate.insert address (f ((prestate.lookup address).getD default))

def setBalance (prestate : EvmState) (address : Address) (balance : ℕ) : EvmState :=
  prestate.modifyOrDefault address fun account =>
    { account with info := { account.info with balance := balance } }

def setNonce (prestate : EvmState) (address : Address) (nonce : ℕ) : EvmState :=
  prestate.modifyOrDefault address fun account =>
    { account with info := { account.info with nonce := nonce } }

/-- The code hash stays. -/
def setCode (prestate : EvmState) (address : Address) (code : Bytes) : EvmState :=
  prestate.modifyOrDefault address fun account =>
    { account with info := { account.info with code := some code } }

def extendStorage (prestate : EvmState) (address : Address) (storage : Map ℕ ℕ) : EvmState :=
  prestate.modifyOrDefault address fun account =>
    { account with
      storage := mergeWith (fun _ slot => slot) account.storage
        (collect (EvmStorageSlot.new · 0) storage) }

def insertSlot (prestate : EvmState) (address : Address) (slot value : ℕ) : EvmState :=
  prestate.modifyOrDefault address fun account =>
    { account with storage := account.storage.insert slot (.new value 0) }

/-- `+=` of 256-bit words wraps. -/
def addBalance (prestate : EvmState) (address : Address) (balance : ℕ) : EvmState :=
  prestate.modifyOrDefault address fun account =>
    { account with info := { account.info with
      balance := (account.info.balance + balance) % 2 ^ 256 } }

end EvmState

structure PreStateArgs where
  prestate : Option (Map Address AccountState)
  balance : List (Address × ℕ)
  storage : List (Address × ℕ × ℕ)
  senderBalance : Option ℕ
  faucet : List (Address × ℕ)

inductive Override where
  | balance (address : Address) (value : ℕ)
  | nonce (address : Address) (value : ℕ)
  | code (address : Address) (value : Bytes)
  | storage (address : Address) (slots : Map ℕ ℕ)
  | faucet (address : Address) (amount : ℕ)

namespace Override

def applyTo (prestate : EvmState) : Override → EvmState
  | .balance address value => prestate.setBalance address value
  | .nonce address value => prestate.setNonce address value
  | .code address value => prestate.setCode address value
  | .storage address slots => prestate.extendStorage address slots
  | .faucet address amount => prestate.addBalance address amount

end Override

namespace PreStateArgs

variable [RawBytecode] {E : Type} (keccak256 : Bytes → ℕ) (args : PreStateArgs)

def loadFile : Except (EvmeError E) EvmState :=
  match args.prestate with
  | some loaded => loadAccounts keccak256 loaded
  | none => .ok ∅

def loadPrestate (sender : Address) : Except (EvmeError E) EvmState :=
  (args.loadFile keccak256).map fun prestate =>
    let prestate := args.balance.foldl (fun p e => p.setBalance e.1 e.2) prestate
    let prestate := args.storage.foldl (fun p e => p.insertSlot e.1 e.2.1 e.2.2) prestate
    let prestate := match args.senderBalance with
      | some balance => prestate.setBalance sender balance
      | none => prestate
    args.faucet.foldl (fun p e => p.addBalance e.1 e.2) prestate

/-- The overrides of the command line, in the order in which they are made. -/
def overrides (sender : Address) : List Override :=
  args.balance.map (fun e => .balance e.1 e.2) ++
    args.storage.map (fun e => .storage e.1 (AList.insert e.2.1 e.2.2 ∅)) ++
    (args.senderBalance.map (Override.balance sender)).toList ++
    args.faucet.map (fun e => .faucet e.1 e.2)

end PreStateArgs

theorem collect_insert_empty {α β γ : Type} [DecidableEq α] (f : β → γ) (a : α) (b : β) :
    collect f (AList.insert a b ∅) = AList.insert a (f b) ∅ :=
  foldEntries_insert _ ∅ b (AList.notMem_empty a)

theorem mergeWith_insert_empty {α β : Type} [DecidableEq α] (this : Map α β) (a : α) (b : β) :
    mergeWith (fun _ b => b) this (AList.insert a b ∅) = this.insert a b :=
  foldEntries_insert _ this b (AList.notMem_empty a)

theorem EvmState.insertSlot_eq (prestate : EvmState) (address : Address) (slot value : ℕ) :
    prestate.insertSlot address slot value =
      prestate.extendStorage address (AList.insert slot value ∅) := by
  simp only [insertSlot, extendStorage, collect_insert_empty, mergeWith_insert_empty]

theorem PreStateArgs.loadPrestate_eq [RawBytecode] {E : Type} (keccak256 : Bytes → ℕ)
    (args : PreStateArgs) (sender : Address) :
    args.loadPrestate (E := E) keccak256 sender =
      (args.loadFile keccak256).map ((args.overrides sender).foldl Override.applyTo) := by
  unfold loadPrestate overrides
  congr 1
  funext prestate
  simp only [List.foldl_append, List.foldl_map, Override.applyTo, EvmState.insertSlot_eq]
  cases args.senderBalance with
  | none | some balance => rfl

end Overrides

section Backend

variable {σ E : Type}

/-- A database that caches what it reads, and the same without the cache's changes. -/
structure CachingDatabase (σ E : Type) where
  basic : σ → Address → Except E (Option AccountInfo) × σ
  codeByHash : σ → ℕ → Except E Bytes × σ
  storage : σ → Address → ℕ → Except E ℕ × σ
  ref : σ → Database E

/-- The cache shows only in the time a question takes. -/
structure CachingDatabase.Transparent (cached : CachingDatabase σ E) : Prop where
  basic : ∀ db a, (cached.basic db a).1 = (cached.ref db).basic a ∧
    cached.ref (cached.basic db a).2 = cached.ref db
  codeByHash : ∀ db hash, (cached.codeByHash db hash).1 = (cached.ref db).codeByHash hash ∧
    cached.ref (cached.codeByHash db hash).2 = cached.ref db
  storage : ∀ db a key, (cached.storage db a key).1 = (cached.ref db).storage a key ∧
    cached.ref (cached.storage db a key).2 = cached.ref db

inductive EvmeBackend (σ : Type) where
  | empty
  | forked (db : σ)

def emptyDatabase : Database E where
  basic _ := .ok none
  codeByHash _ := .ok []
  storage _ _ := .ok 0

def EvmeBackend.ref (cached : CachingDatabase σ E) : EvmeBackend σ → Database (EvmeError E)
  | empty => emptyDatabase
  | forked db =>
    { basic a := ((cached.ref db).basic a).mapError (.fetchAccount a)
      codeByHash hash := ((cached.ref db).codeByHash hash).mapError (.fetchCodeByHash hash)
      storage a key := ((cached.ref db).storage a key).mapError (.fetchStorage a key) }

structure EvmeState (σ : Type) where
  backend : EvmeBackend σ
  prestate : EvmState
  codeMap : Map ℕ Bytes

namespace EvmeState

def codesOf (prestate : EvmState) : Map ℕ Bytes :=
  foldEntries (fun codes _ account => match account.info.code with
    | some code => codes.insert account.info.codeHash code
    | none => codes) ∅ prestate

def new (backend : EvmeBackend σ) (prestate : EvmState) : EvmeState σ :=
  ⟨backend, prestate, codesOf prestate⟩

def setAccountBalance (s : EvmeState σ) (address : Address) (balance : ℕ) : EvmeState σ :=
  { s with prestate := s.prestate.setBalance address balance }

def setAccountNonce (s : EvmeState σ) (address : Address) (nonce : ℕ) : EvmeState σ :=
  { s with prestate := s.prestate.setNonce address nonce }

def setAccountCode (keccak256 : Bytes → ℕ) (s : EvmeState σ) (address : Address) (code : Bytes) :
    EvmeState σ :=
  { s with
    codeMap := s.codeMap.insert (hashSlow keccak256 code) code
    prestate := s.prestate.setCode address code }

def setAccountStorage (s : EvmeState σ) (address : Address) (storage : Map ℕ ℕ) : EvmeState σ :=
  { s with prestate := s.prestate.extendStorage address storage }

def deploySystemContracts (keccak256 : Bytes → ℕ) (codes : SystemContractCodes) (spec : MegaSpecId)
    (s : EvmeState σ) : EvmeState σ :=
  let s := if spec.isEnabled .miniRex then
      s.setAccountCode keccak256 ORACLE_CONTRACT_ADDRESS
        (if spec.isEnabled .rex2 then codes.oracleContractCodeRex2 else codes.oracleContractCode)
    else s
  let s := if spec.isEnabled .miniRex then
      s.setAccountCode keccak256 HIGH_PRECISION_TIMESTAMP_ORACLE_ADDRESS
        codes.highPrecisionTimestampOracleCode
    else s
  if spec.isEnabled .rex2 then
    s.setAccountCode keccak256 KEYLESS_DEPLOY_ADDRESS codes.keylessDeployCode
  else s

variable (cached : CachingDatabase σ E) (s : EvmeState σ)

section Database

def fetch {α : Type} (empty : α) (ask : σ → Except E α × σ) (error : E → EvmeError E) :
    Except (EvmeError E) α × EvmeState σ :=
  match s.backend with
  | .empty => (.ok empty, s)
  | .forked db => ((ask db).1.mapError error, { s with backend := .forked (ask db).2 })

def basic (address : Address) : Except (EvmeError E) (Option AccountInfo) × EvmeState σ :=
  match s.prestate.lookup address with
  | some account => (.ok (some account.info), s)
  | none => s.fetch none (cached.basic · address) (.fetchAccount address)

def codeByHash (codeHash : ℕ) : Except (EvmeError E) Bytes × EvmeState σ :=
  match s.codeMap.lookup codeHash with
  | some code => (.ok code, s)
  | none => s.fetch [] (cached.codeByHash · codeHash) (.fetchCodeByHash codeHash)

def storage (address : Address) (index : ℕ) : Except (EvmeError E) ℕ × EvmeState σ :=
  match (s.prestate.lookup address).bind (·.slot index) with
  | some value => (.ok value, s)
  | none => s.fetch 0 (cached.storage · address index) (.fetchStorage address index)

end Database

section DatabaseRef

def basicRef (address : Address) : Except (EvmeError E) (Option AccountInfo) :=
  match s.prestate.lookup address with
  | some account => .ok (some account.info)
  | none => (s.backend.ref cached).basic address

def codeByHashRef (codeHash : ℕ) : Except (EvmeError E) Bytes :=
  match s.codeMap.lookup codeHash with
  | some code => .ok code
  | none => (s.backend.ref cached).codeByHash codeHash

def storageRef (address : Address) (index : ℕ) : Except (EvmeError E) ℕ :=
  match (s.prestate.lookup address).bind (·.slot index) with
  | some value => .ok value
  | none => (s.backend.ref cached).storage address index

def ref : Database (EvmeError E) := ⟨s.basicRef cached, s.codeByHashRef cached, s.storageRef cached⟩

end DatabaseRef

end EvmeState

end Backend

section View

/-- What a state should answer, account by account and slot by slot. A missing account
is the default one. -/
structure View (E : Type) where
  info : Address → Except E AccountInfo
  storage : Address → ℕ → Except E ℕ

/-- An account with its bytecode; no bytecode is empty bytecode. -/
def AccountInfo.shown (info : AccountInfo) : AccountInfo :=
  { info with code := some (info.code.getD []) }

namespace View

variable {E : Type}

/-- The accounts of a file, else those of a database. An account of the file has the
slots the file lists, and zero everywhere else. -/
def above (file : EvmState) (db : Database E) : View E where
  info a := match file.lookup a with
    | some account => .ok account.info
    | none => (db.basic a).map (·.getD default)
  storage a key := match file.lookup a with
    | some account => .ok ((account.slot key).getD 0)
    | none => db.storage a key

/-- What is answered from accounts in front of a database: a slot that is not listed is
asked for there. -/
def answered (prestate : EvmState) (db : Database E) : View E where
  info a := match prestate.lookup a with
    | some account => .ok account.info
    | none => (db.basic a).map (·.getD default)
  storage a key := match (prestate.lookup a).bind (·.slot key) with
    | some value => .ok value
    | none => db.storage a key

structure Same (v w : View E) : Prop where
  info : ∀ a, (v.info a).map AccountInfo.shown = (w.info a).map AccountInfo.shown
  storage : ∀ a key, v.storage a key = w.storage a key

theorem Same.refl (v : View E) : v.Same v := ⟨fun _ => rfl, fun _ _ => rfl⟩

/-- No slot of the database shows through an account of the file. -/
def Covers (file : EvmState) (db : Database E) : Prop :=
  ∀ a account key, file.lookup a = some account → account.slot key = none →
    db.storage a key = .ok 0

theorem answered_storage_iff (file : EvmState) (db : Database E) (a : Address) (key : ℕ) :
    (answered file db).storage a key = (above file db).storage a key ↔
      ∀ account, file.lookup a = some account → account.slot key = none →
        db.storage a key = .ok 0 := by
  simp only [answered, above]
  cases file.lookup a with
  | none => simp
  | some account =>
    cases hslot : account.slot key with
    | none => simp [hslot]
    | some value => simp [hslot]

theorem answered_same_iff (file : EvmState) (db : Database E) :
    (answered file db).Same (above file db) ↔ Covers file db := by
  constructor
  · intro h a account key
    exact (answered_storage_iff file db a key).mp (h.storage a key) account
  · intro h
    refine ⟨fun a => rfl, fun a key => (answered_storage_iff file db a key).mpr ?_⟩
    intro account
    exact h a account key

end View

namespace Override

variable (keccak256 : Bytes → ℕ)

def address : Override → Address
  | .balance address _ | .nonce address _ | .code address _ | .storage address _
  | .faucet address _ => address

def named : Override → AccountInfo → AccountInfo
  | .balance _ value, info => { info with balance := value }
  | .nonce _ value, info => { info with nonce := value }
  | .code _ value, info => { info with code := some value, codeHash := hashSlow keccak256 value }
  | .storage _ _, info => info
  | .faucet _ amount, info => { info with balance := info.balance + amount }

def slots : Override → Map ℕ ℕ
  | .storage _ slots => slots
  | _ => ∅

def written : Override → AccountInfo → AccountInfo
  | .balance _ value, info => { info with balance := value }
  | .nonce _ value, info => { info with nonce := value }
  | .code _ value, info => { info with code := some value }
  | .storage _ _, info => info
  | .faucet _ amount, info => { info with balance := (info.balance + amount) % 2 ^ 256 }

end Override

def View.override {E : Type} (keccak256 : Bytes → ℕ) (v : View E) (o : Override) : View E where
  info := Function.update v.info o.address ((v.info o.address).map (o.named keccak256))
  storage := Function.update v.storage o.address fun key =>
    match o.slots.lookup key with
    | some value => .ok value
    | none => v.storage o.address key

end View

section Safe

/-- No bytecode, whether that is said by the hash alone or not. -/
def AccountInfo.HasNoCode (info : AccountInfo) : Prop :=
  info.codeHash = KECCAK_EMPTY ∧ info.code.getD [] = []

namespace Override

variable (keccak256 : Bytes → ℕ)

/-- Over an account in front, only a hash that stays behind or a sum that wraps does harm. -/
def FitsEntry (info : AccountInfo) : Override → Prop
  | .code _ value => hashSlow keccak256 value = info.codeHash
  | .faucet _ amount => info.balance + amount < 2 ^ 256
  | _ => True

/-- Over an account of the backend, what the override does not name has to be as in
the default account. -/
def FitsDefault (info : AccountInfo) : Override → Prop
  | .balance _ _ => info.nonce = 0 ∧ info.HasNoCode
  | .nonce _ _ => info.balance = 0 ∧ info.HasNoCode
  | .code _ value =>
    info.balance = 0 ∧ info.nonce = 0 ∧ hashSlow keccak256 value = KECCAK_EMPTY
  | .storage _ _ => info.balance = 0 ∧ info.nonce = 0 ∧ info.HasNoCode
  | .faucet _ amount =>
    info.balance = 0 ∧ info.nonce = 0 ∧ info.HasNoCode ∧ amount < 2 ^ 256

def Safe {E : Type} (db : Database E) (prestate : EvmState) (o : Override) : Prop :=
  match prestate.lookup o.address with
  | some account => o.FitsEntry keccak256 account.info
  | none => ∃ info, db.basic o.address = .ok info ∧ o.FitsDefault keccak256 (info.getD default)

variable {keccak256} {info info' : AccountInfo}

theorem shown_eq_iff : info.shown = info'.shown ↔
    info.balance = info'.balance ∧ info.nonce = info'.nonce ∧ info.codeHash = info'.codeHash ∧
      info.code.getD [] = info'.code.getD [] := by
  simp [AccountInfo.shown]

theorem fitsEntry_iff (o : Override) : (o.written info).shown = (o.named keccak256 info).shown ↔
    o.FitsEntry keccak256 info := by
  rw [shown_eq_iff]
  cases o with
  | balance | nonce | storage => simp [written, named, FitsEntry]
  | code address value =>
    simp only [written, named, FitsEntry, true_and, and_true]
    exact eq_comm
  | faucet address amount =>
    simp only [written, named, FitsEntry, and_true]
    exact Nat.mod_eq_iff_lt (by decide)

theorem fitsDefault_iff (o : Override) :
    (o.written default).shown = (o.named keccak256 info).shown ↔ o.FitsDefault keccak256 info := by
  rw [shown_eq_iff]
  have hdefault : (default : AccountInfo) = ⟨0, 0, KECCAK_EMPTY, none⟩ := rfl
  cases o with
  | balance | nonce | storage | code =>
    simp only [written, named, FitsDefault, hdefault, AccountInfo.HasNoCode, Option.getD_none,
      Option.getD_some, true_and, and_true]
    grind
  | faucet address amount =>
    simp only [written, named, FitsDefault, hdefault, AccountInfo.HasNoCode, Option.getD_none,
      zero_add]
    have hle := Nat.mod_le amount (2 ^ 256)
    have hmod : amount % 2 ^ 256 = amount ↔ amount < 2 ^ 256 := Nat.mod_eq_iff_lt (by decide)
    grind

theorem shown_named (o : Override) (h : info.shown = info'.shown) :
    (o.named keccak256 info).shown = (o.named keccak256 info').shown := by
  rw [shown_eq_iff] at h ⊢
  cases o <;> simp_all [named]

end Override

end Safe

section Step

variable {E : Type} {keccak256 : Bytes → ℕ} {db : Database E} {prestate : EvmState} {v : View E}

theorem Override.applyTo_eq (o : Override) (prestate : EvmState) :
    o.applyTo prestate = prestate.modifyOrDefault o.address fun account =>
      { account with
        info := o.written account.info
        storage := mergeWith (fun _ slot => slot) account.storage
          (collect (EvmStorageSlot.new · 0) o.slots) } := by
  cases o <;> rfl

theorem Override.lookup_applyTo (o : Override) (prestate : EvmState) (a : Address) :
    (o.applyTo prestate).lookup a =
      if a = o.address then
        let account := (prestate.lookup o.address).getD default
        some { account with
          info := o.written account.info
          storage := mergeWith (fun _ slot => slot) account.storage
            (collect (EvmStorageSlot.new · 0) o.slots) }
      else prestate.lookup a := by
  rw [applyTo_eq, EvmState.modifyOrDefault]
  split
  case isTrue h => rw [h, AList.lookup_insert]
  case isFalse h => rw [AList.lookup_insert_ne h]

theorem slot_extended (account : Account) (info : AccountInfo) (slots : Map ℕ ℕ) (key : ℕ) :
    Account.slot { account with
      info := info
      storage := mergeWith (fun _ slot => slot) account.storage
        (collect (EvmStorageSlot.new · 0) slots) } key =
      (slots.lookup key).or (account.slot key) := by
  simp only [Account.slot, lookup_mergeWith, lookup_collect]
  cases slots.lookup key with
  | none => rfl
  | some value => rfl

/-- The slots are always right: those that are not listed are asked for one by one. -/
theorem View.storage_answered_applyTo (keccak256 : Bytes → ℕ) (o : Override) (a : Address)
    (key : ℕ) :
    (answered (o.applyTo prestate) db).storage a key =
      ((answered prestate db).override keccak256 o).storage a key := by
  simp only [answered, override, Override.lookup_applyTo]
  by_cases ha : a = o.address
  · subst ha
    simp only [if_true, Option.bind_some, slot_extended, Function.update_self]
    cases o.slots.lookup key with
    | some value => rfl
    | none =>
      cases prestate.lookup o.address with
      | some account => rfl
      | none => rfl
  · simp only [if_neg ha, Function.update_of_ne ha]

theorem View.info_answered_applyTo (o : Override) (prestate : EvmState) (db : Database E) :
    (answered (o.applyTo prestate) db).info = Function.update (answered prestate db).info o.address
      (.ok (o.written ((prestate.lookup o.address).getD default).info)) := by
  funext a
  simp only [answered, Override.lookup_applyTo]
  by_cases ha : a = o.address
  · subst ha
    simp only [if_true, Function.update_self]
  · simp only [if_neg ha, Function.update_of_ne ha]

theorem View.Same.written_iff (h : (answered prestate db).Same v) (o : Override) :
    .ok (o.written ((prestate.lookup o.address).getD default).info).shown =
      ((v.info o.address).map (o.named keccak256)).map AccountInfo.shown ↔
    o.Safe keccak256 db prestate := by
  have hinfo := h.info o.address
  unfold Override.Safe
  cases hl : prestate.lookup o.address with
  | some account =>
    simp only [answered, hl] at hinfo
    cases hv : v.info o.address with
    | error e => simp [hv, Except.map] at hinfo
    | ok info =>
      simp only [hv, Except.map, Except.ok.injEq] at hinfo ⊢
      rw [Option.getD_some, ← Override.shown_named o hinfo]
      exact Override.fitsEntry_iff o
  | none =>
    simp only [answered, hl] at hinfo
    cases hdb : db.basic o.address with
    | error e =>
      cases hv : v.info o.address with
      | error e' => simp [Except.map]
      | ok info => simp [hdb, hv, Except.map] at hinfo
    | ok found =>
      cases hv : v.info o.address with
      | error e' => simp [hdb, hv, Except.map] at hinfo
      | ok info =>
        simp only [hdb, hv, Except.map, Except.ok.injEq] at hinfo ⊢
        rw [Option.getD_none, ← Override.shown_named o hinfo]
        simp only [exists_eq_left']
        exact Override.fitsDefault_iff o

theorem View.Same.override_iff (h : (answered prestate db).Same v) (o : Override) :
    (answered (o.applyTo prestate) db).Same (v.override keccak256 o) ↔
      o.Safe keccak256 db prestate := by
  rw [← h.written_iff o]
  constructor
  · intro h'
    have hinfo := h'.info o.address
    rw [info_answered_applyTo] at hinfo
    simpa [override, Except.map] using hinfo
  · intro hwritten
    refine ⟨fun a => ?_, fun a key => ?_⟩
    · rw [info_answered_applyTo]
      by_cases ha : a = o.address
      · subst ha
        simpa [override, Except.map] using hwritten
      · simp only [override, Function.update_of_ne ha]
        exact h.info a
    · rw [storage_answered_applyTo keccak256]
      simp only [override]
      by_cases ha : a = o.address
      · subst ha
        simp only [Function.update_self]
        cases o.slots.lookup key with
        | some value => rfl
        | none => exact h.storage o.address key
      · simp only [Function.update_of_ne ha]
        exact h.storage a key

end Step

section Invariant

variable {σ E : Type} (keccak256 : Bytes → ℕ)

/-- Every code hash a database answers is the hash of the code it answers, and the hash
of empty code stands for empty code. -/
structure Database.CodeSound (db : Database E) : Prop where
  loaded : ∀ a info code, db.basic a = .ok (some info) → info.code = some code →
    hashSlow keccak256 code = info.codeHash
  byHash : ∀ a info code, db.basic a = .ok (some info) → db.codeByHash info.codeHash = .ok code →
    hashSlow keccak256 code = info.codeHash
  empty : db.codeByHash KECCAK_EMPTY = .ok []

def EvmState.CodeSound (prestate : EvmState) : Prop :=
  ∀ a account, prestate.lookup a = some account →
    hashSlow keccak256 (account.info.code.getD []) = account.info.codeHash

/-- The codes are under their hashes, and none of an account in front is missing. -/
structure EvmeState.CodesKept (s : EvmeState σ) : Prop where
  hash : ∀ hash code, s.codeMap.lookup hash = some code → hashSlow keccak256 code = hash
  covered : ∀ a account code, s.prestate.lookup a = some account →
    account.info.code = some code → (s.codeMap.lookup account.info.codeHash).isSome = true

structure EvmeState.Kept (cached : CachingDatabase σ E) (s : EvmeState σ)
    (v : View (EvmeError E)) : Prop where
  same : (View.answered s.prestate (s.backend.ref cached)).Same v
  sound : s.prestate.CodeSound keccak256
  codes : s.CodesKept keccak256

variable {keccak256}

theorem EvmState.CodeSound.applyTo {db : Database E} {prestate : EvmState}
    (h : prestate.CodeSound keccak256) {o : Override} (hsafe : o.Safe keccak256 db prestate) :
    (o.applyTo prestate).CodeSound keccak256 := by
  intro a account ha
  rw [Override.lookup_applyTo] at ha
  split at ha
  case isFalse => exact h a account ha
  case isTrue =>
    rw [Option.some.injEq] at ha
    subst ha
    have hbefore : hashSlow keccak256
        (((prestate.lookup o.address).getD default).info.code.getD []) =
          ((prestate.lookup o.address).getD default).info.codeHash := by
      cases hl : prestate.lookup o.address with
      | some account => exact h o.address account hl
      | none => rfl
    cases o with
    | balance | nonce | storage | faucet => exact hbefore
    | code address value =>
      simp only [Override.written, Option.getD_some]
      unfold Override.Safe at hsafe
      cases hl : prestate.lookup (Override.code address value).address with
      | some account =>
        simp only [hl] at hsafe
        exact hsafe
      | none =>
        simp only [hl] at hsafe
        obtain ⟨-, -, -, -, hempty⟩ := hsafe
        exact hempty

def EvmeState.apply (keccak256 : Bytes → ℕ) (s : EvmeState σ) (o : Override) : EvmeState σ where
  backend := s.backend
  prestate := o.applyTo s.prestate
  codeMap := match o with
    | .code _ value => s.codeMap.insert (hashSlow keccak256 value) value
    | _ => s.codeMap

theorem isSome_lookup_insert {codes : Map ℕ Bytes} {hash : ℕ}
    (h : (codes.lookup hash).isSome = true) (hash' : ℕ) (code : Bytes) :
    ((codes.insert hash' code).lookup hash).isSome = true := by
  by_cases heq : hash = hash'
  · rw [heq, AList.lookup_insert]
    rfl
  · rwa [AList.lookup_insert_ne heq]

theorem EvmeState.CodesKept.insert {s : EvmeState σ} (h : s.CodesKept keccak256) (value : Bytes)
    {hash : ℕ} {code : Bytes}
    (hl : (s.codeMap.insert (hashSlow keccak256 value) value).lookup hash = some code) :
    hashSlow keccak256 code = hash := by
  by_cases heq : hash = hashSlow keccak256 value
  · rw [heq, AList.lookup_insert, Option.some.injEq] at hl
    rw [heq, hl]
  · rw [AList.lookup_insert_ne heq] at hl
    exact h.hash hash code hl

theorem EvmeState.CodesKept.apply {db : Database E} {s : EvmeState σ} (h : s.CodesKept keccak256)
    (hsound : s.prestate.CodeSound keccak256) {o : Override}
    (hsafe : o.Safe keccak256 db s.prestate) : (s.apply keccak256 o).CodesKept keccak256 := by
  have hkept : ∀ hash, (s.codeMap.lookup hash).isSome = true →
      ((s.apply keccak256 o).codeMap.lookup hash).isSome = true := by
    intro hash hsome
    cases o with
    | code address value => exact isSome_lookup_insert hsome _ _
    | balance | nonce | storage | faucet => exact hsome
  constructor
  · intro hash code hl
    cases o with
    | code address value => exact h.insert value hl
    | balance | nonce | storage | faucet => exact h.hash hash code hl
  · intro a account code ha hcode
    have hhash := hsound.applyTo hsafe a account ha
    change (o.applyTo s.prestate).lookup a = some account at ha
    rw [Override.lookup_applyTo] at ha
    split at ha
    case isFalse => exact hkept _ (h.covered a account code ha hcode)
    case isTrue =>
      generalize hfound : s.prestate.lookup o.address = found at ha
      rw [Option.some.injEq] at ha
      subst ha
      cases o with
      | code address value =>
        have hvalue : hashSlow keccak256 value = (found.getD default).info.codeHash := hhash
        change ((s.codeMap.insert (hashSlow keccak256 value) value).lookup
          (found.getD default).info.codeHash).isSome = true
        rw [← hvalue, AList.lookup_insert]
        rfl
      | balance | nonce | storage | faucet =>
        cases found with
        | none => cases hcode
        | some before => exact h.covered _ before code hfound hcode

end Invariant

section Runs

variable {σ E : Type} {keccak256 : Bytes → ℕ} {cached : CachingDatabase σ E}
  {s : EvmeState σ} {v : View (EvmeError E)}

theorem EvmeState.Kept.apply (h : s.Kept keccak256 cached v) {o : Override}
    (hsafe : o.Safe keccak256 (s.backend.ref cached) s.prestate) :
    (s.apply keccak256 o).Kept keccak256 cached (v.override keccak256 o) where
  same := (h.same.override_iff o).mpr hsafe
  sound := h.sound.applyTo hsafe
  codes := h.codes.apply h.sound hsafe

/-- Overrides that are made one after the other, each safe where it is made. -/
def OverridesSafe (keccak256 : Bytes → ℕ) (db : Database E) (prestate : EvmState)
    (overrides : List Override) : Prop :=
  Run.Guarded (fun p (o : Override) => some (o.applyTo p)) (fun p o => o.Safe keccak256 db p)
    prestate overrides

theorem overrides_same {db : Database E} {prestate : EvmState} {v : View E}
    {overrides : List Override} (h : (View.answered prestate db).Same v)
    (hsound : prestate.CodeSound keccak256)
    (hsafe : OverridesSafe keccak256 db prestate overrides) :
    (View.answered (overrides.foldl Override.applyTo prestate) db).Same
        (overrides.foldl (View.override keccak256) v) ∧
      (overrides.foldl Override.applyTo prestate).CodeSound keccak256 := by
  induction overrides generalizing prestate v with
  | nil => exact ⟨h, hsound⟩
  | cons o overrides ih =>
    obtain ⟨ho, hrest⟩ := hsafe
    exact ih ((h.override_iff o).mpr ho) (hsound.applyTo ho) (hrest _ rfl)

theorem EvmeState.Kept.overrides {overrides : List Override} (h : s.Kept keccak256 cached v)
    (hsafe : OverridesSafe keccak256 (s.backend.ref cached) s.prestate overrides) :
    (overrides.foldl (EvmeState.apply keccak256) s).Kept keccak256 cached
      (overrides.foldl (View.override keccak256) v) := by
  induction overrides generalizing s v with
  | nil => exact h
  | cons o overrides ih =>
    obtain ⟨ho, hrest⟩ := hsafe
    exact ih (h.apply ho) (hrest _ rfl)

section Codes

theorem codesOf_hash {prestate : EvmState} (h : prestate.CodeSound keccak256) {hash : ℕ}
    {code : Bytes} (hl : (EvmeState.codesOf prestate).lookup hash = some code) :
    hashSlow keccak256 code = hash := by
  refine foldEntries_induction (P := fun codes : Map ℕ Bytes => ∀ hash code,
    codes.lookup hash = some code → hashSlow keccak256 code = hash) ?_ ?_ hash code hl
  · intro codes a account ha hcodes hash code hl
    cases hc : account.info.code with
    | none =>
      rw [hc] at hl
      exact hcodes hash code hl
    | some own =>
      have hown := h a account ha
      rw [hc] at hl hown
      by_cases heq : hash = account.info.codeHash
      · rw [heq, AList.lookup_insert, Option.some.injEq] at hl
        rw [heq, ← hl]
        exact hown
      · rw [AList.lookup_insert_ne heq] at hl
        exact hcodes hash code hl
  · intro hash code hl
    cases hl

theorem codesOf_covered {prestate : EvmState} {a : Address} {account : Account} {code : Bytes}
    (ha : prestate.lookup a = some account) (hc : account.info.code = some code) :
    ((EvmeState.codesOf prestate).lookup account.info.codeHash).isSome = true := by
  refine foldEntries_establish (P := fun codes : Map ℕ Bytes =>
    (codes.lookup account.info.codeHash).isSome = true) ha ?_ ?_ ∅
  · intro codes
    rw [hc, AList.lookup_insert]
    rfl
  · intro codes b other hcodes
    cases other.info.code with
    | none => exact hcodes
    | some own => exact isSome_lookup_insert hcodes _ _

end Codes

theorem EvmeState.kept_new {backend : EvmeBackend σ} {prestate : EvmState}
    (h : (View.answered prestate (backend.ref cached)).Same v)
    (hsound : prestate.CodeSound keccak256) :
    (EvmeState.new backend prestate).Kept keccak256 cached v where
  same := h
  sound := hsound
  codes := ⟨fun _ _ => codesOf_hash hsound, fun _ _ _ => codesOf_covered⟩

inductive EvmeOp where
  | setAccountBalance (address : Address) (balance : ℕ)
  | setAccountNonce (address : Address) (nonce : ℕ)
  | setAccountCode (address : Address) (code : Bytes)
  | setAccountStorage (address : Address) (storage : Map ℕ ℕ)
  | deploySystemContracts (spec : MegaSpecId)
  | basic (address : Address)
  | codeByHash (codeHash : ℕ)
  | storage (address : Address) (index : ℕ)

def EvmeState.step (cached : CachingDatabase σ E) (keccak256 : Bytes → ℕ)
    (codes : SystemContractCodes) (s : EvmeState σ) : EvmeOp → EvmeState σ
  | .setAccountBalance address balance => s.setAccountBalance address balance
  | .setAccountNonce address nonce => s.setAccountNonce address nonce
  | .setAccountCode address code => s.setAccountCode keccak256 address code
  | .setAccountStorage address storage => s.setAccountStorage address storage
  | .deploySystemContracts spec => s.deploySystemContracts keccak256 codes spec
  | .basic address => (s.basic cached address).2
  | .codeByHash codeHash => (s.codeByHash cached codeHash).2
  | .storage address index => (s.storage cached address index).2

/-- The overrides of an operation. The deployment names codes only. -/
def EvmeOp.overrides (codes : SystemContractCodes) : EvmeOp → List Override
  | .setAccountBalance address balance => [.balance address balance]
  | .setAccountNonce address nonce => [.nonce address nonce]
  | .setAccountCode address code => [.code address code]
  | .setAccountStorage address slots => [.storage address slots]
  | .deploySystemContracts spec =>
    (if spec.isEnabled .miniRex then
      [.code ORACLE_CONTRACT_ADDRESS
        (if spec.isEnabled .rex2 then codes.oracleContractCodeRex2 else codes.oracleContractCode),
      .code HIGH_PRECISION_TIMESTAMP_ORACLE_ADDRESS codes.highPrecisionTimestampOracleCode]
    else []) ++
    if spec.isEnabled .rex2 then [.code KEYLESS_DEPLOY_ADDRESS codes.keylessDeployCode] else []
  | .basic _ | .codeByHash _ | .storage _ _ => []

/-- A state that shows the same through the backend, with the same in front of it. -/
structure EvmeState.Alike (cached : CachingDatabase σ E) (s s' : EvmeState σ) : Prop where
  backend : s'.backend.ref cached = s.backend.ref cached
  prestate : s'.prestate = s.prestate
  codeMap : s'.codeMap = s.codeMap

namespace EvmeState

theorem Alike.refl (s : EvmeState σ) : s.Alike cached s := ⟨rfl, rfl, rfl⟩

theorem Alike.ref_eq {s' : EvmeState σ} (h : s.Alike cached s') : s'.ref cached = s.ref cached := by
  unfold ref basicRef codeByHashRef storageRef
  rw [h.backend, h.prestate, h.codeMap]

theorem Alike.kept {s' : EvmeState σ} (h : s.Alike cached s') (hk : s.Kept keccak256 cached v) :
    s'.Kept keccak256 cached v where
  same := by
    rw [h.prestate, h.backend]
    exact hk.same
  sound := by
    rw [h.prestate]
    exact hk.sound
  codes :=
    { hash := by
        rw [h.codeMap]
        exact hk.codes.hash
      covered := by
        rw [h.prestate, h.codeMap]
        exact hk.codes.covered }

theorem fetch_alike {α : Type} {ask : σ → Except E α × σ}
    (href : ∀ db, cached.ref (ask db).2 = cached.ref db) (empty : α) (error : E → EvmeError E) :
    s.Alike cached (s.fetch empty ask error).2 := by
  unfold fetch
  cases hb : s.backend with
  | empty => exact Alike.refl s
  | forked db => exact ⟨by rw [hb]; simp only [EvmeBackend.ref, href db], rfl, rfl⟩

variable (ht : cached.Transparent)
include ht

theorem basic_ref (address : Address) :
    (s.basic cached address).1 = s.basicRef cached address ∧
      s.Alike cached (s.basic cached address).2 := by
  unfold basic basicRef
  split
  · exact ⟨rfl, Alike.refl s⟩
  · refine ⟨?_, fetch_alike (fun db => (ht.basic db address).2) none _⟩
    unfold fetch
    cases s.backend with
    | empty => rfl
    | forked db => simp only [EvmeBackend.ref, (ht.basic db address).1]

theorem codeByHash_ref (codeHash : ℕ) :
    (s.codeByHash cached codeHash).1 = s.codeByHashRef cached codeHash ∧
      s.Alike cached (s.codeByHash cached codeHash).2 := by
  unfold codeByHash codeByHashRef
  split
  · exact ⟨rfl, Alike.refl s⟩
  · refine ⟨?_, fetch_alike (fun db => (ht.codeByHash db codeHash).2) [] _⟩
    unfold fetch
    cases s.backend with
    | empty => rfl
    | forked db => simp only [EvmeBackend.ref, (ht.codeByHash db codeHash).1]

theorem storage_ref (address : Address) (index : ℕ) :
    (s.storage cached address index).1 = s.storageRef cached address index ∧
      s.Alike cached (s.storage cached address index).2 := by
  unfold storage storageRef
  split
  · exact ⟨rfl, Alike.refl s⟩
  · refine ⟨?_, fetch_alike (fun db => (ht.storage db address index).2) 0 _⟩
    unfold fetch
    cases s.backend with
    | empty => rfl
    | forked db => simp only [EvmeBackend.ref, (ht.storage db address index).1]

theorem step_alike (codes : SystemContractCodes) (op : EvmeOp) :
    ((op.overrides codes).foldl (apply keccak256) s).Alike cached
      (s.step cached keccak256 codes op) := by
  cases op with
  | setAccountBalance | setAccountNonce | setAccountCode | setAccountStorage => exact Alike.refl _
  | deploySystemContracts spec =>
    simp only [step, deploySystemContracts, EvmeOp.overrides]
    cases spec.isEnabled .miniRex with
    | true =>
      cases spec.isEnabled .rex2 with
      | true | false => exact Alike.refl _
    | false =>
      cases spec.isEnabled .rex2 with
      | true | false => exact Alike.refl _
  | basic address => exact (basic_ref ht address).2
  | codeByHash codeHash => exact (codeByHash_ref ht codeHash).2
  | storage address index => exact (storage_ref ht address index).2

end EvmeState

theorem EvmeState.apply_backend (overrides : List Override) (s : EvmeState σ) :
    (overrides.foldl (EvmeState.apply keccak256) s).backend = s.backend := by
  induction overrides generalizing s with
  | nil => rfl
  | cons o overrides ih => exact ih (s.apply keccak256 o)

theorem EvmeState.run_backend (ht : cached.Transparent) (codes : SystemContractCodes)
    (ops : List EvmeOp) (s : EvmeState σ) :
    (ops.foldl (EvmeState.step cached keccak256 codes) s).backend.ref cached =
      s.backend.ref cached := by
  induction ops generalizing s with
  | nil => rfl
  | cons op ops ih =>
    rw [List.foldl_cons, ih, (EvmeState.step_alike ht codes op).backend,
      EvmeState.apply_backend]

def OpsSafe (cached : CachingDatabase σ E) (keccak256 : Bytes → ℕ) (codes : SystemContractCodes)
    (s : EvmeState σ) (ops : List EvmeOp) : Prop :=
  Run.Guarded (fun (s : EvmeState σ) op => some (s.step cached keccak256 codes op))
    (fun s op => OverridesSafe keccak256 (s.backend.ref cached) s.prestate (op.overrides codes))
    s ops

def View.ops (keccak256 : Bytes → ℕ) (codes : SystemContractCodes) (v : View E) (ops : List EvmeOp) :
    View E :=
  ops.foldl (fun v op => (op.overrides codes).foldl (View.override keccak256) v) v

theorem EvmeState.Kept.run (ht : cached.Transparent) {codes : SystemContractCodes}
    {ops : List EvmeOp} (h : s.Kept keccak256 cached v)
    (hsafe : OpsSafe cached keccak256 codes s ops) :
    (ops.foldl (EvmeState.step cached keccak256 codes) s).Kept keccak256 cached
      (v.ops keccak256 codes ops) := by
  induction ops generalizing s v with
  | nil => exact h
  | cons op ops ih =>
    obtain ⟨hop, hrest⟩ := hsafe
    exact ih ((EvmeState.step_alike ht codes op).kept (h.overrides hop)) (hrest _ rfl)

end Runs

section Faithful

variable {σ E : Type} {keccak256 : Bytes → ℕ} {cached : CachingDatabase σ E}

/-- A state answers what it should: the accounts and the slots of the view, every code
hash with a code of that hash, and the same through the cache and by reference. -/
structure EvmeState.Faithful (keccak256 : Bytes → ℕ) (cached : CachingDatabase σ E)
    (s : EvmeState σ) (v : View (EvmeError E)) : Prop where
  account : ∀ a, (s.basicRef cached a).map (fun info => (info.getD default).shown) =
    (v.info a).map AccountInfo.shown
  storage : ∀ a key, s.storageRef cached a key = v.storage a key
  codeHash : ∀ a info code, s.basicRef cached a = .ok (some info) →
    info.code = some code ∨ s.codeByHashRef cached info.codeHash = .ok code →
    hashSlow keccak256 code = info.codeHash
  codeByHash : ∀ a account, s.prestate.lookup a = some account →
    ∃ code, s.codeByHashRef cached account.info.codeHash = .ok code
  basicAgrees : ∀ a, (s.basic cached a).1 = s.basicRef cached a ∧
    (s.basic cached a).2.ref cached = s.ref cached
  codeByHashAgrees : ∀ hash, (s.codeByHash cached hash).1 = s.codeByHashRef cached hash ∧
    (s.codeByHash cached hash).2.ref cached = s.ref cached
  storageAgrees : ∀ a key, (s.storage cached a key).1 = s.storageRef cached a key ∧
    (s.storage cached a key).2.ref cached = s.ref cached

variable {s : EvmeState σ} {v : View (EvmeError E)}

theorem EvmeState.Kept.codeHash_of_none (h : s.Kept keccak256 cached v) {a : Address}
    {account : Account} (ha : s.prestate.lookup a = some account)
    (hc : s.codeMap.lookup account.info.codeHash = none) :
    account.info.codeHash = KECCAK_EMPTY := by
  have hsound := h.sound a account ha
  cases hcode : account.info.code with
  | none =>
    rw [hcode] at hsound
    exact hsound.symm
  | some code =>
    have hcovered := h.codes.covered a account code ha hcode
    rw [hc] at hcovered
    cases hcovered

theorem EvmeState.Kept.codeByHash (h : s.Kept keccak256 cached v)
    (hdb : (s.backend.ref cached).CodeSound keccak256) {a : Address} {account : Account}
    (ha : s.prestate.lookup a = some account) :
    ∃ code, s.codeByHashRef cached account.info.codeHash = .ok code ∧
      hashSlow keccak256 code = account.info.codeHash := by
  unfold codeByHashRef
  cases hc : s.codeMap.lookup account.info.codeHash with
  | some code => exact ⟨code, rfl, h.codes.hash _ code hc⟩
  | none =>
    have hempty := h.codeHash_of_none ha hc
    rw [hempty]
    exact ⟨[], hdb.empty, rfl⟩

theorem EvmeState.Kept.codeHash (h : s.Kept keccak256 cached v)
    (hdb : (s.backend.ref cached).CodeSound keccak256) {a : Address} {info : AccountInfo}
    {code : Bytes} (ha : s.basicRef cached a = .ok (some info))
    (hcode : info.code = some code ∨ s.codeByHashRef cached info.codeHash = .ok code) :
    hashSlow keccak256 code = info.codeHash := by
  unfold basicRef at ha
  cases hl : s.prestate.lookup a with
  | some account =>
    simp only [hl, Except.ok.injEq, Option.some.injEq] at ha
    subst ha
    rcases hcode with hloaded | hasked
    · have hsound := h.sound a account hl
      rwa [hloaded] at hsound
    · obtain ⟨code', hcode', hhash⟩ := h.codeByHash hdb hl
      obtain rfl : code = code' := Except.ok.inj (hasked.symm.trans hcode')
      exact hhash
  | none =>
    simp only [hl] at ha
    rcases hcode with hloaded | hasked
    · exact hdb.loaded a info code ha hloaded
    · unfold codeByHashRef at hasked
      cases hc : s.codeMap.lookup info.codeHash with
      | some own =>
        simp only [hc, Except.ok.injEq] at hasked
        subst hasked
        exact h.codes.hash _ own hc
      | none =>
        simp only [hc] at hasked
        exact hdb.byHash a info code ha hasked

theorem EvmeState.Kept.faithful (h : s.Kept keccak256 cached v) (ht : cached.Transparent)
    (hdb : (s.backend.ref cached).CodeSound keccak256) : s.Faithful keccak256 cached v where
  account a := by
    rw [← h.same.info a]
    unfold basicRef
    cases hl : s.prestate.lookup a with
    | some account => simp only [View.answered, hl, Except.map, Option.getD_some]
    | none =>
      simp only [View.answered, hl]
      cases (s.backend.ref cached).basic a with
      | error e | ok info => rfl
  storage a key := h.same.storage a key
  codeHash a info code ha hcode := h.codeHash hdb ha hcode
  codeByHash a account ha :=
    let ⟨code, hcode, _⟩ := h.codeByHash hdb ha
    ⟨code, hcode⟩
  basicAgrees a := ⟨(basic_ref ht a).1, (basic_ref ht a).2.ref_eq⟩
  codeByHashAgrees hash := ⟨(codeByHash_ref ht hash).1, (codeByHash_ref ht hash).2.ref_eq⟩
  storageAgrees a key := ⟨(storage_ref ht a key).1, (storage_ref ht a key).2.ref_eq⟩

theorem loadFile_codeSound [RawBytecode] {args : PreStateArgs} {file : EvmState}
    (h : args.loadFile (E := E) keccak256 = .ok file) : file.CodeSound keccak256 := by
  unfold PreStateArgs.loadFile at h
  cases hp : args.prestate with
  | none =>
    simp only [hp, Except.ok.injEq] at h
    subst h
    intro a account ha
    cases ha
  | some loaded =>
    simp only [hp] at h
    intro a account ha
    obtain ⟨hnone, hsome⟩ := lookup_tryCollect h a
    cases hr : loaded.lookup a with
    | none =>
      rw [hnone hr] at ha
      cases ha
    | some record =>
      obtain ⟨account', hinto, hl⟩ := hsome record hr
      obtain rfl : account' = account := Option.some.inj (hl.symm.trans ha)
      exact AccountState.codeHash_intoAccount hinto

/-- Where nothing shows through the file and every override of a run is safe, the state
answers the accounts of the file, else those of the backend, with the named fields and
slots replaced. -/
theorem overrides_change_only_what_they_name [RawBytecode] (ht : cached.Transparent)
    (codes : SystemContractCodes) (backend : EvmeBackend σ)
    (hdb : (backend.ref cached).CodeSound keccak256) (args : PreStateArgs) (sender : Address)
    {file prestate : EvmState} (hfile : args.loadFile (E := E) keccak256 = .ok file)
    (hcovers : View.Covers file (backend.ref cached))
    (hload : args.loadPrestate (E := E) keccak256 sender = .ok prestate)
    (hargs : OverridesSafe keccak256 (backend.ref cached) file (args.overrides sender))
    (ops : List EvmeOp)
    (hops : OpsSafe cached keccak256 codes (EvmeState.new backend prestate) ops) :
    (ops.foldl (EvmeState.step cached keccak256 codes) (.new backend prestate)).Faithful keccak256
      cached (((args.overrides sender).foldl (View.override keccak256)
        (View.above file (backend.ref cached))).ops keccak256 codes ops) := by
  obtain rfl : (args.overrides sender).foldl Override.applyTo file = prestate := by
    rw [PreStateArgs.loadPrestate_eq, hfile] at hload
    exact Except.ok.inj hload
  have hsame := (View.answered_same_iff file (backend.ref cached)).mpr hcovers
  have hloaded := overrides_same hsame (loadFile_codeSound hfile) hargs
  have hkept := (EvmeState.kept_new hloaded.1 hloaded.2).run ht hops
  refine hkept.faithful ht ?_
  rw [EvmeState.run_backend ht codes ops]
  exact hdb

end Faithful

section Samples

attribute [local instance] checkedBytecode

def CachingDatabase.ofDatabase : CachingDatabase (Database Empty) Empty where
  basic db a := (db.basic a, db)
  codeByHash db hash := (db.codeByHash hash, db)
  storage db a key := (db.storage a key, db)
  ref db := db

theorem CachingDatabase.ofDatabase_transparent : CachingDatabase.ofDatabase.Transparent where
  basic _ _ := ⟨rfl, rfl⟩
  codeByHash _ _ := ⟨rfl, rfl⟩
  storage _ _ _ := ⟨rfl, rfl⟩

theorem emptyDatabase_codeSound {E : Type} (keccak256 : Bytes → ℕ) :
    (emptyDatabase : Database E).CodeSound keccak256 where
  loaded _ _ _ h := by cases h
  byHash _ _ _ h := by cases h
  empty := rfl

/-- A file with one account, and a balance and a slot of an account that is nowhere. -/
def sampleArgs : PreStateArgs where
  prestate := some (AList.insert 8 ⟨some 3, some 1, none, none, some (AList.insert 4 2 ∅)⟩ ∅)
  balance := [(7, 100), (8, 5)]
  storage := [(7, 1, 5)]
  senderBalance := none
  faucet := [(7, 11)]

def sampleFile : EvmState :=
  AList.insert 8
    ⟨⟨3, 1, KECCAK_EMPTY, some []⟩, 0, AList.insert 4 (EvmStorageSlot.new 2 0) ∅, default⟩ ∅

theorem sampleArgs_loadFile :
    sampleArgs.loadFile (E := Empty) sampleKeccak = .ok sampleFile := by
  rfl

def samplePrestate : EvmState := (sampleArgs.overrides 9).foldl Override.applyTo sampleFile

theorem sampleArgs_loadPrestate :
    sampleArgs.loadPrestate (E := Empty) sampleKeccak 9 = .ok samplePrestate := by
  rw [PreStateArgs.loadPrestate_eq, sampleArgs_loadFile]
  rfl

theorem sampleArgs_safe :
    OverridesSafe sampleKeccak (emptyDatabase : Database (EvmeError Empty)) sampleFile
      (sampleArgs.overrides 9) := by
  refine ⟨⟨none, rfl, rfl, rfl, rfl⟩, fun s hs => ?_⟩
  cases hs
  refine ⟨True.intro, fun s hs => ?_⟩
  cases hs
  refine ⟨True.intro, fun s hs => ?_⟩
  cases hs
  refine ⟨(by decide : 100 + 11 < 2 ^ 256), fun s hs => ?_⟩
  trivial

theorem sample_overrides :
    ([EvmeOp.setAccountNonce 7 3, .basic 7, .storage 8 4].foldl
      (EvmeState.step .ofDatabase sampleKeccak SystemDeployment.sampleCodes)
      (.new .empty samplePrestate)).Faithful sampleKeccak .ofDatabase
      (((sampleArgs.overrides 9).foldl (View.override sampleKeccak)
        (View.above sampleFile emptyDatabase)).ops sampleKeccak SystemDeployment.sampleCodes
          [.setAccountNonce 7 3, .basic 7, .storage 8 4]) := by
  refine overrides_change_only_what_they_name CachingDatabase.ofDatabase_transparent
    SystemDeployment.sampleCodes .empty (emptyDatabase_codeSound sampleKeccak) sampleArgs 9
    sampleArgs_loadFile (fun _ _ _ _ _ => rfl) sampleArgs_loadPrestate sampleArgs_safe _
    ⟨?_, fun s hs => ?_⟩
  · exact ⟨True.intro, fun s hs => trivial⟩
  · exact ⟨trivial, fun s hs => ⟨trivial, fun s hs => trivial⟩⟩

def remoteDb : Database Empty where
  basic a := .ok (if a = 7 then some ⟨1, 5, KECCAK_EMPTY, some []⟩ else none)
  codeByHash _ := .ok []
  storage _ _ := .ok 0

def balanceArgs : PreStateArgs where
  prestate := none
  balance := [(7, 100)]
  storage := []
  senderBalance := none
  faucet := []

theorem remoteDb_codeSound :
    ((EvmeBackend.forked remoteDb).ref CachingDatabase.ofDatabase).CodeSound sampleKeccak := by
  have hbasic : ∀ a info,
      ((EvmeBackend.forked remoteDb).ref CachingDatabase.ofDatabase).basic a = .ok (some info) →
        info = ⟨1, 5, KECCAK_EMPTY, some []⟩ := by
    intro a info ha
    simp only [EvmeBackend.ref, CachingDatabase.ofDatabase, remoteDb, Except.mapError,
      Except.ok.injEq] at ha
    split at ha
    · exact (Option.some.inj ha).symm
    · cases ha
  constructor
  · intro a info code ha hcode
    rw [hbasic a info ha] at hcode ⊢
    cases hcode
    rfl
  · intro a info code ha hcode
    rw [hbasic a info ha]
    cases hcode
    rfl
  · rfl

/-- A balance override over a forked chain loses the nonce of the account. -/
theorem balance_override_loses_nonce :
    balanceArgs.loadPrestate (E := Empty) sampleKeccak 9 = .ok (EvmState.setBalance ∅ 7 100) ∧
    ((EvmeBackend.forked remoteDb).ref CachingDatabase.ofDatabase).CodeSound sampleKeccak ∧
    ¬ (EvmeState.new (.forked remoteDb) (EvmState.setBalance ∅ 7 100)).Faithful sampleKeccak
      .ofDatabase ((balanceArgs.overrides 9).foldl (View.override sampleKeccak)
        (View.above ∅ ((EvmeBackend.forked remoteDb).ref .ofDatabase))) := by
  refine ⟨rfl, remoteDb_codeSound, fun h => ?_⟩
  have haccount := h.account 7
  exact absurd haccount (by decide)

end Samples

end MegaEvm
