import MegaEvm.BlockLimits
import MegaEvm.EvmState
import MegaEvm.JournalInspect

/-!
# Deploying the system contracts

Before the transactions of a block every system contract that is due is put at its
address, over whatever the address holds. The account a deployment returns has the
balance and the nonce it found, no storage, and the marks of a touched and created
account. A commit replaces the storage of a created account, so an upgrade of a
contract that has stored something forgets it.
-/

set_option autoImplicit false

namespace MegaEvm

open KeyedFold

def HIGH_PRECISION_TIMESTAMP_ORACLE_ADDRESS : Address := 0x6342000000000000000000000000000000000002

section CodeHashes

def ORACLE_CONTRACT_CODE_HASH : ℕ :=
  0xe9b044afb735a0f569faeb248088b4f267578f60722f87d06ec3867b250a2c34
def ORACLE_CONTRACT_CODE_HASH_REX2 : ℕ :=
  0x06df675a69e53ea2a3c948521e330b3801740fede324a1cef2044418f8e09242
def HIGH_PRECISION_TIMESTAMP_ORACLE_CODE_HASH : ℕ :=
  0x1b2df8ca5350cd7106d67ed95532584526f97a5ca267c8eef73a1831f53720f2
def KEYLESS_DEPLOY_CODE_HASH : ℕ :=
  0x55020d41649acf7a84add6e628b887f802218d9ac86f142ef0994da43ea5eeb6
def ACCESS_CONTROL_CODE_HASH : ℕ :=
  0x96d0f3ba6b474e9684a97e4388ec8dbb7929818b51e6b4f19f885ccbdf642f9b
def LIMIT_CONTROL_CODE_HASH : ℕ :=
  0x3927f2a4803c5e18153ff5742d0fa1acd9ad04538e4e6037cb4a9b28694ca87f

end CodeHashes

structure SystemContractCodes where
  oracleContractCode : Bytes
  oracleContractCodeRex2 : Bytes
  highPrecisionTimestampOracleCode : Bytes
  keylessDeployCode : Bytes
  accessControlCode : Bytes
  limitControlCode : Bytes

structure MegaHardforks where
  isActiveAtTimestamp : MegaHardfork → ℕ → Bool

structure DeployTarget where
  address : Address
  code : Bytes
  codeHash : ℕ
  deriving DecidableEq, Repr

/-- The cache of a `State` over the database. An account that is missing reads as the
default one; reading may fail. -/
structure AccountCache (E : Type) where
  loadCacheAccount : Db → Address → Except E (Option AccountInfo)
  load_getD : ∀ db address info, loadCacheAccount db address = .ok info →
    info.getD default = db.info address

def EvmState.ofAccount (address : Address) (account : Account) : EvmState :=
  AList.insert address account ∅

def Account.withCreatedMark (a : Account) : Account :=
  { a with status := { a.status with created := true } }

section Transact

variable {E : Type} (cache : AccountCache E) (codes : SystemContractCodes)
  (hardforks : MegaHardforks) (blockTimestamp : ℕ) (db : Db)

/-- The shape of the five deployments. An account that has the code is returned
without a mark, to be seen as read. -/
def transactDeploy (active : Bool) (target : DeployTarget) : Except E (Option EvmState) :=
  if active then
    (cache.loadCacheAccount db target.address).map fun acc =>
      match acc.filter fun info => info.codeHash = target.codeHash with
      | some info => some (.ofAccount target.address (.ofInfo info))
      | none =>
        let accInfo := { acc.getD default with
          codeHash := target.codeHash
          code := some target.code }
        some (.ofAccount target.address (Account.ofInfo accInfo).withTouchedMark.withCreatedMark)
  else .ok none

def oracleTarget : DeployTarget :=
  if hardforks.isActiveAtTimestamp .rex2 blockTimestamp then
    ⟨ORACLE_CONTRACT_ADDRESS, codes.oracleContractCodeRex2, ORACLE_CONTRACT_CODE_HASH_REX2⟩
  else ⟨ORACLE_CONTRACT_ADDRESS, codes.oracleContractCode, ORACLE_CONTRACT_CODE_HASH⟩

def transactDeployOracleContract : Except E (Option EvmState) :=
  transactDeploy cache db (hardforks.isActiveAtTimestamp .miniRex blockTimestamp)
    (oracleTarget codes hardforks blockTimestamp)

def transactDeployHighPrecisionTimestampOracle : Except E (Option EvmState) :=
  transactDeploy cache db (hardforks.isActiveAtTimestamp .miniRex blockTimestamp)
    ⟨HIGH_PRECISION_TIMESTAMP_ORACLE_ADDRESS, codes.highPrecisionTimestampOracleCode,
      HIGH_PRECISION_TIMESTAMP_ORACLE_CODE_HASH⟩

def transactDeployKeylessDeployContract : Except E (Option EvmState) :=
  transactDeploy cache db (hardforks.isActiveAtTimestamp .rex2 blockTimestamp)
    ⟨KEYLESS_DEPLOY_ADDRESS, codes.keylessDeployCode, KEYLESS_DEPLOY_CODE_HASH⟩

def transactDeployAccessControlContract : Except E (Option EvmState) :=
  transactDeploy cache db (hardforks.isActiveAtTimestamp .rex4 blockTimestamp)
    ⟨ACCESS_CONTROL_ADDRESS, codes.accessControlCode, ACCESS_CONTROL_CODE_HASH⟩

def transactDeployLimitControlContract : Except E (Option EvmState) :=
  transactDeploy cache db (hardforks.isActiveAtTimestamp .rex4 blockTimestamp)
    ⟨LIMIT_CONTROL_ADDRESS, codes.limitControlCode, LIMIT_CONTROL_CODE_HASH⟩

end Transact

inductive SystemDeployment where
  | oracle
  | highPrecisionTimestampOracle
  | keylessDeploy
  | accessControl
  | limitControl
  deriving DecidableEq, Repr

namespace SystemDeployment

variable {E : Type} (codes : SystemContractCodes) (hardforks : MegaHardforks) (blockTimestamp : ℕ)

def all : List SystemDeployment :=
  [oracle, highPrecisionTimestampOracle, keylessDeploy, accessControl, limitControl]

def transact (cache : AccountCache E) (db : Db) :
    SystemDeployment → Except E (Option EvmState)
  | oracle => transactDeployOracleContract cache codes hardforks blockTimestamp db
  | highPrecisionTimestampOracle =>
    transactDeployHighPrecisionTimestampOracle cache codes hardforks blockTimestamp db
  | keylessDeploy => transactDeployKeylessDeployContract cache codes hardforks blockTimestamp db
  | accessControl => transactDeployAccessControlContract cache codes hardforks blockTimestamp db
  | limitControl => transactDeployLimitControlContract cache codes hardforks blockTimestamp db

def fork : SystemDeployment → MegaHardfork
  | oracle | highPrecisionTimestampOracle => .miniRex
  | keylessDeploy => .rex2
  | accessControl | limitControl => .rex4

def target : SystemDeployment → DeployTarget
  | oracle => oracleTarget codes hardforks blockTimestamp
  | highPrecisionTimestampOracle => ⟨HIGH_PRECISION_TIMESTAMP_ORACLE_ADDRESS,
      codes.highPrecisionTimestampOracleCode, HIGH_PRECISION_TIMESTAMP_ORACLE_CODE_HASH⟩
  | keylessDeploy => ⟨KEYLESS_DEPLOY_ADDRESS, codes.keylessDeployCode, KEYLESS_DEPLOY_CODE_HASH⟩
  | accessControl => ⟨ACCESS_CONTROL_ADDRESS, codes.accessControlCode, ACCESS_CONTROL_CODE_HASH⟩
  | limitControl => ⟨LIMIT_CONTROL_ADDRESS, codes.limitControlCode, LIMIT_CONTROL_CODE_HASH⟩

def address : SystemDeployment → Address
  | oracle => ORACLE_CONTRACT_ADDRESS
  | highPrecisionTimestampOracle => HIGH_PRECISION_TIMESTAMP_ORACLE_ADDRESS
  | keylessDeploy => KEYLESS_DEPLOY_ADDRESS
  | accessControl => ACCESS_CONTROL_ADDRESS
  | limitControl => LIMIT_CONTROL_ADDRESS

theorem transact_eq (cache : AccountCache E) (db : Db) (d : SystemDeployment) :
    d.transact codes hardforks blockTimestamp cache db =
      transactDeploy cache db (hardforks.isActiveAtTimestamp d.fork blockTimestamp)
        (d.target codes hardforks blockTimestamp) := by
  cases d <;> rfl

theorem target_address (d : SystemDeployment) :
    (d.target codes hardforks blockTimestamp).address = d.address := by
  cases d with
  | oracle =>
    simp only [target, oracleTarget]
    split <;> rfl
  | _ => rfl

theorem codeHash_ne_empty (d : SystemDeployment) :
    (d.target codes hardforks blockTimestamp).codeHash ≠ KECCAK_EMPTY := by
  cases d with
  | oracle =>
    simp only [target, oracleTarget]
    split
    · exact (by decide : ORACLE_CONTRACT_CODE_HASH_REX2 ≠ KECCAK_EMPTY)
    · exact (by decide : ORACLE_CONTRACT_CODE_HASH ≠ KECCAK_EMPTY)
  | highPrecisionTimestampOracle =>
    exact (by decide : HIGH_PRECISION_TIMESTAMP_ORACLE_CODE_HASH ≠ KECCAK_EMPTY)
  | keylessDeploy => exact (by decide : KEYLESS_DEPLOY_CODE_HASH ≠ KECCAK_EMPTY)
  | accessControl => exact (by decide : ACCESS_CONTROL_CODE_HASH ≠ KECCAK_EMPTY)
  | limitControl => exact (by decide : LIMIT_CONTROL_CODE_HASH ≠ KECCAK_EMPTY)

theorem address_injective {d d' : SystemDeployment} (h : d.address = d'.address) : d = d' := by
  cases d <;> cases d' <;> first | rfl | exact absurd h (by decide)

end SystemDeployment

section Commit

variable {E : Type} {cache : AccountCache E} {db : Db} {target : DeployTarget} {active : Bool}
  {state : EvmState}

theorem Db.commit_ofAccount (db : Db) (address : Address) (account : Account) :
    db.commit (.ofAccount address account) = db.commitAccount address account := by
  rw [Db.commit, EvmState.ofAccount, foldEntries_insert _ db account (AList.notMem_empty address)]
  rfl

def Db.codeAt (db : Db) (address : Address) : Option Bytes :=
  (db.info address).code <|> db.codeByHash (db.info address).codeHash

theorem transactDeploy_cases (hne : target.codeHash ≠ KECCAK_EMPTY)
    (h : transactDeploy cache db active target = .ok (some state)) :
    ((db.info target.address).codeHash = target.codeHash ∧
      state = .ofAccount target.address (.ofInfo (db.info target.address))) ∨
    ((db.info target.address).codeHash ≠ target.codeHash ∧
      state = .ofAccount target.address (Account.ofInfo { db.info target.address with
        codeHash := target.codeHash
        code := some target.code }).withTouchedMark.withCreatedMark) := by
  unfold transactDeploy at h
  split at h
  case isFalse => cases h
  case isTrue =>
    cases hacc : cache.loadCacheAccount db target.address with
    | error e => simp [hacc, Except.map] at h
    | ok acc =>
      have hinfo := cache.load_getD db target.address acc hacc
      rw [hacc, Except.map, Except.ok.injEq] at h
      rw [← hinfo]
      cases acc with
      | none =>
        refine .inr ⟨fun hcode => hne (hcode.symm.trans rfl), ?_⟩
        simpa using h.symm
      | some info =>
        by_cases hcode : info.codeHash = target.codeHash
        · exact .inl ⟨hcode, by simpa [Option.filter, hcode] using h.symm⟩
        · exact .inr ⟨hcode, by simpa [Option.filter, hcode] using h.symm⟩

/-- A touched and created account replaces the one at its address, storage and all. -/
theorem commit_created (db : Db) (address : Address) (info : AccountInfo) :
    db.commit (.ofAccount address (Account.ofInfo info).withTouchedMark.withCreatedMark) =
      { db.insertContract info with
        info := Function.update db.info address info
        storage := Function.update db.storage address fun _ => 0 } := by
  rw [Db.commit_ofAccount]
  rfl

theorem commit_ofInfo (db : Db) (address : Address) (info : AccountInfo) :
    db.commit (.ofAccount address (.ofInfo info)) = db := by
  rw [Db.commit_ofAccount]
  rfl

/-- The code at the target's address is the target's, and nothing else has changed. -/
structure ChangesOnlyCode (target : DeployTarget) (db db' : Db) : Prop where
  codeHash : (db'.info target.address).codeHash = target.codeHash
  code : db'.codeAt target.address = some target.code
  balance : (db'.info target.address).balance = (db.info target.address).balance
  nonce : (db'.info target.address).nonce = (db.info target.address).nonce
  storage : ∀ key, db'.storage target.address key = db.storage target.address key
  others : ∀ a, a ≠ target.address → db'.info a = db.info a ∧ db'.storage a = db.storage a

def RepeatIsNoOp (cache : AccountCache E) (active : Bool) (target : DeployTarget) (db' : Db) :
    Prop :=
  ∀ state, transactDeploy cache db' active target = .ok (some state) → db'.commit state = db'

theorem repeat_of_codeHash (hne : target.codeHash ≠ KECCAK_EMPTY) {db' : Db}
    (h : (db'.info target.address).codeHash = target.codeHash) :
    RepeatIsNoOp cache active target db' := by
  intro state hstate
  obtain ⟨-, rfl⟩ | ⟨hcode, -⟩ := transactDeploy_cases hne hstate
  · exact commit_ofInfo db' target.address _
  · exact absurd h hcode

/-- Bytecode is what its hash stands for, of the target and of the account it meets. -/
structure CodeKnown (codeOf : ℕ → Bytes) (target : DeployTarget) (db : Db) : Prop where
  target_code : target.code = codeOf target.codeHash
  code_at : db.codeAt target.address = some (codeOf (db.info target.address).codeHash)

theorem transactDeploy_changesOnlyCode_iff {codeOf : ℕ → Bytes}
    (hne : target.codeHash ≠ KECCAK_EMPTY) (hk : CodeKnown codeOf target db)
    (h : transactDeploy cache db active target = .ok (some state)) :
    (ChangesOnlyCode target db (db.commit state) ∧
      RepeatIsNoOp cache active target (db.commit state)) ↔
      ((db.info target.address).codeHash = target.codeHash ∨
        ∀ key, db.storage target.address key = 0) := by
  obtain ⟨hcode, rfl⟩ | ⟨hcode, rfl⟩ := transactDeploy_cases hne h
  · rw [commit_ofInfo]
    refine ⟨fun _ => .inl hcode, fun _ => ⟨?_, repeat_of_codeHash hne hcode⟩⟩
    exact
      { codeHash := hcode
        code := by rw [hk.code_at, hcode, hk.target_code]
        balance := rfl
        nonce := rfl
        storage := fun key => rfl
        others := fun a ha => ⟨rfl, rfl⟩ }
  · rw [commit_created]
    constructor
    · rintro ⟨honly, -⟩
      refine .inr fun key => ?_
      have hkey := honly.storage key
      simpa using hkey.symm
    · rintro (hsame | hzero)
      · exact absurd hsame hcode
      · refine ⟨?_, repeat_of_codeHash hne (by simp)⟩
        exact
          { codeHash := by simp
            code := by simp [Db.codeAt]
            balance := by simp
            nonce := by simp
            storage := fun key => by simp [hzero key]
            others := fun a ha => by simp [ha] }

end Commit

namespace SystemDeployment

variable {E : Type} {cache : AccountCache E} {codes : SystemContractCodes}
  {hardforks : MegaHardforks} {blockTimestamp : ℕ} {db : Db} {state : EvmState}

/-- A deployment that returns a state changes the code and nothing else exactly when
there was nothing to deploy or no storage to lose. -/
theorem deploy_changes_only_code_iff {codeOf : ℕ → Bytes} (d : SystemDeployment)
    (hk : CodeKnown codeOf (d.target codes hardforks blockTimestamp) db)
    (h : d.transact codes hardforks blockTimestamp cache db = .ok (some state)) :
    (ChangesOnlyCode (d.target codes hardforks blockTimestamp) db (db.commit state) ∧
      ∀ again, d.transact codes hardforks blockTimestamp cache (db.commit state) =
        .ok (some again) → (db.commit state).commit again = db.commit state) ↔
      ((db.info d.address).codeHash = (d.target codes hardforks blockTimestamp).codeHash ∨
        ∀ key, db.storage d.address key = 0) := by
  rw [transact_eq] at h
  have hiff := transactDeploy_changesOnlyCode_iff
    (codeHash_ne_empty codes hardforks blockTimestamp d) hk h
  simp only [transact_eq]
  rw [target_address codes hardforks blockTimestamp d] at hiff
  exact hiff

end SystemDeployment

def AccountCache.ofDb : AccountCache Empty where
  loadCacheAccount db address := .ok (some (db.info address))
  load_getD db address info h := by
    cases h
    rfl

namespace SystemDeployment

def sampleCodes : SystemContractCodes := ⟨[1], [2], [3], [4], [5], [6]⟩

def sampleCodeOf (hash : ℕ) : Bytes :=
  if hash = ORACLE_CONTRACT_CODE_HASH then [1]
  else if hash = ORACLE_CONTRACT_CODE_HASH_REX2 then [2] else []

def allForks : MegaHardforks := ⟨fun _ _ => true⟩

/-- The oracle in its first version, with a balance, a nonce and one slot. -/
def oracleDb (value : ℕ) : Db where
  info := Function.update (fun _ => default) ORACLE_CONTRACT_ADDRESS
    ⟨3, 1, ORACLE_CONTRACT_CODE_HASH, some [1]⟩
  storage address key := if address = ORACLE_CONTRACT_ADDRESS ∧ key = 0 then value else 0
  contracts _ := none

def upgradedOracle : EvmState :=
  .ofAccount ORACLE_CONTRACT_ADDRESS (Account.ofInfo
    ⟨3, 1, ORACLE_CONTRACT_CODE_HASH_REX2, some [2]⟩).withTouchedMark.withCreatedMark

theorem transact_oracleDb (value : ℕ) :
    oracle.transact sampleCodes allForks 0 .ofDb (oracleDb value) = .ok (some upgradedOracle) := by
  rfl

theorem codeKnown_oracleDb (value : ℕ) :
    CodeKnown sampleCodeOf (oracle.target sampleCodes allForks 0) (oracleDb value) :=
  ⟨rfl, rfl⟩

/-- An oracle that has stored nothing is upgraded as it should be. -/
theorem empty_oracle_upgraded :
    ChangesOnlyCode (oracle.target sampleCodes allForks 0) (oracleDb 0)
      ((oracleDb 0).commit upgradedOracle) :=
  ((deploy_changes_only_code_iff oracle (codeKnown_oracleDb 0) (transact_oracleDb 0)).mpr
    (.inr fun key => by simp [oracleDb])).1

/-- What the oracle stored is gone with its upgrade. -/
theorem oracle_upgrade_loses_slot :
    oracle.transact sampleCodes allForks 0 .ofDb (oracleDb 5) = .ok (some upgradedOracle) ∧
      (oracleDb 5).storage ORACLE_CONTRACT_ADDRESS 0 = 5 ∧
      ((oracleDb 5).commit upgradedOracle).storage ORACLE_CONTRACT_ADDRESS 0 = 0 ∧
      ¬ ChangesOnlyCode (oracle.target sampleCodes allForks 0) (oracleDb 5)
        ((oracleDb 5).commit upgradedOracle) := by
  refine ⟨rfl, rfl, rfl, fun h => ?_⟩
  have hslot := h.storage 0
  exact absurd hslot (by decide)

end SystemDeployment

section PreExecution

variable {E : Type} (cache : AccountCache E) (codes : SystemContractCodes)
  (hardforks : MegaHardforks) (blockTimestamp : ℕ) (db : Db)

/-- The deployments of `pre_execution_changes`; all of them see the state before the block. -/
def preExecutionDeployments : Except E (List EvmState) :=
  (SystemDeployment.all.mapM (SystemDeployment.transact codes hardforks blockTimestamp cache db)).map
    fun results => results.filterMap id

def commitSystemCallOutcomes (outcomes : List EvmState) : Db := outcomes.foldl Db.commit db

variable {cache codes hardforks blockTimestamp db}

theorem mapM_ok {α β : Type} {f : α → Except E β} {xs : List α} {ys : List β}
    (h : xs.mapM f = .ok ys) : List.Forall₂ (fun x y => f x = .ok y) xs ys := by
  induction xs generalizing ys with
  | nil =>
    cases h
    exact .nil
  | cons x xs ih =>
    rw [List.mapM_cons] at h
    cases hx : f x with
    | error e => simp [hx, bind, Except.bind] at h
    | ok y =>
      cases hxs : xs.mapM f with
      | error e => simp [hx, hxs, bind, Except.bind] at h
      | ok zs =>
        simp only [hx, hxs, bind, Except.bind, pure, Except.pure, Except.ok.injEq] at h
        subst h
        exact .cons hx (ih hxs)

theorem transact_ofAccount {d : SystemDeployment} {state : EvmState}
    (h : d.transact codes hardforks blockTimestamp cache db = .ok (some state)) :
    ∃ account, state = .ofAccount d.address account := by
  rw [SystemDeployment.transact_eq] at h
  have haddress := SystemDeployment.target_address codes hardforks blockTimestamp d
  obtain ⟨-, rfl⟩ | ⟨-, rfl⟩ := transactDeploy_cases
    (SystemDeployment.codeHash_ne_empty codes hardforks blockTimestamp d) h
  · exact ⟨_, by rw [haddress]⟩
  · exact ⟨_, by rw [haddress]⟩

theorem commit_congr {db db' : Db} {a : Address} (hinfo : db.info a = db'.info a)
    (hstorage : db.storage a = db'.storage a) (state : EvmState) :
    (db.commit state).info a = (db'.commit state).info a ∧
      (db.commit state).storage a = (db'.commit state).storage a := by
  simp only [Db.commit_info, Db.commit_storage, hinfo, hstorage, and_self]

theorem commit_elsewhere (db : Db) {a b : Address} (hab : a ≠ b) (account : Account) :
    (db.commit (.ofAccount b account)).info a = db.info a ∧
      (db.commit (.ofAccount b account)).storage a = db.storage a := by
  have hnone : (EvmState.ofAccount b account).lookup a = none := by
    rw [EvmState.ofAccount, AList.lookup_insert_ne hab]
    rfl
  simp only [Db.commit_info, Db.commit_storage, hnone, and_self]

theorem outcomes_elsewhere {ds : List SystemDeployment} {results : List (Option EvmState)}
    (h : List.Forall₂ (fun (d : SystemDeployment) r =>
      d.transact codes hardforks blockTimestamp cache db = .ok r) ds results)
    {a : Address} (ha : ∀ d ∈ ds, a ≠ d.address) (start : Db) :
    ((results.filterMap id).foldl Db.commit start).info a = start.info a ∧
      ((results.filterMap id).foldl Db.commit start).storage a = start.storage a := by
  induction h generalizing start with
  | nil => exact ⟨rfl, rfl⟩
  | @cons d r ds results head tail ih =>
    have hrest := ih fun d' hd' => ha d' (List.mem_cons_of_mem _ hd')
    cases r with
    | none => exact hrest start
    | some state =>
      obtain ⟨account, rfl⟩ := transact_ofAccount head
      have hstep := commit_elsewhere start (ha d List.mem_cons_self) account
      simp only [List.filterMap_cons, id_eq, List.foldl_cons]
      exact ⟨(hrest _).1.trans hstep.1, (hrest _).2.trans hstep.2⟩

theorem outcomes_at {ds : List SystemDeployment} {results : List (Option EvmState)}
    (h : List.Forall₂ (fun (d : SystemDeployment) r =>
      d.transact codes hardforks blockTimestamp cache db = .ok r) ds results)
    (hnodup : ds.Nodup) {d : SystemDeployment} (hd : d ∈ ds) {state : EvmState}
    (hstate : d.transact codes hardforks blockTimestamp cache db = .ok (some state)) {start : Db}
    (hinfo : start.info d.address = db.info d.address)
    (hstorage : start.storage d.address = db.storage d.address) :
    ((results.filterMap id).foldl Db.commit start).info d.address =
        (db.commit state).info d.address ∧
      ((results.filterMap id).foldl Db.commit start).storage d.address =
        (db.commit state).storage d.address := by
  induction h generalizing start with
  | nil => cases hd
  | @cons d' r ds results head tail ih =>
    obtain ⟨hnot, hnodup⟩ := List.nodup_cons.mp hnodup
    rcases List.mem_cons.mp hd with rfl | hd
    · -- its own turn; the later ones are elsewhere
      obtain rfl : some state = r := Except.ok.inj (hstate.symm.trans head)
      have hrest := outcomes_elsewhere tail (a := d.address)
        (fun d' hd' hsame => hnot (SystemDeployment.address_injective hsame ▸ hd'))
        (start.commit state)
      have hown := commit_congr hinfo hstorage state
      simp only [List.filterMap_cons, id_eq, List.foldl_cons]
      exact ⟨hrest.1.trans hown.1, hrest.2.trans hown.2⟩
    · cases r with
      | none => exact ih hnodup hd hinfo hstorage
      | some state' =>
        obtain ⟨account, rfl⟩ := transact_ofAccount head
        have hne : d.address ≠ d'.address := fun hsame =>
          hnot (SystemDeployment.address_injective hsame ▸ hd)
        have hstep := commit_elsewhere start hne account
        exact ih hnodup hd (hstep.1.trans hinfo) (hstep.2.trans hstorage)

/-- In a block each system contract becomes what its own deployment makes of it. -/
theorem preExecution_at {outcomes : List EvmState}
    (h : preExecutionDeployments cache codes hardforks blockTimestamp db = .ok outcomes)
    {d : SystemDeployment} {state : EvmState}
    (hstate : d.transact codes hardforks blockTimestamp cache db = .ok (some state)) :
    (commitSystemCallOutcomes db outcomes).info d.address = (db.commit state).info d.address ∧
      (commitSystemCallOutcomes db outcomes).storage d.address =
        (db.commit state).storage d.address := by
  unfold preExecutionDeployments at h
  cases hresults : SystemDeployment.all.mapM
      (SystemDeployment.transact codes hardforks blockTimestamp cache db) with
  | error e => simp [hresults, Except.map] at h
  | ok results =>
    rw [hresults, Except.map, Except.ok.injEq] at h
    subst h
    have hmem : d ∈ SystemDeployment.all := by cases d <;> decide
    exact outcomes_at (mapM_ok hresults) (by decide) hmem hstate rfl rfl

end PreExecution

end MegaEvm
