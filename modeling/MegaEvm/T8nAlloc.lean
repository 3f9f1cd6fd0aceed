import MegaEvm.JournalLoads
import MegaEvm.Prestate
import MegaEvm.T8nTransition

/-!
# Allocations before and after a transition

The state of a transition is filled from an allocation, and its accounts are written out as
one in the end. The allocation of one invocation of the tool is the prestate of the next: a
chain of invocations does what one invocation does with all of their transactions.
-/

set_option autoImplicit false

namespace MegaEvm.T8n

open KeyedFold

structure AllocAccount where
  balance : ℕ
  code : Bytes
  nonce : ℕ
  storage : Map ℕ ℕ

abbrev StateAlloc := Map Address AllocAccount

structure PlainAccount where
  info : AccountInfo
  storage : Map ℕ ℕ

/-- The accounts the state has loaded; one that does not exist is there without an account. -/
abbrev CacheState := Map Address (Option PlainAccount)

section

variable [RawBytecode] (keccak256 : Bytes → ℕ)

/-- What begins like a delegation and is none is kept as it is. -/
def allocBytecode (code : Bytes) : Bytes :=
  match newRawChecked code with
  | .ok bytecode => bytecode
  | .error _ => code

def AllocAccount.accInfo (info : AllocAccount) : AccountInfo :=
  let bytecode := allocBytecode info.code
  ⟨info.balance, info.nonce, hashSlow keccak256 bytecode, some bytecode⟩

/-- `insert_account_with_storage` forgets what an empty account says. -/
def AllocAccount.load (info : AllocAccount) : PlainAccount :=
  let accInfo := info.accInfo keccak256
  ⟨if accInfo.isEmpty then .empty else accInfo, info.storage⟩

def createInitialState (alloc : StateAlloc) : CacheState :=
  collect (fun info => some (info.load keccak256)) alloc

def PlainAccount.extract (account : PlainAccount) : AllocAccount where
  balance := account.info.balance
  code := account.info.code.getD []
  nonce := account.info.nonce
  storage := account.storage

def extractPostStateAllocFromState (state : CacheState) : StateAlloc :=
  collectSome (·.map PlainAccount.extract) state

end

namespace CacheState

def account (state : CacheState) (a : Address) : Option PlainAccount := (state.lookup a).join

def info (state : CacheState) (a : Address) : Option AccountInfo := (state.account a).map (·.info)

def slot (state : CacheState) (a : Address) (key : ℕ) : ℕ :=
  ((state.account a).bind (·.storage.lookup key)).getD 0

structure Same (s s' : CacheState) : Prop where
  info : ∀ a, (s.info a).map AccountInfo.shown = (s'.info a).map AccountInfo.shown
  slot : ∀ a key, s.slot a key = s'.slot a key

def Coded (keccak256 : Bytes → ℕ) (s : CacheState) : Prop :=
  ∀ a info, s.info a = some info → info.codeHash = hashSlow keccak256 (info.code.getD [])

theorem Same.refl (s : CacheState) : Same s s := ⟨fun _ => rfl, fun _ _ => rfl⟩

theorem Same.symm {s s' : CacheState} (h : Same s s') : Same s' s :=
  ⟨fun a => (h.info a).symm, fun a key => (h.slot a key).symm⟩

theorem Same.trans {s s' s'' : CacheState} (h : Same s s') (h' : Same s' s'') : Same s s'' :=
  ⟨fun a => (h.info a).trans (h'.info a), fun a key => (h.slot a key).trans (h'.slot a key)⟩

end CacheState

/-- The hash of code is not taken for the hash of no code. -/
def EmptyHashFree (keccak256 : Bytes → ℕ) : Prop :=
  ∀ code, code ≠ [] → keccak256 code ≠ KECCAK_EMPTY ∧ keccak256 code ≠ 0

theorem lookup_extract (state : CacheState) (a : Address) :
    (extractPostStateAllocFromState state).lookup a =
      (state.account a).map PlainAccount.extract := by
  unfold CacheState.account extractPostStateAllocFromState
  rw [lookup_collectSome]
  cases state.lookup a <;> rfl

section RoundTrip

variable [RawBytecode] {keccak256 : Bytes → ℕ}

@[simp] theorem allocBytecode_eq (code : Bytes) : allocBytecode code = code := by
  unfold allocBytecode
  cases h : newRawChecked code with
  | error e => rfl
  | ok bytecode =>
    exact RawBytecode.original code bytecode h

theorem accInfo_of_isEmpty (hfree : EmptyHashFree keccak256) {info : AllocAccount}
    (h : (info.accInfo keccak256).isEmpty = true) : info.accInfo keccak256 = .empty := by
  simp only [AccountInfo.isEmpty, AllocAccount.accInfo, allocBytecode_eq, Bool.and_eq_true,
    Bool.or_eq_true, decide_eq_true_eq] at h
  obtain ⟨⟨hhash, hbalance⟩, hnonce⟩ := h
  have hcode : info.code = [] := by
    by_contra hne
    obtain ⟨hempty, hzero⟩ := hfree info.code hne
    have hkeccak : hashSlow keccak256 info.code = keccak256 info.code := by
      simp [hashSlow, hne]
    rw [hkeccak] at hhash
    exact hhash.elim hempty hzero
  simp only [AllocAccount.accInfo, allocBytecode_eq, hbalance, hnonce, hcode, hashSlow_nil]
  rfl

theorem load_info (hfree : EmptyHashFree keccak256) (info : AllocAccount) :
    (info.load keccak256).info = info.accInfo keccak256 := by
  show (if (info.accInfo keccak256).isEmpty then AccountInfo.empty else info.accInfo keccak256) = _
  split
  next hempty => exact (accInfo_of_isEmpty hfree hempty).symm
  next => rfl

theorem extract_load_iff (info : AllocAccount) : (info.load keccak256).extract = info ↔
    ((info.accInfo keccak256).isEmpty = true → info.code = []) := by
  cases hempty : (info.accInfo keccak256).isEmpty with
  | false =>
    have hload : info.load keccak256 = ⟨info.accInfo keccak256, info.storage⟩ := by
      simp [AllocAccount.load, hempty]
    simp [hload, PlainAccount.extract, AllocAccount.accInfo]
  | true =>
    have hload : info.load keccak256 = ⟨.empty, info.storage⟩ := by
      simp [AllocAccount.load, hempty]
    simp only [AccountInfo.isEmpty, AllocAccount.accInfo, Bool.and_eq_true] at hempty
    obtain ⟨⟨-, hbalance⟩, hnonce⟩ := hempty
    rw [hload]
    constructor
    · intro h _
      exact (congrArg AllocAccount.code h).symm
    · intro h
      obtain ⟨balance, code, nonce, storage⟩ := info
      obtain rfl : balance = 0 := of_decide_eq_true hbalance
      obtain rfl : nonce = 0 := of_decide_eq_true hnonce
      obtain rfl : code = [] := h rfl
      rfl

theorem account_createInitialState (alloc : StateAlloc) (a : Address) :
    (createInitialState keccak256 alloc).account a =
      (alloc.lookup a).map (AllocAccount.load keccak256) := by
  unfold CacheState.account createInitialState
  rw [lookup_collect]
  cases alloc.lookup a <;> rfl

/-- An allocation that is loaded and written out again is unchanged, exactly if no account
without balance and nonce has code of which the hash is taken for that of no code. -/
theorem alloc_round_trip_iff (keccak256 : Bytes → ℕ) (alloc : StateAlloc) :
    (∀ a, (extractPostStateAllocFromState (createInitialState keccak256 alloc)).lookup a =
      alloc.lookup a) ↔
    ∀ a info, alloc.lookup a = some info → (info.accInfo keccak256).isEmpty = true →
      info.code = [] := by
  have hback : ∀ a, (extractPostStateAllocFromState
      (createInitialState keccak256 alloc)).lookup a =
        (alloc.lookup a).map fun info => (info.load keccak256).extract := by
    intro a
    rw [lookup_extract, account_createInitialState, Option.map_map]
    rfl
  constructor
  · intro h a info hinfo
    have hkey := (hback a).symm.trans (h a)
    rw [hinfo, Option.map_some, Option.some.injEq] at hkey
    exact (extract_load_iff info).1 hkey
  · intro h a
    rw [hback]
    cases hinfo : alloc.lookup a with
    | none => rfl
    | some info =>
      rw [Option.map_some, (extract_load_iff info).2 (h a info hinfo)]

theorem coded_createInitialState (hfree : EmptyHashFree keccak256) (alloc : StateAlloc) :
    (createInitialState keccak256 alloc).Coded keccak256 := by
  intro a info hinfo
  unfold CacheState.info at hinfo
  rw [account_createInitialState, Option.map_map] at hinfo
  obtain ⟨entry, -, rfl⟩ := Option.map_eq_some_iff.1 hinfo
  rw [Function.comp_apply, load_info hfree]
  rfl

theorem same_reload (hfree : EmptyHashFree keccak256) {state : CacheState}
    (hcoded : state.Coded keccak256) :
    CacheState.Same state
      (createInitialState keccak256 (extractPostStateAllocFromState state)) := by
  have haccount : ∀ a, (createInitialState keccak256
      (extractPostStateAllocFromState state)).account a =
        (state.account a).map fun account => account.extract.load keccak256 := by
    intro a
    rw [account_createInitialState, lookup_extract, Option.map_map]
    rfl
  constructor
  case info =>
    intro a
    unfold CacheState.info
    rw [haccount]
    cases haccount : state.account a with
    | none => rfl
    | some account =>
      have hhash := hcoded a account.info (by rw [CacheState.info, haccount]; rfl)
      simp [load_info hfree, AllocAccount.accInfo, PlainAccount.extract, AccountInfo.shown,
        ← hhash]
  case slot =>
    intro a key
    unfold CacheState.slot
    rw [haccount]
    cases state.account a <;> rfl

end RoundTrip

/-! ## Chains of invocations -/

section Chain

variable (evm : TransitionEvm CacheState) (keccak256 : Bytes → ℕ)

/-- One invocation for each list of transactions, over the allocation of the one before. -/
def transitionChain [RawBytecode] : StateAlloc → List (List Transaction) →
    Except ConversionFailure (List (Transition CacheState) × StateAlloc)
  | alloc, [] => .ok ([], alloc)
  | alloc, txs :: rest =>
    match runEvmTransition evm (createInitialState keccak256 alloc) txs with
    | .error e => .error e
    | .ok t =>
      match transitionChain (extractPostStateAllocFromState t.state) rest with
      | .error e => .error e
      | .ok (ts, final) => .ok (t :: ts, final)

/-- The EVM goes by what a state shows, and gives no account code without its hash. -/
structure ReadsState : Prop where
  result : ∀ s s' env, s.Coded keccak256 → s'.Coded keccak256 → s.Same s' →
    (evm.transactCommit s env).2 = (evm.transactCommit s' env).2
  state : ∀ s s' env, s.Coded keccak256 → s'.Coded keccak256 → s.Same s' →
    (evm.transactCommit s env).1.Same (evm.transactCommit s' env).1
  coded : ∀ s env, s.Coded keccak256 → (evm.transactCommit s env).1.Coded keccak256

def TransactionReceipt.unplaced (r : TransactionReceipt) : ℕ × UInt64 × ℕ × List Log :=
  (r.transactionHash, r.gasUsed, r.status, r.logs.map (·.log))

variable {evm keccak256}

theorem outcome_reads (h : ReadsState evm keccak256) {s s' : CacheState}
    (hs : s.Coded keccak256) (hs' : s'.Coded keccak256) (hsame : s.Same s')
    (txData : Transaction) :
    (outcome evm s txData).2 = (outcome evm s' txData).2 ∧
      (outcome evm s txData).1.Same (outcome evm s' txData).1 :=
  outcome_related hsame
    (fun env => ⟨h.result s s' env hs hs' hsame, h.state s s' env hs hs' hsame⟩) txData

theorem outcome_coded (h : ReadsState evm keccak256) {s : CacheState} (hs : s.Coded keccak256)
    (txData : Transaction) : (outcome evm s txData).1.Coded keccak256 := by
  have hcommit := @outcome_related _ evm (fun s _ => s.Coded keccak256) s s hs
    (fun env => ⟨rfl, h.coded s env hs⟩) txData
  exact hcommit.2

structure Tally where
  totalGasUsed : UInt64
  allLogs : List Log
  receipts : List (ℕ × UInt64 × ℕ × List Log)
  rejected : List String

def Tally.add (x y : Tally) : Tally where
  totalGasUsed := x.totalGasUsed + y.totalGasUsed
  allLogs := x.allLogs ++ y.allLogs
  receipts := x.receipts ++ y.receipts
  rejected := x.rejected ++ y.rejected

def Tally.none : Tally := ⟨0, [], [], []⟩

def Transition.tally (t : Transition CacheState) : Tally where
  totalGasUsed := t.totalGasUsed
  allLogs := t.allLogs
  receipts := t.receipts.map TransactionReceipt.unplaced
  rejected := t.rejected.map (·.error)

def TxOutcome.tally (txHash : ℕ) (o : TxOutcome) : Tally where
  totalGasUsed := o.gasUsed
  allLogs := o.logs
  receipts := [(txHash, o.gasUsed, o.status, o.logs)]
  rejected := ((o.rejection 0).map (·.error)).toList

theorem Tally.add_assoc (x y z : Tally) : (x.add y).add z = x.add (y.add z) := by
  simp [Tally.add, UInt64.add_assoc]

@[simp] theorem Tally.add_none (x : Tally) : x.add .none = x := by
  simp [Tally.add, Tally.none]

@[simp] theorem Tally.none_add (x : Tally) : Tally.none.add x = x := by
  simp [Tally.add, Tally.none]

@[simp] theorem tally_new (state : CacheState) : (Transition.new state).tally = .none := rfl

theorem map_log_transactionLogs (txHash txIndex : ℕ) (logs : List Log) :
    (transactionLogs txHash txIndex logs).map (·.log) = logs := by
  apply List.ext_getElem
  · simp [transactionLogs]
  · intro i _ _
    simp [transactionLogs]

theorem tally_record (t : Transition CacheState) (txIndex txHash : ℕ)
    (x : CacheState × TxOutcome) :
    (t.record txIndex txHash x).tally = t.tally.add (x.2.tally txHash) := by
  obtain ⟨state, o⟩ := x
  cases o <;>
    simp [Transition.tally, Transition.record, Tally.add, TxOutcome.tally, TxOutcome.receipt,
      TransactionReceipt.unplaced, TxOutcome.rejection, map_log_transactionLogs]

/-- A transition over all transactions so far, and one that has begun in between. -/
structure Continues (keccak256 : Bytes → ℕ) (base : Tally) (t u : Transition CacheState) :
    Prop where
  same : t.state.Same u.state
  long : t.state.Coded keccak256
  short : u.state.Coded keccak256
  tally : t.tally = base.add u.tally

theorem Continues.record {base : Tally} {t u : Transition CacheState}
    (h : Continues keccak256 base t u) (hevm : ReadsState evm keccak256) (i j txHash : ℕ)
    (txData : Transaction) :
    Continues keccak256 base (t.record i txHash (outcome evm t.state txData))
      (u.record j txHash (outcome evm u.state txData)) := by
  obtain ⟨houtcome, hstate⟩ := outcome_reads hevm h.long h.short h.same txData
  refine ⟨hstate, outcome_coded hevm h.long txData, outcome_coded hevm h.short txData, ?_⟩
  rw [tally_record, tally_record, h.tally, houtcome, Tally.add_assoc]

theorem Continues.executeFrom (hevm : ReadsState evm keccak256) {base : Tally}
    {t u : Transition CacheState} (h : Continues keccak256 base t u) (txs : List Transaction)
    (i j : ℕ) :
    (∀ u', u.executeFrom evm j txs = .ok u' →
      ∃ t', t.executeFrom evm i txs = .ok t' ∧ Continues keccak256 base t' u') ∧
    ∀ e, u.executeFrom evm j txs = .error e → t.executeFrom evm i txs = .error e := by
  induction txs generalizing t u i j with
  | nil =>
    constructor
    · intro u' hu
      obtain rfl := Except.ok.inj hu
      exact ⟨t, rfl, h⟩
    · intro e he
      cases he
  | cons txData txs ih =>
    simp only [Transition.executeFrom, executeTransaction_map]
    cases txData.ends evm with
    | error e =>
      constructor
      · intro u' hu
        cases hu
      · exact fun e' he => he
    | ok txHash => exact ih (h.record hevm i j txHash txData) (i + 1) (j + 1)

/-- Invocations in a chain go on in step with one that has all of their transactions: they
write down the same, end at states that show the same, or end at the same transaction. -/
theorem chain_continues [RawBytecode] (hfree : EmptyHashFree keccak256)
    (hevm : ReadsState evm keccak256) (batches : List (List Transaction)) (alloc : StateAlloc) (t : Transition CacheState) (i : ℕ)
    (hsame : t.state.Same (createInitialState keccak256 alloc))
    (hcoded : t.state.Coded keccak256) :
    (∀ ts final, transitionChain evm keccak256 alloc batches = .ok (ts, final) →
      ∃ t', t.executeFrom evm i batches.flatten = .ok t' ∧
        t'.state.Same (createInitialState keccak256 final) ∧
        t'.tally = ts.foldl (fun x u => x.add u.tally) t.tally) ∧
    ∀ e, transitionChain evm keccak256 alloc batches = .error e →
      t.executeFrom evm i batches.flatten = .error e := by
  induction batches generalizing alloc t i with
  | nil =>
    constructor
    · intro ts final hchain
      cases hchain
      exact ⟨t, rfl, hsame, rfl⟩
    · intro e hchain
      cases hchain
  | cons txs rest ih =>
    have hstart : Continues keccak256 t.tally t (.new (createInitialState keccak256 alloc)) :=
      ⟨hsame, hcoded, coded_createInitialState hfree alloc, by simp⟩
    obtain ⟨hok, herror⟩ := hstart.executeFrom hevm txs i 0
    simp only [transitionChain, runEvmTransition, List.flatten_cons, executeFrom_append]
    cases hrun : (Transition.new (createInitialState keccak256 alloc)).executeFrom evm 0 txs with
    | error e =>
      rw [herror e hrun]
      constructor
      · intro ts final hchain
        cases hchain
      · intro e' he
        cases he
        rfl
    | ok u =>
      obtain ⟨m, hm, hcontinues⟩ := hok u hrun
      rw [hm]
      have hreload := hcontinues.same.trans (same_reload hfree hcontinues.short)
      obtain ⟨ihok, iherror⟩ := ih _ m (i + txs.length) hreload hcontinues.long
      constructor
      · intro ts final hchain
        cases hrest : transitionChain evm keccak256 (extractPostStateAllocFromState u.state)
            rest with
        | error e => simp [hrest] at hchain
        | ok pair =>
          obtain ⟨us, last⟩ := pair
          simp only [hrest, Except.ok.injEq, Prod.mk.injEq] at hchain
          obtain ⟨rfl, rfl⟩ := hchain
          obtain ⟨t', ht', hstate, htally⟩ := ihok us last hrest
          refine ⟨t', ht', hstate, ?_⟩
          rw [htally, hcontinues.tally, List.foldl_cons]
      · intro e hchain
        cases hrest : transitionChain evm keccak256 (extractPostStateAllocFromState u.state)
            rest with
        | error e' =>
          simp only [hrest, Except.error.injEq] at hchain
          subst hchain
          exact iherror e' hrest
        | ok pair => simp [hrest] at hchain

theorem transitionChain_error [RawBytecode] {alloc : StateAlloc}
    {batches : List (List Transaction)} {e : ConversionFailure}
    (h : transitionChain evm keccak256 alloc batches = .error e) :
    ∃ done before txData after rest, batches = done ++ (before ++ txData :: after) :: rest ∧
      (∃ out, transitionChain evm keccak256 alloc (done ++ [before]) = .ok out) ∧
      txData.ends evm = .error e := by
  induction batches generalizing alloc with
  | nil => cases h
  | cons txs rest ih =>
    rw [transitionChain] at h
    cases hrun : runEvmTransition evm (createInitialState keccak256 alloc) txs with
    | error e' =>
      simp only [hrun, Except.error.injEq] at h
      subst h
      obtain ⟨before, txData, after, rfl, ⟨u, hu⟩, hends⟩ := executeFrom_error hrun
      refine ⟨[], before, txData, after, rest, rfl,
        ⟨([u], extractPostStateAllocFromState u.state), ?_⟩, hends⟩
      rw [List.nil_append, transitionChain, runEvmTransition, hu]
      rfl
    | ok u =>
      simp only [hrun] at h
      cases hrest : transitionChain evm keccak256 (extractPostStateAllocFromState u.state)
          rest with
      | ok pair => simp [hrest] at h
      | error e' =>
        simp only [hrest, Except.error.injEq] at h
        subst h
        obtain ⟨done, before, txData, after, rest, rfl, ⟨out, hout⟩, hends⟩ := ih hrest
        refine ⟨txs :: done, before, txData, after, rest, rfl, ⟨(u :: out.1, out.2), ?_⟩, hends⟩
        rw [List.cons_append, transitionChain, hrun]
        simp only [hout]

/-- A chain of invocations, each over the allocation that the one before has written out,
does what one invocation does with all of their transactions: it ends at the same transaction
with the same failure, or it writes down the same gas, logs, receipts and rejections in total and its last allocation
loads a state that shows the same accounts and storage. -/
theorem transition_chain_agrees [RawBytecode] (hfree : EmptyHashFree keccak256)
    (hevm : ReadsState evm keccak256) (alloc : StateAlloc) (batches : List (List Transaction)) :
    (∀ ts final, transitionChain evm keccak256 alloc batches = .ok (ts, final) →
      ∃ t, runEvmTransition evm (createInitialState keccak256 alloc) batches.flatten = .ok t ∧
        t.state.Same (createInitialState keccak256 final) ∧
        t.tally = ts.foldl (fun x u => x.add u.tally) .none) ∧
    ∀ e, transitionChain evm keccak256 alloc batches = .error e →
      runEvmTransition evm (createInitialState keccak256 alloc) batches.flatten = .error e ∧
      ∃ done before txData after rest, batches = done ++ (before ++ txData :: after) :: rest ∧
        (∃ out, transitionChain evm keccak256 alloc (done ++ [before]) = .ok out) ∧
        (∃ t, runEvmTransition evm (createInitialState keccak256 alloc)
          (done.flatten ++ before) = .ok t) ∧
        txData.ends evm = .error e := by
  have hcontinues (batches : List (List Transaction)) :=
    chain_continues hfree hevm batches alloc (.new (createInitialState keccak256 alloc)) 0 (.refl _)
      (coded_createInitialState hfree alloc)
  refine ⟨(hcontinues batches).1, fun e hchain => ⟨(hcontinues batches).2 e hchain, ?_⟩⟩
  obtain ⟨done, before, txData, after, rest, hbatches, ⟨⟨ts, final⟩, hout⟩, hends⟩ :=
    transitionChain_error hchain
  obtain ⟨t, ht, -⟩ := (hcontinues (done ++ [before])).1 ts final hout
  refine ⟨done, before, txData, after, rest, hbatches, ⟨(ts, final), hout⟩, ⟨t, ?_⟩, hends⟩
  rw [List.flatten_append, List.flatten_singleton] at ht
  exact ht

end Chain

section Sample

attribute [local instance] checkedBytecode

def nonceEvm : TransitionEvm CacheState where
  keys := Transaction.sampleKeys
  txHash envelope := envelope.nonce
  debugText text := text
  transactCommit s env :=
    let info := ((s.info env.caller).getD .empty).shown
    if env.nonce = info.nonce then
      (AList.insert env.caller (some ⟨{ info with nonce := info.nonce + 1 },
          ((s.account env.caller).map PlainAccount.storage).getD ∅⟩) s,
        .ok ⟨true, 21000, [⟨7, [env.nonce], []⟩]⟩)
    else (s, .error "NonceTooHigh")

def lengthHash (code : Bytes) : ℕ := KECCAK_EMPTY + 1 + code.length

theorem lengthHash_emptyHashFree : EmptyHashFree lengthHash := by
  intro code _
  unfold lengthHash
  exact ⟨by omega, by omega⟩

theorem account_insert (s : CacheState) (a b : Address) (account : PlainAccount) :
    CacheState.account (AList.insert a (some account) s) b =
      if b = a then some account else s.account b := by
  unfold CacheState.account
  by_cases hb : b = a
  · subst hb
    rw [AList.lookup_insert, if_pos rfl]
    rfl
  · rw [AList.lookup_insert_ne hb, if_neg hb]

theorem shown_getD {s s' : CacheState} (hsame : s.Same s') (a : Address) :
    ((s.info a).getD .empty).shown = ((s'.info a).getD .empty).shown := by
  have h := hsame.info a
  cases hx : s.info a with
  | none =>
    cases hy : s'.info a with
    | none => rfl
    | some info' =>
      rw [hx, hy] at h
      cases h
  | some info =>
    cases hy : s'.info a with
    | none =>
      rw [hx, hy] at h
      cases h
    | some info' =>
      rw [hx, hy] at h
      exact Option.some.inj h

theorem storage_getD (s : CacheState) (a : Address) (key : ℕ) :
    ((((s.account a).map PlainAccount.storage).getD ∅).lookup key).getD 0 = s.slot a key := by
  unfold CacheState.slot
  cases s.account a with
  | none => exact congrArg (Option.getD · 0) (AList.lookup_empty key)
  | some account => rfl

theorem coded_getD {s : CacheState} (hcoded : s.Coded lengthHash) (a : Address) :
    ((s.info a).getD .empty).codeHash =
      hashSlow lengthHash (((s.info a).getD .empty).code.getD []) := by
  cases hx : s.info a with
  | none => rfl
  | some info => exact hcoded a info hx

theorem nonceEvm_readsState : ReadsState nonceEvm lengthHash where
  result s s' env _ _ hsame := by
    simp only [nonceEvm, shown_getD hsame]
    split <;> rfl
  state s s' env _ _ hsame := by
    simp only [nonceEvm, shown_getD hsame]
    split
    · constructor
      case info =>
        intro a
        simp only [CacheState.info, account_insert]
        split
        · rfl
        · exact hsame.info a
      case slot =>
        intro a key
        simp only [CacheState.slot, account_insert]
        split
        next =>
          exact (storage_getD s env.caller key).trans
            ((hsame.slot env.caller key).trans (storage_getD s' env.caller key).symm)
        next => exact hsame.slot a key
    · exact hsame
  coded s env hcoded := by
    simp only [nonceEvm]
    split
    · intro a info hinfo
      simp only [CacheState.info, account_insert] at hinfo
      split at hinfo
      · obtain rfl := Option.some.inj hinfo
        exact coded_getD hcoded env.caller
      · exact hcoded a info hinfo
    · exact hcoded

/-- A contract with a slot, whose code begins like a delegation. -/
def sampleAlloc : StateAlloc :=
  AList.insert 7 ⟨1, [0xef, 0x01], 1, AList.insert 3 9 ∅⟩ ∅

/-- Of three transactions, in two invocations, one has a nonce that is too high. -/
theorem transition_chain_agrees_sample : ∃ ts final t,
    transitionChain nonceEvm lengthHash sampleAlloc
      [sampleTxs.take 1, sampleTxs.drop 1] = .ok (ts, final) ∧
    runEvmTransition nonceEvm (createInitialState lengthHash sampleAlloc)
      [sampleTxs.take 1, sampleTxs.drop 1].flatten = .ok t ∧
    t.state.Same (createInitialState lengthHash final) ∧
    t.tally.totalGasUsed = 42000 ∧ t.tally.rejected = ["NonceTooHigh"] := by
  have hchain : transitionChain nonceEvm lengthHash sampleAlloc
      [sampleTxs.take 1, sampleTxs.drop 1] = .ok _ := rfl
  obtain ⟨t, ht, hstate, htally⟩ := (transition_chain_agrees lengthHash_emptyHashFree
    nonceEvm_readsState sampleAlloc [sampleTxs.take 1, sampleTxs.drop 1]).1 _ _ hchain
  refine ⟨_, _, t, hchain, ht, hstate, ?_, ?_⟩
  · rw [htally]
    rfl
  · rw [htally]
    rfl

end Sample

end MegaEvm.T8n
