import MegaEvm.T8nTransaction

/-!
# State transitions

The tool executes its transactions in order over one state. It keeps a running total of
the gas, the logs of what succeeded, a receipt for every transaction, and a list of those
that were rejected. A transaction without a valid envelope ends the tool.
-/

set_option autoImplicit false

namespace MegaEvm.T8n

structure Log where
  address : Address
  topics : List ℕ
  data : Bytes
  deriving DecidableEq, Repr

/-- The positions of a log in the block are left open, and its index counts the logs of
its own transaction. -/
structure TransactionLog where
  log : Log
  blockNumber : ℕ
  transactionHash : ℕ
  transactionIndex : ℕ
  blockHash : ℕ
  logIndex : ℕ
  removed : Bool
  deriving DecidableEq, Repr

/-- The fields of a receipt that are not none in every receipt. -/
structure TransactionReceipt where
  transactionHash : ℕ
  gasUsed : UInt64
  status : ℕ
  cumulativeGasUsed : UInt64
  logs : List TransactionLog
  deriving DecidableEq, Repr

structure RejectedTx where
  index : ℕ
  error : String
  deriving DecidableEq, Repr

structure ExecutionResult where
  success : Bool
  gasUsed : UInt64
  logs : List Log
  deriving DecidableEq, Repr

/-- The EVM over the state of the tool, the hash of an envelope and how errors print. -/
structure TransitionEvm (St : Type) where
  keys : SecretKeys
  txHash : MegaTxEnvelope → ℕ
  debugText : String → String
  transactCommit : St → TxEnv → St × Except String ExecutionResult

def TransactionConversionError.text : TransactionConversionError → String
  | .unsupportedType txType => "Unsupported transaction type: " ++ toString txType
  | .missingField field => "Missing required field: " ++ field
  | .invalidSignature reason => "Invalid signature: " ++ reason
  | .eip7702CannotBeCreate => "EIP-7702 transactions cannot be contract creation transactions"

structure Transition (St : Type) where
  state : St
  totalGasUsed : UInt64
  allLogs : List Log
  receipts : List TransactionReceipt
  rejected : List RejectedTx

section

variable {St : Type} (evm : TransitionEvm St)

def transactionLogs (txHash txIndex : ℕ) (logs : List Log) : List TransactionLog :=
  logs.mapIdx fun logIndex log =>
    { log, blockNumber := 0, transactionHash := txHash, transactionIndex := txIndex,
      blockHash := 0, logIndex, removed := false }

namespace Transition

def failedReceipt (t : Transition St) (txHash : ℕ) : TransactionReceipt where
  transactionHash := txHash
  gasUsed := 0
  status := 0
  cumulativeGasUsed := t.totalGasUsed
  logs := []

def new (state : St) : Transition St := ⟨state, 0, [], [], []⟩

def executeTransaction (t : Transition St) (txIndex : ℕ) (txData : Transaction) :
    Except ConversionFailure (Transition St) :=
  match txData.toEnvelope with
  | .error e => .error (.invalidTransaction e.text)
  | .ok envelope =>
    let txHash := evm.txHash envelope
    match txData.convertTransactionToEnv evm.keys with
    | .error (.panics text) => .error (.panics text)
    | .error (.invalidTransaction text) =>
      .ok { t with
        receipts := t.receipts ++ [t.failedReceipt txHash]
        rejected := t.rejected ++
          [⟨txIndex, "Failed to convert transaction: " ++ evm.debugText text⟩] }
    | .ok txEnv =>
      match evm.transactCommit t.state txEnv with
      | (state, .ok result) =>
        let totalGasUsed := t.totalGasUsed + result.gasUsed
        .ok { t with
          state
          totalGasUsed
          allLogs := if result.success then t.allLogs ++ result.logs else t.allLogs
          receipts := t.receipts ++
            [{ transactionHash := txHash
               gasUsed := result.gasUsed
               status := if result.success then 1 else 0
               cumulativeGasUsed := totalGasUsed
               logs := if result.success then transactionLogs txHash txIndex result.logs
                 else [] }] }
      | (state, .error e) =>
        .ok { t with
          state
          receipts := t.receipts ++ [t.failedReceipt txHash]
          rejected := t.rejected ++ [⟨txIndex, e⟩] }

def executeFrom (t : Transition St) (txIndex : ℕ) :
    List Transaction → Except ConversionFailure (Transition St)
  | [] => .ok t
  | txData :: txs =>
    match t.executeTransaction evm txIndex txData with
    | .ok t => t.executeFrom (txIndex + 1) txs
    | .error e => .error e

end Transition

def runEvmTransition (state : St) (txs : List Transaction) :
    Except ConversionFailure (Transition St) :=
  (Transition.new state).executeFrom evm 0 txs

/-! ## What became of each transaction -/

inductive TxOutcome where
  | rejected (error : String)
  | executed (result : ExecutionResult)
  deriving DecidableEq, Repr

namespace TxOutcome

def gasUsed : TxOutcome → UInt64
  | rejected _ => 0
  | executed result => result.gasUsed

def logs : TxOutcome → List Log
  | rejected _ => []
  | executed result => if result.success then result.logs else []

def status : TxOutcome → ℕ
  | rejected _ => 0
  | executed result => if result.success then 1 else 0

def rejection (txIndex : ℕ) : TxOutcome → Option RejectedTx
  | rejected error => some ⟨txIndex, error⟩
  | executed _ => none

/-- The receipt of a transaction, given the gas of the block up to and with it. -/
def receipt (o : TxOutcome) (txHash txIndex : ℕ) (cumulativeGasUsed : UInt64) :
    TransactionReceipt where
  transactionHash := txHash
  gasUsed := o.gasUsed
  status := o.status
  cumulativeGasUsed := cumulativeGasUsed
  logs := transactionLogs txHash txIndex o.logs

end TxOutcome

def outcome (state : St) (txData : Transaction) : St × TxOutcome :=
  match txData.convertTransactionToEnv evm.keys with
  | .error (.panics text) => (state, .rejected text)
  | .error (.invalidTransaction text) =>
    (state, .rejected ("Failed to convert transaction: " ++ evm.debugText text))
  | .ok txEnv =>
    match evm.transactCommit state txEnv with
    | (state, .ok result) => (state, .executed result)
    | (state, .error e) => (state, .rejected e)

def outcomes : St → List Transaction → List TxOutcome
  | _, [] => []
  | state, txData :: txs =>
    (outcome evm state txData).2 :: outcomes (outcome evm state txData).1 txs

def finalState (state : St) (txs : List Transaction) : St :=
  txs.foldl (fun state txData => (outcome evm state txData).1) state

def totalGas (os : List TxOutcome) : UInt64 :=
  os.foldl (fun gas o => gas + o.gasUsed) 0

def rejections (os : List TxOutcome) : List RejectedTx :=
  os.zipIdx.filterMap fun (o, i) => o.rejection i

@[simp] theorem totalGas_concat (os : List TxOutcome) (o : TxOutcome) :
    totalGas (os ++ [o]) = totalGas os + o.gasUsed := by
  simp [totalGas]

@[simp] theorem rejections_concat (os : List TxOutcome) (o : TxOutcome) :
    rejections (os ++ [o]) = rejections os ++ (o.rejection os.length).toList := by
  cases h : o.rejection os.length <;> simp [rejections, List.zipIdx_append, h]

/-- What the tool has written down agrees with what became of the transactions so far. -/
structure Transition.Records (t : Transition St) (hashes : List ℕ) (os : List TxOutcome) :
    Prop where
  gas : t.totalGasUsed = totalGas os
  logs : t.allLogs = os.flatMap TxOutcome.logs
  rejected : t.rejected = rejections os
  receipts_length : t.receipts.length = os.length
  hashes_length : hashes.length = os.length
  receipts : ∀ (i : ℕ) (o : TxOutcome) (txHash : ℕ), os[i]? = some o → hashes[i]? = some txHash →
    t.receipts[i]? = some (o.receipt txHash i (totalGas (os.take (i + 1))))

variable {evm} {t t' : Transition St} {hashes : List ℕ} {os : List TxOutcome}

def Transition.record (t : Transition St) (txIndex txHash : ℕ) (x : St × TxOutcome) :
    Transition St where
  state := x.1
  totalGasUsed := t.totalGasUsed + x.2.gasUsed
  allLogs := t.allLogs ++ x.2.logs
  receipts := t.receipts ++ [x.2.receipt txHash txIndex (t.totalGasUsed + x.2.gasUsed)]
  rejected := t.rejected ++ (x.2.rejection txIndex).toList

theorem record_rejected (t : Transition St) (txIndex txHash : ℕ) (state : St) (e : String) :
    t.record txIndex txHash (state, .rejected e) =
      { t with
        state
        receipts := t.receipts ++ [t.failedReceipt txHash]
        rejected := t.rejected ++ [⟨txIndex, e⟩] } := by
  simp [Transition.record, TxOutcome.gasUsed, TxOutcome.logs, TxOutcome.receipt, TxOutcome.status,
    TxOutcome.rejection, Transition.failedReceipt, transactionLogs]

theorem record_executed (t : Transition St) (txIndex txHash : ℕ) (state : St)
    (result : ExecutionResult) :
    t.record txIndex txHash (state, .executed result) =
      { t with
        state
        totalGasUsed := t.totalGasUsed + result.gasUsed
        allLogs := if result.success then t.allLogs ++ result.logs else t.allLogs
        receipts := t.receipts ++
          [{ transactionHash := txHash
             gasUsed := result.gasUsed
             status := if result.success then 1 else 0
             cumulativeGasUsed := t.totalGasUsed + result.gasUsed
             logs := if result.success then transactionLogs txHash txIndex result.logs
               else [] }] } := by
  cases hs : result.success <;>
    simp [Transition.record, TxOutcome.gasUsed, TxOutcome.logs, TxOutcome.receipt,
      TxOutcome.status, TxOutcome.rejection, transactionLogs, hs]

theorem executeTransaction_eq {txIndex : ℕ} {txData : Transaction}
    (h : t.executeTransaction evm txIndex txData = .ok t') :
    ∃ envelope, txData.toEnvelope = .ok envelope ∧
      t' = t.record txIndex (evm.txHash envelope) (outcome evm t.state txData) := by
  unfold Transition.executeTransaction at h
  cases henvelope : txData.toEnvelope with
  | error e =>
    rw [henvelope] at h
    cases h
  | ok envelope =>
    refine ⟨envelope, rfl, ?_⟩
    simp only [henvelope] at h
    cases hconvert : txData.convertTransactionToEnv evm.keys with
    | error failure =>
      cases failure with
      | panics text => simp [hconvert] at h
      | invalidTransaction text =>
        simp only [hconvert, Except.ok.injEq] at h
        simp only [outcome, hconvert, record_rejected]
        exact h.symm
    | ok txEnv =>
      cases hrun : evm.transactCommit t.state txEnv with
      | mk state r =>
        cases r with
        | error e =>
          simp only [hconvert, hrun, Except.ok.injEq] at h
          simp only [outcome, hconvert, hrun, record_rejected]
          exact h.symm
        | ok result =>
          simp only [hconvert, hrun, Except.ok.injEq] at h
          simp only [outcome, hconvert, hrun, record_executed]
          exact h.symm

/-- What ends the tool at a transaction, else the hash of its envelope; the state has no part
in it. -/
def Transaction.ends (evm : TransitionEvm St) (txData : Transaction) : Except ConversionFailure ℕ :=
  match txData.toEnvelope with
  | .error e => .error (.invalidTransaction e.text)
  | .ok envelope =>
    match txData.convertTransactionToEnv evm.keys with
    | .error (.panics text) => .error (.panics text)
    | _ => .ok (evm.txHash envelope)

theorem executeTransaction_map (t : Transition St) (txIndex : ℕ) (txData : Transaction) :
    t.executeTransaction evm txIndex txData =
      (txData.ends evm).map fun txHash =>
        t.record txIndex txHash (outcome evm t.state txData) := by
  cases hstep : t.executeTransaction evm txIndex txData with
  | ok t' =>
    obtain ⟨envelope, henvelope, rfl⟩ := executeTransaction_eq hstep
    unfold Transition.executeTransaction at hstep
    unfold Transaction.ends
    simp only [henvelope] at hstep ⊢
    cases hconvert : txData.convertTransactionToEnv evm.keys with
    | ok txEnv => rfl
    | error failure =>
      cases failure with
      | panics text => simp [hconvert] at hstep
      | invalidTransaction text => rfl
  | error e =>
    unfold Transition.executeTransaction at hstep
    unfold Transaction.ends
    cases henvelope : txData.toEnvelope with
    | error failure =>
      rw [henvelope] at hstep
      exact hstep.symm
    | ok envelope =>
      simp only [henvelope] at hstep ⊢
      cases hconvert : txData.convertTransactionToEnv evm.keys with
      | ok txEnv =>
        simp only [hconvert] at hstep
        split at hstep <;> cases hstep
      | error failure =>
        cases failure with
        | panics text =>
          simp only [hconvert] at hstep ⊢
          exact hstep.symm
        | invalidTransaction text => simp [hconvert] at hstep

theorem executeFrom_append (t : Transition St) (i : ℕ) (txs txs' : List Transaction) :
    t.executeFrom evm i (txs ++ txs') =
      (t.executeFrom evm i txs).bind fun t' => t'.executeFrom evm (i + txs.length) txs' := by
  induction txs generalizing t i with
  | nil => rfl
  | cons txData txs ih =>
    rw [List.cons_append, Transition.executeFrom, Transition.executeFrom]
    cases t.executeTransaction evm i txData with
    | error e => rfl
    | ok t' =>
      simp only [ih t' (i + 1), List.length_cons, Nat.add_assoc, Nat.add_comm 1]

theorem executeFrom_ok_iff (t : Transition St) (i : ℕ) (txs : List Transaction) :
    (∃ t', t.executeFrom evm i txs = .ok t') ↔
      ∀ txData ∈ txs, ∃ txHash, txData.ends evm = .ok txHash := by
  induction txs generalizing t i with
  | nil => simp [Transition.executeFrom]
  | cons txData txs ih =>
    simp only [Transition.executeFrom, executeTransaction_map, List.forall_mem_cons]
    cases txData.ends evm with
    | error e => simp [Except.map]
    | ok txHash => simpa [Except.map] using ih _ (i + 1)

theorem executeFrom_error {t : Transition St} {i : ℕ} {txs : List Transaction}
    {e : ConversionFailure} (h : t.executeFrom evm i txs = .error e) :
    ∃ before txData after, txs = before ++ txData :: after ∧
      (∃ t', t.executeFrom evm i before = .ok t') ∧ txData.ends evm = .error e := by
  induction txs generalizing t i with
  | nil => cases h
  | cons txData txs ih =>
    simp only [Transition.executeFrom, executeTransaction_map] at h
    cases hends : txData.ends evm with
    | error e' =>
      simp only [hends, Except.map, Except.error.injEq] at h
      subst h
      exact ⟨[], txData, txs, rfl, ⟨t, rfl⟩, hends⟩
    | ok txHash =>
      simp only [hends, Except.map] at h
      obtain ⟨before, last, after, rfl, ⟨t', ht'⟩, hlast⟩ := ih h
      refine ⟨txData :: before, last, after, rfl, ⟨t', ?_⟩, hlast⟩
      simp only [Transition.executeFrom, executeTransaction_map, hends, Except.map, ht']

theorem Transition.Records.record (h : t.Records hashes os) (txHash : ℕ) (x : St × TxOutcome) :
    (t.record os.length txHash x).Records (hashes ++ [txHash]) (os ++ [x.2]) where
  gas := by simp [Transition.record, h.gas]
  logs := by simp [Transition.record, h.logs]
  rejected := by simp [Transition.record, h.rejected]
  receipts_length := by simp [Transition.record, h.receipts_length]
  hashes_length := by simp [h.hashes_length]
  receipts := by
    intro i o hash ho hhash
    simp only [Transition.record]
    by_cases hi : i < os.length
    · rw [List.getElem?_append_left hi] at ho
      rw [List.getElem?_append_left (h.hashes_length ▸ hi)] at hhash
      rw [List.getElem?_append_left (h.receipts_length ▸ hi),
        List.take_append_of_le_length (by omega)]
      exact h.receipts i o hash ho hhash
    · have hlast : i = os.length := by
        obtain ⟨hlt, -⟩ := List.getElem?_eq_some_iff.mp ho
        simp only [List.length_append, List.length_singleton] at hlt
        omega
      subst hlast
      rw [List.getElem?_concat_length] at ho
      rw [← h.hashes_length, List.getElem?_concat_length] at hhash
      obtain rfl := Option.some.inj ho
      obtain rfl := Option.some.inj hhash
      rw [← h.receipts_length, List.getElem?_concat_length, h.receipts_length, h.gas,
        List.take_of_length_le (by simp), totalGas_concat]

def envelopeHashes (evm : TransitionEvm St) : List Transaction → Option (List ℕ)
  | [] => some []
  | txData :: txs =>
    match txData.toEnvelope with
    | .ok envelope => (envelopeHashes evm txs).map (evm.txHash envelope :: ·)
    | .error _ => none

theorem executeFrom_records {txs : List Transaction} (hrecords : t.Records hashes os)
    (h : t.executeFrom evm os.length txs = .ok t') :
    ∃ rest, envelopeHashes evm txs = some rest ∧
      t'.Records (hashes ++ rest) (os ++ outcomes evm t.state txs) ∧
      t'.state = finalState evm t.state txs := by
  induction txs generalizing t hashes os with
  | nil =>
    obtain rfl := Except.ok.inj h
    exact ⟨[], rfl, by simpa [outcomes] using hrecords, rfl⟩
  | cons txData txs ih =>
    rw [Transition.executeFrom] at h
    cases hstep : t.executeTransaction evm os.length txData with
    | error e => simp [hstep] at h
    | ok m =>
      simp only [hstep] at h
      obtain ⟨envelope, henvelope, rfl⟩ := executeTransaction_eq hstep
      have hnext := hrecords.record (evm.txHash envelope) (outcome evm t.state txData)
      obtain ⟨rest, hrest, hfinal, hstate⟩ := ih hnext (by simpa using h)
      refine ⟨evm.txHash envelope :: rest, ?_, ?_, hstate⟩
      · simp [envelopeHashes, henvelope, hrest]
      · simpa [outcomes, Transition.record] using hfinal

@[simp] theorem Transition.new_state (state : St) : (Transition.new state).state = state := rfl

theorem Transition.records_new (state : St) : (Transition.new state).Records [] [] :=
  ⟨rfl, rfl, rfl, rfl, rfl, by simp⟩

/-- A transition that comes to an end has a receipt for every transaction, with its own gas
and the gas of the block so far; the rejected transactions are those that have not run, by
their index; the logs are those of the transactions that succeeded, in order; and the state
is what the transactions made of it one after the other. -/
theorem transition_records (state : St) (txs : List Transaction)
    (h : runEvmTransition evm state txs = .ok t) :
    ∃ hashes, envelopeHashes evm txs = some hashes ∧
      t.Records hashes (outcomes evm state txs) ∧ t.state = finalState evm state txs := by
  obtain ⟨hashes, hhashes, hrecords, hstate⟩ := executeFrom_records (Transition.records_new state) h
  exact ⟨hashes, hhashes, hrecords, hstate⟩

/-! ## Rejected transactions -/

/-- A transaction the EVM refuses leaves the state as it was, up to what is cached, and what
is cached decides no outcome. -/
structure RefusesInertly (evm : TransitionEvm St) (Same : St → St → Prop) : Prop where
  equivalence : Equivalence Same
  refused : ∀ s s' env e, evm.transactCommit s env = (s', .error e) → Same s s'
  result : ∀ s s' env, Same s s' →
    (evm.transactCommit s env).2 = (evm.transactCommit s' env).2
  state : ∀ s s' env, Same s s' →
    Same (evm.transactCommit s env).1 (evm.transactCommit s' env).1

def TxOutcome.isExecuted : TxOutcome → Bool
  | rejected _ => false
  | executed _ => true

@[simp] theorem isExecuted_rejected (error : String) :
    (TxOutcome.rejected error).isExecuted = false := rfl

@[simp] theorem isExecuted_executed (result : ExecutionResult) :
    (TxOutcome.executed result).isExecuted = true := rfl

theorem totalGas_executed (os : List TxOutcome) :
    totalGas (os.filter TxOutcome.isExecuted) = totalGas os := by
  -- the gas of a rejected transaction is zero, from whatever total it is added to
  have hfold : ∀ gas : UInt64, (os.filter TxOutcome.isExecuted).foldl
      (fun gas o => gas + o.gasUsed) gas = os.foldl (fun gas o => gas + o.gasUsed) gas := by
    induction os with
    | nil => exact fun _ => rfl
    | cons o os ih =>
      intro gas
      cases o with
      | rejected error => simpa [TxOutcome.gasUsed] using ih gas
      | executed result =>
        rw [List.filter_cons_of_pos rfl]
        exact ih (gas + result.gasUsed)
  exact hfold 0

theorem logs_executed (os : List TxOutcome) :
    (os.filter TxOutcome.isExecuted).flatMap TxOutcome.logs = os.flatMap TxOutcome.logs := by
  induction os with
  | nil => rfl
  | cons o os ih =>
    cases o with
    | rejected error => simpa [TxOutcome.logs] using ih
    | executed result => simp [List.filter_cons, ih]

def executedOf (evm : TransitionEvm St) : St → List Transaction → List Transaction
  | _, [] => []
  | state, txData :: txs =>
    let rest := executedOf evm (outcome evm state txData).1 txs
    if (outcome evm state txData).2.isExecuted then txData :: rest else rest

variable {Same : St → St → Prop}

theorem outcome_related {Rel : St → St → Prop} {s s' : St} (hs : Rel s s')
    (hcommit : ∀ env, (evm.transactCommit s env).2 = (evm.transactCommit s' env).2 ∧
      Rel (evm.transactCommit s env).1 (evm.transactCommit s' env).1)
    (txData : Transaction) : (outcome evm s txData).2 = (outcome evm s' txData).2 ∧
      Rel (outcome evm s txData).1 (outcome evm s' txData).1 := by
  unfold outcome
  cases hconvert : txData.convertTransactionToEnv evm.keys with
  | error failure => cases failure <;> exact ⟨rfl, hs⟩
  | ok txEnv =>
    obtain ⟨hresult, hstate⟩ := hcommit txEnv
    cases hx : evm.transactCommit s txEnv with
    | mk w r =>
      cases hy : evm.transactCommit s' txEnv with
      | mk w' r' =>
        rw [hx, hy] at hresult hstate
        obtain rfl : r = r' := hresult
        simp only [hx, hy]
        cases r <;> exact ⟨rfl, hstate⟩

theorem outcome_same (hr : RefusesInertly evm Same) {s s' : St} (hs : Same s s')
    (txData : Transaction) : (outcome evm s txData).2 = (outcome evm s' txData).2 ∧
      Same (outcome evm s txData).1 (outcome evm s' txData).1 :=
  outcome_related hs (fun env => ⟨hr.result s s' env hs, hr.state s s' env hs⟩) txData

theorem outcome_refused (hr : RefusesInertly evm Same) (s : St) (txData : Transaction)
    (h : (outcome evm s txData).2.isExecuted = false) : Same s (outcome evm s txData).1 := by
  unfold outcome at h ⊢
  cases hconvert : txData.convertTransactionToEnv evm.keys with
  | error failure => cases failure <;> exact hr.equivalence.refl s
  | ok txEnv =>
    simp only [hconvert] at h ⊢
    cases hx : evm.transactCommit s txEnv with
    | mk w r =>
      rw [hx] at h
      cases r with
      | ok result => simp [TxOutcome.isExecuted] at h
      | error e => exact hr.refused s w txEnv e hx

theorem executedOf_sublist (state : St) (txs : List Transaction) :
    (executedOf evm state txs).Sublist txs := by
  induction txs generalizing state with
  | nil => exact .slnil
  | cons txData txs ih =>
    unfold executedOf
    split
    · exact (ih _).cons_cons txData
    · exact (ih _).cons txData

theorem outcomes_executedOf (hr : RefusesInertly evm Same) (txs : List Transaction) {s s' : St}
    (hs : Same s s') :
    outcomes evm s' (executedOf evm s txs) = (outcomes evm s txs).filter TxOutcome.isExecuted ∧
      Same (finalState evm s txs) (finalState evm s' (executedOf evm s txs)) := by
  induction txs generalizing s s' with
  | nil => exact ⟨rfl, hs⟩
  | cons txData txs ih =>
    obtain ⟨hsame, hnext⟩ := outcome_same hr hs txData
    cases hx : (outcome evm s txData).2.isExecuted with
    | true =>
      obtain ⟨hrest, hfinal⟩ := ih hnext
      constructor
      · simp only [executedOf, hx, if_true, outcomes, List.filter_cons_of_pos, ← hsame, hrest]
      · simpa only [executedOf, hx, if_true, finalState, List.foldl_cons] using hfinal
    | false =>
      have hstay := hr.equivalence.trans (hr.equivalence.symm (outcome_refused hr s txData hx)) hs
      obtain ⟨hrest, hfinal⟩ := ih hstay
      constructor
      · simpa [executedOf, hx, outcomes] using hrest
      · simpa [executedOf, hx, finalState] using hfinal

theorem rejections_executed (os : List TxOutcome) :
    rejections (os.filter TxOutcome.isExecuted) = [] := by
  unfold rejections
  rw [List.filterMap_eq_nil_iff]
  rintro ⟨o, i⟩ ho
  have hexecuted := (List.mem_filter.mp (List.fst_mem_of_mem_zipIdx ho)).2
  cases o with
  | rejected error => cases hexecuted
  | executed result => rfl

/-- Without the transactions it rejects, a transition has the same outcomes for the others
and ends in the same state, so with the same gas and the same logs; and the tool that is
given only these goes through and rejects none. -/
theorem rejected_are_inert (hr : RefusesInertly evm Same) (state : St)
    (txs : List Transaction) :
    outcomes evm state (executedOf evm state txs) =
        (outcomes evm state txs).filter TxOutcome.isExecuted ∧
      Same (finalState evm state txs) (finalState evm state (executedOf evm state txs)) ∧
      totalGas (outcomes evm state (executedOf evm state txs)) =
        totalGas (outcomes evm state txs) ∧
      (outcomes evm state (executedOf evm state txs)).flatMap TxOutcome.logs =
        (outcomes evm state txs).flatMap TxOutcome.logs ∧
      ∀ t, runEvmTransition evm state txs = .ok t →
        ∃ t', runEvmTransition evm state (executedOf evm state txs) = .ok t' ∧
          t'.rejected = [] ∧ t'.totalGasUsed = t.totalGasUsed ∧ t'.allLogs = t.allLogs ∧
            Same t.state t'.state := by
  obtain ⟨hout, hfinal⟩ := outcomes_executedOf hr txs (hr.equivalence.refl state)
  rw [hout, totalGas_executed, logs_executed]
  refine ⟨rfl, hfinal, rfl, rfl, fun t ht => ?_⟩
  obtain ⟨t', ht'⟩ : ∃ t', runEvmTransition evm state (executedOf evm state txs) = .ok t' := by
    refine (executeFrom_ok_iff _ 0 _).mpr fun txData htx => ?_
    exact (executeFrom_ok_iff _ 0 txs).mp ⟨t, ht⟩ txData ((executedOf_sublist state txs).mem htx)
  obtain ⟨hashes, -, hrecords, hstate⟩ := executeFrom_records (Transition.records_new state) ht
  obtain ⟨hashes', -, hrecords', hstate'⟩ := executeFrom_records (Transition.records_new state) ht'
  rw [List.nil_append, List.nil_append, Transition.new_state] at hrecords hrecords'
  rw [hout] at hrecords'
  refine ⟨t', ht', ?_, ?_, ?_, ?_⟩
  · rw [hrecords'.rejected, rejections_executed]
  · rw [hrecords'.gas, hrecords.gas, totalGas_executed]
  · rw [hrecords'.logs, hrecords.logs, logs_executed]
  · rw [hstate, hstate']
    exact hfinal

/-- A counter of the transactions that ran, which refuses those with another nonce. -/
def countingEvm : TransitionEvm ℕ where
  keys := Transaction.sampleKeys
  txHash envelope := envelope.nonce
  debugText text := text
  transactCommit count env :=
    if env.nonce = count then
      (count + 1, .ok ⟨true, 21000, [⟨7, [env.nonce], []⟩]⟩)
    else (count, .error "NonceTooHigh")

def sampleTxs : List Transaction :=
  [{ Transaction.sampleTx with nonce := 0 }, { Transaction.sampleTx with nonce := 5 },
   { Transaction.sampleTx with nonce := 1 }]

theorem transition_records_sample : ∃ t, runEvmTransition countingEvm 0 sampleTxs = .ok t ∧
    t.totalGasUsed = 42000 ∧ t.rejected = [⟨1, "NonceTooHigh"⟩] := by
  refine ⟨_, rfl, ?_⟩
  obtain ⟨_, -, hrecords, -⟩ := transition_records 0 sampleTxs
    (rfl : runEvmTransition countingEvm 0 sampleTxs = .ok _)
  exact ⟨hrecords.gas, hrecords.rejected⟩

theorem countingEvm_refuses : RefusesInertly countingEvm Eq where
  equivalence := ⟨fun _ => rfl, Eq.symm, Eq.trans⟩
  refused s s' env e h := by
    by_cases hn : env.nonce = s
    · simp [countingEvm, hn] at h
    · simpa [countingEvm, hn] using congrArg Prod.fst h
  result s s' env h := by rw [h]
  state s s' env h := by rw [h]

theorem rejected_are_inert_sample :
    ∃ t', runEvmTransition countingEvm 0 (executedOf countingEvm 0 sampleTxs) = .ok t' ∧
      t'.rejected = [] ∧ t'.totalGasUsed = 42000 := by
  obtain ⟨-, -, -, -, hrun⟩ := rejected_are_inert countingEvm_refuses 0 sampleTxs
  obtain ⟨t', ht', hrejected, hgas, -, -⟩ := hrun _ rfl
  exact ⟨t', ht', hrejected, hgas⟩

end

end MegaEvm.T8n
