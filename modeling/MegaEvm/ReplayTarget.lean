import MegaEvm.BlockContext

/-!
# Replaying one transaction of a block

The tool replays a transaction over the state before its block: it commits the transactions
that go before it, and then the transaction, whose environment can be overridden. Without
overrides it gets what the builder of the block got.
-/

set_option autoImplicit false

namespace MegaEvm

open ArgText

structure TxOverrideArgs where
  gasLimit : Option ℕ
  value : Option Text
  input : Option Text
  inputFile : Option Text

structure TxOverrides where
  gasLimit : Option ℕ
  value : Option ℕ
  hasInputOverride : Bool

namespace TxOverrideArgs

def hasOverrides (args : TxOverrideArgs) : Bool :=
  args.gasLimit.isSome || args.value.isSome || args.input.isSome || args.inputFile.isSome

/-- The input is kept beside the overrides, in a cell of the thread, and before the value is
parsed. -/
def wrap (r : TxReaders) (args : TxOverrideArgs) (cell : Option Bytes) :
    Option Bytes × Except ArgError TxOverrides :=
  match r.loadHex args.input args.inputFile with
  | .error e => (cell, .error e)
  | .ok input =>
    match args.value with
    | none => (input, .ok ⟨args.gasLimit, none, input.isSome⟩)
    | some text =>
      (input, (parseEtherValue r.parsers text).map fun value =>
        ⟨args.gasLimit, some value, input.isSome⟩)

end TxOverrideArgs

def TxOverrides.apply (o : TxOverrides) (cell : Option Bytes) (tx : OpTransaction) :
    OpTransaction :=
  { tx with
    base := { tx.base with
      gasLimit := o.gasLimit.getD tx.base.gasLimit
      value := o.value.getD tx.base.value
      data := if o.hasInputOverride then cell.getD tx.base.data else tx.base.data } }

theorem wrap_of_no_overrides (r : TxReaders) {args : TxOverrideArgs}
    (h : args.hasOverrides = false) (cell : Option Bytes) (tx : OpTransaction) :
    ∃ o, args.wrap r cell = (none, .ok o) ∧ o.apply none tx = tx := by
  obtain ⟨gasLimit, value, input, inputFile⟩ := args
  cases gasLimit <;> cases value <;> cases input <;> cases inputFile <;>
    simp [TxOverrideArgs.hasOverrides] at h
  exact ⟨_, rfl, rfl⟩

inductive ReplayError (E : Type) where
  | blockExecution (error : BlockExecutionError E)
  | arguments (error : ArgError)

section

variable {W S L E R : Type}

namespace MegaBlockExecutor

variable {T : Type} (evm : BlockEvm W T S L E) (builder : OpReceiptBuilder W T S L R)

def runAndCommit (x : MegaBlockExecutor W S R) (tx : BlockTx T) :
    Except (BlockExecutionError E)
      (MegaBlockExecutor W S R × BlockMegaTransactionOutcome T S L × UInt64) :=
  match x.runTransaction evm tx with
  | (_, .error e) => .error e
  | (x, .ok outcome) =>
    match x.commitTransactionOutcome evm builder outcome with
    | (_, .error e) => .error e
    | (x, .ok gasUsed) => .ok (x, outcome, gasUsed)

def replayPreceding (x : MegaBlockExecutor W S R) :
    List (BlockTx T) → Except (BlockExecutionError E) (MegaBlockExecutor W S R)
  | [] => .ok x
  | tx :: txs =>
    match x.runAndCommit evm builder tx with
    | .error e => .error e
    | .ok (x, _, _) => x.replayPreceding txs

end MegaBlockExecutor

/-- `execute_transactions`, from where the block has been opened. -/
def executeTransactions (evm : BlockEvm W OpTransaction S L E)
    (builder : OpReceiptBuilder W OpTransaction S L R) (r : TxReaders) (args : TxOverrideArgs)
    (cell : Option Bytes) (x : MegaBlockExecutor W S R) (preceding : List (BlockTx OpTransaction))
    (target : BlockTx OpTransaction) :
    Except (ReplayError E)
      (MegaBlockExecutor W S R × BlockMegaTransactionOutcome OpTransaction S L × UInt64) :=
  match x.replayPreceding evm builder preceding with
  | .error e => .error (.blockExecution e)
  | .ok x =>
    match args.wrap r cell with
    | (_, .error e) => .error (.arguments e)
    | (cell, .ok overrides) =>
      let wrapped := { target with txEnv := overrides.apply cell target.txEnv }
      (x.runAndCommit evm builder wrapped).mapError .blockExecution

namespace MegaBlockExecutor

variable {T : Type} {evm : BlockEvm W T S L E} {builder : OpReceiptBuilder W T S L R}
  {x y z : MegaBlockExecutor W S R}

theorem validate_iff {tx : BlockTx T} : x.validate evm builder tx = some y ↔
    ∃ o g, x.runAndCommit evm builder tx = .ok (y, o, g) := by
  unfold validate runAndCommit executeTransactionWithCommitCondition
  cases x.runTransaction evm tx with
  | mk x' r =>
    cases r with
    | error e => simp
    | ok o =>
      simp only [if_true]
      cases x'.commitTransactionOutcome evm builder o with
      | mk x'' q => cases q <;> simp

theorem replayPreceding_of_validateAll {txs : List (BlockTx T)}
    (h : Selection.validateAll (validate evm builder) x txs = some y) :
    x.replayPreceding evm builder txs = .ok y := by
  induction txs generalizing x with
  | nil => exact congrArg Except.ok (Option.some.inj h)
  | cons tx txs ih =>
    obtain ⟨m, hm, hrest⟩ := Option.bind_eq_some_iff.1 h
    obtain ⟨o, g, hrun⟩ := validate_iff.1 hm
    rw [replayPreceding, hrun]
    exact ih hrest

theorem runTransaction_touches (evm : BlockEvm W T S L E) (x : MegaBlockExecutor W S R)
    (tx : BlockTx T) : ∃ w, (x.runTransaction evm tx).1 = { x with evm := w } := by
  unfold runTransaction
  split
  next => exact ⟨x.evm, rfl⟩
  next =>
    split
    next => exact ⟨_, rfl⟩
    next => split <;> exact ⟨_, rfl⟩

theorem runAndCommit_told {tx : BlockTx T} {o : BlockMegaTransactionOutcome T S L} {g : UInt64}
    (h : x.runAndCommit evm builder tx = .ok (y, o, g)) :
    o.tx = tx ∧ g = o.inner.gasUsed ∧ (∃ r, y.receipts = x.receipts ++ [r]) ∧
      y.onState = x.onState ++ [(x.receipts.length, o.inner.state)] := by
  unfold runAndCommit at h
  obtain ⟨w, hw⟩ := runTransaction_touches evm x tx
  cases hrun : x.runTransaction evm tx with
  | mk x' q =>
    rw [hrun] at h hw
    obtain rfl : x' = { x with evm := w } := hw
    cases q with
    | error e => cases h
    | ok outcome =>
      obtain ⟨htx, -⟩ := run_transaction_outcome hrun
      simp only [commitTransactionOutcome] at h
      split at h
      next => cases h
      next x'' gasUsed hcommit =>
        split at hcommit
        next => cases hcommit
        next =>
          cases hcommit
          cases h
          exact ⟨htx, rfl, ⟨_, rfl⟩, rfl⟩

theorem told_of_validateAll {txs : List (BlockTx T)}
    (h : Selection.validateAll (validate evm builder) x txs = some y) :
    (∃ rs, rs.length = txs.length ∧ y.receipts = x.receipts ++ rs) ∧
      ∃ states, states.length = txs.length ∧ y.onState = x.onState ++ states := by
  induction txs generalizing x with
  | nil =>
    obtain rfl := Option.some.inj h
    exact ⟨⟨[], rfl, by simp⟩, ⟨[], rfl, by simp⟩⟩
  | cons tx txs ih =>
    obtain ⟨m, hm, hrest⟩ := Option.bind_eq_some_iff.1 h
    obtain ⟨o, g, hrun⟩ := validate_iff.1 hm
    obtain ⟨-, -, ⟨r, hr⟩, hstate⟩ := runAndCommit_told hrun
    obtain ⟨⟨rs, hlength, hrs⟩, ⟨states, hcount, hstates⟩⟩ := ih hrest
    refine ⟨⟨r :: rs, by simp [hlength], ?_⟩,
      ⟨(x.receipts.length, o.inner.state) :: states, by simp [hcount], ?_⟩⟩
    · rw [hrs, hr, List.append_assoc, List.singleton_append]
    · rw [hstates, hstate, List.append_assoc, List.singleton_append]

end MegaBlockExecutor

namespace KeepsStep

open MegaBlockExecutor

variable {evm : BlockEvm W OpTransaction S L E}
  {builder : OpReceiptBuilder W OpTransaction S L R} {Suits : W → S → Prop} {Step : W → W → Prop}
  {x y : MegaBlockExecutor W S R}

theorem target (h : KeepsStep evm builder Suits Step) (hxy : Agree Step x y)
    (hstart : x.receipts = []) (hstate : x.onState = [])
    {attempts : List (Attempt OpTransaction S L)}
    (htaken : Selection.Takes (attempt evm builder) (fun x a => x.KeptSuits evm Suits a) x attempts)
    {preceding following : List (BlockTx OpTransaction)} {target : BlockTx OpTransaction}
    (hkept : (Selection.buildAll (attempt evm builder) x attempts).2 =
      preceding ++ target :: following)
    (r : TxReaders) {args : TxOverrideArgs} (hargs : args.hasOverrides = false)
    (cell : Option Bytes) :
    let built := (Selection.buildAll (attempt evm builder) x attempts).1
    ∃ y' outcome, executeTransactions evm builder r args cell y preceding target =
        .ok (y', outcome, outcome.inner.gasUsed) ∧
      outcome.tx = target ∧
      y'.receipts = built.receipts.take (preceding.length + 1) ∧
      built.onState[preceding.length]? = some (preceding.length, outcome.inner.state) := by
  intro built
  obtain ⟨z, hz, hagree⟩ := h.follows.all hxy htaken
  rw [hkept, Selection.validateAll_append] at hz
  obtain ⟨m, hm, htail⟩ := Option.bind_eq_some_iff.1 hz
  obtain ⟨y', hy', hrest⟩ := Option.bind_eq_some_iff.1 htail
  obtain ⟨outcome, g, hrun⟩ := validate_iff.1 hy'
  obtain ⟨htx, rfl, ⟨rcpt, hrcpt⟩, htold⟩ := runAndCommit_told hrun
  obtain ⟨⟨rs, hlength, hrs⟩, ⟨states, hcount, hstates⟩⟩ := told_of_validateAll hm
  obtain ⟨⟨rs', -, hrs'⟩, ⟨states', -, hstates'⟩⟩ := told_of_validateAll hrest
  obtain ⟨o, hwrap, happly⟩ := wrap_of_no_overrides r hargs cell target.txEnv
  rw [← hxy.receipts, hstart, List.nil_append] at hrs
  rw [← hxy.onState, hstate, List.nil_append] at hstates
  refine ⟨y', outcome, ?_, htx, ?_, ?_⟩
  · simp only [executeTransactions, replayPreceding_of_validateAll hm, hwrap, happly, hrun]
    rfl
  · rw [hagree.receipts, hrs', hrcpt, hrs, ← hlength,
      List.take_append_of_le_length (by simp), List.take_of_length_le (by simp)]
  · rw [hagree.onState, hstates', htold, hrs, hlength, hstates, List.append_assoc,
      List.getElem?_append_right (Nat.le_of_eq hcount), hcount, Nat.sub_self]
    rfl

end KeepsStep

namespace OpRuntime

variable {L1BlockInfo : Type} {spec : MegaSpecId} {limits : EvmTxRuntimeLimits}

/-- From the second Rex spec on, whatever the builder of a block tries, and whatever of it is
kept, as long as no state that is kept changes an L1 block info that has been fetched: the
replay of a kept transaction, over what went before it in the block and without overrides,
goes through. It gets the receipts of the block up to that transaction, the last of which is
its own, and the state that the builder has committed for it. -/
theorem replay_target (r : OpRuntime L1BlockInfo E) (hrex1 : spec.isEnabled .rex1 = true)
    (hu : limits.txComputeGasLimit ≤ u64Max)
    {builder : OpReceiptBuilder (TxContext (MegaContext L1BlockInfo)) OpTransaction EvmState Bytes R}
    (hreceipt : EvmUnread builder)
    {x y : MegaBlockExecutor (TxContext (MegaContext L1BlockInfo)) EvmState R}
    (hxy : r.Agrees spec limits x y) (hstart : x.receipts = []) (hstate : x.onState = [])
    {attempts : List (MegaBlockExecutor.Attempt OpTransaction EvmState Bytes)}
    (htaken : Selection.Takes (MegaBlockExecutor.attempt (r.blockEvm spec) builder)
      (fun x a => x.KeptSuits (r.blockEvm spec) r.Suits a) x attempts)
    {preceding following : List (BlockTx OpTransaction)} {target : BlockTx OpTransaction}
    (hkept : (Selection.buildAll (MegaBlockExecutor.attempt (r.blockEvm spec) builder) x
      attempts).2 = preceding ++ target :: following)
    (readers : TxReaders) {args : TxOverrideArgs} (hargs : args.hasOverrides = false)
    (cell : Option Bytes) :
    let built := (Selection.buildAll (MegaBlockExecutor.attempt (r.blockEvm spec) builder) x
      attempts).1
    ∃ y' outcome, executeTransactions (r.blockEvm spec) builder readers args cell y preceding
        target = .ok (y', outcome, outcome.inner.gasUsed) ∧
      outcome.tx = target ∧
      y'.receipts = built.receipts.take (preceding.length + 1) ∧
      built.onState[preceding.length]? = some (preceding.length, outcome.inner.state) :=
  (keepsStep r hrex1 hu hreceipt).target hxy hstart hstate htaken hkept readers hargs cell

end OpRuntime

/-- The first and the last of three transactions are kept, and the last is replayed. -/
theorem replay_target_last : ∃ y outcome,
    executeTransactions (timestampRuntime.blockEvm .rex4) cumulativeReceipts sampleReaders
      ⟨none, none, none, none⟩ none blockExecutor [blockTx [] true] (blockTx [] false) =
        .ok (y, outcome, outcome.inner.gasUsed) ∧
    y.receipts = [21000, 42009] ∧ outcome.inner.state = ∅ := by
  have hkept : (Selection.buildAll (MegaBlockExecutor.attempt (timestampRuntime.blockEvm .rex4)
      cumulativeReceipts) blockExecutor blockAttempts).2 =
        [blockTx [] true] ++ blockTx [] false :: [] := rfl
  obtain ⟨y, outcome, hreplay, -, hreceipts, hstate⟩ := timestampRuntime.replay_target (by decide)
    rex4_computeGas_fits cumulativeReceipts_unread blockExecutor_agrees rfl rfl blockAttempts_taken
    hkept sampleReaders (rfl : (⟨none, none, none, none⟩ : TxOverrideArgs).hasOverrides = false) none
  have hpair := Option.some.inj hstate
  exact ⟨y, outcome, hreplay, hreceipts, (congrArg Prod.snd hpair).symm⟩

end

end MegaEvm
