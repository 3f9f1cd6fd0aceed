import MegaEvm.BlockExecutor
import MegaEvm.Library.Selection

/-!
# Building a block and replaying it

A block is built by trying transactions one after the other. One that fails, or that
the caller decides not to keep, is not committed. Whoever replays only those that were
kept, in order, gets the receipts, the counters and the state of the builder.
-/

set_option autoImplicit false

namespace MegaEvm

section
variable {W T S L E R : Type}

namespace MegaBlockExecutor

variable (evm : BlockEvm W T S L E) (builder : OpReceiptBuilder W T S L R)

def executeTransactionWithCommitCondition (x : MegaBlockExecutor W S R) (tx : BlockTx T)
    (f : MegaTransactionOutcome S L → Bool) :
    MegaBlockExecutor W S R × Except (BlockExecutionError E) (Option UInt64) :=
  match x.runTransaction evm tx with
  | (x, .error e) => (x, .error e)
  | (x, .ok outcome) =>
    if f outcome.inner then
      match x.commitTransactionOutcome evm builder outcome with
      | (x, .error e) => (x, .error e)
      | (x, .ok gasUsed) => (x, .ok (some gasUsed))
    else (x, .ok none)

def commitSystemCallOutcomes (x : MegaBlockExecutor W S R) (outcomes : List S) :
    MegaBlockExecutor W S R :=
  { x with evm := outcomes.foldl evm.commit x.evm }

def gasUsed (x : MegaBlockExecutor W S R) : UInt64 :=
  (x.receipts.getLast?.map builder.cumulativeGasUsed).getD 0

/-- A transaction that is tried, and what the caller makes of its outcome. -/
structure Attempt (T S L : Type) where
  tx : BlockTx T
  keep : MegaTransactionOutcome S L → Bool

/-- One attempt of a builder; the transaction is kept if it is committed. -/
def attempt (x : MegaBlockExecutor W S R) (a : Attempt T S L) :
    MegaBlockExecutor W S R × Option (BlockTx T) :=
  match x.executeTransactionWithCommitCondition evm builder a.tx a.keep with
  | (x, .ok (some _)) => (x, some a.tx)
  | (x, _) => (x, none)

def validate (x : MegaBlockExecutor W S R) (tx : BlockTx T) : Option (MegaBlockExecutor W S R) :=
  match x.executeTransactionWithCommitCondition evm builder tx fun _ => true with
  | (x, .ok (some _)) => some x
  | (_, _) => none

end MegaBlockExecutor

/-- A relation between the EVM of a builder and that of a replay which both keep: whatever
is run and committed by both, and whatever is run by the builder alone. A commit has to suit
the builder's EVM. -/
structure KeepsStep (evm : BlockEvm W T S L E) (builder : OpReceiptBuilder W T S L R)
    (Suits : W → S → Prop) (Step : W → W → Prop) : Prop where
  load : ∀ w w' a, Step w w' → (evm.loadCacheAccount w a).2 = (evm.loadCacheAccount w' a).2 ∧
    Step (evm.loadCacheAccount w a).1 (evm.loadCacheAccount w' a).1
  loadAlone : ∀ w w' a, Step w w' → Step (evm.loadCacheAccount w a).1 w'
  execute : ∀ w w' tx, Step w w' →
    (evm.executeTransaction w tx).2 = (evm.executeTransaction w' tx).2 ∧
      Step (evm.executeTransaction w tx).1 (evm.executeTransaction w' tx).1
  executeAlone : ∀ w w' tx, Step w w' → Step (evm.executeTransaction w tx).1 w'
  commit : ∀ w w' s, Step w w' → Suits w s → Step (evm.commit w s) (evm.commit w' s)
  receipt : ∀ (w w' : W) (ctx : ReceiptBuilderCtx W T S L), Step w w' →
    builder.buildReceipt { ctx with evm := w } = builder.buildReceipt { ctx with evm := w' }

structure MegaBlockExecutor.Agree (Step : W → W → Prop) (x y : MegaBlockExecutor W S R) :
    Prop where
  evm : Step x.evm y.evm
  blockLimiter : x.blockLimiter = y.blockLimiter
  receipts : x.receipts = y.receipts
  onState : x.onState = y.onState

/-- If the attempt is kept, its state suits the EVM it is committed to. -/
def MegaBlockExecutor.KeptSuits (evm : BlockEvm W T S L E) (Suits : W → S → Prop)
    (x : MegaBlockExecutor W S R) (a : MegaBlockExecutor.Attempt T S L) : Prop :=
  ∀ x' o, x.runTransaction evm a.tx = (x', .ok o) → a.keep o.inner = true →
    Suits x'.evm o.inner.state

namespace KeepsStep

open MegaBlockExecutor

variable {evm : BlockEvm W T S L E} {builder : OpReceiptBuilder W T S L R}
  {Suits : W → S → Prop} {Step : W → W → Prop} {x y : MegaBlockExecutor W S R}

theorem depositor (h : KeepsStep evm builder Suits Step) {w w' : W} (hs : Step w w')
    (tx : BlockTx T) : (loadDepositor evm w tx).2 = (loadDepositor evm w' tx).2 ∧
      Step (loadDepositor evm w tx).1 (loadDepositor evm w' tx).1 := by
  unfold loadDepositor
  split
  next =>
    obtain ⟨hsame, hstep⟩ := h.load w w' tx.signer hs
    exact ⟨by simp only [hsame], hstep⟩
  next => exact ⟨rfl, hs⟩

theorem depositorAlone (h : KeepsStep evm builder Suits Step) {w w' : W} (hs : Step w w')
    (tx : BlockTx T) : Step (loadDepositor evm w tx).1 w' := by
  unfold loadDepositor
  split
  next => exact h.loadAlone w w' tx.signer hs
  next => exact hs

theorem runAlone (h : KeepsStep evm builder Suits Step) (hxy : Agree Step x y) (tx : BlockTx T) :
    Agree Step (x.runTransaction evm tx).1 y := by
  have hdep := h.depositorAlone hxy.evm tx
  unfold runTransaction
  cases x.blockLimiter.preExecutionCheck tx.request with
  | error e => exact hxy
  | ok _ =>
    cases hd : loadDepositor evm x.evm tx with
    | mk w r =>
      rw [hd] at hdep
      cases r with
      | error e => exact ⟨hdep, hxy.blockLimiter, hxy.receipts, hxy.onState⟩
      | ok depositor =>
        have hexec := h.executeAlone w y.evm tx hdep
        cases he : evm.executeTransaction w tx with
        | mk w' r =>
          rw [he] at hexec
          simp only [he]
          cases r <;> exact ⟨hexec, hxy.blockLimiter, hxy.receipts, hxy.onState⟩

theorem run (h : KeepsStep evm builder Suits Step) (hxy : Agree Step x y) (tx : BlockTx T) :
    (x.runTransaction evm tx).2 = (y.runTransaction evm tx).2 ∧
      Agree Step (x.runTransaction evm tx).1 (y.runTransaction evm tx).1 := by
  obtain ⟨hsame, hdep⟩ := h.depositor hxy.evm tx
  unfold runTransaction
  rw [hxy.blockLimiter]
  cases y.blockLimiter.preExecutionCheck tx.request with
  | error e => exact ⟨rfl, hxy⟩
  | ok _ =>
    cases hdx : loadDepositor evm x.evm tx with
    | mk w r =>
      cases hdy : loadDepositor evm y.evm tx with
      | mk w' r' =>
        rw [hdx, hdy] at hsame hdep
        obtain rfl : r = r' := hsame
        cases r with
        | error e => exact ⟨rfl, hdep, rfl, hxy.receipts, hxy.onState⟩
        | ok depositor =>
          obtain ⟨hanswer, hexec⟩ := h.execute w w' tx hdep
          cases hex : evm.executeTransaction w tx with
          | mk v q =>
            cases hey : evm.executeTransaction w' tx with
            | mk v' q' =>
              rw [hex, hey] at hanswer hexec
              obtain rfl : q = q' := hanswer
              simp only [hex, hey]
              cases q <;> exact ⟨rfl, hexec, rfl, hxy.receipts, hxy.onState⟩

theorem receipt_agrees (h : KeepsStep evm builder Suits Step) (hxy : Agree Step x y) (g : UInt64)
    (o : BlockMegaTransactionOutcome T S L) :
    x.receipt builder g o = y.receipt builder g o := by
  unfold MegaBlockExecutor.receipt
  rw [h.receipt x.evm y.evm
    { tx := o.tx, success := o.inner.success, gasUsed := o.inner.gasUsed, logs := o.inner.logs,
      cumulativeGasUsed := g, evm := x.evm, state := o.inner.state } hxy.evm]

theorem commit_agrees (h : KeepsStep evm builder Suits Step) (hxy : Agree Step x y)
    (o : BlockMegaTransactionOutcome T S L) (hsuits : Suits x.evm o.inner.state) :
    (x.commitTransactionOutcome evm builder o).2 = (y.commitTransactionOutcome evm builder o).2 ∧
      Agree Step (x.commitTransactionOutcome evm builder o).1
        (y.commitTransactionOutcome evm builder o).1 := by
  unfold commitTransactionOutcome
  rw [hxy.blockLimiter]
  cases y.blockLimiter.preExecutionCheck o.request with
  | error e => exact ⟨rfl, hxy⟩
  | ok _ =>
    refine ⟨rfl, ?_⟩
    exact
      { evm := h.commit _ _ _ hxy.evm hsuits
        blockLimiter := rfl
        receipts := by simp only [hxy.receipts, h.receipt_agrees hxy]
        onState := by simp only [hxy.onState, hxy.receipts] }

theorem execute_agrees (h : KeepsStep evm builder Suits Step) (hxy : Agree Step x y)
    (a : Attempt T S L) (hsuits : x.KeptSuits evm Suits a) {g : UInt64}
    (hk : (x.executeTransactionWithCommitCondition evm builder a.tx a.keep).2 = .ok (some g)) :
    (y.executeTransactionWithCommitCondition evm builder a.tx fun _ => true).2 = .ok (some g) ∧
      Agree Step (x.executeTransactionWithCommitCondition evm builder a.tx a.keep).1
        (y.executeTransactionWithCommitCondition evm builder a.tx fun _ => true).1 := by
  obtain ⟨hrun, hafter⟩ := h.run hxy a.tx
  unfold executeTransactionWithCommitCondition at hk ⊢
  cases hrx : x.runTransaction evm a.tx with
  | mk x' r =>
    cases hry : y.runTransaction evm a.tx with
    | mk y' r' =>
      rw [hrx, hry] at hrun hafter
      rw [hrx] at hk
      obtain rfl : r = r' := hrun
      cases r with
      | error e => cases hk
      | ok o =>
        by_cases hf : a.keep o.inner = true
        · obtain ⟨hanswer, hcommitted⟩ := h.commit_agrees hafter o (hsuits x' o hrx hf)
          simp only [hf, if_true] at hk ⊢
          cases hcx : x'.commitTransactionOutcome evm builder o with
          | mk x'' q =>
            cases hcy : y'.commitTransactionOutcome evm builder o with
            | mk y'' q' =>
              rw [hcx, hcy] at hanswer hcommitted
              obtain rfl : q = q' := hanswer
              rw [hcx] at hk
              cases q with
              | error e => cases hk
              | ok g' => exact ⟨hk, hcommitted⟩
        · simp [hf] at hk

theorem attempt_skipped (h : KeepsStep evm builder Suits Step) (hxy : Agree Step x y)
    (a : Attempt T S L) (hnone : (x.attempt evm builder a).2 = none) :
    Agree Step (x.attempt evm builder a).1 y := by
  have hrun := h.runAlone hxy a.tx
  unfold attempt executeTransactionWithCommitCondition at hnone ⊢
  cases hr : x.runTransaction evm a.tx with
  | mk x' r =>
    rw [hr] at hrun
    simp only [hr] at hnone ⊢
    cases r with
    | error e => exact hrun
    | ok o =>
      by_cases hkeep : a.keep o.inner = true
      · simp only [hkeep, if_true] at hnone ⊢
        rcases commit_cases evm builder x' o with ⟨e, hrejected⟩ | ⟨-, r, y, haccepted, -⟩
        · simp only [hrejected] at hnone ⊢
          exact hrun
        · simp [haccepted] at hnone
      · simp only [hkeep, if_false, Bool.false_eq_true] at hnone ⊢
        exact hrun

theorem attempt_kept {a : Attempt T S L} {tx : BlockTx T}
    (hsome : (x.attempt evm builder a).2 = some tx) :
    tx = a.tx ∧ ∃ g, x.executeTransactionWithCommitCondition evm builder a.tx a.keep =
      ((x.attempt evm builder a).1, .ok (some g)) := by
  unfold attempt at hsome ⊢
  cases he : x.executeTransactionWithCommitCondition evm builder a.tx a.keep with
  | mk x' r =>
    rw [he] at hsome
    match r, hsome with
    | .ok (some g), hsome => exact ⟨(Option.some.inj hsome).symm, g, rfl⟩

theorem follows (h : KeepsStep evm builder Suits Step) :
    Selection.Follows (attempt evm builder) (validate evm builder)
      (fun x a => x.KeptSuits evm Suits a) (Agree Step) where
  skipped x y a hxy hnone := h.attempt_skipped hxy a hnone
  kept x y a tx hxy hsuits hsome := by
    obtain ⟨rfl, g, hkept⟩ := attempt_kept hsome
    have hsame := h.execute_agrees hxy a hsuits (congrArg Prod.snd hkept)
    unfold validate
    cases hy : y.executeTransactionWithCommitCondition evm builder a.tx fun _ => true with
    | mk y' r =>
      rw [hy] at hsame
      obtain rfl : r = .ok (some g) := hsame.1
      refine ⟨y', rfl, ?_⟩
      rw [hkept] at hsame
      exact hsame.2

theorem system_agrees (h : KeepsStep evm builder Suits Step) {states : List S}
    (hsuits : ∀ s ∈ states, ∀ w, Suits w s) (hxy : Agree Step x y) :
    Agree Step (x.commitSystemCallOutcomes evm states) (y.commitSystemCallOutcomes evm states) := by
  refine ⟨?_, hxy.blockLimiter, hxy.receipts, hxy.onState⟩
  show Step (states.foldl evm.commit x.evm) (states.foldl evm.commit y.evm)
  have hevm := hxy.evm
  generalize x.evm = w at hevm
  generalize y.evm = w' at hevm
  induction states generalizing w w' with
  | nil => exact hevm
  | cons state states ih =>
    rw [List.forall_mem_cons] at hsuits
    exact ih hsuits.2 _ _ (h.commit w w' state hevm (hsuits.1 w))

/-- Whatever is tried, and whatever of it is kept: who replays the kept transactions from
the same state commits each of them, and gets the builder's receipts, counters, gas and
state. -/
theorem replay (h : KeepsStep evm builder Suits Step) (hxy : Agree Step x y) {pre post : List S}
    (hpre : ∀ s ∈ pre, ∀ w, Suits w s) (hpost : ∀ s ∈ post, ∀ w, Suits w s)
    {attempts : List (Attempt T S L)}
    (htaken : Selection.Takes (attempt evm builder) (fun x a => x.KeptSuits evm Suits a)
      (x.commitSystemCallOutcomes evm pre) attempts) :
    let built := Selection.buildAll (attempt evm builder) (x.commitSystemCallOutcomes evm pre)
      attempts
    ∃ replayed, Selection.validateAll (validate evm builder) (y.commitSystemCallOutcomes evm pre)
        built.2 = some replayed ∧
      Agree Step (built.1.commitSystemCallOutcomes evm post)
        (replayed.commitSystemCallOutcomes evm post) ∧
      built.1.gasUsed builder = replayed.gasUsed builder := by
  obtain ⟨replayed, hreplay, hagree⟩ := h.follows.all (h.system_agrees hpre hxy) htaken
  refine ⟨replayed, hreplay, h.system_agrees hpost hagree, ?_⟩
  simp only [MegaBlockExecutor.gasUsed, hagree.receipts]

end KeepsStep

end

end MegaEvm
