import MegaEvm.JournalReads

/-!
# The reported read set

A stateless validator gets the accounts and slots of the returned state and the
bucket ids of the gas cache. Reads through the journal and the cache are among
them. The lookups that go to the database past the journal, the slots that are
entered under another account, and the reads of a sandbox that does not complete
or of its own gas cache, are there only if something else reports them.
-/

set_option autoImplicit false

namespace MegaEvm

open KeyedFold Reading

section Phases

inductive KeylessReply where
  | revert (error : KeylessDeployError)
  | success (gasUsed : ℕ) (deployedAddress : Address)
  | executionFailure (gasUsed : ℕ) (error : KeylessDeployError)
  deriving DecidableEq, Repr

inductive Executed where
  | outOfGas
  | keyless (reply : KeylessReply)
  | frames (result : FrameResult)

/-- What the phases of a transaction ask. Before and after the frames only the
interpreter's own code runs, which starts by loading the caller; `preExecution`
returns `none` for a transaction that is not valid. -/
structure TxProgram (α : Type) where
  spec : MegaSpecId
  caller : Address
  kind : TxKind
  value : ℕ
  gasLimit : ℕ
  initialGas : ℕ
  createdAddress : Address
  bucketIdForAccount : Address → ℕ
  hops : ℕ
  preExecution : Account → RevmProg (Option Unit)
  frames : ℕ → FrameProg FrameResult
  postExecution : Executed → RevmProg α

namespace TxProgram

variable {α : Type} (p : TxProgram α)

def creationGas (s : TxState) : Reads (ℕ × TxState) :=
  if p.spec.isEnabled .miniRex then
    match p.kind with
    | .create =>
      (loadBucketCostMultiplier s (p.bucketIdForAccount p.createdAddress)).bind fun m =>
        .done (if p.spec.isEnabled .rex then createContractStorageGas p.spec m.1
          else newAccountStorageGas p.spec m.1, m.2)
    | .call address =>
      if p.value ≠ 0 then
        -- past the journal
        .read (.account address) fun info =>
          if (info.map AccountInfo.isEmpty).getD true then
            (loadBucketCostMultiplier s (p.bucketIdForAccount address)).bind fun m =>
              .done (newAccountStorageGas p.spec m.1, m.2)
          else .done (0, s)
      else .done (0, s)
  else .done (0, s)

/-- `validate` and pre-execution: the storage gas, and whether the transaction is valid. -/
def opening : Reads ((ℕ × Option Unit) × TxState) :=
  (p.creationGas ⟨∅, ∅⟩).bind fun x =>
    (x.2.loadAccount p.caller).bind fun c =>
      ((p.preExecution c.1).onJournal c.2).bind fun y => .done ((x.1, y.1), y.2)

def execution (body : ℕ → TxState → Reads (Executed × TxState)) (storageGas : ℕ) (s : TxState) :
    Reads (Executed × TxState) :=
  if p.gasLimit < p.initialGas + storageGas then .done (.outOfGas, s) else body storageGas s

def transactWith (body : ℕ → TxState → Reads (Executed × TxState)) :
    Reads (Option α × TxState) :=
  p.opening.bind fun x =>
    match x.1.2 with
    | none => .done (none, x.2)
    | some _ =>
      (p.execution body x.1.1 x.2).bind fun z =>
        ((p.postExecution z.1).onJournal z.2).bind fun o => .done (some o.1, o.2)

def framesFor (storageGas : ℕ) : FrameProg FrameResult :=
  p.frames (p.gasLimit - (p.initialGas + storageGas))

def runFrames (storageGas : ℕ) (s : TxState) : Reads (Executed × TxState) :=
  ((p.framesFor storageGas).onJournal p.spec p.hops s).bind fun x => .done (.frames x.1, x.2)

def transact : Reads (Option α × TxState) := p.transactWith p.runFrames

/-- The account that `validate` looks up past the journal. -/
def LooksUp (a : Address) : Prop :=
  p.spec.isEnabled .miniRex = true ∧ p.kind = .call a ∧ p.value ≠ 0

/-- What the frames of the run in `w` read and do not report where they read it. -/
def FramesPast (w : World Read.Value) (r : Read) : Prop :=
  let x := run w p.opening
  (p.framesFor x.1.1).Past p.spec p.hops w r x.2

variable {p} {w : World Read.Value} {s : TxState} {past : Read → Prop}
  {body : ℕ → TxState → Reads (Executed × TxState)}

theorem creationGas_reports (p : TxProgram α) (w : World Read.Value) (s : TxState) :
    ReportsBut (fun r => ∃ a, p.LooksUp a ∧ r = .account a) w s (p.creationGas s) := by
  unfold creationGas
  by_cases hspec : p.spec.isEnabled .miniRex = true
  · rw [if_pos hspec]
    cases hk : p.kind with
    | create =>
      have hload := reports_loadBucketCostMultiplier w s (p.bucketIdForAccount p.createdAddress)
      exact hload.but.bind (reports_done w _ _).but
    | call address =>
      by_cases hvalue : p.value ≠ 0
      · simp only [if_pos hvalue]
        have hrest : Reports w s
            (if ((w (.account address)).map AccountInfo.isEmpty).getD true then
              (loadBucketCostMultiplier s (p.bucketIdForAccount address)).bind fun m =>
                .done (newAccountStorageGas p.spec m.1, m.2)
            else .done (0, s)) := by
          split
          · exact (reports_loadBucketCostMultiplier w s (p.bucketIdForAccount address)).map _
          · exact reports_done w s 0
        constructor
        · exact hrest.keeps
        · intro r hr
          rcases List.mem_cons.1 hr with rfl | hr
          · exact .inr ⟨address, ⟨hspec, hk, hvalue⟩, rfl⟩
          · exact (hrest.covers r hr).elim .inl False.elim
      · simp only [if_neg hvalue]
        exact (reports_done w s 0).but
  · rw [if_neg hspec]
    exact (reports_done w s 0).but

theorem opening_reports (p : TxProgram α) (w : World Read.Value) :
    ReportsBut (fun r => ∃ a, p.LooksUp a ∧ r = .account a) w ⟨∅, ∅⟩ p.opening := by
  apply (p.creationGas_reports w _).bind
  apply (reports_lookUp _ w _ p.caller).but.bind
  exact ((p.preExecution _).reports w _).but.bind (reports_done w _ _).but

theorem opening_loadsCaller (p : TxProgram α) (w : World Read.Value) :
    Reported (run w p.opening).2 (.account p.caller) := by
  simp only [opening, run_bind, run_done]
  exact ((p.preExecution _).reports w _).keeps _ (lookUp_held _ w _ p.caller)

theorem execution_reports {storageGas : ℕ} (h : p.initialGas + storageGas ≤ p.gasLimit →
    ReportsBut past w s (body storageGas s)) :
    ReportsBut past w s (p.execution body storageGas s) := by
  unfold execution
  split
  · exact (reports_done w s _).but
  · next hgas => exact h (by omega)

theorem transactWith_rest
    (h : ∀ u, (run w p.opening).1.2 = some u →
      p.initialGas + (run w p.opening).1.1 ≤ p.gasLimit →
        ReportsBut past w (run w p.opening).2
          (body (run w p.opening).1.1 (run w p.opening).2)) :
    ReportsBut past w (run w p.opening).2
      (match (run w p.opening).1.2 with
        | none => .done (none, (run w p.opening).2)
        | some _ =>
          (p.execution body (run w p.opening).1.1 (run w p.opening).2).bind fun z =>
            ((p.postExecution z.1).onJournal z.2).bind fun o => .done (some o.1, o.2)) := by
  cases hv : (run w p.opening).1.2 with
  | none => exact (reports_done w _ _).but
  | some u =>
    apply (execution_reports (h u hv)).bind
    exact ((p.postExecution _).reports w _).but.bind (reports_done w _ _).but

theorem transactWith_reports
    (h : ∀ u, (run w p.opening).1.2 = some u →
      p.initialGas + (run w p.opening).1.1 ≤ p.gasLimit →
        ReportsBut past w (run w p.opening).2
          (body (run w p.opening).1.1 (run w p.opening).2)) :
    ReportsBut (fun r => (∃ a, p.LooksUp a ∧ r = .account a) ∨ past r) w ⟨∅, ∅⟩
      (p.transactWith body) :=
  ((p.opening_reports w).mono fun _ => .inl).bind ((transactWith_rest h).mono fun _ => .inr)

theorem runFrames_reports (p : TxProgram α) (w : World Read.Value) :
    ReportsBut (p.FramesPast w) w (run w p.opening).2
      (p.runFrames (run w p.opening).1.1 (run w p.opening).2) :=
  ((p.framesFor _).reports w _).map _

theorem transact_reports (p : TxProgram α) (w : World Read.Value) :
    ReportsBut (fun r => (∃ a, p.LooksUp a ∧ r = .account a) ∨ p.FramesPast w r) w ⟨∅, ∅⟩
      p.transact ∧ Reported (run w p.transact).2 (.account p.caller) := by
  constructor
  · exact transactWith_reports fun _ _ _ => p.runFrames_reports w
  · rw [transact, transactWith, run_bind]
    exact (transactWith_rest fun _ _ _ => p.runFrames_reports w).keeps _ (p.opening_loadsCaller w)

end TxProgram

end Phases

section Keyless

def SandboxDb.basic (journalState : EvmState) (nonceOverride a : Address) :
    Reads (Option AccountInfo) :=
  let override (info : AccountInfo) : AccountInfo :=
    if a = nonceOverride then { info with nonce := 0 } else info
  match journalState.lookup a with
  | some account => .done (some (override account.info))
  | none => .read (.account a) fun result => .done (result.map override)

def SandboxDb.storage (journalState : EvmState) (a : Address) (index : ℕ) : Reads ℕ :=
  match (journalState.lookup a).bind fun account => account.slot index with
  | some value => .done value
  | none => .read (.slot a index) .done

/-- How the reads of the sandbox are answered; before Rex4 it has no SALT environment. -/
def sandboxAnswer (spec : MegaSpecId) (journalState : EvmState) (signer : Address) :
    ∀ r : Read, Reads r.Value
  | .account a => SandboxDb.basic journalState signer a
  | .slot a index => SandboxDb.storage journalState a index
  | .blockHash number => .read (.blockHash number) .done
  | .bucket id =>
    if spec.isEnabled .rex4 then .read (.bucket id) .done else .done constants.MIN_BUCKET_SIZE

/-- A keyless deploy call. Its first steps read nothing; `sandbox` is what the sandbox's
create asks, apart from what the call determines. -/
structure KeylessDeployCall where
  validated : Except KeylessDeployError KeylessTx
  deployAddress : Address
  sandbox : TxProgram ExecutionResult

def getAccountNonce (journalState : EvmState) (a : Address) : Reads ℕ :=
  match journalState.lookup a with
  | some acc => .done acc.info.nonce
  | none => .read (.account a) fun result => .done ((result.map (·.nonce)).getD 0)

namespace KeylessDeployCall

variable (call : KeylessDeployCall) (spec : MegaSpecId)

def sandboxProgram (tx : KeylessTx) : TxProgram ExecutionResult :=
  { call.sandbox with
    spec := spec
    caller := tx.caller
    kind := .create
    value := tx.value
    gasLimit := tx.gasLimit }

def sandboxTransact (tx : KeylessTx) : Reads (Option ResultAndState) :=
  (call.sandboxProgram spec tx).transact.bind fun x =>
    .done (x.1.map fun result => ⟨result, x.2.journal⟩)

def executeSandbox (tx : KeylessTx) (journalState : EvmState) :
    Reads (Except KeylessDeployError SandboxOutcome) :=
  (SandboxDb.basic journalState tx.caller tx.caller).bind fun info =>
    if tx.totalCost ≤ uint256Max ∧ tx.totalCost ≤ (info.getD default).balance then
      ((call.sandboxTransact spec tx).handle (sandboxAnswer spec journalState tx.caller)).bind
        fun result => .done (processSandboxTransactResult result)
    else .done (.error .insufficientBalance)

end KeylessDeployCall

def SandboxOutcome.state : SandboxOutcome → EvmState
  | .success state .. => state
  | .failure state _ => state

def KeylessDeployError.gasUsed : KeylessDeployError → ℕ
  | .executionReverted gasUsed _ => gasUsed
  | .executionHalted gasUsed _ => gasUsed
  | .emptyCodeDeployed gasUsed => gasUsed
  | _ => 0

def keylessReply (call : KeylessDeployCall) : SandboxOutcome → KeylessReply
  | .success _ gasUsed deployAddress _ =>
    if deployAddress = call.deployAddress then .success gasUsed deployAddress
    else .revert .addressMismatch
  | .failure _ error => .executionFailure error.gasUsed error

def finishKeyless (call : KeylessDeployCall) (s : TxState) :
    Except KeylessDeployError SandboxOutcome → KeylessReply × TxState
  | .error error => (.revert error, s)
  | .ok outcome =>
    (keylessReply call outcome, { s with journal := applied s.journal outcome.state })

def KeylessDeployCall.execute (call : KeylessDeployCall) (spec : MegaSpecId) (s : TxState) :
    Reads (KeylessReply × TxState) :=
  match call.validated with
  | .error error => .done (.revert error, s)
  | .ok tx =>
    (getAccountNonce s.journal tx.caller).bind fun nonce =>
      if nonce > 1 then .done (.revert (.signerNonceTooHigh nonce), s)
      else .read (.account call.deployAddress) fun info =>
        if (info.map (·.codeHash)).getD KECCAK_EMPTY ≠ KECCAK_EMPTY then
          .done (.revert .contractAlreadyExists, s)
        else
          (call.executeSandbox spec tx s.journal).bind fun outcome =>
            .done (finishKeyless call s outcome)

theorem run_sandboxDb (w : World Read.Value) (db : Db)
    (hinfo : ∀ a, (w (.account a)).getD default = db.info a)
    (hstorage : ∀ a key, w (.slot a key) = db.storage a key) (journal : EvmState)
    (signer a : Address) (key : ℕ) :
    (run w (SandboxDb.basic journal signer a)).getD default =
        (sandboxDb journal db (some signer)).info a ∧
      run w (SandboxDb.storage journal a key) =
        (sandboxDb journal db (some signer)).storage a key := by
  unfold SandboxDb.basic SandboxDb.storage
  cases hl : journal.lookup a with
  | none =>
    constructor
    · have ha := hinfo a
      cases hw : w (.account a) with
      | none =>
        rw [hw] at ha
        by_cases hs : a = signer
        · subst hs
          simp [sandboxDb, hl, hw, ← ha]
          rfl
        · simp [sandboxDb, hl, hw, ← ha, Ne.symm hs]
      | some info =>
        rw [hw] at ha
        by_cases hs : a = signer
        · subst hs
          simp [sandboxDb, hl, hw, ← ha]
        · simp [sandboxDb, hl, hw, ← ha, hs, Ne.symm hs]
    · simp [sandboxDb, hl, hstorage]
  | some acc =>
    constructor
    · by_cases hs : a = signer
      · subst hs
        simp [sandboxDb, hl]
      · simp [sandboxDb, hl, hs, Ne.symm hs]
    · cases hv : acc.slot key with
      | none => simp [sandboxDb, hl, hv, hstorage]
      | some v => simp [sandboxDb, hl, hv]

end Keyless

section Covered

variable {spec : MegaSpecId} {call : KeylessDeployCall} {tx : KeylessTx} {s : TxState}
  {w : World Read.Value} {journal state : EvmState}

/-- Merging drops the slots of an account that the sandbox destroyed. -/
def NoSlotsDropped (journal state : EvmState) : Prop :=
  ∀ a acc key, state.lookup a = some acc → acc.isSelfdestructed = true →
    acc.slot key = none ∧ ∀ p, journal.lookup a = some p → p.slot key = none

theorem inState_applied_account {a : Address}
    (h : InState journal (.account a) ∨ InState state (.account a)) :
    InState (applied journal state) (.account a) := by
  rw [inState_account, inState_account] at h
  rw [inState_account]
  cases hm : (applied journal state).lookup a with
  | some m => rfl
  | none =>
    obtain ⟨hl, hj⟩ := applied_none hm
    rw [hl, hj] at h
    simp at h

theorem inState_applied_slot {a : Address} {key : ℕ} (hd : NoSlotsDropped journal state)
    (h : InState journal (.slot a key) ∨ InState state (.slot a key)) :
    InState (applied journal state) (.slot a key) := by
  have haccount : InState (applied journal state) (.account a) := by
    apply inState_applied_account
    rcases h with ⟨acc, hl, -⟩ | ⟨acc, hl, -⟩
    · left
      simp [InState, hl]
    · right
      simp [InState, hl]
  obtain ⟨m, hm⟩ := Option.isSome_iff_exists.1 haccount
  refine ⟨m, hm, ?_⟩
  cases applied_cases hm with
  | kept hl hj =>
    rcases h with ⟨acc, hacc, hslot⟩ | ⟨acc, hacc, hslot⟩
    · obtain rfl : m = acc := Option.some.inj (hj.symm.trans hacc)
      exact hslot
    · rw [hl] at hacc
      cases hacc
  | destroyed hl hs =>
    obtain ⟨hnone, hp⟩ := hd a _ key hl hs
    rcases h with ⟨acc, hacc, hslot⟩ | ⟨acc, hacc, hslot⟩
    · rw [hp acc hacc] at hslot
      cases hslot
    · rw [hl, Option.some.injEq] at hacc
      subst hacc
      rw [hnone] at hslot
      cases hslot
  | new hl hs hj hi hslots =>
    rw [hslots]
    rcases h with ⟨acc, hacc, hslot⟩ | ⟨acc, hacc, hslot⟩
    · rw [hj] at hacc
      cases hacc
    · rw [hl, Option.some.injEq] at hacc
      subst hacc
      exact hslot
  | @merged acc p hl hs hj hi hslots =>
    rw [hslots]
    rcases h with ⟨acc', hacc, hslot⟩ | ⟨acc', hacc, hslot⟩
    · obtain rfl : p = acc' := Option.some.inj (hj.symm.trans hacc)
      cases acc.slot key with
      | some v => rfl
      | none => exact hslot
    · obtain rfl : acc = acc' := Option.some.inj (hl.symm.trans hacc)
      obtain ⟨v, hv⟩ := Option.isSome_iff_exists.1 hslot
      rw [hv]
      rfl

/-- What the sandbox reads and does not report: its bucket ids are in its own gas cache,
and its misplaced slots nowhere. -/
def SandboxPast (spec : MegaSpecId) (call : KeylessDeployCall) (tx : KeylessTx)
    (journal : EvmState) (w : World Read.Value) (r : Read) : Prop :=
  (∃ id, r = .bucket id) ∨
    (call.sandboxProgram spec tx).FramesPast
      (fun q => run w (sandboxAnswer spec journal tx.caller q)) r

/-- Everything the sandbox reads is reported: by its state if it completes, and
otherwise by the parent alone. -/
def SandboxCovered (spec : MegaSpecId) (call : KeylessDeployCall) (tx : KeylessTx) (s : TxState)
    (w : World Read.Value) : Prop :=
  match run w (call.executeSandbox spec tx s.journal) with
  | .error _ => ∀ r ∈ reads w (call.executeSandbox spec tx s.journal), Reported s r
  | .ok outcome =>
    (∀ r ∈ reads w (call.executeSandbox spec tx s.journal), SandboxPast spec call tx s.journal w r →
      Reported (finishKeyless call s (.ok outcome)).2 r) ∧ NoSlotsDropped s.journal outcome.state

/-- The lookups of a keyless deploy call are reported: that of the signer, and, if
the signer's nonce passes, that of the deploy address, and what the sandbox reads. -/
def KeylessCovered (spec : MegaSpecId) (call : KeylessDeployCall) (s : TxState)
    (w : World Read.Value) : Prop :=
  ∀ tx, call.validated = .ok tx →
    if run w (getAccountNonce s.journal tx.caller) > 1 then Reported s (.account tx.caller)
    else if ((w (.account call.deployAddress)).map (·.codeHash)).getD KECCAK_EMPTY ≠
        KECCAK_EMPTY then
      Reported s (.account tx.caller) ∧ Reported s (.account call.deployAddress)
    else
      Reported (finishKeyless call s (run w (call.executeSandbox spec tx s.journal))).2
          (.account call.deployAddress) ∧ SandboxCovered spec call tx s w

theorem reads_basic {a signer : Address} {r : Read}
    (h : r ∈ reads w (SandboxDb.basic journal signer a)) : r = .account a := by
  unfold SandboxDb.basic at h
  cases hl : journal.lookup a with
  | none => simpa [hl] using h
  | some acc => simp [hl] at h

theorem reads_getAccountNonce {a : Address} {r : Read}
    (h : r ∈ reads w (getAccountNonce journal a)) : r = .account a := by
  unfold getAccountNonce at h
  cases hl : journal.lookup a with
  | none => simpa [hl] using h
  | some acc => simp [hl] at h

theorem reads_sandboxAnswer {signer : Address} {q r : Read}
    (h : r ∈ reads w (sandboxAnswer spec journal signer q)) : r = q := by
  cases q with
  | account a => exact reads_basic h
  | slot a index =>
    unfold sandboxAnswer SandboxDb.storage at h
    cases hv : (journal.lookup a).bind fun account => account.slot index with
    | none => simpa [hv] using h
    | some v => simp [hv] at h
  | blockHash n => simpa [sandboxAnswer] using h
  | bucket id =>
    by_cases h4 : spec.isEnabled .rex4 = true
    · simpa [sandboxAnswer, h4] using h
    · simp [sandboxAnswer, h4] at h

theorem processSandboxTransactResult_some {res : Option ResultAndState}
    {outcome : SandboxOutcome} (h : processSandboxTransactResult res = .ok outcome) :
    ∃ result, res = some ⟨result, outcome.state⟩ := by
  unfold processSandboxTransactResult at h
  split at h
  · cases h
  · split at h
    · cases h
      exact ⟨_, rfl⟩
    · cases h
      exact ⟨_, rfl⟩
  · cases h
  · cases h
    exact ⟨_, rfl⟩
  · cases h
    exact ⟨_, rfl⟩

theorem sandboxTransact_returns {result : ExecutionResult}
    (h : run w (call.sandboxTransact spec tx) = some ⟨result, state⟩) :
    InState state (.account tx.caller) ∧
      ∀ r ∈ reads w (call.sandboxTransact spec tx), (∃ id, r = .bucket id) ∨
        (∃ n, r = .blockHash n) ∨ InState state r ∨
          (call.sandboxProgram spec tx).FramesPast w r := by
  obtain ⟨hreports, hcaller⟩ := (call.sandboxProgram spec tx).transact_reports w
  simp only [KeylessDeployCall.sandboxTransact, run_bind, reads_bind, run_done, reads_done,
    List.append_nil, Option.map_eq_some_iff, ResultAndState.mk.injEq] at h ⊢
  obtain ⟨_, -, -, rfl⟩ := h
  refine ⟨hcaller, fun r hr => ?_⟩
  rcases hreports.covers r hr with hr | ⟨a, hlook, rfl⟩ | hr
  · cases r with
    | bucket id => exact .inl ⟨id, rfl⟩
    | blockHash n => exact .inr (.inl ⟨n, rfl⟩)
    | account a | slot a key => exact .inr (.inr (.inl hr))
  · exact TxKind.noConfusion hlook.2.1
  · exact .inr (.inr (.inr hr))

theorem executeSandbox_returns {outcome : SandboxOutcome}
    (hrun : run w (call.executeSandbox spec tx journal) = .ok outcome) :
    InState outcome.state (.account tx.caller) ∧
      ∀ r ∈ reads w (call.executeSandbox spec tx journal),
        SandboxPast spec call tx journal w r ∨ (∃ n, r = .blockHash n) ∨
          InState outcome.state r := by
  unfold KeylessDeployCall.executeSandbox at hrun ⊢
  simp only [run_bind, reads_bind] at hrun ⊢
  split at hrun
  case isFalse => cases hrun
  case isTrue hpay =>
    rw [if_pos hpay]
    simp only [run_bind, run_done, reads_bind, reads_done, List.append_nil, run_handle] at hrun ⊢
    obtain ⟨result, hres⟩ := processSandboxTransactResult_some hrun
    obtain ⟨hsigner, hreturns⟩ := sandboxTransact_returns hres
    refine ⟨hsigner, fun r hr => ?_⟩
    rcases List.mem_append.1 hr with hr | hr
    · rw [reads_basic hr]
      exact .inr (.inr hsigner)
    · obtain ⟨q, hq, hr⟩ := mem_reads_handle hr
      obtain rfl := reads_sandboxAnswer hr
      rcases hreturns r hq with hb | hn | hr | hr
      · exact .inl (.inl hb)
      · exact .inr (.inl hn)
      · exact .inr (.inr hr)
      · exact .inl (.inr hr)

/-- Applying the state of a completed sandbox keeps what was reported and adds what the
sandbox returned. -/
theorem reported_applied (hd : NoSlotsDropped s.journal state) {r : Read}
    (h : Reported s r ∨ InState state r) :
    Reported { s with journal := applied s.journal state } r := by
  cases r with
  | account a => exact inState_applied_account h
  | slot a key => exact inState_applied_slot hd h
  | blockHash n => trivial
  | bucket id =>
    rcases h with h | h
    · exact h
    · cases h

theorem executeSandbox_reads_signer (spec : MegaSpecId) (call : KeylessDeployCall)
    (tx : KeylessTx) (w : World Read.Value) (journal : EvmState) :
    InState journal (.account tx.caller) ∨
      .account tx.caller ∈ reads w (call.executeSandbox spec tx journal) := by
  cases hl : journal.lookup tx.caller with
  | some acc =>
    left
    rw [inState_account, hl]
    rfl
  | none =>
    right
    unfold KeylessDeployCall.executeSandbox
    rw [reads_bind]
    apply List.mem_append_left
    simp [SandboxDb.basic, hl]

/-- What follows the sandbox keeps what was reported, and reports the signer and what a
covered sandbox has read. -/
theorem SandboxCovered.finish_reported (h : SandboxCovered spec call tx s w) :
    (∀ r, Reported s r →
      Reported (finishKeyless call s (run w (call.executeSandbox spec tx s.journal))).2 r) ∧
    Reported (finishKeyless call s (run w (call.executeSandbox spec tx s.journal))).2
      (.account tx.caller) ∧
    ∀ r ∈ reads w (call.executeSandbox spec tx s.journal),
      Reported (finishKeyless call s (run w (call.executeSandbox spec tx s.journal))).2 r := by
  unfold SandboxCovered at h
  cases hrun : run w (call.executeSandbox spec tx s.journal) with
  | error e =>
    rw [hrun] at h
    refine ⟨fun r hr => hr, ?_, h⟩
    rcases executeSandbox_reads_signer spec call tx w s.journal with hj | hread
    · exact hj
    · exact h _ hread
  | ok outcome =>
    rw [hrun] at h
    obtain ⟨hpast, hslots⟩ := h
    obtain ⟨hsigner, hreturns⟩ := executeSandbox_returns hrun
    refine ⟨fun r hr => reported_applied hslots (.inl hr),
      reported_applied hslots (.inr hsigner), fun r hr => ?_⟩
    rcases hreturns r hr with hr' | ⟨n, rfl⟩ | hr'
    · exact hpast r hr hr'
    · trivial
    · exact reported_applied hslots (.inr hr')

theorem KeylessCovered.reports (h : KeylessCovered spec call s w) :
    Reports w s (call.execute spec s) := by
  unfold KeylessDeployCall.execute
  cases hv : call.validated with
  | error e => exact reports_done w s _
  | ok tx =>
    have hcovered := h tx hv
    have hnonce : ∀ r ∈ reads w (getAccountNonce s.journal tx.caller), r = .account tx.caller :=
      fun r => reads_getAccountNonce
    dsimp only
    by_cases hhigh : run w (getAccountNonce s.journal tx.caller) > 1
    · rw [if_pos hhigh] at hcovered
      constructor
      · intro r hr
        simpa [hhigh] using hr
      · intro r hr
        simp only [run_bind, reads_bind, if_pos hhigh, run_done, reads_done,
          List.append_nil] at hr ⊢
        rw [hnonce r hr]
        exact .inl hcovered
    · rw [if_neg hhigh] at hcovered
      by_cases hcode : ((w (.account call.deployAddress)).map (·.codeHash)).getD KECCAK_EMPTY ≠
          KECCAK_EMPTY
      · rw [if_pos hcode] at hcovered
        constructor
        · intro r hr
          simpa [hhigh, hcode] using hr
        · intro r hr
          simp only [run_bind, reads_bind, if_neg hhigh, run_read, reads_read, if_pos hcode,
            run_done, reads_done] at hr ⊢
          rcases List.mem_append.1 hr with hr | hr
          · rw [hnonce r hr]
            exact .inl hcovered.1
          · obtain rfl := List.mem_singleton.1 hr
            exact .inl hcovered.2
      · rw [if_neg hcode] at hcovered
        obtain ⟨hdeploy, hsandbox⟩ := hcovered
        obtain ⟨hkeeps, hsigner, hread⟩ := hsandbox.finish_reported
        constructor
        · intro r hr
          simpa only [run_bind, if_neg hhigh, run_read, if_neg hcode, run_done] using hkeeps r hr
        · intro r hr
          simp only [run_bind, reads_bind, if_neg hhigh, run_read, reads_read, if_neg hcode,
            run_done, reads_done, List.append_nil] at hr ⊢
          rcases List.mem_append.1 hr with hr | hr
          · rw [hnonce r hr]
            exact .inl hsigner
          · rcases List.mem_cons.1 hr with rfl | hr
            · exact .inl hdeploy
            · exact .inl (hread r hr)

end Covered

section Transaction

/-- A transaction; a keyless deploy call replaces its frames. -/
structure Transaction (α : Type) extends TxProgram α where
  keyless : Option KeylessDeployCall

variable {α : Type}

namespace Transaction

variable (t : Transaction α)

def body (storageGas : ℕ) (s : TxState) : Reads (Executed × TxState) :=
  match t.keyless with
  | some call => (call.execute t.spec s).bind fun x => .done (.keyless x.1, x.2)
  | none => t.runFrames storageGas s

/-- `none` is a transaction that is not valid. -/
def transact : Reads (Option α × TxState) := t.transactWith t.body

/-- What goes past the journal and the gas cache is reported in the end: the callee of
`validate`, slots that the frames misplace, and the reads of a keyless deploy call. -/
structure Covered (w : World Read.Value) : Prop where
  callee : ∀ a, t.LooksUp a → Reported (run w t.transact).2 (.account a)
  slots : t.keyless = none → t.initialGas + (run w t.opening).1.1 ≤ t.gasLimit →
    ∀ r, t.FramesPast w r → Reported (run w t.transact).2 r
  calls : ∀ call, t.keyless = some call → t.initialGas + (run w t.opening).1.1 ≤ t.gasLimit →
    KeylessCovered t.spec call (run w t.opening).2 w

variable {t} {w w' : World Read.Value} {s : TxState}

theorem Covered.body_reports (hc : t.Covered w)
    (hgas : t.initialGas + (run w t.opening).1.1 ≤ t.gasLimit) :
    ReportsBut (fun r => t.keyless = none ∧
        t.initialGas + (run w t.opening).1.1 ≤ t.gasLimit ∧ t.FramesPast w r) w
      (run w t.opening).2 (t.body (run w t.opening).1.1 (run w t.opening).2) := by
  unfold body
  cases hk : t.keyless with
  | none => exact (t.runFrames_reports w).mono fun r hr => ⟨rfl, hgas, hr⟩
  | some call => exact (hc.calls call hk hgas).reports.but.map _

theorem Covered.reads_reported (hc : t.Covered w) :
    ∀ r ∈ reads w t.transact, Reported (run w t.transact).2 r := by
  have hreports : ReportsBut _ w ⟨∅, ∅⟩ (t.transactWith t.body) :=
    TxProgram.transactWith_reports fun _ _ hgas => hc.body_reports hgas
  intro r hr
  rcases hreports.covers r hr with hr | ⟨a, ha, rfl⟩ | ⟨hk, hgas, hr⟩
  · exact hr
  · exact hc.callee a ha
  · exact hc.slots hk hgas r hr

/-- The read set is complete: a world that agrees on it gives the same run. -/
theorem read_set_complete {out : α} (hc : t.Covered w)
    (hrun : run w t.transact = (some out, s)) (hagree : ∀ r, Reported s r → w' r = w r) :
    run w' t.transact = (some out, s) := by
  rw [← hrun]
  apply run_congr
  intro r hr
  have hreported := hc.reads_reported r hr
  rw [hrun] at hreported
  exact hagree r hreported

end Transaction

end Transaction

section Runs

def emptyWorld : World Read.Value
  | .account _ => none
  | .slot .. => 0
  | .blockHash _ => 0
  | .bucket _ => 2 * constants.MIN_BUCKET_SIZE

def callAccount (a : Address) (value : ℕ) (keyless : Option KeylessDeployCall) :
    Transaction Executed where
  spec := .rex4
  caller := 1
  kind := .call a
  value := value
  gasLimit := 100000
  initialGas := 60000
  createdAddress := 0
  bucketIdForAccount := id
  hops := 0
  keyless := keyless
  preExecution _ := .done (some ())
  frames gasLimit :=
    .read (.revm (.loadAccount a)) fun _ => .done ⟨false, ⟨.stop, [], .new gasLimit⟩⟩
  postExecution executed := .done executed

/-- A value transfer to an empty account: the account that `validate` looks up is loaded
by the first frame. -/
theorem read_set_complete_transfer :
    run (Function.update emptyWorld (.account 7) (some default)) (callAccount 5 3 none).transact =
      (some (.frames ⟨false, ⟨.stop, [], .new 15000⟩⟩),
        (run emptyWorld (callAccount 5 3 none).transact).2) := by
  have hcovered : (callAccount 5 3 none).Covered emptyWorld := by
    constructor
    · rintro a ⟨-, hkind, -⟩
      obtain rfl : 5 = a := TxKind.call.inj hkind
      rfl
    · rintro - - r (hr | hr)
      · exact hr.elim
      · exact hr.elim
    · intro call hcall
      exact absurd hcall.symm (Option.some_ne_none call)
  have hresult : (run emptyWorld (callAccount 5 3 none).transact).1 =
      some (.frames ⟨false, ⟨.stop, [], .new 15000⟩⟩) := rfl
  apply Transaction.read_set_complete hcovered (Prod.ext hresult rfl)
  intro r hr
  have hne : r ≠ .account 7 := by
    rintro rfl
    cases hr
  exact Function.update_of_ne hne _ _

def highNonce (nonce : ℕ) : World Read.Value :=
  Function.update emptyWorld (.account 9) (some { (default : AccountInfo) with nonce := nonce })

def rejectedCall : KeylessDeployCall where
  validated := .ok { caller := 9, value := 0, gasLimit := 100000, gasPrice := 0, data := [] }
  deployAddress := 8
  sandbox :=
    { (callAccount 5 0 none).toTxProgram with postExecution := fun _ => .done (.revert 0 []) }

/-- A deploy that is rejected for its signer's nonce does not report the signer. -/
theorem read_set_misses_signer :
    ¬ ∀ (t : Transaction Executed) (w w' : World Read.Value) (out : Executed) (s : TxState),
      run w t.transact = (some out, s) → (∀ r, Reported s r → w' r = w r) →
        run w' t.transact = (some out, s) := by
  intro h
  have htwo : (run (highNonce 2) (callAccount 5 0 (some rejectedCall)).transact).1 =
      some (.keyless (.revert (.signerNonceTooHigh 2))) := rfl
  have hthree : (run (highNonce 3) (callAccount 5 0 (some rejectedCall)).transact).1 =
      some (.keyless (.revert (.signerNonceTooHigh 3))) := rfl
  have hagree : ∀ r,
      Reported (run (highNonce 2) (callAccount 5 0 (some rejectedCall)).transact).2 r →
        highNonce 3 r = highNonce 2 r := by
    intro r hr
    have hne : r ≠ .account 9 := by
      rintro rfl
      cases hr
    simp [highNonce, Function.update_of_ne hne]
  have hsame := h _ _ (highNonce 3) _ _ (Prod.ext htwo rfl) hagree
  rw [hsame] at hthree
  cases hthree

end Runs

end MegaEvm
