import MegaEvm.KeylessDeploy

/-!
# How a keyless deployment ends

Either nothing of it stays, or the sandbox's state is merged and the call returns.
The call cannot keep to that when the limits were exceeded before it, when the
sandbox ends before its first frame, or when the code the sandbox deploys and the
result it reports differ.
-/

set_option autoImplicit false

namespace MegaEvm

open AdditionalLimit

variable {L1BlockInfo : Type} (host : KeylessHost L1BlockInfo)

section Sandbox

structure CreateRun where
  env : Env
  start : StartEvent
  events : List Event
  first : State
  last : State
  pending : Pending
  creates : env.tx.kind = .create
  validated : env.isDeposit = false
  nonce : start.nonce = 0
  started : MegaEvm.start env start = some first
  ran : Run.run (step env) first events = some last
  ended : last.phase = .done pending

def CreateRun.deployment (run : CreateRun) : Option (Bytes × Bool) :=
  MegaEvm.deployment run.env run.first run.events

def CreateRun.commitState (run : CreateRun) : Option State :=
  MegaEvm.commitState run.env run.first run.events

def Destroyed (state : EvmState) (a : Address) : Prop :=
  ∃ acc, state.lookup a = some acc ∧ acc.isSelfdestructed = true

def SelfDestructs (journal : List JournalEntry) (a : Address) : Prop :=
  ∃ target, .accountDestroyed a target ∈ journal

/-- What the transaction returns: its result, and of its state the signer and the
new account. What was reverted is as before, but for `fees` that the account may be
due at the end of the transaction. -/
structure CreateRun.Returns (run : CreateRun) (db : Db) (signer deployAddress : Address)
    (fees : ℕ) (res : ResultAndState) : Prop where
  caller : run.env.tx.caller = signer
  success : run.pending.result.instructionResult.isOk = true → ∃ gasUsed logs,
    res.result = .success gasUsed
      (.create run.pending.result.result.output (some deployAddress)) logs
  failure : run.pending.result.instructionResult.isOk = false →
    (∃ gasUsed output, res.result = .revert gasUsed output) ∨
      ∃ gasUsed reason, res.result = .halt gasUsed reason
  destroyed : ∀ a acc, res.state.lookup a = some acc → acc.isSelfdestructed = true →
    acc.isCreated = true
  signer : ∃ acc, res.state.lookup signer = some acc ∧ acc.isSelfdestructed = false ∧
    run.last.senderNonce ≤ acc.info.nonce ∧ (run.last.senderNonce = 0 → acc.info.nonce = 0)
  reverted : run.last.journal = run.pending.opened → ∀ acc,
    res.state.lookup deployAddress = some acc → acc.isSelfdestructed = false ∧
      acc.info.codeHash = (db.info deployAddress).codeHash ∧
      acc.info.balance ≤ (db.info deployAddress).balance + fees
  committed : ∀ code late, run.deployment = some (code, late) → ∃ acc,
    res.state.lookup deployAddress = some acc ∧
      (db.info deployAddress).codeHash = KECCAK_EMPTY ∧
      (acc.isSelfdestructed = true ↔ SelfDestructs run.last.journal deployAddress) ∧
      (acc.isSelfdestructed = false → (acc.info.codeHash = KECCAK_EMPTY ↔ code = []))

variable {run : CreateRun} {db : Db} {signer deployAddress : Address} {fees : ℕ}
  {res : ResultAndState}

theorem CreateRun.concluded (run : CreateRun) :
    Concluded run.deployment run.last run.pending :=
  concluded_of_create run.validated run.creates run.started run.ran run.ended

theorem CreateRun.selfDestructs_iff (run : CreateRun) {m : State}
    (hm : run.commitState = some m) (a : Address) :
    SelfDestructs run.last.journal a ↔ SelfDestructs m.journal a := by
  obtain ⟨f, -, hj⟩ := commitState_journal run.validated (sound_start run.started)
    (creating_start run.creates run.started) run.ran hm
  simp [SelfDestructs, hj]

theorem CreateRun.senderNonce (run : CreateRun) :
    run.last.senderNonce = if reachesFirstFrame run.first then 1 else 0 := by
  rw [senderNonce_of_create run.validated run.creates run.started run.ran run.ended, run.nonce]

theorem CreateRun.succeeded_iff (run : CreateRun) :
    (run.pending.result.instructionResult.isOk = true ∧ run.pending.result.result.output ≠ []) ↔
      ∃ code, run.deployment = some (code, false) ∧ code ≠ [] := by
  have hcon := run.concluded
  cases hd : run.deployment with
  | none =>
    rw [hd] at hcon
    obtain ⟨hno, -⟩ := hcon
    simp [hno]
  | some d =>
    obtain ⟨code, late⟩ := d
    rw [hd] at hcon
    cases late with
    | true =>
      have hno : run.pending.result.instructionResult.isOk = false := hcon
      simp [hno]
    | false =>
      have hok : Succeeded code run.last run.pending := hcon
      simp [hok.isOk, hok.output]

theorem CreateRun.failed (run : CreateRun)
    (hno : run.pending.result.instructionResult.isOk = false) :
    run.last.journal = run.pending.opened ∨
      ∃ code, run.deployment = some (code, true) ∧ code ≠ [] := by
  have hcon := run.concluded
  cases hd : run.deployment with
  | none =>
    rw [hd] at hcon
    exact .inl hcon.2
  | some d =>
    obtain ⟨code, late⟩ := d
    rw [hd] at hcon
    cases late with
    | true =>
      exact .inr ⟨code, rfl, deployment_nonempty (sound_start run.started) hd⟩
    | false =>
      have hok : Succeeded code run.last run.pending := hcon
      rw [hok.isOk] at hno
      cases hno

end Sandbox

section Call

variable {host} {k k' : KeylessParent L1BlockInfo} {i : CallInputs} {input : KeylessInput}
  {r : FrameResult} {gas : Gas} {run : CreateRun} {db : Db} {signer deployAddress : Address}
  {fees : ℕ} {tx : KeylessTx} {res : ResultAndState}

theorem KeylessParent.chargeOverhead_eq (k : KeylessParent L1BlockInfo) : ∃ l,
    k.chargeOverhead = { k with ctx := { k.ctx with additionalLimit := l } } := by
  unfold KeylessParent.chargeOverhead
  split
  · exact ⟨_, rfl⟩
  · exact ⟨k.ctx.additionalLimit, rfl⟩

variable (host k i input) in
structure SandboxRuns (tx : KeylessTx) (res : ResultAndState) : Prop where
  gas : constants.KEYLESS_DEPLOY_OVERHEAD_GAS ≤ i.gasLimit
  within : k.ctx.spec.isEnabled .rex3 = true →
    k.chargeOverhead.ctx.additionalLimit.exceeded = false
  valid : validateKeylessDeploy host k.ctx i input = .ok tx
  affordable : tx.Affordable (sandboxDb k.ctx.journalState k.ctx.db (some tx.caller))
  executed : host.transact (sandboxContext host.defaults k.ctx tx.caller) tx = some res

structure Untouched (k k' : KeylessParent L1BlockInfo) : Prop where
  journal : k'.ctx.journalState = k.ctx.journalState
  logs : k'.logs = k.logs
  merged : k'.merged = k.merged

theorem Untouched.charged (k : KeylessParent L1BlockInfo) : Untouched k k.chargeOverhead := by
  obtain ⟨l, hk⟩ := k.chargeOverhead_eq
  rw [hk]
  exact ⟨rfl, rfl, rfl⟩

theorem deploy_unsandboxed
    (hno : ∀ tx res, validateKeylessDeploy host k.ctx i input = .ok tx →
      tx.Affordable (sandboxDb k.ctx.journalState k.ctx.db (some tx.caller)) →
      host.transact (sandboxContext host.defaults k.ctx tx.caller) tx ≠ some res)
    (h : k.deploy host i input gas = some (k', r)) :
    k' = k ∧ r.instructionResult = .revert := by
  unfold KeylessParent.deploy at h
  cases hv : validateKeylessDeploy host k.ctx i input with
  | error error =>
    simp only [hv, Option.some.injEq, Prod.mk.injEq] at h
    exact ⟨h.1.symm, by rw [← h.2]; rfl⟩
  | ok tx =>
    simp only [hv, executeKeylessDeploySandbox] at h
    split at h
    · rename_i ha
      cases ht : host.transact (sandboxContext host.defaults k.ctx tx.caller) tx with
      | none =>
        simp only [ht, processSandboxTransactResult, KeylessParent.finishKeylessDeploy,
          Option.some.injEq, Prod.mk.injEq] at h
        exact ⟨h.1.symm, by rw [← h.2]; rfl⟩
      | some res => exact absurd ht (hno tx res hv ha)
    · simp only [KeylessParent.finishKeylessDeploy, Option.some.injEq, Prod.mk.injEq] at h
      exact ⟨h.1.symm, by rw [← h.2]; rfl⟩

theorem executeKeylessDeployCall_unsandboxed (hno : ∀ tx res, ¬ SandboxRuns host k i input tx res)
    (h : k.executeKeylessDeployCall host i input = some (k', r)) :
    Untouched k k' ∧ (r.instructionResult = .revert ∨ r.instructionResult = .outOfGas) := by
  have hcharged := Untouched.charged k
  unfold KeylessParent.executeKeylessDeployCall at h
  cases hg : (Gas.new i.gasLimit).recordCost constants.KEYLESS_DEPLOY_OVERHEAD_GAS with
  | none =>
    simp only [hg, Option.some.injEq, Prod.mk.injEq] at h
    obtain ⟨rfl, rfl⟩ := h
    exact ⟨⟨rfl, rfl, rfl⟩, .inr rfl⟩
  | some g =>
    simp only [hg] at h
    split at h
    case isTrue =>
      split at h
      · cases h
      · cases h
        exact ⟨hcharged, .inl rfl⟩
      · cases h
        exact ⟨hcharged, .inr rfl⟩
    case isFalse hx =>
      obtain ⟨l, hk⟩ := k.chargeOverhead_eq
      have hrev : k' = k.chargeOverhead ∧ r.instructionResult = .revert := by
        refine deploy_unsandboxed ?_ h
        intro tx res hv ha ht
        rw [hk] at hv ha ht
        refine hno tx res ⟨(Gas.recordCost_eq_some.1 hg).1, fun h3 => ?_, hv, ha, ht⟩
        have hspec : k.chargeOverhead.ctx.spec = k.ctx.spec := by rw [hk]
        rw [hspec, h3, Bool.true_and] at hx
        simpa using hx
      obtain ⟨rfl, hr⟩ := hrev
      exact ⟨hcharged, .inl hr⟩

theorem executeKeylessDeployCall_sandboxed (h : SandboxRuns host k i input tx res) :
    k.executeKeylessDeployCall host i input = k.chargeOverhead.finishKeylessDeploy host
      (calculateKeylessDeployAddress host tx.caller)
      ⟨i.gasLimit, i.gasLimit - constants.KEYLESS_DEPLOY_OVERHEAD_GAS⟩
      (processSandboxTransactResult (some res)) := by
  have hg : (Gas.new i.gasLimit).recordCost constants.KEYLESS_DEPLOY_OVERHEAD_GAS =
      some ⟨i.gasLimit, i.gasLimit - constants.KEYLESS_DEPLOY_OVERHEAD_GAS⟩ :=
    Gas.recordCost_eq_some.2 ⟨h.gas, rfl⟩
  obtain ⟨l, hk⟩ := k.chargeOverhead_eq
  have hspec : k.chargeOverhead.ctx.spec = k.ctx.spec := by rw [hk]
  have hx : (k.chargeOverhead.ctx.spec.isEnabled .rex3 &&
      k.chargeOverhead.ctx.additionalLimit.exceeded) = false := by
    rw [hspec]
    cases h3 : k.ctx.spec.isEnabled .rex3 with
    | false => rfl
    | true => rw [h.within h3]; rfl
  have hvalid : validateKeylessDeploy host k.chargeOverhead.ctx i input = .ok tx := by
    rw [hk]
    exact h.valid
  have hsandbox : executeKeylessDeploySandbox host.defaults k.chargeOverhead.ctx host.transact tx =
      processSandboxTransactResult (some res) := by
    unfold executeKeylessDeploySandbox
    rw [← h.executed, hk]
    exact if_pos h.affordable
  unfold KeylessParent.executeKeylessDeployCall
  simp only [hg, hx, Bool.false_eq_true, if_false, KeylessParent.deploy, hvalid, hsandbox]

structure Completed (k k' : KeylessParent L1BlockInfo) (r : FrameResult) (run : CreateRun)
    (res : ResultAndState) : Prop where
  limit : k'.ctx.additionalLimit = k.chargeOverhead.ctx.additionalLimit
  db : k'.ctx.db = k.ctx.db
  applied : applySandboxState k.ctx.journalState res.state = some k'.ctx.journalState
  merged : k'.merged = res.state :: k.merged
  returns : r.instructionResult = .return
  logs : k'.logs = k.logs ∨ ∃ gasUsed output logs, res.result = .success gasUsed output logs ∧
    k'.logs = k.logs ++ logs
  errorData : ∃ ret, r.result.output = abiEncodeReturns ret ∧
    (ret.errorData = [] ↔ ∃ code, run.deployment = some (code, false) ∧ code ≠ [])

theorem finish_failure {error : KeylessDeployError}
    (hs : ∀ code, run.deployment = some (code, false) → code = [])
    (h : k.chargeOverhead.finishKeylessDeploy host deployAddress gas
      (.ok (.failure res.state error)) = some (k', r)) : Completed k k' r run res := by
  obtain ⟨l, hk⟩ := k.chargeOverhead_eq
  simp only [KeylessParent.finishKeylessDeploy, KeylessParent.applySandboxState, hk,
    Option.map_map, Option.map_eq_some_iff, Function.comp_apply, Prod.mk.injEq] at h
  obtain ⟨journal, hj, rfl, rfl⟩ := h
  have hno : ¬ ∃ code, run.deployment = some (code, false) ∧ code ≠ [] := by
    rintro ⟨code, hd, hne⟩
    exact hne (hs code hd)
  exact
    { limit := by rw [hk]
      db := rfl
      applied := hj
      merged := rfl
      returns := rfl
      logs := .inl rfl
      errorData := ⟨_, rfl, by simp [encodeErrorResult_ne_nil, hno]⟩ }

theorem finish_success {gasUsed : ℕ} {output : Output} {logs : List Bytes} {code : Bytes}
    (hres : res.result = .success gasUsed output logs)
    (hd : run.deployment = some (code, false)) (hne : code ≠ [])
    (h : k.chargeOverhead.finishKeylessDeploy host deployAddress gas
      (.ok (.success res.state gasUsed deployAddress logs)) = some (k', r)) :
    Completed k k' r run res := by
  obtain ⟨l, hk⟩ := k.chargeOverhead_eq
  simp only [KeylessParent.finishKeylessDeploy, KeylessParent.applySandboxState, hk, ne_eq,
    not_true_eq_false, if_false, Option.map_map, Option.map_eq_some_iff, Function.comp_apply,
    Prod.mk.injEq] at h
  obtain ⟨journal, hj, rfl, rfl⟩ := h
  exact
    { limit := by rw [hk]
      db := rfl
      applied := hj
      merged := rfl
      returns := rfl
      logs := .inr ⟨gasUsed, output, logs, hres, rfl⟩
      errorData := ⟨_, rfl, by simp [hd, hne]⟩ }

theorem finish_some {error : Except KeylessDeployError SandboxOutcome}
    (hd : ∀ outcome, error = .ok outcome → ∀ a acc, outcome.state.lookup a = some acc →
      acc.isSelfdestructed = true → acc.isCreated = true) (k : KeylessParent L1BlockInfo) :
    ∃ k' r, k.finishKeylessDeploy host deployAddress gas error = some (k', r) := by
  have happly : ∀ state : EvmState, (∀ a acc, state.lookup a = some acc →
      acc.isSelfdestructed = true → acc.isCreated = true) →
      ∃ k', k.applySandboxState state = some k' := by
    intro state hs
    unfold KeylessParent.applySandboxState applySandboxState
    rw [mergeEvmState_of_created hs]
    exact ⟨_, rfl⟩
  cases error with
  | error error => exact ⟨k, _, rfl⟩
  | ok outcome =>
    have hs := hd outcome rfl
    cases outcome with
    | failure state error =>
      obtain ⟨k', hk⟩ := happly state hs
      simp [KeylessParent.finishKeylessDeploy, hk]
    | success state gasUsed address logs =>
      obtain ⟨k', hk⟩ := happly state hs
      simp only [KeylessParent.finishKeylessDeploy, hk, Option.map_some]
      split
      · exact ⟨_, _, rfl⟩
      · exact ⟨_, _, rfl⟩

theorem processSandboxTransactResult_state {outcome : SandboxOutcome}
    (h : processSandboxTransactResult (some res) = .ok outcome) : outcome.state = res.state := by
  obtain ⟨result, hres⟩ := processSandboxTransactResult_some h
  rw [Option.some.inj hres]

theorem SandboxRuns.executes (h : SandboxRuns host k i input tx res)
    (hd : ∀ a acc, res.state.lookup a = some acc → acc.isSelfdestructed = true →
      acc.isCreated = true) :
    ∃ k' r, k.executeKeylessDeployCall host i input = some (k', r) := by
  rw [executeKeylessDeployCall_sandboxed h]
  apply finish_some
  intro outcome ho
  rw [processSandboxTransactResult_state ho]
  exact hd

theorem completed_of_runs (hrun : SandboxRuns host k i input tx res)
    (hret : run.Returns db signer (calculateKeylessDeployAddress host tx.caller) fees res)
    (h : k.executeKeylessDeployCall host i input = some (k', r)) : Completed k k' r run res := by
  rw [executeKeylessDeployCall_sandboxed hrun] at h
  have hsucc := run.succeeded_iff
  obtain ⟨result, state⟩ := res
  cases hok : run.pending.result.instructionResult.isOk with
  | true =>
    obtain ⟨gasUsed, logs, hres⟩ := hret.success hok
    dsimp only at hres
    subst hres
    by_cases hempty : run.pending.result.result.output = []
    · simp only [processSandboxTransactResult, hempty, List.isEmpty_nil, if_true] at h
      refine finish_failure (fun code hd => ?_) h
      by_contra hne
      exact (hsucc.2 ⟨code, hd, hne⟩).2 hempty
    · have hnil : run.pending.result.result.output.isEmpty = false := by simpa using hempty
      simp only [processSandboxTransactResult, hnil, Bool.false_eq_true, if_false] at h
      obtain ⟨code, hd, hne⟩ := hsucc.1 ⟨hok, hempty⟩
      exact finish_success rfl hd hne h
  | false =>
    have hnone : ∀ code, run.deployment = some (code, false) → code = [] := by
      intro code hd
      by_contra hne
      have hfalse := (hsucc.2 ⟨code, hd, hne⟩).1
      rw [hok] at hfalse
      cases hfalse
    rcases hret.failure hok with ⟨gasUsed, output, hres⟩ | ⟨gasUsed, reason, hres⟩
    · dsimp only at hres
      subst hres
      exact finish_failure hnone h
    · dsimp only at hres
      subst hres
      exact finish_failure hnone h

end Call

section Merged

variable {host} {k k' : KeylessParent L1BlockInfo} {i : CallInputs} {input : KeylessInput}
  {r : FrameResult} {run : CreateRun} {signer deployAddress : Address} {fees : ℕ}
  {tx : KeylessTx} {res : ResultAndState} {a : Address}

def KeylessParent.info (k : KeylessParent L1BlockInfo) (a : Address) : AccountInfo :=
  (k.ctx.db.loaded k.ctx.journalState).info a

theorem KeylessParent.info_nonce (k : KeylessParent L1BlockInfo) (a : Address) :
    (k.info a).nonce = k.ctx.getAccountNonce a := by
  unfold KeylessParent.info MegaContext.getAccountNonce
  cases hl : k.ctx.journalState.lookup a with
  | none => rw [(loaded_absent hl).1]
  | some acc => rw [(loaded_present hl).1]

theorem sandboxDb_info (k : KeylessParent L1BlockInfo) (signer a : Address) :
    ((sandboxDb k.ctx.journalState k.ctx.db (some signer)).info a).codeHash =
        (k.info a).codeHash ∧
      ((sandboxDb k.ctx.journalState k.ctx.db (some signer)).info a).balance =
        (k.info a).balance := by
  by_cases ha : a = signer
  · subst ha
    simp [KeylessParent.info, sandboxDb, Db.loaded]
  · rw [override_info ha]
    exact ⟨rfl, rfl⟩

theorem info_of_applied {state : EvmState}
    (h : MegaEvm.applySandboxState k.ctx.journalState state = some k'.ctx.journalState)
    (hdb : k'.ctx.db = k.ctx.db)
    (hd : ∀ a acc, state.lookup a = some acc → acc.isSelfdestructed = true →
      acc.isCreated = true) (a : Address) :
    k'.info a = match state.lookup a with
      | none => k.info a
      | some acc => if acc.isSelfdestructed then default else acc.info := by
  have happlied : k'.ctx.journalState = MegaEvm.applied k.ctx.journalState state := by
    rw [MegaEvm.applySandboxState, mergeEvmState_of_created hd, Option.some.injEq] at h
    exact h.symm
  unfold KeylessParent.info
  rw [happlied, hdb]
  cases hm : (MegaEvm.applied k.ctx.journalState state).lookup a with
  | none =>
    obtain ⟨hl, hj⟩ := applied_none hm
    rw [(loaded_absent hm).1, hl]
    exact (loaded_absent hj).1.symm
  | some m =>
    rw [(loaded_present hm).1]
    cases applied_cases hm with
    | kept hl hj =>
      rw [hl]
      exact (loaded_present hj).1.symm
    | destroyed hl hs hi =>
      rw [hl, hi]
      simp [hs]
    | new hl hs hj hi | merged hl hs hj hi =>
      rw [hl, hi]
      simp [hs]

theorem Completed.info (h : Completed k k' r run res)
    (hd : ∀ a acc, res.state.lookup a = some acc → acc.isSelfdestructed = true →
      acc.isCreated = true) (a : Address) :
    k'.info a = match res.state.lookup a with
      | none => k.info a
      | some acc => if acc.isSelfdestructed then default else acc.info :=
  info_of_applied h.applied h.db hd a

def Deployed (k k' : KeylessParent L1BlockInfo) (a : Address) : Prop :=
  (k'.info a).codeHash ≠ KECCAK_EMPTY ∧ (k'.info a).codeHash ≠ (k.info a).codeHash

theorem Completed.deployed_iff (h : Completed k k' r run res)
    (hret : run.Returns (sandboxDb k.ctx.journalState k.ctx.db (some tx.caller)) signer
      deployAddress fees res) :
    Deployed k k' deployAddress ↔
      ∃ code late, run.deployment = some (code, late) ∧ code ≠ [] ∧
        ¬ Destroyed res.state deployAddress := by
  have hinfo := h.info hret.destroyed deployAddress
  have hcode := (sandboxDb_info k tx.caller deployAddress).1
  constructor
  · rintro ⟨hne, hnew⟩
    cases hd : run.deployment with
    | none =>
      have hcon := run.concluded
      rw [hd] at hcon
      cases hl : res.state.lookup deployAddress with
      | none =>
        rw [hl] at hinfo
        rw [hinfo] at hnew
        exact absurd rfl hnew
      | some acc =>
        obtain ⟨hlive, hsame, -⟩ := hret.reverted hcon.2 acc hl
        rw [hl] at hinfo
        simp only [hlive, Bool.false_eq_true, if_false] at hinfo
        rw [hinfo, hsame, hcode] at hnew
        exact absurd rfl hnew
    | some d =>
      obtain ⟨code, late⟩ := d
      obtain ⟨acc, hl, -, -, hempty⟩ := hret.committed code late hd
      rw [hl] at hinfo
      by_cases hs : acc.isSelfdestructed = true
      · simp only [hs, if_true] at hinfo
        rw [hinfo] at hne
        exact absurd rfl hne
      · have hlive : acc.isSelfdestructed = false := by simpa using hs
        simp only [hlive, Bool.false_eq_true, if_false] at hinfo
        rw [hinfo] at hne
        refine ⟨code, late, rfl, fun hnil => hne ((hempty hlive).2 hnil), ?_⟩
        rintro ⟨acc', hl', hs'⟩
        rw [hl, Option.some.injEq] at hl'
        subst hl'
        exact hs hs'
  · rintro ⟨code, late, hd, hne, hkept⟩
    obtain ⟨acc, hl, hbefore, -, hempty⟩ := hret.committed code late hd
    have hlive : acc.isSelfdestructed = false := by
      by_contra hs
      exact hkept ⟨acc, hl, by simpa using hs⟩
    rw [hl] at hinfo
    simp only [hlive, Bool.false_eq_true, if_false] at hinfo
    have hcoded : acc.info.codeHash ≠ KECCAK_EMPTY := fun he => hne ((hempty hlive).1 he)
    rw [Deployed, hinfo, ← hcode, hbefore]
    exact ⟨hcoded, hcoded⟩

end Merged

section Outcomes

variable (k k' : KeylessParent L1BlockInfo) (i : CallInputs) (input : KeylessInput)
  (r : FrameResult) (fees : ℕ)

/-- The sandbox ran: its state is merged once, the signer's nonce is used up, value
and logs follow the sandbox's success, and the error data the code. -/
structure SandboxApplied (tx : KeylessTx) (res : ResultAndState) : Prop where
  runs : SandboxRuns host k i input tx res
  applied : applySandboxState k.ctx.journalState res.state = some k'.ctx.journalState
  merged : k'.merged = res.state :: k.merged
  nonce : 1 ≤ (k'.info tx.caller).nonce
  notLower : (k.info tx.caller).nonce ≤ (k'.info tx.caller).nonce
  value : (∀ gasUsed output logs, res.result ≠ .success gasUsed output logs) →
    (k'.info (calculateKeylessDeployAddress host tx.caller)).balance ≤
      (k.info (calculateKeylessDeployAddress host tx.caller)).balance + fees
  logs : k'.logs = k.logs ∨ ∃ gasUsed output logs, res.result = .success gasUsed output logs ∧
    k'.logs = k.logs ++ logs
  errorData : ∃ ret, r.result.output = abiEncodeReturns ret ∧
    (ret.errorData = [] ↔ Deployed k k' (calculateKeylessDeployAddress host tx.caller))

/-- The call reverts, halts or returns. A transaction that fails has nothing of it. -/
structure ThreeOutcomes : Prop where
  kinds : r.instructionResult = .revert ∨ r.instructionResult = .outOfGas ∨
    r.instructionResult = .return
  failed : (k'.finalResult r).instructionResult.isOk = false → Untouched k k'
  returned : r.instructionResult = .return → ∃ tx res,
    SandboxApplied host k k' i input r fees tx res

/-- No limit is exceeded unseen before the call, the sandbox reaches its first frame,
and when that frame is about to commit code, the limits turn it down exactly if the
new account has destroyed itself. -/
structure Accountable (run : CreateRun) (deployAddress : Address) : Prop where
  within : k.ctx.spec.isEnabled .rex3 = true ∨ k.ctx.additionalLimit.exceeded = false
  reached : reachesFirstFrame run.first = true
  agrees : ∀ m code, run.commitState = some m → committedCode run.env m = some code →
    code ≠ [] → (noLateExceed run.env m .tau = false ↔ SelfDestructs m.journal deployAddress)

variable {host k k' i input r fees} {run : CreateRun} {tx : KeylessTx} {res : ResultAndState}
  {env : Env} {ev : StartEvent} {s₀ : State} {deployAddress : Address}

theorem finalResult_isOk (hl : k.ctx.additionalLimit = s₀.limit)
    (hstart : start env ev = some s₀) (hrun : SandboxRuns host k i input tx res)
    (h : Completed k k' r run res) : (k'.finalResult r).instructionResult.isOk = true ↔
      (k.ctx.spec.isEnabled .rex3 = true ∨ k.ctx.additionalLimit.exceeded = false) := by
  obtain ⟨-, -, haligned, hopening⟩ := opening_start env ev
  rw [← start_limit hstart, ← hl] at haligned hopening
  have hcharged : k.chargeOverhead.ctx.additionalLimit.Aligned 0 ∧
      Opening k.chargeOverhead.ctx.additionalLimit := by
    unfold KeylessParent.chargeOverhead
    split
    · exact ⟨haligned.recordComputeGas, hopening.recordComputeGas haligned _⟩
    · exact ⟨haligned, hopening⟩
  have hflag : k.chargeOverhead.ctx.additionalLimit.exceeded = false ↔
      (k.ctx.spec.isEnabled .rex3 = true ∨ k.ctx.additionalLimit.exceeded = false) := by
    by_cases h3 : k.ctx.spec.isEnabled .rex3 = true
    · simp [h3, hrun.within h3]
    · simp [KeylessParent.chargeOverhead, h3]
  rw [← hflag]
  unfold KeylessParent.finalResult
  rw [h.limit]
  have hret : r.instructionResult ≠ .fatalExternalError := by
    rw [h.returns]
    decide
  cases hx : k.chargeOverhead.ctx.additionalLimit.exceeded with
  | true =>
    have ht : k.chargeOverhead.ctx.additionalLimit.pushEmptyFrame.TxExceeded :=
      (txExceeded_congr rfl).2 (hcharged.2.halting hx)
    rw [beforeFrameReturnResult_exceeded true r hcharged.1.pushEmptyFrame ht]
    simp
  | false =>
    have hkept := beforeFrameReturnResult_kept true (hcharged.2.answered_pushEmptyFrame hret)
      hcharged.1.pushEmptyFrame hx
    rw [hkept, h.returns]
    simp [InstructionResult.isOk]

theorem SandboxRuns.unique {tx' : KeylessTx} {res' : ResultAndState}
    (h : SandboxRuns host k i input tx res) (h' : SandboxRuns host k i input tx' res') :
    tx' = tx ∧ res' = res := by
  have htx : tx' = tx := by
    have heq := h.valid.symm.trans h'.valid
    rw [Except.ok.injEq] at heq
    exact heq.symm
  subst htx
  have heq := h.executed.symm.trans h'.executed
  rw [Option.some.injEq] at heq
  exact ⟨rfl, heq.symm⟩

theorem agrees_iff {d : Option (Bytes × Bool)} {D : Prop} :
    ((∃ code, d = some (code, false) ∧ code ≠ []) ↔
        ∃ code late, d = some (code, late) ∧ code ≠ [] ∧ ¬ D) ↔
      ∀ code late, d = some (code, late) → code ≠ [] → (late = true ↔ D) := by
  cases d with
  | none => simp
  | some d =>
    obtain ⟨code, late⟩ := d
    by_cases hne : code = []
    · simp [hne]
    · by_cases hD : D
      · cases late with
        | true | false => simp [hne, hD]
      · cases late with
        | true | false => simp [hne, hD]

theorem CreateRun.Returns.agrees_iff {db : Db} {signer : Address}
    (hret : run.Returns db signer deployAddress fees res) :
    (∀ code late, run.deployment = some (code, late) → code ≠ [] →
      (late = true ↔ Destroyed res.state deployAddress)) ↔
    ∀ m code, run.commitState = some m → committedCode run.env m = some code → code ≠ [] →
      (noLateExceed run.env m .tau = false ↔ SelfDestructs m.journal deployAddress) := by
  have heq : run.deployment = run.commitState.bind fun m => (committedCode run.env m).map
      fun code => (code, !noLateExceed run.env m .tau) := deployment_eq
  have hdestroyed : ∀ m code, run.commitState = some m → committedCode run.env m = some code →
      (Destroyed res.state deployAddress ↔ SelfDestructs m.journal deployAddress) := by
    intro m code hm hc
    have hd : run.deployment = some (code, !noLateExceed run.env m .tau) := by simp [heq, hm, hc]
    obtain ⟨acc, hl, -, hmarked, -⟩ := hret.committed _ _ hd
    rw [← run.selfDestructs_iff hm, ← hmarked]
    constructor
    · rintro ⟨acc', hl', hs⟩
      rw [hl, Option.some.injEq] at hl'
      rwa [hl']
    · intro hs
      exact ⟨acc, hl, hs⟩
  constructor
  · intro h m code hm hc hne
    have hd : run.deployment = some (code, !noLateExceed run.env m .tau) := by simp [heq, hm, hc]
    rw [← hdestroyed m code hm hc, ← h _ _ hd hne, Bool.not_eq_true']
  · intro h code late hd hne
    simp only [heq, Option.bind_eq_some_iff, Option.map_eq_some_iff, Prod.mk.injEq] at hd
    obtain ⟨m, hm, _, hc, rfl, rfl⟩ := hd
    rw [hdestroyed m _ hm hc, ← h m _ hm hc hne, Bool.not_eq_true']

theorem Completed.signerNonce (h : Completed k k' r run res)
    (hret : run.Returns (sandboxDb k.ctx.journalState k.ctx.db (some tx.caller)) tx.caller
      (calculateKeylessDeployAddress host tx.caller) fees res) :
    1 ≤ (k'.info tx.caller).nonce ↔ reachesFirstFrame run.first = true := by
  have hinfo := h.info hret.destroyed tx.caller
  obtain ⟨acc, hacc, hlive, hle, hzero⟩ := hret.signer
  rw [hacc] at hinfo
  simp only [hlive, Bool.false_eq_true, if_false] at hinfo
  rw [hinfo]
  have hsender := run.senderNonce
  cases hr : reachesFirstFrame run.first with
  | true =>
    rw [hr, if_pos rfl] at hsender
    simp only [iff_true]
    omega
  | false =>
    rw [hr] at hsender
    have hnil := hzero hsender
    simp [hnil]

theorem prepareSandboxTx_nonce {signed : SignedTxLegacy} {gasLimit : ℕ}
    (h : prepareSandboxTx host k.ctx signed gasLimit = .ok tx) :
    k.ctx.getAccountNonce tx.caller ≤ 1 := by
  unfold prepareSandboxTx at h
  split at h
  · cases h
  · rename_i deploySigner _
    by_cases hn : k.ctx.getAccountNonce deploySigner > 1
    · simp [hn] at h
    · simp only [hn, if_false] at h
      split at h
      · cases h
      · cases h
        exact Nat.le_of_not_lt hn

theorem SandboxRuns.signerNonce (h : SandboxRuns host k i input tx res) :
    (k.info tx.caller).nonce ≤ 1 := by
  have hv := h.valid
  rw [k.info_nonce]
  unfold validateKeylessDeploy at hv
  split at hv
  · cases hv
  · split at hv
    · cases hv
    · dsimp only at hv
      split at hv
      · cases hv
      · split at hv
        · cases hv
        · exact prepareSandboxTx_nonce hv

theorem Completed.value (h : Completed k k' r run res)
    (hret : run.Returns (sandboxDb k.ctx.journalState k.ctx.db (some tx.caller)) tx.caller
      deployAddress fees res)
    (hagrees : ∀ code late, run.deployment = some (code, late) → code ≠ [] →
      (late = true ↔ Destroyed res.state deployAddress))
    (hno : ∀ gasUsed output logs, res.result ≠ .success gasUsed output logs) :
    (k'.info deployAddress).balance ≤ (k.info deployAddress).balance + fees := by
  have hinfo := h.info hret.destroyed deployAddress
  have hbalance := (sandboxDb_info k tx.caller deployAddress).2
  have hfailed : run.pending.result.instructionResult.isOk = false := by
    by_contra hok
    obtain ⟨gasUsed, logs, hres⟩ := hret.success (by simpa using hok)
    exact hno _ _ _ hres
  cases hl : res.state.lookup deployAddress with
  | none =>
    rw [hl] at hinfo
    rw [hinfo]
    exact Nat.le_add_right _ _
  | some acc =>
    rw [hl] at hinfo
    rcases run.failed hfailed with hj | ⟨code, hd, hne⟩
    · obtain ⟨hlive, -, hle⟩ := hret.reverted hj acc hl
      simp only [hlive, Bool.false_eq_true, if_false] at hinfo
      rw [hinfo]
      omega
    · obtain ⟨acc', hl', hs⟩ := (hagrees code true hd hne).1 rfl
      rw [hl, Option.some.injEq] at hl'
      subst hl'
      simp only [hs, if_true] at hinfo
      rw [hinfo]
      exact Nat.zero_le _

/-- A call whose sandbox completes keeps to the three outcomes exactly if it is accountable. -/
theorem Completed.outcomes_iff (hl : k.ctx.additionalLimit = s₀.limit)
    (hstart : start env ev = some s₀) (hrun : SandboxRuns host k i input tx res)
    (hret : run.Returns (sandboxDb k.ctx.journalState k.ctx.db (some tx.caller)) tx.caller
      (calculateKeylessDeployAddress host tx.caller) fees res)
    (h : Completed k k' r run res) :
    ThreeOutcomes host k k' i input r fees ↔
      Accountable k run (calculateKeylessDeployAddress host tx.caller) := by
  have hfinal := finalResult_isOk hl hstart hrun h
  have hdeployed := h.deployed_iff hret
  have hnonce := h.signerNonce hret
  obtain ⟨ret, hout, herror⟩ := h.errorData
  constructor
  · intro hthree
    obtain ⟨tx', res', happlied⟩ := hthree.returned h.returns
    obtain ⟨rfl, rfl⟩ := hrun.unique happlied.runs
    refine ⟨?_, hnonce.1 happlied.nonce, ?_⟩
    · by_contra hexceeded
      rw [← hfinal] at hexceeded
      have hsame := (hthree.failed (by simpa using hexceeded)).merged
      rw [h.merged] at hsame
      exact List.cons_ne_self _ _ hsame
    · obtain ⟨ret', hout', herror'⟩ := happlied.errorData
      have hempty : ret.errorData = [] ↔ ret'.errorData = [] := by
        rw [← abiEncodeReturns_length, ← abiEncodeReturns_length, ← hout, ← hout']
      rw [← hret.agrees_iff, ← agrees_iff, ← herror, hempty, herror', hdeployed]
  · intro hacc
    refine ⟨.inr (.inr h.returns), fun hfail => ?_, fun _ => ⟨tx, res, ?_⟩⟩
    · rw [hfinal.2 hacc.within] at hfail
      cases hfail
    · have hagrees := hret.agrees_iff.2 hacc.agrees
      have hone := hnonce.2 hacc.reached
      have hbefore := hrun.signerNonce
      exact
        { runs := hrun
          applied := h.applied
          merged := h.merged
          nonce := hone
          notLower := hbefore.trans hone
          value := h.value hret hagrees
          logs := h.logs
          errorData := ⟨ret, hout, herror.trans ((agrees_iff.2 hagrees).trans hdeployed.symm)⟩ }

/-- A keyless deployment reverts, halts or returns as it should, exactly if its
sandbox, when it runs, is accountable. -/
theorem three_outcomes_iff (hl : k.ctx.additionalLimit = s₀.limit)
    (hstart : start env ev = some s₀)
    (hret : ∀ tx res, SandboxRuns host k i input tx res →
      run.Returns (sandboxDb k.ctx.journalState k.ctx.db (some tx.caller)) tx.caller
        (calculateKeylessDeployAddress host tx.caller) fees res)
    (h : k.executeKeylessDeployCall host i input = some (k', r)) :
    ThreeOutcomes host k k' i input r fees ↔ ∀ tx res, SandboxRuns host k i input tx res →
      Accountable k run (calculateKeylessDeployAddress host tx.caller) := by
  by_cases hrun : ∃ tx res, SandboxRuns host k i input tx res
  · obtain ⟨tx, res, hrun⟩ := hrun
    have hcompleted := completed_of_runs hrun (hret tx res hrun) h
    rw [hcompleted.outcomes_iff hl hstart hrun (hret tx res hrun)]
    constructor
    · intro hacc tx' res' hrun'
      obtain ⟨rfl, rfl⟩ := hrun.unique hrun'
      exact hacc
    · intro hall
      exact hall tx res hrun
  · have hnone : ∀ tx res, ¬ SandboxRuns host k i input tx res := fun tx res hr =>
      hrun ⟨tx, res, hr⟩
    obtain ⟨huntouched, hr⟩ := executeKeylessDeployCall_unsandboxed hnone h
    constructor
    · intro _ tx res hr'
      exact absurd hr' (hnone tx res)
    · intro _
      refine ⟨?_, fun _ => huntouched, fun hreturn => ?_⟩
      · rcases hr with hr | hr
        · exact .inl hr
        · exact .inr (.inl hr)
      · rcases hr with hr | hr
        · rw [hreturn] at hr
          cases hr
        · rw [hreturn] at hr
          cases hr

end Outcomes

section Sample

/-- PUSH1 1, PUSH1 0, RETURN. -/
def sampleInitCode : Bytes := [0x60, 1, 0x60, 0, 0xf3]

/-- A create with gas limit 100000, signed by address 2 and free of gas price. -/
def sampleTxBytes : Bytes :=
  [0xd1, 0x80, 0x80, 0x83, 0x01, 0x86, 0xa0, 0x80, 0x80, 0x85] ++ sampleInitCode ++ [0x1b, 1, 1]

def sampleHost (res : ResultAndState) : KeylessHost Unit where
  rlpDecodeSigned b :=
    if b = sampleTxBytes then some ⟨⟨none, 0, 0, 100000, .create, 0, sampleInitCode⟩, false, 1, 1⟩
    else none
  recoverSigner _ := some 2
  create _ _ := 9
  defaults := sampleDefaults
  transact ctx tx := if tx.Affordable ctx.db then some res else none
  message := []

/-- Its sender carries it; the transaction has started and bumped the nonce to 1. -/
def sampleParent : KeylessParent Unit where
  ctx := { parentContext 1 with
    additionalLimit := (onNewTx carrierEnv carrierStart).recordComputeGas 21000 }
  logs := []
  merged := []

def sampleKeylessCall : CallInputs :=
  ⟨.call, 2, KEYLESS_DEPLOY_ADDRESS, .transfer 0, .keylessDeploy, 940000⟩

theorem sample_start : ∃ s₀, start carrierEnv carrierStart = some s₀ ∧
    sampleParent.ctx.additionalLimit = s₀.limit := by
  have hsome : (start carrierEnv carrierStart).isSome = true := by decide
  obtain ⟨s₀, hs⟩ := Option.isSome_iff_exists.1 hsome
  exact ⟨s₀, hs, (start_limit hs).symm⟩

theorem sample_runs (res : ResultAndState) (gasLimit : ℕ)
    (hv : validateKeylessDeploy (sampleHost res) sampleParent.ctx sampleKeylessCall
      ⟨sampleTxBytes, gasLimit⟩ = .ok ⟨2, 0, gasLimit, 0, sampleInitCode⟩) :
    SandboxRuns (sampleHost res) sampleParent sampleKeylessCall ⟨sampleTxBytes, gasLimit⟩
      ⟨2, 0, gasLimit, 0, sampleInitCode⟩ res := by
  have haff : ∀ db, KeylessTx.Affordable ⟨2, 0, gasLimit, 0, sampleInitCode⟩ db := fun db => by
    simp [KeylessTx.Affordable, KeylessTx.totalCost]
  exact
    { gas := by decide
      within := fun _ => by decide
      valid := hv
      affordable := haff _
      executed := by simp [sampleHost, haff] }

def deployedResult : ResultAndState where
  result := .success 102959 (.create [0] (some 9)) []
  state := (soleAccount 2 (sampleAccount ⟨90, 1, KECCAK_EMPTY, none⟩ false false)).insert 9
    (sampleAccount ⟨100, 1, 7, some [0]⟩ true false)

theorem lookup_deployedResult {a : Address} {acc : Account}
    (h : deployedResult.state.lookup a = some acc) : acc.isSelfdestructed = false := by
  unfold deployedResult at h
  dsimp only at h
  by_cases ha : a = 9
  · subst ha
    rw [AList.lookup_insert, Option.some.injEq] at h
    subst h
    rfl
  · rw [AList.lookup_insert_ne ha] at h
    obtain ⟨-, rfl⟩ := lookup_soleAccount h
    rfl

theorem sample_deploys : ∃ run : CreateRun,
    run.Returns (sandboxDb senderJournal richDb (some 2)) 2 9 0 deployedResult ∧
      reachesFirstFrame run.first = true ∧ run.deployment = some ([0], false) ∧
      ∀ m, run.commitState = some m → m.journal = [] := by
  have hrun : (execute (deploymentEnv 1000000) (deploymentStart 0) deploymentEvents).map
      (fun s => (s.phase, s.senderNonce, s.journal)) =
      some (.done ⟨⟨true, ⟨.return, [0], ⟨1000000, 897041⟩⟩⟩, []⟩, 1, [.codeChange 9]) := by
    decide
  have hfirst : (start (deploymentEnv 1000000) (deploymentStart 0)).map (fun s =>
      (reachesFirstFrame s, deployment (deploymentEnv 1000000) s deploymentEvents,
        (commitState (deploymentEnv 1000000) s deploymentEvents).map State.journal)) =
      some (true, some ([0], false), some []) := by decide
  obtain ⟨s, ⟨s₀, hstart, hr⟩, hf⟩ := exists_execution hrun
  rw [hstart, Option.map_some, Option.some.injEq, Prod.mk.injEq, Prod.mk.injEq] at hfirst
  obtain ⟨hreach, hdeploy, hcommit⟩ := hfirst
  rw [Prod.mk.injEq, Prod.mk.injEq] at hf
  obtain ⟨hp, hn, hj⟩ := hf
  refine ⟨⟨deploymentEnv 1000000, deploymentStart 0, deploymentEvents, s₀, s, _, rfl, rfl, rfl,
    hstart, hr, hp⟩, ?_, hreach, hdeploy, fun m hm => ?_⟩
  rotate_left
  · have hm' : commitState (deploymentEnv 1000000) s₀ deploymentEvents = some m := hm
    rw [hm', Option.map_some, Option.some.injEq] at hcommit
    exact hcommit
  exact
    { caller := rfl
      success := fun _ => ⟨102959, [], rfl⟩
      failure := fun hno => by cases hno
      destroyed := fun a acc hl hs => by
        rw [lookup_deployedResult hl] at hs
        cases hs
      signer := ⟨sampleAccount ⟨90, 1, KECCAK_EMPTY, none⟩ false false, rfl, rfl, hn.le,
        fun hzero => by
          rw [hn] at hzero
          cases hzero⟩
      reverted := fun hrev => by
        rw [hj] at hrev
        cases hrev
      committed := fun code late hd => by
        have heq := hdeploy.symm.trans hd
        cases heq
        exact ⟨sampleAccount ⟨100, 1, 7, some [0]⟩ true false, rfl, rfl,
          iff_of_false (by decide) (by simp [SelfDestructs, hj]), by decide⟩ }

theorem three_outcomes_deployed : ∃ k' r,
    sampleParent.executeKeylessDeployCall (sampleHost deployedResult) sampleKeylessCall
        ⟨sampleTxBytes, 1000000⟩ = some (k', r) ∧
      ThreeOutcomes (sampleHost deployedResult) sampleParent k' sampleKeylessCall
        ⟨sampleTxBytes, 1000000⟩ r 0 := by
  obtain ⟨s₀, hstart, hl⟩ := sample_start
  obtain ⟨run, hreturns, hreach, hdeploy, hjournal⟩ := sample_deploys
  have hruns := sample_runs deployedResult 1000000 rfl
  obtain ⟨k', r, h⟩ := hruns.executes hreturns.destroyed
  have hall : ∀ tx res, SandboxRuns (sampleHost deployedResult) sampleParent sampleKeylessCall
      ⟨sampleTxBytes, 1000000⟩ tx res → run.Returns (sandboxDb sampleParent.ctx.journalState
        sampleParent.ctx.db (some tx.caller)) tx.caller 9 0 res := by
    intro tx res hr
    obtain ⟨rfl, rfl⟩ := hruns.unique hr
    exact hreturns
  refine ⟨k', r, h, (three_outcomes_iff hl hstart hall h).2 fun tx res hr => ?_⟩
  obtain ⟨rfl, rfl⟩ := hruns.unique hr
  refine ⟨.inl (by decide), hreach, fun m code hm hc _ => ?_⟩
  have hd : run.deployment = some (code, !noLateExceed run.env m .tau) := by
    have heq : run.deployment = _ := deployment_eq
    simp [heq, show commitState run.env run.first run.events = some m from hm, hc]
  rw [hdeploy, Option.some.injEq, Prod.mk.injEq] at hd
  have hkept : noLateExceed run.env m .tau = true := by simpa using hd.2
  simp [hkept, SelfDestructs, hjournal m hm]

/-- The gas of the sandbox covers the initial gas of 92750, but not the storage gas
of an account in a bucket of twice the minimal capacity. -/
def starvedResult : ResultAndState where
  result := .halt 100000 (.base .outOfGas)
  state := soleAccount 2 (sampleAccount ⟨90, 0, KECCAK_EMPTY, none⟩ false false)

theorem sample_starves : ∃ run : CreateRun,
    run.Returns (sandboxDb senderJournal richDb (some 2)) 2 9 0 starvedResult ∧
      reachesFirstFrame run.first = false := by
  have hrun : (execute (deploymentEnv 100000) (deploymentStart 32000) []).map
      (fun s => (s.phase, s.senderNonce, s.journal)) =
      some (.done ⟨⟨true, ⟨.outOfGas, [], .newSpent 100000⟩⟩, []⟩, 0, []) := by decide
  have hfirst : (start (deploymentEnv 100000) (deploymentStart 32000)).map reachesFirstFrame =
      some false := by decide
  obtain ⟨s, ⟨s₀, hstart, hr⟩, hf⟩ := exists_execution hrun
  rw [hstart, Option.map_some, Option.some.injEq] at hfirst
  rw [Prod.mk.injEq, Prod.mk.injEq] at hf
  obtain ⟨hp, hn, hj⟩ := hf
  refine ⟨⟨deploymentEnv 100000, deploymentStart 32000, [], s₀, s, _, rfl, rfl, rfl, hstart, hr,
    hp⟩, ?_, hfirst⟩
  exact
    { caller := rfl
      success := fun hok => by cases hok
      failure := fun _ => .inr ⟨100000, .base .outOfGas, rfl⟩
      destroyed := fun a acc hl hs => by
        obtain ⟨-, rfl⟩ := lookup_soleAccount hl
        cases hs
      signer := ⟨sampleAccount ⟨90, 0, KECCAK_EMPTY, none⟩ false false, rfl, rfl, hn.le,
        fun _ => rfl⟩
      reverted := fun _ acc hl => by
        obtain ⟨hnine, -⟩ := lookup_soleAccount hl
        cases hnine
      committed := fun code late hd => by cases hd }

/-- The signer of a deployment that is starved is back at nonce 0. -/
theorem starved_signer_reset :
    ¬ ∀ (host : KeylessHost Unit) k k' i input r fees run env ev s₀,
      k.ctx.additionalLimit = s₀.limit → start env ev = some s₀ →
      (∀ tx res, SandboxRuns host k i input tx res →
        CreateRun.Returns run (sandboxDb k.ctx.journalState k.ctx.db (some tx.caller)) tx.caller
          (calculateKeylessDeployAddress host tx.caller) fees res) →
      k.executeKeylessDeployCall host i input = some (k', r) →
      ThreeOutcomes host k k' i input r fees := by
  intro hall
  obtain ⟨s₀, hstart, hl⟩ := sample_start
  obtain ⟨run, hreturns, hreach⟩ := sample_starves
  have hruns := sample_runs starvedResult 100000 rfl
  obtain ⟨k', r, h⟩ := hruns.executes hreturns.destroyed
  have hthree := hall (sampleHost starvedResult) sampleParent k' sampleKeylessCall
    ⟨sampleTxBytes, 100000⟩ r 0 run carrierEnv carrierStart s₀ hl hstart (by
      intro tx res hr
      obtain ⟨rfl, rfl⟩ := hruns.unique hr
      exact hreturns) h
  have hcompleted := completed_of_runs hruns hreturns h
  have hacc := (hcompleted.outcomes_iff hl hstart hruns hreturns).1 hthree
  rw [hacc.reached] at hreach
  cases hreach

end Sample

end MegaEvm
