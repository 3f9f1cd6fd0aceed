import MegaEvm.Hardforks
import MegaEvm.Library.Run

/-!
# The system contracts along a chain

A chain is a run of blocks. Each block deploys what is due, then its transactions
do what they like, short of changing the code of a system contract. In every block
the contracts that are due have their code, and outside the first block of one of
its forks a contract is left as the block before left it.
-/

set_option autoImplicit false

namespace MegaEvm

structure ChainState where
  number : ℕ
  timestamp : ℕ
  db : Db

/-- A block, with the outcomes of its two system calls and what its transactions and
its post-execution changes make of a state. -/
structure ChainBlock where
  timestamp : ℕ
  systemCalls : List EvmState
  transactions : Db → Db

/-- The forks in whose first block a contract gets code. -/
def SystemDeployment.upgradeForks : SystemDeployment → List MegaHardfork
  | oracle => [.miniRex, .rex2]
  | highPrecisionTimestampOracle => [.miniRex]
  | keylessDeploy => [.rex2]
  | accessControl | limitControl => [.rex4]

theorem SystemDeployment.fork_mem (d : SystemDeployment) : d.fork ∈ d.upgradeForks := by
  cases d <;> decide

section Outcomes

variable {E : Type} {cache : AccountCache E} {codes : SystemContractCodes}
  {hardforks : MegaHardforks} {blockTimestamp : ℕ} {db : Db}

theorem outcomes_kept {ds : List SystemDeployment} {results : List (Option EvmState)}
    (h : List.Forall₂ (fun (d : SystemDeployment) r =>
      d.transact codes hardforks blockTimestamp cache db = .ok r) ds results)
    {d : SystemDeployment}
    (hkept : ∀ state, d.transact codes hardforks blockTimestamp cache db = .ok (some state) →
      ∀ start : Db, start.commit state = start) (start : Db) :
    ((results.filterMap id).foldl Db.commit start).info d.address = start.info d.address ∧
      ((results.filterMap id).foldl Db.commit start).storage d.address =
        start.storage d.address := by
  induction h generalizing start with
  | nil => exact ⟨rfl, rfl⟩
  | @cons d' r ds results head tail ih =>
    cases r with
    | none => exact ih start
    | some state =>
      simp only [List.filterMap_cons, id_eq, List.foldl_cons]
      by_cases hsame : d = d'
      · subst hsame
        rw [hkept state head start]
        exact ih start
      · obtain ⟨account, rfl⟩ := transact_ofAccount head
        have hstep := commit_elsewhere start
          (fun haddress => hsame (SystemDeployment.address_injective haddress)) account
        exact ⟨(ih _).1.trans hstep.1, (ih _).2.trans hstep.2⟩

theorem foldl_elsewhere {a : Address} {states : List EvmState}
    (h : ∀ state ∈ states, state.lookup a = none) (start : Db) :
    (states.foldl Db.commit start).info a = start.info a ∧
      (states.foldl Db.commit start).storage a = start.storage a := by
  induction states generalizing start with
  | nil => exact ⟨rfl, rfl⟩
  | cons state states ih =>
    have hrest := ih (fun s hs => h s (List.mem_cons_of_mem _ hs)) (start.commit state)
    have hnone := h state List.mem_cons_self
    rw [List.foldl_cons, hrest.1, hrest.2]
    simp only [Db.commit_info, Db.commit_storage, hnone, and_self]

theorem deployments_ok {outcomes : List EvmState}
    (h : preExecutionDeployments cache codes hardforks blockTimestamp db = .ok outcomes) :
    ∃ results, outcomes = results.filterMap id ∧
      List.Forall₂ (fun (d : SystemDeployment) r =>
        d.transact codes hardforks blockTimestamp cache db = .ok r)
        SystemDeployment.all results := by
  unfold preExecutionDeployments at h
  cases hresults : SystemDeployment.all.mapM
      (SystemDeployment.transact codes hardforks blockTimestamp cache db) with
  | error e => simp [hresults, Except.map] at h
  | ok results =>
    rw [hresults, Except.map, Except.ok.injEq] at h
    exact ⟨results, h.symm, mapM_ok hresults⟩

theorem transact_codeHash {d : SystemDeployment} {state : EvmState}
    (h : d.transact codes hardforks blockTimestamp cache db = .ok (some state)) :
    ((db.commit state).info d.address).codeHash =
      (d.target codes hardforks blockTimestamp).codeHash := by
  rw [SystemDeployment.transact_eq] at h
  have haddress := SystemDeployment.target_address codes hardforks blockTimestamp d
  obtain ⟨hcode, rfl⟩ | ⟨-, rfl⟩ := transactDeploy_cases
    (SystemDeployment.codeHash_ne_empty codes hardforks blockTimestamp d) h
  · rw [commit_ofInfo, ← haddress, hcode]
  · rw [commit_created, ← haddress]
    simp

theorem transact_due {d : SystemDeployment} {r : Option EvmState}
    (hdue : hardforks.isActiveAtTimestamp d.fork blockTimestamp = true)
    (h : d.transact codes hardforks blockTimestamp cache db = .ok r) : r.isSome = true := by
  rw [SystemDeployment.transact_eq, transactDeploy, hdue, if_pos rfl] at h
  cases hacc : cache.loadCacheAccount db (d.target codes hardforks blockTimestamp).address with
  | error e => simp [hacc, Except.map] at h
  | ok acc =>
    rw [hacc, Except.map, Except.ok.injEq] at h
    subst h
    split <;> rfl

theorem transact_not_due {d : SystemDeployment}
    (hdue : hardforks.isActiveAtTimestamp d.fork blockTimestamp = false) :
    d.transact codes hardforks blockTimestamp cache db = .ok none := by
  rw [SystemDeployment.transact_eq, transactDeploy, hdue, if_neg Bool.false_ne_true]

theorem transact_deployed {d : SystemDeployment} {state : EvmState}
    (hcode : (db.info d.address).codeHash = (d.target codes hardforks blockTimestamp).codeHash)
    (h : d.transact codes hardforks blockTimestamp cache db = .ok (some state)) (start : Db) :
    start.commit state = start := by
  rw [SystemDeployment.transact_eq] at h
  have haddress := SystemDeployment.target_address codes hardforks blockTimestamp d
  obtain ⟨-, rfl⟩ | ⟨hne, -⟩ := transactDeploy_cases
    (SystemDeployment.codeHash_ne_empty codes hardforks blockTimestamp d) h
  · exact commit_ofInfo start _ _
  · exact absurd (haddress ▸ hcode) hne

end Outcomes

section Chain

variable {E : Type} (cache : AccountCache E) (codes : SystemContractCodes) (a : ForkActivations)

/-- The state after the changes before execution. All outcomes are computed over the state
before the block and committed in order. -/
def preExecution (db : Db) (block : ChainBlock) : Except E Db :=
  (preExecutionDeployments cache codes a.hardforks block.timestamp db).map fun outcomes =>
    commitSystemCallOutcomes db (block.systemCalls ++ outcomes)

namespace ChainState

def step (s : ChainState) (block : ChainBlock) : Option ChainState :=
  match preExecution cache codes a s.db block with
  | .ok db => some ⟨s.number + 1, block.timestamp, block.transactions db⟩
  | .error _ => none

/-- The block is no older than its parent, its system calls return no system contract, and
its transactions change the code of none. -/
structure Admits (s : ChainState) (block : ChainBlock) : Prop where
  timestamp_le : s.timestamp ≤ block.timestamp
  systemCalls : ∀ state ∈ block.systemCalls, ∀ d : SystemDeployment,
    state.lookup d.address = none
  transactions : ∀ db, preExecution cache codes a s.db block = .ok db → ∀ d : SystemDeployment,
    ((block.transactions db).info d.address).codeHash = (db.info d.address).codeHash

def Deployed (s : ChainState) : Prop :=
  1 ≤ s.number → ∀ d : SystemDeployment,
    a.hardforks.isActiveAtTimestamp d.fork s.timestamp = true →
      (s.db.info d.address).codeHash = (d.target codes a.hardforks s.timestamp).codeHash

variable {cache codes a}

theorem preExecution_ok {db db' : Db} {block : ChainBlock}
    (h : preExecution cache codes a db block = .ok db') :
    ∃ outcomes, preExecutionDeployments cache codes a.hardforks block.timestamp db = .ok outcomes ∧
      db' = outcomes.foldl Db.commit (block.systemCalls.foldl Db.commit db) := by
  unfold preExecution at h
  cases hd : preExecutionDeployments cache codes a.hardforks block.timestamp db with
  | error e => simp [hd, Except.map] at h
  | ok outcomes =>
    rw [hd, Except.map, Except.ok.injEq, commitSystemCallOutcomes, List.foldl_append] at h
    exact ⟨outcomes, rfl, h.symm⟩

theorem preExecution_deploys {s : ChainState} {block : ChainBlock} {db : Db}
    (hadmits : s.Admits cache codes a block)
    (h : preExecution cache codes a s.db block = .ok db) (d : SystemDeployment)
    (hdue : a.hardforks.isActiveAtTimestamp d.fork block.timestamp = true) :
    (db.info d.address).codeHash = (d.target codes a.hardforks block.timestamp).codeHash := by
  obtain ⟨outcomes, hout, rfl⟩ := preExecution_ok h
  obtain ⟨results, rfl, hall⟩ := deployments_ok hout
  have hcalls := foldl_elsewhere (fun state hs => hadmits.systemCalls state hs d) s.db
  have hmem : d ∈ SystemDeployment.all := by cases d <;> decide
  obtain ⟨r, -, hr⟩ : ∃ r ∈ results,
      d.transact codes a.hardforks block.timestamp cache s.db = .ok r := by
    obtain ⟨i, hi, rfl⟩ := List.getElem_of_mem hmem
    have hlen := hall.length_eq
    exact ⟨results[i], List.getElem_mem _, (List.forall₂_iff_get.mp hall).2 i hi (hlen ▸ hi)⟩
  obtain ⟨state, rfl⟩ := Option.isSome_iff_exists.mp (transact_due hdue hr)
  have hat := outcomes_at hall (by decide) hmem hr hcalls.1 hcalls.2
  rw [hat.1, transact_codeHash hr]

theorem target_kept {s : ChainState} {block : ChainBlock} (hnumber : 1 ≤ s.number)
    (hle : s.timestamp ≤ block.timestamp) (d : SystemDeployment)
    (hnot : ∀ f ∈ d.upgradeForks, a.hardforks.firstHardforkBlock f s.timestamp
      (s.number + 1, block.timestamp) = false) :
    (∀ f ∈ d.upgradeForks, a.hardforks.isActiveAtTimestamp f block.timestamp =
      a.hardforks.isActiveAtTimestamp f s.timestamp) ∧
    d.target codes a.hardforks block.timestamp = d.target codes a.hardforks s.timestamp := by
  have hsame : ∀ f ∈ d.upgradeForks, a.hardforks.isActiveAtTimestamp f block.timestamp =
      a.hardforks.isActiveAtTimestamp f s.timestamp := by
    intro f hf
    have hfirst := hnot f hf
    have hone : ¬ s.number + 1 = 1 := by omega
    simp only [MegaHardforks.firstHardforkBlock, hone, decide_false, Bool.false_or,
      Bool.and_eq_false_iff, Bool.not_eq_false'] at hfirst
    rcases hfirst with hinactive | hparent
    · cases hactive : a.hardforks.isActiveAtTimestamp f s.timestamp with
      | false => exact hinactive
      | true => exact absurd (a.active_mono hle hactive) (by simp [hinactive])
    · rw [hparent, a.active_mono hle hparent]
  refine ⟨hsame, ?_⟩
  cases d with
  | oracle =>
    simp only [SystemDeployment.target, oracleTarget]
    rw [hsame .rex2 (by decide)]
  | _ => rfl

theorem preExecution_keeps {s : ChainState} {block : ChainBlock} {db : Db}
    (hs : s.Deployed codes a) (hadmits : s.Admits cache codes a block)
    (h : preExecution cache codes a s.db block = .ok db) (d : SystemDeployment)
    (hnot : ∀ f ∈ d.upgradeForks, a.hardforks.firstHardforkBlock f s.timestamp
      (s.number + 1, block.timestamp) = false) :
    db.info d.address = s.db.info d.address ∧ db.storage d.address = s.db.storage d.address := by
  obtain ⟨outcomes, hout, rfl⟩ := preExecution_ok h
  obtain ⟨results, rfl, hall⟩ := deployments_ok hout
  have hcalls := foldl_elsewhere (fun state hst => hadmits.systemCalls state hst d) s.db
  have hkept : ∀ state, d.transact codes a.hardforks block.timestamp cache s.db =
      .ok (some state) → ∀ start : Db, start.commit state = start := by
    intro state hstate
    cases hdue : a.hardforks.isActiveAtTimestamp d.fork block.timestamp with
    | false => rw [transact_not_due hdue] at hstate; cases hstate
    | true =>
      have hnumber : 1 ≤ s.number := by
        -- in block 1 every active fork is in its first block
        by_contra hzero
        have hone : s.number + 1 = 1 := by omega
        have hfirst := hnot d.fork d.fork_mem
        simp [MegaHardforks.firstHardforkBlock, hdue, hone] at hfirst
      have hmoved := @target_kept codes a s block hnumber hadmits.timestamp_le d hnot
      obtain ⟨hsame, htarget⟩ := hmoved
      rw [hsame d.fork d.fork_mem] at hdue
      exact transact_deployed (htarget ▸ hs hnumber d hdue) hstate
  have hrest := outcomes_kept hall hkept (block.systemCalls.foldl Db.commit s.db)
  exact ⟨hrest.1.trans hcalls.1, hrest.2.trans hcalls.2⟩

theorem step_deployed {s s' : ChainState} {block : ChainBlock}
    (hadmits : s.Admits cache codes a block) (h : s.step cache codes a block = some s') :
    s'.Deployed codes a := by
  unfold step at h
  split at h
  next db hdb =>
    obtain rfl : _ = s' := Option.some.inj h
    intro _ d hdue
    rw [hadmits.transactions db hdb d]
    exact preExecution_deploys hadmits hdb d hdue
  next => cases h

/-- Along every chain of blocks: each block starts its transactions with the contracts that
are due in place, in the version of the block, and it has touched a contract only if it is
the first block of one of the contract's forks. -/
theorem chain_upgrades {genesis s : ChainState} {blocks : List ChainBlock} {block : ChainBlock}
    {db : Db} (hgenesis : genesis.number = 0)
    (hchain : Run.Guarded (step cache codes a) (Admits cache codes a) genesis blocks)
    (hrun : Run.run (step cache codes a) genesis blocks = some s)
    (hadmits : s.Admits cache codes a block)
    (h : preExecution cache codes a s.db block = .ok db) (d : SystemDeployment) :
    (a.hardforks.isActiveAtTimestamp d.fork block.timestamp = true →
      (db.info d.address).codeHash = (d.target codes a.hardforks block.timestamp).codeHash) ∧
    ((db.info d.address ≠ s.db.info d.address ∨ db.storage d.address ≠ s.db.storage d.address) →
      ∃ f ∈ d.upgradeForks, a.hardforks.firstHardforkBlock f s.timestamp
        (s.number + 1, block.timestamp) = true) := by
  have hdeployed : s.Deployed codes a := by
    have hstart : genesis.Deployed codes a := fun hone => absurd hone (by omega)
    exact Run.invariant (fun t b t' _ hok hstep => step_deployed hok hstep) hstart hchain hrun
  refine ⟨preExecution_deploys hadmits h d, fun hchanged => ?_⟩
  by_contra hnone
  have hkept := preExecution_keeps hdeployed hadmits h d fun f hf => by
    by_contra hfirst
    exact hnone ⟨f, hf, by simpa using hfirst⟩
  rcases hchanged with hinfo | hstorage
  · exact hinfo hkept.1
  · exact hstorage hkept.2

def forksAt (time : ℕ) : ForkActivations := ⟨fun _ => .timestamp 0, fun _ => .timestamp time⟩

def quietBlock (timestamp : ℕ) : ChainBlock := ⟨timestamp, [], id⟩

theorem admits_quiet {s : ChainState} {timestamp : ℕ} (hle : s.timestamp ≤ timestamp) :
    s.Admits cache codes a (quietBlock timestamp) where
  timestamp_le := hle
  systemCalls state hstate := by cases hstate
  transactions db _ d := rfl

def emptyGenesis : ChainState :=
  ⟨0, 0, ⟨fun _ => ⟨0, 0, KECCAK_EMPTY, none⟩, fun _ _ => 0, fun _ => none⟩⟩

/-- Blocks before and after the forks; the second one deploys. -/
theorem chain_upgrades_second : ∃ s db,
    Run.run (step .ofDb SystemDeployment.sampleCodes (forksAt 5)) emptyGenesis
      [quietBlock 3, quietBlock 5] = some s ∧
    preExecution .ofDb SystemDeployment.sampleCodes (forksAt 5) s.db (quietBlock 7) = .ok db ∧
    (db.info LIMIT_CONTROL_ADDRESS).codeHash = LIMIT_CONTROL_CODE_HASH := by
  refine ⟨_, _, rfl, rfl, ?_⟩
  have hchain : Run.Guarded (step .ofDb SystemDeployment.sampleCodes (forksAt 5))
      (Admits .ofDb SystemDeployment.sampleCodes (forksAt 5)) emptyGenesis
      [quietBlock 3, quietBlock 5] := by
    refine ⟨admits_quiet (by decide), fun s hs => ⟨admits_quiet ?_, fun _ _ => trivial⟩⟩
    obtain rfl := Option.some.inj hs
    decide
  exact (chain_upgrades rfl hchain rfl (admits_quiet (show 5 ≤ 7 by decide)) rfl
    SystemDeployment.limitControl).1 rfl

end ChainState

end Chain

end MegaEvm
