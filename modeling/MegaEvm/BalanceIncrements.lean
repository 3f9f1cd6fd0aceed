import MegaEvm.SystemDeploy
import Mathlib.Algebra.Order.BigOperators.Group.List

/-!
# Balance increments after a block

After the transactions of a block some accounts may be owed wei. The accounts are loaded,
credited apart from the database and committed in one state. Where an account is owed twice
the later amount replaces the earlier one, so the accounts get what they are owed if each is
listed once and no balance passes the word.
-/

set_option autoImplicit false

namespace MegaEvm

/-! ## What is owed -/

def increments (a : Address) (balances : List (Address × ℕ)) : List ℕ :=
  (balances.filter fun item => decide (item.1 = a) && decide (item.2 ≠ 0)).map Prod.snd

def owed (a : Address) (balances : List (Address × ℕ)) : ℕ := (increments a balances).sum

theorem increments_cons (a : Address) (item : Address × ℕ) (balances : List (Address × ℕ)) :
    increments a (item :: balances) =
      if item.1 = a ∧ item.2 ≠ 0 then item.2 :: increments a balances
      else increments a balances := by
  unfold increments
  rw [List.filter_cons]
  by_cases h : item.1 = a ∧ item.2 ≠ 0
  · simp [h.1, h.2]
  · rw [if_neg h, if_neg (by simpa using h)]

theorem increments_pos {a : Address} {balances : List (Address × ℕ)} {n : ℕ}
    (h : n ∈ increments a balances) : 0 < n := by
  unfold increments at h
  obtain ⟨item, hitem, rfl⟩ := List.mem_map.1 h
  have hne : item.1 = a ∧ item.2 ≠ 0 := by simpa using (List.mem_filter.1 hitem).2
  exact Nat.pos_of_ne_zero hne.2

theorem sum_eq_last_iff {l : List ℕ} (hpos : ∀ n ∈ l, 0 < n) (hne : l ≠ []) :
    l.sum = l.getLast hne ↔ l.length = 1 := by
  cases l with
  | nil => exact absurd rfl hne
  | cons n rest =>
    cases rest with
    | nil => simp
    | cons m rest =>
      have hn := hpos n List.mem_cons_self
      have hle : (m :: rest).getLast (by simp) ≤ (m :: rest).sum :=
        List.le_sum_of_mem (List.getLast_mem _)
      rw [List.getLast_cons (by simp), List.sum_cons]
      constructor
      · intro heq
        omega
      · intro hlen
        simp at hlen

theorem increments_eq_nil_iff {a : Address} {balances : List (Address × ℕ)} :
    increments a balances = [] ↔ owed a balances = 0 := by
  unfold owed
  constructor
  · intro hnone
    rw [hnone, List.sum_nil]
  · intro hzero
    rw [List.eq_nil_iff_forall_not_mem]
    intro n hn
    have hle := List.le_sum_of_mem hn
    have hpos := increments_pos hn
    omega

theorem increments_of_nodup {balances : List (Address × ℕ)}
    (h : (balances.map Prod.fst).Nodup) (a : Address) : (increments a balances).length ≤ 1 := by
  induction balances with
  | nil => exact Nat.zero_le _
  | cons item balances ih =>
    rw [List.map_cons, List.nodup_cons] at h
    rw [increments_cons]
    split
    · next hitem =>
      have hnone : increments a balances = [] := by
        rw [List.eq_nil_iff_forall_not_mem]
        intro n hn
        unfold increments at hn
        obtain ⟨other, hother, -⟩ := List.mem_map.1 hn
        obtain ⟨hmem, hat⟩ := List.mem_filter.1 hother
        have haddress : other.1 = a := by
          simp only [Bool.and_eq_true, decide_eq_true_eq] at hat
          exact hat.1
        exact h.1 (List.mem_map.2 ⟨other, hmem, haddress.trans hitem.1.symm⟩)
      rw [hnone]
      rfl
    · exact ih h.2

/-! ## What is done -/

/-- The balance after an increment: `U256` addition wraps. -/
def AccountInfo.incremented (info : AccountInfo) (n : ℕ) : AccountInfo :=
  { info with balance := (info.balance + n) % 2 ^ 256 }

section Transact

variable {E : Type} (cache : AccountCache E) (db : Db)

/-- One iteration of `transact_balance_increments`. -/
def transactBalanceIncrement (state : EvmState) (item : Address × ℕ) : Except E EvmState :=
  if item.2 = 0 then .ok state
  else (cache.loadCacheAccount db item.1).map fun acc =>
    state.insert item.1 (Account.ofInfo ((acc.getD default).incremented item.2)).withTouchedMark

def transactBalanceIncrements (balances : List (Address × ℕ)) : Except E (Option EvmState) :=
  (balances.foldlM (transactBalanceIncrement cache db) ∅).map some

def postExecutionChanges (balanceIncrements : List (Address × ℕ)) : Except E (List EvmState) :=
  (transactBalanceIncrements cache db balanceIncrements).map Option.toList

variable {cache db}

theorem transactBalanceIncrement_ok {state state' : EvmState} {item : Address × ℕ}
    (h : transactBalanceIncrement cache db state item = .ok state') (a : Address) :
    state'.lookup a = if item.1 = a ∧ item.2 ≠ 0 then
        some (Account.ofInfo ((db.info a).incremented item.2)).withTouchedMark
      else state.lookup a := by
  unfold transactBalanceIncrement at h
  split at h
  · next hzero =>
    cases h
    rw [if_neg fun hitem => hitem.2 hzero]
  · next hne =>
    cases hacc : cache.loadCacheAccount db item.1 with
    | error e => simp [hacc, Except.map] at h
    | ok acc =>
      rw [hacc, Except.map, Except.ok.injEq] at h
      subst h
      rw [cache.load_getD db item.1 acc hacc]
      by_cases ha : item.1 = a
      · rw [if_pos ⟨ha, hne⟩, ← ha, AList.lookup_insert]
      · rw [if_neg fun hitem => ha hitem.1, AList.lookup_insert_ne (Ne.symm ha)]

theorem foldlM_lookup {balances : List (Address × ℕ)} {start state : EvmState}
    (h : balances.foldlM (transactBalanceIncrement cache db) start = .ok state) (a : Address) :
    state.lookup a = ((increments a balances).getLast?.map fun n =>
      (Account.ofInfo ((db.info a).incremented n)).withTouchedMark).or (start.lookup a) := by
  induction balances generalizing start with
  | nil =>
    cases h
    rfl
  | cons item balances ih =>
    rw [List.foldlM_cons] at h
    cases hitem : transactBalanceIncrement cache db start item with
    | error e => simp [hitem, bind, Except.bind] at h
    | ok next =>
      have hrest : balances.foldlM (transactBalanceIncrement cache db) next = .ok state := by
        simpa [hitem, bind, Except.bind] using h
      rw [ih hrest, transactBalanceIncrement_ok hitem a, increments_cons]
      by_cases hat : item.1 = a ∧ item.2 ≠ 0
      · rw [if_pos hat, if_pos hat, List.getLast?_cons]
        cases (increments a balances).getLast? with
        | none => rfl
        | some n => rfl
      · rw [if_neg hat, if_neg hat]

theorem transactBalanceIncrements_fails_iff {balances : List (Address × ℕ)} :
    (∃ e, transactBalanceIncrements cache db balances = .error e) ↔
      ∃ item ∈ balances, item.2 ≠ 0 ∧ ∃ e, cache.loadCacheAccount db item.1 = .error e := by
  have hfold : ∀ start, (∃ e, balances.foldlM (transactBalanceIncrement cache db) start =
      .error e) ↔
        ∃ item ∈ balances, item.2 ≠ 0 ∧ ∃ e, cache.loadCacheAccount db item.1 = .error e := by
    induction balances with
    | nil => simp [pure, Except.pure]
    | cons item balances ih =>
      intro start
      rw [List.foldlM_cons]
      unfold transactBalanceIncrement at ih ⊢
      by_cases hzero : item.2 = 0
      · simpa [hzero, bind, Except.bind] using ih start
      · cases hacc : cache.loadCacheAccount db item.1 with
        | error e => simp [hzero, hacc, bind, Except.bind, Except.map]
        | ok acc => simpa [hzero, hacc, bind, Except.bind, Except.map] using ih _
  rw [← hfold ∅]
  unfold transactBalanceIncrements
  cases balances.foldlM (transactBalanceIncrement cache db) ∅ with
  | error e => simp [Except.map]
  | ok state => simp [Except.map]

theorem commit_postExecutionChanges {balances : List (Address × ℕ)} {outcomes : List EvmState}
    (h : postExecutionChanges cache db balances = .ok outcomes) (a : Address) :
    (commitSystemCallOutcomes db outcomes).info a =
        ((increments a balances).getLast?.map (db.info a).incremented).getD (db.info a) ∧
      (commitSystemCallOutcomes db outcomes).storage a = db.storage a := by
  unfold postExecutionChanges transactBalanceIncrements at h
  cases hfold : balances.foldlM (transactBalanceIncrement cache db) ∅ with
  | error e => simp [hfold, Except.map] at h
  | ok state =>
    rw [hfold, Except.map, Except.map, Except.ok.injEq] at h
    subst h
    have hlookup := foldlM_lookup hfold a
    show (db.commit state).info a = _ ∧ (db.commit state).storage a = _
    rw [Db.commit_info, Db.commit_storage, hlookup]
    cases (increments a balances).getLast? with
    | none => exact ⟨rfl, rfl⟩
    | some n => exact ⟨rfl, rfl⟩

theorem balance_exact_iff {balances : List (Address × ℕ)} {outcomes : List EvmState}
    (h : postExecutionChanges cache db balances = .ok outcomes) (a : Address) :
    ((commitSystemCallOutcomes db outcomes).info a).balance =
        (db.info a).balance + owed a balances ↔
      (increments a balances ≠ [] → (increments a balances).length = 1 ∧
        (db.info a).balance + owed a balances < 2 ^ 256) := by
  rw [(commit_postExecutionChanges h a).1]
  by_cases hnone : increments a balances = []
  · simp [hnone, owed]
  · have hlast := List.getLast?_eq_some_getLast hnone
    have hsum := sum_eq_last_iff (fun n hn => increments_pos hn) hnone
    have hle : (increments a balances).getLast hnone ≤ owed a balances :=
      List.le_sum_of_mem (List.getLast_mem _)
    rw [hlast]
    simp only [Option.map_some, Option.getD_some, AccountInfo.incremented, hnone, ne_eq,
      not_false_eq_true, forall_const]
    rw [← hsum]
    show _ = _ ↔ owed a balances = _ ∧ _
    constructor
    · intro heq
      have hmod := Nat.mod_le
        ((db.info a).balance + (increments a balances).getLast hnone) (2 ^ 256)
      have hsame : owed a balances = (increments a balances).getLast hnone := by omega
      refine ⟨hsame, ?_⟩
      rw [← heq]
      exact Nat.mod_lt _ (by decide)
    · rintro ⟨hsame, hlt⟩
      rw [← hsame]
      exact Nat.mod_eq_of_lt hlt

/-- What is committed after a block gives every account just what it is owed, exactly if
nobody is owed twice and no balance passes the word; a list that names no account twice
leaves the bound alone to check. Nothing else of an account changes. -/
theorem increments_exact_iff {balances : List (Address × ℕ)} {outcomes : List EvmState}
    (h : postExecutionChanges cache db balances = .ok outcomes) :
    ((∀ a, ((commitSystemCallOutcomes db outcomes).info a).balance =
        (db.info a).balance + owed a balances) ↔
      ∀ a, increments a balances ≠ [] → (increments a balances).length = 1 ∧
        (db.info a).balance + owed a balances < 2 ^ 256) ∧
    ((balances.map Prod.fst).Nodup →
      ((∀ a, ((commitSystemCallOutcomes db outcomes).info a).balance =
          (db.info a).balance + owed a balances) ↔
        ∀ a, owed a balances ≠ 0 → (db.info a).balance + owed a balances < 2 ^ 256)) ∧
    ∀ a, (commitSystemCallOutcomes db outcomes).info a = { db.info a with
        balance := ((commitSystemCallOutcomes db outcomes).info a).balance } ∧
      (commitSystemCallOutcomes db outcomes).storage a = db.storage a := by
  refine ⟨forall_congr' fun a => balance_exact_iff h a, fun hnodup => ?_, fun a => ?_⟩
  · refine forall_congr' fun a => ?_
    have hone := increments_of_nodup hnodup a
    rw [balance_exact_iff h a]
    constructor
    · exact fun hall hne => (hall (mt increments_eq_nil_iff.1 hne)).2
    · intro hfits hne
      have hpos := List.length_pos_of_ne_nil hne
      exact ⟨by omega, hfits (mt increments_eq_nil_iff.2 hne)⟩
  · obtain ⟨hinfo, hstorage⟩ := commit_postExecutionChanges h a
    refine ⟨?_, hstorage⟩
    rw [hinfo]
    cases (increments a balances).getLast? with
    | none => rfl
    | some n => rfl

end Transact

/-- Account 2 is owed in two entries and gets the second. -/
theorem increments_exact_twice : ∃ outcomes,
    postExecutionChanges .ofDb (SystemDeployment.oracleDb 5) [(2, 100), (3, 50), (2, 7)] =
      .ok outcomes ∧
    ((commitSystemCallOutcomes (SystemDeployment.oracleDb 5) outcomes).info 2).balance = 7 ∧
    ¬ ∀ a, ((commitSystemCallOutcomes (SystemDeployment.oracleDb 5) outcomes).info a).balance =
      ((SystemDeployment.oracleDb 5).info a).balance +
        owed a [(2, 100), (3, 50), (2, 7)] := by
  cases h : postExecutionChanges .ofDb (SystemDeployment.oracleDb 5)
      [(2, 100), (3, 50), (2, 7)] with
  | error e => exact nomatch e
  | ok outcomes =>
    have hexact := increments_exact_iff h
    have hlast := (commit_postExecutionChanges h 2).1
    refine ⟨outcomes, rfl, ?_, fun hall => ?_⟩
    · rw [hlast]
      rfl
    · exact absurd (hexact.1.1 hall 2 (by decide)).1 (by decide)

end MegaEvm
