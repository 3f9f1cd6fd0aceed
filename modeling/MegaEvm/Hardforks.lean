import MegaEvm.SystemDeploy
import MegaEvm.Library.KeyedTable
import Mathlib.Order.Monotone.Basic

/-!
# The hardfork schedule

A configuration is a list of boxed forks, told apart by their names. Whatever is
inserted and removed, in whatever order, it answers as a map from names to
conditions. The version of a block is read from the newest fork that is active at
its timestamp, so along a chain the fork only moves forward, and every fork has
one first block.
-/

set_option autoImplicit false

namespace MegaEvm

inductive ForkCondition where
  | block (number : ℕ)
  | ttd (activationBlockNumber : ℕ) (forkBlock : Option ℕ) (totalDifficulty : ℕ)
  | timestamp (time : ℕ)
  | never
  deriving DecidableEq, Repr

def ForkCondition.activeAtTimestamp : ForkCondition → ℕ → Bool
  | .timestamp time, t => decide (time ≤ t)
  | _, _ => false

@[simp] theorem ForkCondition.activeAtTimestamp_timestamp (time t : ℕ) :
    (timestamp time).activeAtTimestamp t = decide (time ≤ t) := rfl

@[simp] theorem ForkCondition.activeAtTimestamp_never (t : ℕ) :
    never.activeAtTimestamp t = false := rfl

theorem ForkCondition.activeAtTimestamp_mono {c : ForkCondition} {t t' : ℕ} (hle : t ≤ t')
    (h : c.activeAtTimestamp t = true) : c.activeAtTimestamp t' = true := by
  cases c with
  | timestamp time =>
    simp only [activeAtTimestamp, decide_eq_true_eq] at h ⊢
    exact Nat.le_trans h hle
  | _ => simp [activeAtTimestamp] at h

inductive EthereumHardfork where
  | frontier | homestead | dao | tangerine | spuriousDragon | byzantium | constantinople
  | petersburg | istanbul | berlin | london | paris | shanghai | cancun | prague
  deriving DecidableEq, Repr

inductive OpHardfork where
  | bedrock | regolith | canyon | ecotone | fjord | granite | holocene | isthmus
  deriving DecidableEq, Repr

/-- A fork behind `dyn Hardfork`. The configuration reads nothing of it but its name. -/
structure BoxedHardfork where
  name : String
  deriving DecidableEq, Repr

class Hardfork (H : Type) where
  name : H → String

def Hardfork.boxed {H : Type} [Hardfork H] (h : H) : BoxedHardfork := ⟨name h⟩

instance : Hardfork BoxedHardfork := ⟨BoxedHardfork.name⟩

instance : Hardfork EthereumHardfork where
  name
    | .frontier => "Frontier"
    | .homestead => "Homestead"
    | .dao => "Dao"
    | .tangerine => "Tangerine"
    | .spuriousDragon => "SpuriousDragon"
    | .byzantium => "Byzantium"
    | .constantinople => "Constantinople"
    | .petersburg => "Petersburg"
    | .istanbul => "Istanbul"
    | .berlin => "Berlin"
    | .london => "London"
    | .paris => "Paris"
    | .shanghai => "Shanghai"
    | .cancun => "Cancun"
    | .prague => "Prague"

instance : Hardfork OpHardfork where
  name
    | .bedrock => "Bedrock"
    | .regolith => "Regolith"
    | .canyon => "Canyon"
    | .ecotone => "Ecotone"
    | .fjord => "Fjord"
    | .granite => "Granite"
    | .holocene => "Holocene"
    | .isthmus => "Isthmus"

instance : Hardfork MegaHardfork where
  name
    | .miniRex => "MiniRex"
    | .miniRex1 => "MiniRex1"
    | .miniRex2 => "MiniRex2"
    | .rex => "Rex"
    | .rex1 => "Rex1"
    | .rex2 => "Rex2"
    | .rex3 => "Rex3"
    | .rex4 => "Rex4"

open Hardfork (boxed)

namespace MegaHardfork

def specId : MegaHardfork → MegaSpecId
  | miniRex => .miniRex
  | miniRex1 => .equivalence
  | miniRex2 => .miniRex
  | rex => .rex
  | rex1 => .rex1
  | rex2 => .rex2
  | rex3 => .rex3
  | rex4 => .rex4

def rank : MegaHardfork → ℕ
  | miniRex => 1
  | miniRex1 => 2
  | miniRex2 => 3
  | rex => 4
  | rex1 => 5
  | rex2 => 6
  | rex3 => 7
  | rex4 => 8

def newestFirst : List MegaHardfork :=
  [rex4, rex3, rex2, rex1, rex, miniRex2, miniRex1, miniRex]

theorem mem_newestFirst (f : MegaHardfork) : f ∈ newestFirst := by
  cases f <;> decide

theorem rank_injective {f g : MegaHardfork} (h : f.rank = g.rank) : f = g := by
  cases f <;> cases g <;> first | rfl | exact absurd h (by decide)

theorem name_injective {f g : MegaHardfork} (h : Hardfork.name f = Hardfork.name g) : f = g := by
  cases f <;> cases g <;> first | rfl | exact absurd h (by decide)

end MegaHardfork

/-! ## The newest active fork -/

namespace MegaHardforks

variable (hardforks : MegaHardforks)

def hardfork (timestamp : ℕ) : Option MegaHardfork :=
  if hardforks.isActiveAtTimestamp .rex4 timestamp then some .rex4
  else if hardforks.isActiveAtTimestamp .rex3 timestamp then some .rex3
  else if hardforks.isActiveAtTimestamp .rex2 timestamp then some .rex2
  else if hardforks.isActiveAtTimestamp .rex1 timestamp then some .rex1
  else if hardforks.isActiveAtTimestamp .rex timestamp then some .rex
  else if hardforks.isActiveAtTimestamp .miniRex2 timestamp then some .miniRex2
  else if hardforks.isActiveAtTimestamp .miniRex1 timestamp then some .miniRex1
  else if hardforks.isActiveAtTimestamp .miniRex timestamp then some .miniRex
  else none

def specId (timestamp : ℕ) : MegaSpecId :=
  if hardforks.isActiveAtTimestamp .rex4 timestamp then .rex4
  else if hardforks.isActiveAtTimestamp .rex3 timestamp then .rex3
  else if hardforks.isActiveAtTimestamp .rex2 timestamp then .rex2
  else if hardforks.isActiveAtTimestamp .rex1 timestamp then .rex1
  else if hardforks.isActiveAtTimestamp .rex timestamp then .rex
  else if hardforks.isActiveAtTimestamp .miniRex2 timestamp then .miniRex
  else if hardforks.isActiveAtTimestamp .miniRex1 timestamp then .equivalence
  else if hardforks.isActiveAtTimestamp .miniRex timestamp then .miniRex
  else .equivalence

def firstHardforkBlock (fork : MegaHardfork) (parentTimestamp : ℕ)
    (currentNumberAndTimestamp : ℕ × ℕ) : Bool :=
  let (currentNumber, currentTimestamp) := currentNumberAndTimestamp
  hardforks.isActiveAtTimestamp fork currentTimestamp &&
    (currentNumber = 1 || !hardforks.isActiveAtTimestamp fork parentTimestamp)

theorem specId_eq (timestamp : ℕ) :
    hardforks.specId timestamp =
      ((hardforks.hardfork timestamp).map MegaHardfork.specId).getD .equivalence := by
  unfold specId hardfork
  split_ifs <;> rfl

theorem hardfork_eq_find (timestamp : ℕ) :
    hardforks.hardfork timestamp =
      MegaHardfork.newestFirst.find? fun f => hardforks.isActiveAtTimestamp f timestamp := by
  unfold hardfork MegaHardfork.newestFirst
  simp only [List.find?_cons, List.find?_nil]
  split_ifs <;> simp_all

theorem hardfork_eq_none {timestamp : ℕ} :
    hardforks.hardfork timestamp = none ↔
      ∀ f, hardforks.isActiveAtTimestamp f timestamp = false := by
  rw [hardfork_eq_find, List.find?_eq_none]
  simp [MegaHardfork.mem_newestFirst]

theorem hardfork_eq_some {timestamp : ℕ} {fork : MegaHardfork} :
    hardforks.hardfork timestamp = some fork ↔
      hardforks.isActiveAtTimestamp fork timestamp = true ∧
        ∀ g, hardforks.isActiveAtTimestamp g timestamp = true → g.rank ≤ fork.rank := by
  have hsorted : MegaHardfork.newestFirst.Pairwise fun f g => g.rank < f.rank := by decide
  have hnewest : ∀ f, hardforks.hardfork timestamp = some f →
      hardforks.isActiveAtTimestamp f timestamp = true ∧
        ∀ g, hardforks.isActiveAtTimestamp g timestamp = true → g.rank ≤ f.rank := by
    intro f hf
    rw [hardfork_eq_find, List.find?_eq_some_iff_append] at hf
    obtain ⟨hactive, older, newer, happend, hnot⟩ := hf
    refine ⟨hactive, fun g hg => ?_⟩
    have hmem := MegaHardfork.mem_newestFirst g
    rw [happend] at hmem hsorted
    rcases List.mem_append.mp hmem with hold | hnew
    · simpa [hg] using hnot g hold
    · rcases List.mem_cons.mp hnew with rfl | hlater
      · exact Nat.le_refl _
      · have hpair := (List.pairwise_append.mp hsorted).2.1
        exact Nat.le_of_lt ((List.pairwise_cons.mp hpair).1 g hlater)
  refine ⟨hnewest fork, fun ⟨hactive, hmax⟩ => ?_⟩
  cases hread : hardforks.hardfork timestamp with
  | none => simp [hardforks.hardfork_eq_none.mp hread fork] at hactive
  | some f =>
    obtain ⟨hf, hfmax⟩ := hnewest f hread
    rw [MegaHardfork.rank_injective (Nat.le_antisymm (hmax f hf) (hfmax fork hactive))]

def hardforkRank (timestamp : ℕ) : ℕ :=
  ((hardforks.hardfork timestamp).map MegaHardfork.rank).getD 0

end MegaHardforks

/-- The condition of every fork, as a type that is a set of hardforks names it. -/
structure ForkActivations where
  opForkActivation : OpHardfork → ForkCondition
  megaForkActivation : MegaHardfork → ForkCondition

namespace ForkActivations

variable (a : ForkActivations)

def isOpActiveAtTimestamp (fork : OpHardfork) (timestamp : ℕ) : Bool :=
  (a.opForkActivation fork).activeAtTimestamp timestamp

def hardforks : MegaHardforks where
  isActiveAtTimestamp fork timestamp := (a.megaForkActivation fork).activeAtTimestamp timestamp

theorem active_mono {fork : MegaHardfork} {t t' : ℕ} (hle : t ≤ t')
    (h : a.hardforks.isActiveAtTimestamp fork t = true) :
    a.hardforks.isActiveAtTimestamp fork t' = true :=
  ForkCondition.activeAtTimestamp_mono hle h

theorem hardforkRank_mono {t t' : ℕ} (hle : t ≤ t') :
    a.hardforks.hardforkRank t ≤ a.hardforks.hardforkRank t' := by
  simp only [MegaHardforks.hardforkRank]
  cases h : a.hardforks.hardfork t with
  | none => exact Nat.zero_le _
  | some f =>
    have hactive := a.active_mono hle (a.hardforks.hardfork_eq_some.mp h).1
    cases h' : a.hardforks.hardfork t' with
    | none => simp [a.hardforks.hardfork_eq_none.mp h' f] at hactive
    | some g => exact (a.hardforks.hardfork_eq_some.mp h').2 f hactive

/-- A later block has a version that is at least as new, unless it is a block of the
patch that went back to the first version. -/
theorem specId_mono {t t' : ℕ} (hle : t ≤ t') :
    (a.hardforks.specId t).toNat ≤ (a.hardforks.specId t').toNat ∨
      a.hardforks.hardfork t' = some .miniRex1 := by
  have hrank := a.hardforkRank_mono hle
  simp only [MegaHardforks.hardforkRank] at hrank
  rw [MegaHardforks.specId_eq, MegaHardforks.specId_eq]
  cases h : a.hardforks.hardfork t with
  | none => exact .inl (Nat.zero_le _)
  | some f =>
    cases h' : a.hardforks.hardfork t' with
    | none =>
      rw [h, h'] at hrank
      cases f <;> exact absurd hrank (by decide)
    | some g =>
      rw [h, h'] at hrank
      revert hrank
      cases f <;> cases g <;> decide

/-- Along a chain of blocks the fork only moves forward, and the version with it,
except into the patch that went back. -/
theorem chain_moves_forward (timestamps : List ℕ) (h : timestamps.Pairwise (· ≤ ·)) :
    (timestamps.Pairwise fun t t' =>
      a.hardforks.hardforkRank t ≤ a.hardforks.hardforkRank t' ∧
        ((a.hardforks.specId t).toNat ≤ (a.hardforks.specId t').toNat ∨
          a.hardforks.hardfork t' = some .miniRex1)) ∧
      ∀ t ∈ timestamps, ∀ fork, a.hardforks.hardfork t = some fork ↔
        a.hardforks.isActiveAtTimestamp fork t = true ∧
          ∀ g, a.hardforks.isActiveAtTimestamp g t = true → g.rank ≤ fork.rank := by
  refine ⟨h.imp fun hle => ⟨a.hardforkRank_mono hle, a.specId_mono hle⟩, fun t _ fork => ?_⟩
  exact a.hardforks.hardfork_eq_some

/-- The patch is newer than the fork whose version it took back. -/
theorem chain_moves_forward_patched :
    let a : ForkActivations := ⟨fun _ => .timestamp 0, fun
      | .miniRex => .timestamp 10
      | .miniRex1 => .timestamp 20
      | _ => .never⟩
    a.hardforks.hardforkRank 15 ≤ a.hardforks.hardforkRank 25 ∧
      a.hardforks.specId 15 = .miniRex ∧ a.hardforks.specId 25 = .equivalence := by
  intro a
  have hchain := a.chain_moves_forward [15, 25] (by decide)
  exact ⟨(List.pairwise_pair.mp hchain.1).1, by decide, by decide⟩

section FirstBlock

variable {timestamp : ℕ → ℕ} {fork : MegaHardfork} {n : ℕ}

def isFirst (timestamp : ℕ → ℕ) (fork : MegaHardfork) (n : ℕ) : Bool :=
  a.hardforks.firstHardforkBlock fork (timestamp (n - 1)) (n, timestamp n)

theorem isFirst_iff (hmono : Monotone timestamp) (hn : 1 ≤ n) :
    a.isFirst timestamp fork n = true ↔
      a.hardforks.isActiveAtTimestamp fork (timestamp n) = true ∧
        ∀ m, 1 ≤ m → m < n → a.hardforks.isActiveAtTimestamp fork (timestamp m) = false := by
  simp only [isFirst, MegaHardforks.firstHardforkBlock, Bool.and_eq_true, Bool.or_eq_true,
    decide_eq_true_eq, Bool.not_eq_true']
  refine and_congr_right fun _ => ⟨?_, fun h => ?_⟩
  · rintro (rfl | hparent) m hm hlt
    · omega
    · by_contra hactive
      rw [Bool.not_eq_false] at hactive
      have hle : timestamp m ≤ timestamp (n - 1) := hmono (by omega)
      simp [a.active_mono hle hactive] at hparent
  · by_cases h1 : n = 1
    · exact .inl h1
    · exact .inr (h (n - 1) (by omega) (by omega))

/-- A fork that is active in some block of a chain has one first block, and one
that is not has none. -/
theorem first_block_unique (hmono : Monotone timestamp) (last : ℕ) (hlast : 1 ≤ last) :
    (a.hardforks.isActiveAtTimestamp fork (timestamp last) = true →
      ∃! n, (1 ≤ n ∧ n ≤ last) ∧ a.isFirst timestamp fork n = true) ∧
    (a.hardforks.isActiveAtTimestamp fork (timestamp last) = false →
      ∀ n, 1 ≤ n → n ≤ last → a.isFirst timestamp fork n = false) := by
  constructor
  · intro hactive
    have hex : ∃ n, 1 ≤ n ∧ a.hardforks.isActiveAtTimestamp fork (timestamp n) = true :=
      ⟨last, hlast, hactive⟩
    have hfound := Nat.find_spec hex
    have hbefore : ∀ m, 1 ≤ m → m < Nat.find hex →
        a.hardforks.isActiveAtTimestamp fork (timestamp m) = false := fun m hm hlt => by
      simpa [hm] using Nat.find_min hex hlt
    refine ⟨Nat.find hex, ⟨⟨hfound.1, Nat.find_min' hex ⟨hlast, hactive⟩⟩, ?_⟩, ?_⟩
    · exact (a.isFirst_iff hmono hfound.1).mpr ⟨hfound.2, hbefore⟩
    · rintro n ⟨⟨hn, -⟩, hfirst⟩
      obtain ⟨hactiven, hnot⟩ := (a.isFirst_iff hmono hn).mp hfirst
      refine Nat.le_antisymm (Nat.le_of_not_lt fun hlt => ?_) (Nat.find_min' hex ⟨hn, hactiven⟩)
      exact absurd hfound.2 (by simp [hnot (Nat.find hex) hfound.1 hlt])
  · intro hinactive n hn hle
    by_contra hfirst
    rw [Bool.not_eq_false] at hfirst
    have hactive := ((a.isFirst_iff hmono hn).mp hfirst).1
    simp [a.active_mono (hmono hle) hactive] at hinactive

theorem first_block_unique_third :
    let a : ForkActivations := ⟨fun _ => .timestamp 0, fun _ => .timestamp 30⟩
    ∃! n, (1 ≤ n ∧ n ≤ 5) ∧ a.isFirst (fun n => 10 * n) .rex2 n = true := by
  intro a
  refine (a.first_block_unique (fun m n h => ?_) 5 (by decide)).1 (by decide)
  exact Nat.mul_le_mul_left 10 h

end FirstBlock

end ForkActivations

/-! ## Configurations -/

structure MegaHardforkConfig where
  hardforks : List (BoxedHardfork × ForkCondition)

namespace MegaHardforkConfig

variable {H : Type} [Hardfork H]

def new : MegaHardforkConfig where
  hardforks := [
    (boxed EthereumHardfork.frontier, .block 0),
    (boxed EthereumHardfork.homestead, .block 0),
    (boxed EthereumHardfork.dao, .block 0),
    (boxed EthereumHardfork.tangerine, .block 0),
    (boxed EthereumHardfork.spuriousDragon, .block 0),
    (boxed EthereumHardfork.byzantium, .block 0),
    (boxed EthereumHardfork.constantinople, .block 0),
    (boxed EthereumHardfork.petersburg, .block 0),
    (boxed EthereumHardfork.istanbul, .block 0),
    (boxed EthereumHardfork.berlin, .block 0),
    (boxed EthereumHardfork.london, .block 0),
    (boxed EthereumHardfork.paris, .ttd 0 none 0),
    (boxed OpHardfork.bedrock, .block 0),
    (boxed OpHardfork.regolith, .timestamp 0),
    (boxed EthereumHardfork.shanghai, .timestamp 0),
    (boxed OpHardfork.canyon, .timestamp 0),
    (boxed EthereumHardfork.cancun, .timestamp 0),
    (boxed OpHardfork.ecotone, .timestamp 0),
    (boxed OpHardfork.fjord, .timestamp 0),
    (boxed OpHardfork.granite, .timestamp 0),
    (boxed OpHardfork.holocene, .timestamp 0),
    (boxed EthereumHardfork.prague, .timestamp 0),
    (boxed OpHardfork.isthmus, .timestamp 0)]

def ofIter (iter : List (H × ForkCondition)) : MegaHardforkConfig where
  hardforks := iter.map fun (h, c) => (boxed h, c)

def get (config : MegaHardforkConfig) (hardfork : H) : Option ForkCondition :=
  KeyedTable.get config.hardforks (boxed hardfork)

def insert (config : MegaHardforkConfig) (hardfork : H) (condition : ForkCondition) :
    MegaHardforkConfig where
  hardforks := KeyedTable.insert config.hardforks (boxed hardfork) condition

def withHardfork (config : MegaHardforkConfig) (hardfork : H) (condition : ForkCondition) :
    MegaHardforkConfig :=
  config.insert hardfork condition

def without (config : MegaHardforkConfig) (hardfork : MegaHardfork) : MegaHardforkConfig where
  hardforks := KeyedTable.remove config.hardforks (boxed hardfork)

def withAllActivated (config : MegaHardforkConfig) : MegaHardforkConfig :=
  ((((((((config.insert MegaHardfork.miniRex (.timestamp 0)).insert
    MegaHardfork.miniRex1 (.timestamp 0)).insert
    MegaHardfork.miniRex2 (.timestamp 0)).insert
    MegaHardfork.rex (.timestamp 0)).insert
    MegaHardfork.rex1 (.timestamp 0)).insert
    MegaHardfork.rex2 (.timestamp 0)).insert
    MegaHardfork.rex3 (.timestamp 0)).insert
    MegaHardfork.rex4 (.timestamp 0))

def activations (config : MegaHardforkConfig) : ForkActivations where
  opForkActivation fork := (config.get fork).getD .never
  megaForkActivation fork := (config.get fork).getD .never

end MegaHardforkConfig

inductive ConfigOp where
  | insert (hardfork : BoxedHardfork) (condition : ForkCondition)
  | without (hardfork : MegaHardfork)
  | withAllActivated
  deriving DecidableEq, Repr

namespace ConfigOp

def apply (config : MegaHardforkConfig) : ConfigOp → MegaHardforkConfig
  | insert hardfork condition => config.insert hardfork condition
  | without hardfork => config.without hardfork
  | withAllActivated => config.withAllActivated

def verdict (hardfork : BoxedHardfork) : ConfigOp → Option (Option ForkCondition)
  | insert h condition => if h = hardfork then some (some condition) else none
  | without h => if boxed h = hardfork then some none else none
  | withAllActivated =>
    if MegaHardfork.newestFirst.any (fun f => boxed f = hardfork) then some (some (.timestamp 0))
    else none

end ConfigOp

namespace MegaHardforkConfig

def run (config : MegaHardforkConfig) (ops : List ConfigOp) : MegaHardforkConfig :=
  ops.foldl ConfigOp.apply config

def Distinct (config : MegaHardforkConfig) : Prop := (KeyedTable.keys config.hardforks).Nodup

variable (config : MegaHardforkConfig)

theorem get_insert {H : Type} [Hardfork H] (hardfork : H) (condition : ForkCondition)
    (k : BoxedHardfork) : (config.insert hardfork condition).get k =
      if boxed hardfork = k then some condition else config.get k := by
  have hget := congrFun (KeyedTable.get_insert config.hardforks (boxed hardfork) condition) k
  by_cases hk : boxed hardfork = k
  · rw [if_pos hk]
    rw [hk, Function.update_self] at hget
    rwa [← hk] at hget ⊢
  · rw [if_neg hk]
    rwa [Function.update_of_ne (Ne.symm hk)] at hget

theorem get_without (hardfork : MegaHardfork) (k : BoxedHardfork) :
    (config.without hardfork).get k = if boxed hardfork = k then none else config.get k := by
  have hget := congrFun (KeyedTable.get_remove config.hardforks (boxed hardfork)) k
  by_cases hk : boxed hardfork = k
  · rw [if_pos hk]
    rw [hk, Function.update_self] at hget
    rwa [← hk] at hget ⊢
  · rw [if_neg hk]
    rwa [Function.update_of_ne (Ne.symm hk)] at hget

theorem get_withAllActivated (k : BoxedHardfork) : config.withAllActivated.get k =
    if MegaHardfork.newestFirst.any (fun f => boxed f = k) then some (.timestamp 0)
    else config.get k := by
  simp only [withAllActivated, get_insert, MegaHardfork.newestFirst, List.any_cons, List.any_nil,
    Bool.or_false, Bool.or_eq_true, decide_eq_true_eq]
  split_ifs <;> simp_all

theorem get_apply (op : ConfigOp) (k : BoxedHardfork) :
    (op.apply config).get k = (op.verdict k).getD (config.get k) := by
  cases op with
  | insert h condition =>
    rw [ConfigOp.apply, get_insert]
    by_cases hk : h = k <;> simp [ConfigOp.verdict, boxed, Hardfork.name, hk]
  | without h =>
    rw [ConfigOp.apply, get_without]
    by_cases hk : boxed h = k <;> simp [ConfigOp.verdict, hk]
  | withAllActivated =>
    rw [ConfigOp.apply, get_withAllActivated, ConfigOp.verdict]
    split_ifs <;> rfl

theorem Distinct.insert {H : Type} [Hardfork H] {config : MegaHardforkConfig}
    (h : config.Distinct) (hardfork : H) (condition : ForkCondition) :
    (config.insert hardfork condition).Distinct :=
  KeyedTable.nodup_insert h _ _

theorem Distinct.apply {config : MegaHardforkConfig} (h : config.Distinct) (op : ConfigOp) :
    (op.apply config).Distinct := by
  cases op with
  | insert hardfork condition => exact h.insert hardfork condition
  | without hardfork => exact KeyedTable.nodup_remove h _
  | withAllActivated =>
    exact (((((((h.insert _ _).insert _ _).insert _ _).insert _ _).insert _ _).insert _ _).insert
      _ _).insert _ _

theorem distinct_new : new.Distinct := by
  simp only [Distinct, new, KeyedTable.keys]
  decide

theorem run_cons (op : ConfigOp) (ops : List ConfigOp) :
    config.run (op :: ops) = (op.apply config).run ops := rfl

theorem get_run (ops : List ConfigOp) (k : BoxedHardfork) : (config.run ops).get k =
    (ops.reverse.findSome? fun op => op.verdict k).getD (config.get k) := by
  induction ops generalizing config with
  | nil => rfl
  | cons op ops ih =>
    rw [run_cons, ih, get_apply, List.reverse_cons, List.findSome?_append]
    cases ops.reverse.findSome? fun op => op.verdict k <;> cases hv : op.verdict k <;> simp [hv]

theorem Distinct.run {config : MegaHardforkConfig} (h : config.Distinct) (ops : List ConfigOp) :
    (config.run ops).Distinct := by
  induction ops generalizing config with
  | nil => exact h
  | cons op ops ih => exact ih (h.apply op)

/-- After any operations in any order a fork has the condition the last operation about
it gave it, even in a configuration that came with two entries for one fork; and what is
built from the default has one entry a fork. -/
theorem builder_is_map (ops : List ConfigOp) :
    (new.run ops).Distinct ∧ ∀ (config : MegaHardforkConfig) (k : BoxedHardfork),
      (config.run ops).get k =
        (ops.reverse.findSome? fun op => op.verdict k).getD (config.get k) :=
  ⟨distinct_new.run ops, fun config => config.get_run ops⟩

end MegaHardforkConfig

/-! ## The networks -/

def getHardforkConfig (chainId : UInt64) : MegaHardforkConfig :=
  if chainId = 6343 then
    ((((((((MegaHardforkConfig.new.withHardfork MegaHardfork.miniRex (.timestamp 0)).withHardfork
      MegaHardfork.miniRex1 .never).withHardfork
      MegaHardfork.miniRex2 .never).withHardfork
      MegaHardfork.rex (.timestamp 1764694618)).withHardfork
      MegaHardfork.rex1 (.timestamp 1766147599)).withHardfork
      MegaHardfork.rex2 (.timestamp 1770116400)).withHardfork
      MegaHardfork.rex3 .never).withHardfork
      MegaHardfork.rex4 .never)
  else if chainId = 4326 then
    ((((((((MegaHardforkConfig.new.withHardfork MegaHardfork.miniRex (.timestamp 0)).withHardfork
      MegaHardfork.miniRex1 (.timestamp 1764845637)).withHardfork
      MegaHardfork.miniRex2 (.timestamp 1764849932)).withHardfork
      MegaHardfork.rex (.timestamp 1764851940)).withHardfork
      MegaHardfork.rex1 (.timestamp 1766282400)).withHardfork
      MegaHardfork.rex2 (.timestamp 1770246000)).withHardfork
      MegaHardfork.rex3 .never).withHardfork
      MegaHardfork.rex4 .never)
  else
    ((((((((MegaHardforkConfig.new.withHardfork MegaHardfork.miniRex (.timestamp 0)).withHardfork
      MegaHardfork.miniRex1 (.timestamp 0)).withHardfork
      MegaHardfork.miniRex2 (.timestamp 0)).withHardfork
      MegaHardfork.rex (.timestamp 0)).withHardfork
      MegaHardfork.rex1 (.timestamp 0)).withHardfork
      MegaHardfork.rex2 (.timestamp 0)).withHardfork
      MegaHardfork.rex3 (.timestamp 0)).withHardfork
      MegaHardfork.rex4 (.timestamp 0))

section Networks

def testnetActivation : MegaHardfork → ForkCondition
  | .miniRex => .timestamp 0
  | .rex => .timestamp 1764694618
  | .rex1 => .timestamp 1766147599
  | .rex2 => .timestamp 1770116400
  | .miniRex1 | .miniRex2 | .rex3 | .rex4 => .never

def mainnetActivation : MegaHardfork → ForkCondition
  | .miniRex => .timestamp 0
  | .miniRex1 => .timestamp 1764845637
  | .miniRex2 => .timestamp 1764849932
  | .rex => .timestamp 1764851940
  | .rex1 => .timestamp 1766282400
  | .rex2 => .timestamp 1770246000
  | .rex3 | .rex4 => .never

def megaActivation (chainId : UInt64) : MegaHardfork → ForkCondition :=
  if chainId = 6343 then testnetActivation
  else if chainId = 4326 then mainnetActivation
  else fun _ => .timestamp 0

end Networks

/-- Eight forks put into the default one after the other. -/
def configOf (condition : MegaHardfork → ForkCondition) : MegaHardforkConfig :=
  ((((((((MegaHardforkConfig.new.insert MegaHardfork.miniRex (condition .miniRex)).insert
    MegaHardfork.miniRex1 (condition .miniRex1)).insert
    MegaHardfork.miniRex2 (condition .miniRex2)).insert
    MegaHardfork.rex (condition .rex)).insert
    MegaHardfork.rex1 (condition .rex1)).insert
    MegaHardfork.rex2 (condition .rex2)).insert
    MegaHardfork.rex3 (condition .rex3)).insert
    MegaHardfork.rex4 (condition .rex4))

theorem getHardforkConfig_eq (chainId : UInt64) :
    getHardforkConfig chainId = configOf (megaActivation chainId) := by
  unfold getHardforkConfig megaActivation configOf
  split_ifs <;> rfl

theorem configOf_mega (condition : MegaHardfork → ForkCondition) (fork : MegaHardfork) :
    (configOf condition).activations.megaForkActivation fork = condition fork := by
  have hname : ∀ f g : MegaHardfork, boxed f = boxed g ↔ f = g := fun f g =>
    ⟨fun h => MegaHardfork.name_injective (congrArg BoxedHardfork.name h), fun h => h ▸ rfl⟩
  have hget : ∀ (c : MegaHardforkConfig) (f g : MegaHardfork) (x : ForkCondition),
      (c.insert f x).get g = if f = g then some x else c.get g := fun c f g x => by
    have h := c.get_insert f x (boxed g)
    simp only [hname] at h
    exact h
  cases fork <;> simp [MegaHardforkConfig.activations, configOf, hget]

theorem configOf_op (condition : MegaHardfork → ForkCondition) (fork : OpHardfork) :
    (configOf condition).activations.opForkActivation fork =
      MegaHardforkConfig.new.activations.opForkActivation fork := by
  have hname : ∀ f : MegaHardfork, boxed f ≠ boxed fork := fun f h => by
    have := congrArg BoxedHardfork.name h
    cases f <;> cases fork <;> exact absurd this (by decide)
  have hget : ∀ (c : MegaHardforkConfig) (f : MegaHardfork) (x : ForkCondition),
      (c.insert f x).get fork = c.get fork := fun c f x => by
    have h := c.get_insert f x (boxed fork)
    rwa [if_neg (hname f)] at h
  simp [MegaHardforkConfig.activations, configOf, hget]

/-- What a block executor asserts when it is made. -/
def executorAccepts (a : ForkActivations) (specId : MegaSpecId) (blockTimestamp : ℕ)
    (blockLimits : BlockLimits) (gasLimit : UInt64) : Bool :=
  decide (specId = a.hardforks.specId blockTimestamp) &&
    a.isOpActiveAtTimestamp .regolith blockTimestamp &&
    a.isOpActiveAtTimestamp .canyon blockTimestamp &&
    a.isOpActiveAtTimestamp .isthmus blockTimestamp &&
    decide (blockLimits.blockGasLimit = gasLimit)

theorem network_hardfork (chainId : UInt64) (timestamp : ℕ) :
    ∃ fork, (getHardforkConfig chainId).activations.hardforks.hardfork timestamp = some fork := by
  set a := (getHardforkConfig chainId).activations with ha
  have hfirst : a.hardforks.isActiveAtTimestamp .miniRex timestamp = true := by
    rw [ha, getHardforkConfig_eq]
    simp only [ForkActivations.hardforks, configOf_mega, megaActivation]
    split_ifs <;> simp [testnetActivation, mainnetActivation]
  cases h : a.hardforks.hardfork timestamp with
  | none => simp [a.hardforks.hardfork_eq_none.mp h .miniRex] at hfirst
  | some fork => exact ⟨fork, rfl⟩

theorem fromHardfork_blockGasLimit (fork : MegaHardfork) (gasLimit : UInt64) :
    (BlockLimits.fromHardforkAndBlockGasLimit fork gasLimit).blockGasLimit = gasLimit := by
  cases fork <;> rfl

/-- The replay of a block of any chain finds a fork for it and makes an executor that
accepts the version the schedule names. -/
theorem replay_executor_accepts (chainId : UInt64) (timestamp : ℕ) (gasLimit : UInt64) :
    let a := (getHardforkConfig chainId).activations
    ∃ fork, a.hardforks.hardfork timestamp = some fork ∧
      executorAccepts a (a.hardforks.specId timestamp) timestamp
        (.fromHardforkAndBlockGasLimit fork gasLimit) gasLimit = true := by
  intro a
  obtain ⟨fork, hfork⟩ := network_hardfork chainId timestamp
  have hop : ∀ f : OpHardfork, a.opForkActivation f =
      MegaHardforkConfig.new.activations.opForkActivation f := fun f => by
    show (getHardforkConfig chainId).activations.opForkActivation f = _
    rw [getHardforkConfig_eq, configOf_op]
  refine ⟨fork, hfork, ?_⟩
  have hactive : ∀ f : OpHardfork,
      MegaHardforkConfig.new.activations.opForkActivation f = .timestamp 0 →
      a.isOpActiveAtTimestamp f timestamp = true := fun f hf => by
    simp [ForkActivations.isOpActiveAtTimestamp, hop, hf, ForkCondition.activeAtTimestamp]
  simp [executorAccepts, hactive .regolith rfl, hactive .canyon rfl, hactive .isthmus rfl,
    fromHardfork_blockGasLimit]

theorem mainnet_specId {h : MegaHardforks}
    (hactive : ∀ f s, h.isActiveAtTimestamp f s = (mainnetActivation f).activeAtTimestamp s)
    (t : ℕ) : (h.specId t).toNat =
      if 1770246000 ≤ t then 4 else if 1766282400 ≤ t then 3 else if 1764851940 ≤ t then 2
      else if 1764849932 ≤ t then 1 else if 1764845637 ≤ t then 0 else 1 := by
  simp only [MegaHardforks.specId, hactive, mainnetActivation,
    ForkCondition.activeAtTimestamp_timestamp, ForkCondition.activeAtTimestamp_never,
    decide_eq_true_eq, Bool.false_eq_true, if_false]
  split_ifs <;> first | rfl | omega

theorem testnet_specId {h : MegaHardforks}
    (hactive : ∀ f s, h.isActiveAtTimestamp f s = (testnetActivation f).activeAtTimestamp s)
    (t : ℕ) : (h.specId t).toNat =
      if 1770116400 ≤ t then 4 else if 1766147599 ≤ t then 3 else if 1764694618 ≤ t then 2
      else 1 := by
  simp only [MegaHardforks.specId, hactive, testnetActivation,
    ForkCondition.activeAtTimestamp_timestamp, ForkCondition.activeAtTimestamp_never,
    decide_eq_true_eq, Bool.false_eq_true, if_false]
  split_ifs <;> first | rfl | omega

/-- The only blocks of any network whose version is older than that of an earlier block are
those of the mainnet in the hour between its two patches. -/
theorem network_goes_back_iff (chainId : UInt64) (t t' : ℕ) (hle : t ≤ t') :
    let h := (getHardforkConfig chainId).activations.hardforks
    (h.specId t').toNat < (h.specId t).toNat ↔
      chainId = 4326 ∧ t < 1764845637 ∧ 1764845637 ≤ t' ∧ t' < 1764849932 := by
  intro h
  have hactive : ∀ f s, h.isActiveAtTimestamp f s = (megaActivation chainId f).activeAtTimestamp s :=
    fun f s => by
      show ((getHardforkConfig chainId).activations.megaForkActivation f).activeAtTimestamp s = _
      rw [getHardforkConfig_eq, configOf_mega]
  by_cases htest : chainId = 6343
  · have hnot : chainId ≠ 4326 := by simp [htest]
    simp only [megaActivation, if_pos htest] at hactive
    rw [testnet_specId hactive, testnet_specId hactive]
    simp only [hnot, false_and, iff_false, Nat.not_lt]
    split_ifs <;> omega
  · by_cases hmain : chainId = 4326
    · simp only [megaActivation, if_neg htest, if_pos hmain] at hactive
      rw [mainnet_specId hactive, mainnet_specId hactive]
      simp only [hmain, true_and]
      split_ifs <;> omega
    · simp only [megaActivation, if_neg htest, if_neg hmain] at hactive
      simp [MegaHardforks.specId, hactive, hmain]

theorem network_goes_back_mainnet :
    let h := (getHardforkConfig 4326).activations.hardforks
    (h.specId 1764846000).toNat < (h.specId 1764000000).toNat :=
  (network_goes_back_iff 4326 1764000000 1764846000 (by decide)).mpr (by decide)

end MegaEvm
