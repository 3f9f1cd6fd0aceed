import MegaEvm.Instructions
import MegaEvm.TrackerInvariants
import Mathlib.Algebra.BigOperators.Group.List.Basic

/-!
# The detained compute gas limit in closed form

Marking volatile data lowers a recorded cap, and applying the recorded cap
lowers the detained limit. The cap is the least one so far and it is applied
again by opcodes that mark nothing, at whatever the usage has become. Usage only
grows, so a cap that was applied once never bites again; the detained limit is
then the minimum over the accesses themselves, each taken at its own usage.
-/

set_option autoImplicit false

namespace MegaEvm

/-- What the host and the context mark. -/
inductive VolatileAccess where
  | blockEnv (ty : VolatileDataAccessType)
  | beneficiary
  | oracle
  deriving DecidableEq, Repr

namespace VolatileDataAccessTracker

def mark (v : VolatileDataAccessTracker) : VolatileAccess → VolatileDataAccessTracker
  | .blockEnv ty => v.markBlockEnvAccessed ty
  | .beneficiary => v.markBeneficiaryBalanceAccessed
  | .oracle => v.checkAndMarkOracleAccess ORACLE_CONTRACT_ADDRESS

def capOf (v : VolatileDataAccessTracker) : VolatileAccess → ℕ
  | .blockEnv _ => v.blockEnvAccessLimit
  | .beneficiary => v.blockEnvAccessLimit
  | .oracle => v.oracleAccessLimit

theorem mark_computeGasLimit (v : VolatileDataAccessTracker) (a : VolatileAccess) :
    (v.mark a).computeGasLimit =
      some (match v.computeGasLimit with
        | some current => min current (v.capOf a)
        | none => v.capOf a) := by
  cases a <;>
    simp only [mark, capOf, markBlockEnvAccessed, markBeneficiaryBalanceAccessed,
      checkAndMarkOracleAccess, applyOrCreateLimit, insert, if_true] <;>
    cases v.computeGasLimit <;> rfl

@[simp] theorem capOf_mark (v : VolatileDataAccessTracker) (a b : VolatileAccess) :
    (v.mark a).capOf b = v.capOf b := by
  cases a <;> cases b <;>
    simp [mark, capOf, markBlockEnvAccessed, markBeneficiaryBalanceAccessed,
      checkAndMarkOracleAccess, applyOrCreateLimit, insert]

end VolatileDataAccessTracker

structure Detention where
  compute : ComputeGasTracker
  volatile : VolatileDataAccessTracker
  deriving DecidableEq, Repr

/-- `access` marks and then applies, `reapply` applies what is recorded. -/
inductive ComputeOp where
  | record (gas : ℕ)
  | push
  | pop (success : Bool)
  | access (a : VolatileAccess)
  | reapply
  deriving DecidableEq, Repr

namespace ComputeOp

def recorded : ComputeOp → ℕ
  | .record gas => gas
  | _ => 0

end ComputeOp

namespace Detention

open ComputeGasTracker

def start (spec : MegaSpecId) (t : ComputeGasTracker) (v : VolatileDataAccessTracker) :
    Detention :=
  ⟨t.reset (spec.isEnabled .rex1), v.reset⟩

def applyLimit (rex4 : Bool) (s : Detention) : Detention :=
  match s.volatile.computeGasLimit with
  | some limit => { s with compute := s.compute.setDetainedLimit rex4 limit }
  | none => s

def act (rex4 : Bool) (s : Detention) : ComputeOp → Detention
  | .record gas => { s with compute := s.compute.recordGasUsed gas }
  | .push => { s with compute := s.compute.pushFrame rex4 }
  | .pop success => { s with compute := s.compute.popFrame success }
  | .access a => applyLimit rex4 { s with volatile := s.volatile.mark a }
  | .reapply => applyLimit rex4 s

def run (rex4 : Bool) (s : Detention) (ops : List ComputeOp) : Detention :=
  ops.foldl (act rex4) s

/-- The accesses of a run: the usage each one was applied at, and its cap. -/
def accesses (rex4 : Bool) (s : Detention) : List ComputeOp → List (ℕ × ℕ)
  | [] => []
  | .access a :: ops =>
    (s.compute.txUsage, s.volatile.capOf a) :: accesses rex4 (act rex4 s (.access a)) ops
  | op :: ops => accesses rex4 (act rex4 s op) ops

/-- What an access allows in total: its cap counts from its usage on, or from
the start of the transaction. -/
def allowance (rex4 : Bool) (access : ℕ × ℕ) : ℕ :=
  if rex4 then access.1 + access.2 else access.2

def lowest (rex4 : Bool) (limit : ℕ) (l : List (ℕ × ℕ)) : ℕ :=
  (l.map (allowance rex4)).foldr min limit

/-- The wrapper of a volatile opcode applies the limit in just this way. -/
theorem applyLimit_instruction (c : Ctx) :
    (VolatileDataExt.applyComputeGasLimit c).limit.computeGas =
      (applyLimit c.limit.rex4 ⟨c.limit.computeGas, c.volatile⟩).compute := by
  unfold VolatileDataExt.applyComputeGasLimit applyLimit
  cases c.volatile.computeGasLimit <;> rfl

section Lowest

variable {rex4 : Bool}

theorem lowest_min (a b : ℕ) (l : List (ℕ × ℕ)) :
    lowest rex4 (min a b) l = min a (lowest rex4 b l) := by
  induction l with
  | nil => rfl
  | cons x l ih =>
    simp only [lowest, List.map_cons, List.foldr_cons] at *
    rw [ih]
    exact min_left_comm _ _ _

theorem lowest_le (limit : ℕ) (l : List (ℕ × ℕ)) : lowest rex4 limit l ≤ limit := by
  induction l with
  | nil => exact le_rfl
  | cons x l ih => exact le_trans (min_le_right _ _) ih

theorem lowest_perm {limit : ℕ} {l l' : List (ℕ × ℕ)}
    (h : (l.map (allowance rex4)).Perm (l'.map (allowance rex4))) :
    lowest rex4 limit l = lowest rex4 limit l' :=
  h.foldr_eq' (fun x _ y _ z => min_left_comm y x z) limit

end Lowest

/-- What every operation of a transaction keeps. The last field says that the
recorded cap has been applied: it allows no less than the detained limit. -/
structure Tracked (rex4 : Bool) (s : Detention) : Prop where
  persistent : s.compute.Persistent
  unrefunded : s.compute.frameTracker.txEntry.refund = 0
  u64 : rex4 = true → s.compute.detainedLimit ≤ u64Max
  applied : ∀ cap ∈ s.volatile.computeGasLimit,
    s.compute.detainedLimit ≤ allowance rex4 (s.compute.txUsage, cap)

section Usage

theorem totalRefund_eq_zero {t : ComputeGasTracker} (hp : t.Persistent)
    (hr : t.frameTracker.txEntry.refund = 0) : t.frameTracker.totalRefund = 0 := by
  rw [FrameLimitTracker.totalRefund, hr, Nat.zero_add]
  apply List.sum_eq_zero
  intro n hn
  obtain ⟨e, he, rfl⟩ := List.mem_map.1 hn
  exact (hp e he).2

theorem txUsage_recordGasUsed {t : ComputeGasTracker} (hp : t.Persistent)
    (hr : t.frameTracker.txEntry.refund = 0) (gas : ℕ) :
    (t.recordGasUsed gas).txUsage = t.txUsage + gas := by
  have hz := totalRefund_eq_zero hp hr
  obtain ⟨d, tx, stack⟩ := t
  cases stack with
  | nil =>
    simp only [FrameLimitTracker.totalRefund] at hz
    simp only [txUsage, recordGasUsed, FrameLimitTracker.hasActiveFrame,
      FrameLimitTracker.netUsage, FrameLimitTracker.totalUsed, FrameLimitTracker.totalRefund,
      FrameLimitTracker.modifyTx, FrameLimitEntry.used]
    simp at *
    omega
  | cons e rest =>
    simp only [FrameLimitTracker.totalRefund] at hz
    simp only [txUsage, recordGasUsed, FrameLimitTracker.hasActiveFrame,
      FrameLimitTracker.netUsage, FrameLimitTracker.totalUsed, FrameLimitTracker.totalRefund,
      FrameLimitTracker.modifyFrame, FrameLimitEntry.used]
    simp at *
    omega

end Usage

section Step

variable {rex4 : Bool} {s : Detention}

theorem allowance_min (used a b : ℕ) :
    allowance rex4 (used, min a b) = min (allowance rex4 (used, a)) (allowance rex4 (used, b)) := by
  cases rex4 with
  | true =>
    show used + min a b = min (used + a) (used + b)
    omega
  | false => rfl

theorem allowance_mono {used used' : ℕ} (h : used ≤ used') (cap : ℕ) :
    allowance rex4 (used, cap) ≤ allowance rex4 (used', cap) := by
  cases rex4 with
  | true => exact Nat.add_le_add_right h cap
  | false => exact le_rfl

/-- Saturation never shows: the detained limit is a `u64` itself. -/
theorem detainedLimit_setDetainedLimit {t : ComputeGasTracker}
    (h : rex4 = true → t.detainedLimit ≤ u64Max) (cap : ℕ) :
    (t.setDetainedLimit rex4 cap).detainedLimit =
      min t.detainedLimit (allowance rex4 (t.txUsage, cap)) := by
  cases rex4 with
  | true =>
    have hu := h rfl
    simp only [ComputeGasTracker.setDetainedLimit, saturatingAdd, allowance, if_true]
    omega
  | false => rfl

@[simp] theorem applyLimit_frameTracker (s : Detention) :
    (applyLimit rex4 s).compute.frameTracker = s.compute.frameTracker := by
  unfold applyLimit
  cases s.volatile.computeGasLimit <;> rfl

@[simp] theorem applyLimit_volatile (s : Detention) :
    (applyLimit rex4 s).volatile = s.volatile := by
  unfold applyLimit
  cases s.volatile.computeGasLimit <;> rfl

theorem Tracked.reapply (h : Tracked rex4 s) :
    (applyLimit rex4 s).compute.detainedLimit = s.compute.detainedLimit := by
  unfold applyLimit
  split
  · next cap hc =>
    rw [detainedLimit_setDetainedLimit h.u64]
    exact min_eq_left (h.applied cap hc)
  · rfl

theorem Tracked.access (h : Tracked rex4 s) (a : VolatileAccess) :
    (act rex4 s (.access a)).compute.detainedLimit =
      min s.compute.detainedLimit
        (allowance rex4 (s.compute.txUsage, s.volatile.capOf a)) := by
  have hmark := VolatileDataAccessTracker.mark_computeGasLimit s.volatile a
  simp only [act, applyLimit, hmark]
  rw [detainedLimit_setDetainedLimit h.u64]
  cases hc : s.volatile.computeGasLimit with
  | none => rfl
  | some current =>
    show min _ (allowance rex4 (_, min current _)) = _
    rw [allowance_min, ← min_assoc, min_eq_left (h.applied current hc)]

theorem act_txUsage (h : Tracked rex4 s) (op : ComputeOp) :
    (act rex4 s op).compute.txUsage = s.compute.txUsage + op.recorded := by
  cases op with
  | record gas => exact txUsage_recordGasUsed h.persistent h.unrefunded gas
  | push => exact txUsage_pushFrame
  | pop success => exact h.persistent.txUsage_popFrame success
  | access a =>
    simp only [act, ComputeGasTracker.txUsage, applyLimit_frameTracker]
    rfl
  | reapply =>
    simp only [act, ComputeGasTracker.txUsage, applyLimit_frameTracker]
    rfl

theorem act_detainedLimit (h : Tracked rex4 s) (op : ComputeOp) :
    (act rex4 s op).compute.detainedLimit =
      lowest rex4 s.compute.detainedLimit (accesses rex4 s [op]) := by
  cases op with
  | record gas =>
    show (s.compute.recordGasUsed gas).detainedLimit = s.compute.detainedLimit
    unfold recordGasUsed
    split <;> rfl
  | push => rfl
  | pop success => rfl
  | access a =>
    rw [h.access a]
    exact min_comm _ _
  | reapply => exact h.reapply

theorem act_persistent (h : s.compute.Persistent) (op : ComputeOp) :
    (act rex4 s op).compute.Persistent := by
  cases op with
  | record gas => exact h.recordGasUsed gas
  | push => exact h.pushFrame
  | pop success => exact h.popFrame success
  | access a =>
    simp only [act, Persistent, applyLimit_frameTracker]
    exact h
  | reapply =>
    simp only [act, Persistent, applyLimit_frameTracker]
    exact h

theorem act_refund (hp : s.compute.Persistent) (h : s.compute.frameTracker.txEntry.refund = 0)
    (op : ComputeOp) : (act rex4 s op).compute.frameTracker.txEntry.refund = 0 := by
  cases op with
  | record gas =>
    show (s.compute.recordGasUsed gas).frameTracker.txEntry.refund = 0
    unfold recordGasUsed FrameLimitTracker.modifyFrame FrameLimitTracker.modifyTx
    split
    · split <;> exact h
    · exact h
  | push =>
    show (s.compute.frameTracker.pushFrameBy rex4 ()).txEntry.refund = 0
    unfold FrameLimitTracker.pushFrameBy
    split <;> exact h
  | pop success =>
    show (s.compute.frameTracker.popFrame success).txEntry.refund = 0
    unfold FrameLimitTracker.popFrame
    split
    · exact h
    · next child hstack =>
      have hchild := (hp child (by simp [hstack])).2
      simp [FrameLimitEntry.absorb, h, hchild]
    · exact h
  | access a =>
    simp only [act, applyLimit_frameTracker]
    exact h
  | reapply =>
    simp only [act, applyLimit_frameTracker]
    exact h

theorem Tracked.act (h : Tracked rex4 s) (op : ComputeOp) : Tracked rex4 (act rex4 s op) := by
  have hused := act_txUsage h op
  have hdetained := act_detainedLimit h op
  have hle : (Detention.act rex4 s op).compute.detainedLimit ≤ s.compute.detainedLimit := by
    rw [hdetained]
    exact lowest_le _ _
  have hold : ∀ cap ∈ s.volatile.computeGasLimit,
      (Detention.act rex4 s op).compute.detainedLimit ≤
        allowance rex4 ((Detention.act rex4 s op).compute.txUsage, cap) := by
    intro cap hcap
    have hused' : s.compute.txUsage ≤ (Detention.act rex4 s op).compute.txUsage := by omega
    exact hle.trans ((h.applied cap hcap).trans (allowance_mono hused' cap))
  constructor
  · exact act_persistent h.persistent op
  · exact act_refund h.persistent h.unrefunded op
  · exact fun hr => hle.trans (h.u64 hr)
  · intro cap hcap
    cases op with
    | access a =>
      rw [Detention.act, applyLimit_volatile,
        VolatileDataAccessTracker.mark_computeGasLimit] at hcap
      have hnew := h.access a
      have hused' : (Detention.act rex4 s (.access a)).compute.txUsage = s.compute.txUsage :=
        hused
      rw [hused']
      cases hc : s.volatile.computeGasLimit with
      | none =>
        obtain rfl : s.volatile.capOf a = cap := by simpa [hc] using hcap
        rw [hnew]
        exact min_le_right _ _
      | some current =>
        obtain rfl : min current (s.volatile.capOf a) = cap := by simpa [hc] using hcap
        have hcurrent := hold current hc
        rw [hused'] at hcurrent
        rw [allowance_min, hnew] at *
        exact le_min hcurrent (min_le_right _ _)
    | reapply =>
      rw [Detention.act, applyLimit_volatile] at hcap
      exact hold cap hcap
    | record gas => exact hold cap hcap
    | push => exact hold cap hcap
    | pop success => exact hold cap hcap

end Step

section Runs

variable {rex4 : Bool} {s : Detention}

theorem accesses_cons (s : Detention) (op : ComputeOp) (ops : List ComputeOp) :
    accesses rex4 s (op :: ops) = accesses rex4 s [op] ++ accesses rex4 (act rex4 s op) ops := by
  cases op <;> rfl

theorem lowest_append (limit : ℕ) (l l' : List (ℕ × ℕ)) :
    lowest rex4 limit (l ++ l') = lowest rex4 (lowest rex4 limit l) l' := by
  induction l generalizing limit with
  | nil => rfl
  | cons x l ih =>
    have hx : lowest rex4 limit (x :: l) = min (allowance rex4 x) (lowest rex4 limit l) := rfl
    rw [hx, lowest_min, ← ih]
    rfl

theorem Tracked.run (h : Tracked rex4 s) (ops : List ComputeOp) :
    Tracked rex4 (run rex4 s ops) := by
  induction ops generalizing s with
  | nil => exact h
  | cons op ops ih => exact ih (h.act op)

theorem run_txUsage (h : Tracked rex4 s) (ops : List ComputeOp) :
    (run rex4 s ops).compute.txUsage =
      s.compute.txUsage + (ops.map ComputeOp.recorded).sum := by
  induction ops generalizing s with
  | nil => rfl
  | cons op ops ih =>
    have hrest := ih (h.act op)
    rw [act_txUsage h op] at hrest
    show (Detention.run rex4 (Detention.act rex4 s op) ops).compute.txUsage = _
    rw [hrest, List.map_cons, List.sum_cons, Nat.add_assoc]

theorem run_detainedLimit (h : Tracked rex4 s) (ops : List ComputeOp) :
    (run rex4 s ops).compute.detainedLimit =
      lowest rex4 s.compute.detainedLimit (accesses rex4 s ops) := by
  induction ops generalizing s with
  | nil => rfl
  | cons op ops ih =>
    have hrest := ih (h.act op)
    rw [act_detainedLimit h op] at hrest
    rw [accesses_cons, lowest_append]
    exact hrest

theorem start_tracked (spec : MegaSpecId) {t : ComputeGasTracker}
    (h64 : t.frameTracker.txLimit ≤ u64Max) (v : VolatileDataAccessTracker) :
    Tracked (spec.isEnabled .rex4) (start spec t v) := by
  constructor
  · intro e he
    exact absurd he (List.not_mem_nil)
  · rfl
  · intro hr
    have h1 : spec.isEnabled .rex1 = true := MegaSpecId.isEnabled_mono (by decide) hr
    simp only [start, ComputeGasTracker.reset, h1, if_true]
    exact h64
  · intro cap hcap
    exact absurd hcap (by simp [start, VolatileDataAccessTracker.reset])

/-- The detained limit of a transaction in closed form. Frames that revert keep
their compute gas, and the recorded cap, applied again at any time, never
loosens or tightens the limit. -/
theorem detained_limit_closed_form (spec : MegaSpecId) (t : ComputeGasTracker)
    (v : VolatileDataAccessTracker) (h64 : t.frameTracker.txLimit ≤ u64Max)
    (ops : List ComputeOp) :
    let rex4 := spec.isEnabled .rex4
    let s := start spec t v
    (run rex4 s ops).compute.txUsage = (ops.map ComputeOp.recorded).sum ∧
      (∀ later, (run rex4 s (ops ++ later)).compute.detainedLimit ≤
        (run rex4 s ops).compute.detainedLimit) ∧
      (spec.isEnabled .rex4 = true → (run rex4 s ops).compute.detainedLimit =
        ((accesses rex4 s ops).map fun access => access.1 + access.2).foldr min
          t.frameTracker.txLimit) ∧
      (spec.isEnabled .rex4 = false → (run rex4 s ops).compute.detainedLimit =
        ((accesses rex4 s ops).map Prod.snd).foldr min s.compute.detainedLimit) ∧
      ∀ ops', ((accesses rex4 s ops').map (allowance rex4)).Perm
          ((accesses rex4 s ops).map (allowance rex4)) →
        (run rex4 s ops').compute.detainedLimit = (run rex4 s ops).compute.detainedLimit := by
  intro rex4 s
  have hs : Tracked rex4 s := start_tracked spec h64 v
  refine ⟨?_, ?_, ?_, ?_, ?_⟩
  · have hzero : s.compute.txUsage = 0 := rfl
    rw [run_txUsage hs, hzero, Nat.zero_add]
  · intro later
    have hsplit : run rex4 s (ops ++ later) = run rex4 (run rex4 s ops) later :=
      List.foldl_append
    rw [hsplit, run_detainedLimit (hs.run ops)]
    exact lowest_le _ _
  · intro hr
    have h1 : spec.isEnabled .rex1 = true := MegaSpecId.isEnabled_mono (by decide) hr
    have hlimit : s.compute.detainedLimit = t.frameTracker.txLimit := by
      show (if spec.isEnabled .rex1 then t.frameTracker.txLimit else t.detainedLimit) = _
      rw [h1, if_pos rfl]
    have hallow : allowance rex4 = fun access => access.1 + access.2 := by
      ext access
      show (if spec.isEnabled .rex4 then _ else _) = _
      rw [hr, if_pos rfl]
    rw [run_detainedLimit hs, lowest, hlimit, hallow]
  · intro hr
    have hallow : allowance rex4 = Prod.snd := by
      ext access
      show (if spec.isEnabled .rex4 then _ else _) = _
      rw [hr, if_neg Bool.false_ne_true]
    rw [run_detainedLimit hs, lowest, hallow]
  · intro ops' hperm
    rw [run_detainedLimit hs, run_detainedLimit hs]
    exact lowest_perm hperm

/-- A timestamp at usage 10 with cap 100, then at usage 60 an oracle read with
cap 20 in a frame that reverts: the later and smaller cap decides. -/
theorem detained_limit_closed_form_oracle :
    let v := VolatileDataAccessTracker.new 100 20
    let ops : List ComputeOp := [.push, .record 10, .access (.blockEnv .timestamp), .record 50,
      .push, .access .oracle, .pop false, .record 5, .reapply]
    (run true (start .rex4 (.new 1000) v) ops).compute.detainedLimit = 80 ∧
      (run true (start .rex4 (.new 1000) v) ops).compute.txUsage = 65 := by
  intro v ops
  have h := detained_limit_closed_form .rex4 (.new 1000) v (by decide) ops
  constructor
  · apply (h.2.2.1 rfl).trans
    decide
  · apply h.1.trans
    rfl

end Runs

end Detention

end MegaEvm
