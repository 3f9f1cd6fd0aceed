import MegaEvm.Interpreter
import Mathlib.Tactic.Ring

/-!
# Limit checks and their wire form

A limit check names the resource, the limit, the usage and whether the exceed
is absorbed at a frame boundary. A frame-local exceed travels to the parent as
the ABI encoding of `MegaLimitExceeded(uint8 kind, uint64 limit)`.
-/

set_option autoImplicit false

namespace MegaEvm

inductive LimitKind where
  | dataSize
  | kvUpdate
  | computeGas
  | stateGrowth
  deriving DecidableEq, Repr

def LimitKind.asU8 : LimitKind → ℕ
  | dataSize => 0
  | kvUpdate => 1
  | computeGas => 2
  | stateGrowth => 3

inductive MegaHaltReason where
  | base (reason : InstructionResult)
  | failedDeposit
  | dataLimitExceeded (limit actual : ℕ)
  | kvUpdateLimitExceeded (limit actual : ℕ)
  | computeGasLimitExceeded (limit actual : ℕ)
  | stateGrowthLimitExceeded (limit actual : ℕ)
  | volatileDataAccessOutOfGas (accessType limit actual : ℕ)
  deriving DecidableEq, Repr

def beBytes : ℕ → ℕ → Bytes
  | 0, _ => []
  | n + 1, v => UInt8.ofNat (v / 256 ^ n) :: beBytes n v

def abiWord (v : ℕ) : Bytes := beBytes 32 v

def megaLimitExceededSelector : Bytes := [0x84, 0xb9, 0x02, 0x67]

def megaLimitExceeded (kind limit : ℕ) : Bytes :=
  megaLimitExceededSelector ++ abiWord kind ++ abiWord limit

inductive LimitCheck where
  | withinLimit
  | exceedsLimit (kind : LimitKind) (limit used : ℕ) (frameLocal : Bool)
  deriving DecidableEq, Repr

namespace LimitCheck

def exceededLimit : LimitCheck → Bool
  | withinLimit => false
  | exceedsLimit .. => true

def isFrameLocal : LimitCheck → Bool
  | exceedsLimit _ _ _ true => true
  | _ => false

def revertData : LimitCheck → Bytes
  | exceedsLimit kind limit _ _ => megaLimitExceeded kind.asU8 limit
  | withinLimit => []

def maybeHaltReason : LimitCheck → Option MegaHaltReason
  | exceedsLimit .dataSize limit used _ => some (.dataLimitExceeded limit used)
  | exceedsLimit .kvUpdate limit used _ => some (.kvUpdateLimitExceeded limit used)
  | exceedsLimit .computeGas limit used _ => some (.computeGasLimitExceeded limit used)
  | exceedsLimit .stateGrowth limit used _ => some (.stateGrowthLimitExceeded limit used)
  | withinLimit => none

@[simp] theorem exceededLimit_withinLimit : exceededLimit withinLimit = false := rfl
@[simp] theorem exceededLimit_exceedsLimit (k : LimitKind) (l u : ℕ) (f : Bool) :
    exceededLimit (exceedsLimit k l u f) = true := rfl
@[simp] theorem isFrameLocal_withinLimit : isFrameLocal withinLimit = false := rfl
@[simp] theorem isFrameLocal_exceedsLimit (k : LimitKind) (l u : ℕ) (f : Bool) :
    isFrameLocal (exceedsLimit k l u f) = f := by
  cases f <;> rfl

theorem exceededLimit_eq_false {c : LimitCheck} :
    c.exceededLimit = false ↔ c = withinLimit := by
  cases c <;> simp

theorem exceeded_of_frameLocal {c : LimitCheck} (h : c.isFrameLocal = true) :
    c.exceededLimit = true := by
  cases c <;> simp_all

/-- Every exceed has a halt reason, so the `expect` in `execution_result` holds. -/
theorem maybeHaltReason_isSome (c : LimitCheck) :
    c.maybeHaltReason.isSome = c.exceededLimit := by
  cases c with
  | withinLimit => rfl
  | exceedsLimit kind => cases kind <;> rfl

end LimitCheck

def ofBeBytes : Bytes → ℕ
  | [] => 0
  | b :: bs => b.toNat * 256 ^ bs.length + ofBeBytes bs

@[simp] theorem beBytes_length (n v : ℕ) : (beBytes n v).length = n := by
  induction n with
  | zero => rfl
  | succ n ih => simp [beBytes, ih]

theorem ofBeBytes_beBytes (n v : ℕ) : ofBeBytes (beBytes n v) = v % 256 ^ n := by
  induction n with
  | zero => simp [beBytes, ofBeBytes, Nat.mod_one]
  | succ n ih =>
    have hb : (UInt8.ofNat (v / 256 ^ n)).toNat = v / 256 ^ n % 256 := by
      simp [UInt8.toNat_ofNat']
    rw [beBytes, ofBeBytes, ih, hb, beBytes_length, Nat.pow_succ, Nat.mod_mul]
    ring

theorem abiWord_injective {v w : ℕ} (hv : v < 256 ^ 32) (hw : w < 256 ^ 32)
    (h : abiWord v = abiWord w) : v = w := by
  have hm := congrArg ofBeBytes h
  simp only [abiWord, ofBeBytes_beBytes] at hm
  rwa [Nat.mod_eq_of_lt hv, Nat.mod_eq_of_lt hw] at hm

theorem megaLimitExceeded_injective {k k' : LimitKind} {l l' : ℕ}
    (hl : l ≤ u64Max) (hl' : l' ≤ u64Max)
    (h : megaLimitExceeded k.asU8 l = megaLimitExceeded k'.asU8 l') : k = k' ∧ l = l' := by
  have hsplit := List.append_inj h (by simp [abiWord])
  have hkind := abiWord_injective (by cases k <;> decide) (by cases k' <;> decide)
    (List.append_cancel_left hsplit.1)
  have hlt : u64Max < 256 ^ 32 := by decide
  refine ⟨?_, abiWord_injective (by omega) (by omega) hsplit.2⟩
  cases k <;> cases k' <;> simp_all [LimitKind.asU8]

end MegaEvm
