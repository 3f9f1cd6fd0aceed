import Mathlib.Algebra.Group.Nat.Defs
import Mathlib.Data.Nat.Basic
import Mathlib.Order.Basic

/-!
# Specs, constants and runtime limits

The version ladder of the EVM, the constants its metering uses, and the
runtime limits each version starts from. A `u64` is a natural number; where
the source saturates or truncates, the definition does so explicitly.
-/

set_option autoImplicit false

namespace MegaEvm

def u64Max : ℕ := 2 ^ 64 - 1

def saturatingAdd (a b : ℕ) : ℕ := min (a + b) u64Max

inductive MegaSpecId where
  | equivalence
  | miniRex
  | rex
  | rex1
  | rex2
  | rex3
  | rex4
  deriving DecidableEq, Repr

namespace MegaSpecId

def toNat : MegaSpecId → ℕ
  | equivalence => 0
  | miniRex => 1
  | rex => 2
  | rex1 => 3
  | rex2 => 4
  | rex3 => 5
  | rex4 => 6

def isEnabled (self other : MegaSpecId) : Bool := decide (other.toNat ≤ self.toNat)

theorem isEnabled_mono {s a b : MegaSpecId} (hab : a.toNat ≤ b.toNat)
    (h : s.isEnabled b = true) : s.isEnabled a = true := by
  simp only [isEnabled, decide_eq_true_eq] at *
  omega

theorem isEnabled_rex4 (s : MegaSpecId) : s.isEnabled rex4 = true ↔ s = rex4 := by
  cases s <;> decide

end MegaSpecId

namespace constants

def CALL_STIPEND : ℕ := 2300
def CODEDEPOSIT : ℕ := 200
def CALL_STACK_LIMIT : ℕ := 1024
def STANDARD_TOKEN_COST : ℕ := 4
def TOTAL_COST_FLOOR_PER_TOKEN : ℕ := 10
def LOGDATA : ℕ := 8
def LOGTOPIC : ℕ := 375

def MAX_CONTRACT_SIZE : ℕ := 512 * 1024
def CODEDEPOSIT_STORAGE_GAS : ℕ := 10000
def LOG_DATA_STORAGE_GAS : ℕ := LOGDATA * 10
def LOG_TOPIC_STORAGE_GAS : ℕ := LOGTOPIC * 10
def CALLDATA_STANDARD_TOKEN_STORAGE_GAS : ℕ := STANDARD_TOKEN_COST * 10
def TX_INTRINSIC_STORAGE_GAS : ℕ := 39000
def KEYLESS_DEPLOY_OVERHEAD_GAS : ℕ := 100000

def FRAME_LIMIT_NUMERATOR : ℕ := 98
def FRAME_LIMIT_DENOMINATOR : ℕ := 100

def BASE_TX_SIZE : ℕ := 110
def AUTHORIZATION_SIZE : ℕ := 101
def LOG_TOPIC_SIZE : ℕ := 32
def ACCOUNT_INFO_WRITE_SIZE : ℕ := 40
def STORAGE_SLOT_WRITE_SIZE : ℕ := 40

end constants

abbrev Address := ℕ

def MEGA_SYSTEM_ADDRESS : Address := 0xA887dCB9D5f39Ef79272801d05Abdf707CFBbD1d
def ORACLE_CONTRACT_ADDRESS : Address := 0x6342000000000000000000000000000000000001
def KEYLESS_DEPLOY_ADDRESS : Address := 0x6342000000000000000000000000000000000003
def ACCESS_CONTROL_ADDRESS : Address := 0x6342000000000000000000000000000000000004
def LIMIT_CONTROL_ADDRESS : Address := 0x6342000000000000000000000000000000000005

structure EvmTxRuntimeLimits where
  txDataSizeLimit : ℕ
  txKvUpdatesLimit : ℕ
  txComputeGasLimit : ℕ
  txStateGrowthLimit : ℕ
  blockEnvAccessComputeGasLimit : ℕ
  oracleAccessComputeGasLimit : ℕ
  deriving DecidableEq, Repr

namespace EvmTxRuntimeLimits

def noLimits : EvmTxRuntimeLimits where
  txDataSizeLimit := u64Max
  txKvUpdatesLimit := u64Max
  txComputeGasLimit := u64Max
  txStateGrowthLimit := u64Max
  blockEnvAccessComputeGasLimit := u64Max
  oracleAccessComputeGasLimit := u64Max

def equivalence : EvmTxRuntimeLimits := noLimits

def miniRex : EvmTxRuntimeLimits :=
  { equivalence with
    txDataSizeLimit := (12 * 1024 * 1024 + 512 * 1024) * 25 / 100
    txKvUpdatesLimit := 500000 * 25 / 100
    txComputeGasLimit := 1000000000
    blockEnvAccessComputeGasLimit := 20000000
    oracleAccessComputeGasLimit := 1000000 }

def rex : EvmTxRuntimeLimits where
  txDataSizeLimit := 12 * 1024 * 1024 + 512 * 1024
  txKvUpdatesLimit := 500000
  txComputeGasLimit := 200000000
  txStateGrowthLimit := 1000
  blockEnvAccessComputeGasLimit := 20000000
  oracleAccessComputeGasLimit := 1000000

def rex3 : EvmTxRuntimeLimits := { rex with oracleAccessComputeGasLimit := 20000000 }

def rex4 : EvmTxRuntimeLimits := rex3

def fromSpec : MegaSpecId → EvmTxRuntimeLimits
  | .equivalence => equivalence
  | .miniRex => miniRex
  | .rex | .rex1 | .rex2 => rex
  | .rex3 => rex3
  | .rex4 => rex4

end EvmTxRuntimeLimits

end MegaEvm
