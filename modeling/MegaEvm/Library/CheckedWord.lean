import Mathlib.Algebra.Group.Nat.Defs

/-!
# Checked machine words

Arithmetic of unsigned words of a given width that answers `none` where the
machine would wrap. A computation that returns a value at all has returned the
value of ordinary arithmetic.
-/

set_option autoImplicit false

namespace CheckedWord

def narrow (width n : ℕ) : Option ℕ := if n < 2 ^ width then some n else none

def add (width a b : ℕ) : Option ℕ := narrow width (a + b)

def mul (width a b : ℕ) : Option ℕ := narrow width (a * b)

def sub (a b : ℕ) : Option ℕ := if b ≤ a then some (a - b) else none

variable {width a b n : ℕ}

theorem narrow_of_lt (h : n < 2 ^ width) : narrow width n = some n := if_pos h

theorem add_of_lt (h : a + b < 2 ^ width) : add width a b = some (a + b) := narrow_of_lt h

theorem mul_of_lt (h : a * b < 2 ^ width) : mul width a b = some (a * b) := narrow_of_lt h

theorem sub_of_le (h : b ≤ a) : sub a b = some (a - b) := if_pos h

end CheckedWord
