import Mathlib.Algebra.Group.Nat.Defs

/-!
# Saturating 64-bit counters

A counter is a natural number that stops at the largest unsigned 64-bit value.
Saturating subtraction needs no definition of its own: it is subtraction of
natural numbers.
-/

namespace LiteVpn.Semantics

/-- The largest unsigned 64-bit value. -/
def maxU64 : Nat := 2 ^ 64 - 1

/-- Addition that stops at the largest value. -/
def saturatingAdd (value extra : Nat) : Nat := min (value + extra) maxU64

theorem saturatingAdd_le_max (value extra : Nat) : saturatingAdd value extra ≤ maxU64 :=
  Nat.min_le_right _ _

/-- Below the limit the counter is exact. -/
theorem saturatingAdd_of_le {value extra : Nat} (fits : value + extra ≤ maxU64) :
    saturatingAdd value extra = value + extra :=
  Nat.min_eq_left fits

/-- Two additions saturate like one. -/
theorem saturatingAdd_min (value extra : Nat) :
    saturatingAdd (min value maxU64) extra = min (value + extra) maxU64 := by
  unfold saturatingAdd
  omega

end LiteVpn.Semantics
