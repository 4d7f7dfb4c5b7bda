import Mathlib.Algebra.Order.Ring.Int
import Mathlib.Tactic.Linarith

/-!
# Checked arithmetic

The operations on signed integers of `w` bits as partial functions: `none` where the exact
result leaves the range or a divisor is zero. A computation that is `some` has met neither.
-/

namespace Lib

/-- The signed integers of `w + 1` bits. -/
def InBits (w : Nat) (x : Int) : Prop := -2 ^ w ≤ x ∧ x < 2 ^ w

instance (w : Nat) (x : Int) : Decidable (InBits w x) := instDecidableAnd

/-- A result, unless it leaves the range. -/
def checked (w : Nat) (x : Int) : Option Int := if InBits w x then some x else none

theorem checked_eq_some {w : Nat} {x : Int} (h : InBits w x) : checked w x = some x := if_pos h

def checkedAdd (w : Nat) (x y : Int) : Option Int := checked w (x + y)

def checkedSub (w : Nat) (x y : Int) : Option Int := checked w (x - y)

def checkedNeg (w : Nat) (x : Int) : Option Int := checked w (-x)

/-- The truncating quotient, unless the divisor is zero or the quotient leaves the range. -/
def checkedDiv (w : Nat) (x y : Int) : Option Int := if y = 0 then none else checked w (x.tdiv y)

/-- The remainder of the truncating quotient, which overflows where the quotient does. -/
def checkedMod (w : Nat) (x y : Int) : Option Int :=
  if y = 0 ∨ ¬InBits w (x.tdiv y) then none else some (x.tmod y)

variable {w : Nat} {x y : Int}

/-- A positive divisor never takes the quotient out of the range. -/
theorem InBits.tdiv (hx : InBits w x) (hy : 0 < y) : InBits w (x.tdiv y) := by
  have habs : (x.tdiv y).natAbs ≤ x.natAbs := by
    rw [Int.natAbs_tdiv]
    exact Nat.div_le_self _ _
  unfold InBits at *
  by_cases hneg : x < 0
  · have hnonneg : 0 ≤ (-x).tdiv y := Int.tdiv_nonneg (by omega) hy.le
    rw [Int.neg_tdiv] at hnonneg
    omega
  · have hnonneg : 0 ≤ x.tdiv y := Int.tdiv_nonneg (by omega) hy.le
    omega

theorem checkedDiv_eq_some (hx : InBits w x) (hy : 0 < y) : checkedDiv w x y = some (x.tdiv y) := by
  rw [checkedDiv, if_neg hy.ne', checked_eq_some (hx.tdiv hy)]

theorem checkedMod_eq_some (hx : InBits w x) (hy : 0 < y) : checkedMod w x y = some (x.tmod y) := by
  rw [checkedMod, if_neg]
  simp only [not_or, not_not]
  exact ⟨hy.ne', hx.tdiv hy⟩

end Lib
