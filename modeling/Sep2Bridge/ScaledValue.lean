import Mathlib.Algebra.Ring.Int.Defs

/-!
# Scaled values

`scaled_value.rs`: an integer with a power of ten attached, and how it moves to another power.
The arithmetic is that of `i64`: powers and products saturate.
-/

namespace Sep2Bridge

/-- The largest `i64`. -/
def i64Max : Int := 2 ^ 63 - 1

/-- Saturation to the range of `i64`. -/
def saturateI64 (x : Int) : Int := max (-(2 ^ 63)) (min i64Max x)

/-- The integer types a scaled value can hold. -/
class ScaledValueInner (T : Type) where
  toInt : T → Int
  tryFrom : Int → Option T
  minValue : T
  maxValue : T

instance : ScaledValueInner UInt16 where
  toInt value := value.toNat
  tryFrom x := if 0 ≤ x ∧ x < 2 ^ 16 then some (.ofNat x.toNat) else none
  minValue := 0
  maxValue := 65535

instance : ScaledValueInner Int16 where
  toInt := Int16.toInt
  tryFrom x := if -2 ^ 15 ≤ x ∧ x < 2 ^ 15 then some (.ofInt x) else none
  minValue := Int16.minValue
  maxValue := Int16.maxValue

instance : ScaledValueInner UInt32 where
  toInt value := value.toNat
  tryFrom x := if 0 ≤ x ∧ x < 2 ^ 32 then some (.ofNat x.toNat) else none
  minValue := 0
  maxValue := 4294967295

instance : ScaledValueInner Int32 where
  toInt := Int32.toInt
  tryFrom x := if -2 ^ 31 ≤ x ∧ x < 2 ^ 31 then some (.ofInt x) else none
  minValue := Int32.minValue
  maxValue := Int32.maxValue

/-- A value with a scale factor, the power of ten attached to it. -/
@[ext] structure ScaledValue (T : Type) where
  value : T
  sf : Int16
  deriving DecidableEq

/-- Narrow to the value type, capped at its bounds rather than wrapped. -/
def saturatingFromI64 (T : Type) [ScaledValueInner T] (value : Int) : T :=
  match ScaledValueInner.tryFrom value with
  | some value => value
  | none => if value > 0 then ScaledValueInner.maxValue else ScaledValueInner.minValue

namespace ScaledValue

variable {T : Type} [ScaledValueInner T]

/-- Rescale to `targetSf`. A coarser scale rounds to the nearest value, a half step away from
zero; a finer one is capped. -/
def rescale (self : ScaledValue T) (targetSf : Int16) : ScaledValue T :=
  let sfDifference := self.sf.toInt - targetSf.toInt
  if sfDifference = 0 then self
  else
    let value := ScaledValueInner.toInt self.value
    let factor := min i64Max (10 ^ sfDifference.natAbs)
    let scaled :=
      if sfDifference > 0 then saturateI64 (value * factor)
      else
        -- Rounding is a nudge by half a step before the truncating division.
        let halfStep := factor.tdiv 2
        let nudge := if value < 0 then -halfStep else halfStep
        (value + nudge).tdiv factor
    ⟨saturatingFromI64 T scaled, targetSf⟩

theorem sf_rescale (self : ScaledValue T) (targetSf : Int16) :
    (self.rescale targetSf).sf = targetSf := by
  unfold rescale
  by_cases h : self.sf.toInt - targetSf.toInt = 0
  · rw [if_pos h]
    exact Int16.toInt_inj.1 (Int.sub_eq_zero.1 h)
  · rw [if_neg h]

end ScaledValue

example : ((⟨2450, -2⟩ : ScaledValue UInt16).rescale 0).value = 25 := by decide

example : ((⟨-2450, -2⟩ : ScaledValue Int16).rescale 0).value = -25 := by decide

example : ((⟨700, 0⟩ : ScaledValue UInt16).rescale (-2)).value = 65535 := by decide

end Sep2Bridge
