import Sep2Bridge.ScaledValue
import Sep2Bridge.Lib.Rounding
import Mathlib.Order.MinMax

/-!
# What rescaling computes

The value of a rescaled `ScaledValue` is the value times the power of ten between the two scale
factors, rounded to the nearest integer and clamped to the type (`toInt_value_rescale`). The
saturation of the `i64` arithmetic in between never shows: the bounds of every type lie well
inside those of `i64`.
-/

namespace Sep2Bridge

open Lib ScaledValueInner

/-- What Rust guarantees of the integer types a scaled value can hold. -/
class LawfulScaledValueInner (T : Type) [ScaledValueInner T] : Prop where
  toInt_injective : Function.Injective (toInt : T → Int)
  toInt_of_tryFrom {x : Int} {value : T} : tryFrom x = some value → toInt value = x
  tryFrom_eq_none {x : Int} :
    (tryFrom x : Option T) = none → x < toInt (minValue : T) ∨ toInt (maxValue : T) < x
  minValue_le (value : T) : toInt (minValue : T) ≤ toInt value
  le_maxValue (value : T) : toInt value ≤ toInt (maxValue : T)
  neg_le_minValue : -2 ^ 32 ≤ toInt (minValue : T)
  minValue_nonpos : toInt (minValue : T) ≤ 0
  maxValue_pos : 0 < toInt (maxValue : T)
  maxValue_lt : toInt (maxValue : T) < 2 ^ 32

open LawfulScaledValueInner

instance : LawfulScaledValueInner UInt16 where
  toInt_injective a b h := UInt16.toNat_inj.1 (Int.ofNat_inj.1 h)
  toInt_of_tryFrom {x value} h := by
    simp only [tryFrom, Option.ite_none_right_eq_some, Option.some.injEq] at h
    obtain ⟨hx, rfl⟩ := h
    simp only [toInt, UInt16.toNat_ofNat']
    omega
  tryFrom_eq_none {x} h := by
    have hx : ¬(0 ≤ x ∧ x < 2 ^ 16) := by simpa [tryFrom] using h
    show x < 0 ∨ 65535 < x
    omega
  minValue_le value := Int.natCast_nonneg _
  le_maxValue value := by
    have h := value.toNat_lt
    show (value.toNat : Int) ≤ 65535
    omega
  neg_le_minValue := by decide
  minValue_nonpos := by decide
  maxValue_pos := by decide
  maxValue_lt := by decide

instance : LawfulScaledValueInner UInt32 where
  toInt_injective a b h := UInt32.toNat_inj.1 (Int.ofNat_inj.1 h)
  toInt_of_tryFrom {x value} h := by
    simp only [tryFrom, Option.ite_none_right_eq_some, Option.some.injEq] at h
    obtain ⟨hx, rfl⟩ := h
    simp only [toInt, UInt32.toNat_ofNat']
    omega
  tryFrom_eq_none {x} h := by
    have hx : ¬(0 ≤ x ∧ x < 2 ^ 32) := by simpa [tryFrom] using h
    show x < 0 ∨ 4294967295 < x
    omega
  minValue_le value := Int.natCast_nonneg _
  le_maxValue value := by
    have h := value.toNat_lt
    show (value.toNat : Int) ≤ 4294967295
    omega
  neg_le_minValue := by decide
  minValue_nonpos := by decide
  maxValue_pos := by decide
  maxValue_lt := by decide

instance : LawfulScaledValueInner Int16 where
  toInt_injective a b h := Int16.toInt_inj.1 h
  toInt_of_tryFrom {x value} h := by
    simp only [tryFrom, Option.ite_none_right_eq_some, Option.some.injEq] at h
    obtain ⟨hx, rfl⟩ := h
    exact Int16.toInt_ofInt_of_le hx.1 hx.2
  tryFrom_eq_none {x} h := by
    have hx : ¬(-2 ^ 15 ≤ x ∧ x < 2 ^ 15) := by simpa [tryFrom] using h
    show x < -32768 ∨ 32767 < x
    omega
  minValue_le value := value.minValue_le_toInt
  le_maxValue value := value.toInt_le
  neg_le_minValue := by decide
  minValue_nonpos := by decide
  maxValue_pos := by decide
  maxValue_lt := by decide

instance : LawfulScaledValueInner Int32 where
  toInt_injective a b h := Int32.toInt_inj.1 h
  toInt_of_tryFrom {x value} h := by
    simp only [tryFrom, Option.ite_none_right_eq_some, Option.some.injEq] at h
    obtain ⟨hx, rfl⟩ := h
    exact Int32.toInt_ofInt_of_le hx.1 hx.2
  tryFrom_eq_none {x} h := by
    have hx : ¬(-2 ^ 31 ≤ x ∧ x < 2 ^ 31) := by simpa [tryFrom] using h
    show x < -2147483648 ∨ 2147483647 < x
    omega
  minValue_le value := value.minValue_le_toInt
  le_maxValue value := value.toInt_le
  neg_le_minValue := by decide
  minValue_nonpos := by decide
  maxValue_pos := by decide
  maxValue_lt := by decide

variable {T : Type} [ScaledValueInner T] [LawfulScaledValueInner T]

/-- An integer, capped at the bounds of the type. -/
def clampTo (T : Type) [ScaledValueInner T] (x : Int) : Int :=
  max (toInt (minValue : T)) (min (toInt (maxValue : T)) x)

theorem clampTo_toInt (value : T) : clampTo T (toInt value) = toInt value := by
  have hmin := minValue_le value
  have hmax := le_maxValue value
  unfold clampTo
  omega

theorem toInt_saturatingFromI64 (x : Int) : toInt (saturatingFromI64 T x) = clampTo T x := by
  unfold saturatingFromI64
  cases h : (tryFrom x : Option T) with
  | some value =>
    rw [← toInt_of_tryFrom h, clampTo_toInt]
  | none =>
    have hout := tryFrom_eq_none h
    have hmin := minValue_nonpos (T := T)
    have hmax := maxValue_pos (T := T)
    unfold clampTo
    by_cases hx : x > 0
    · simp only [hx, ↓reduceIte]
      omega
    · simp only [hx, ↓reduceIte]
      omega

/-- Saturating to `i64` before capping makes no difference. -/
theorem clampTo_saturateI64 (x : Int) : clampTo T (saturateI64 x) = clampTo T x := by
  have hmin := neg_le_minValue (T := T)
  have hmin' := minValue_nonpos (T := T)
  have hmax := maxValue_pos (T := T)
  have hmax' := maxValue_lt (T := T)
  unfold clampTo saturateI64 i64Max
  omega

/-- A power of ten past the range of `i64` caps a product in the same way as its bound does. -/
theorem clampTo_mul_min (value : Int) (factor : Int) :
    clampTo T (value * min i64Max factor) = clampTo T (value * factor) := by
  have hmin := neg_le_minValue (T := T)
  have hmin' := minValue_nonpos (T := T)
  have hmax := maxValue_pos (T := T)
  have hmax' := maxValue_lt (T := T)
  by_cases hle : factor ≤ i64Max
  · rw [min_eq_right hle]
  · have hlt : i64Max < factor := not_le.1 hle
    rw [min_eq_left hlt.le]
    unfold clampTo
    rcases lt_trichotomy value 0 with hneg | rfl | hpos
    · have h1 : value * i64Max ≤ -i64Max := by nlinarith [show 0 < i64Max by decide]
      have h2 : value * factor ≤ -i64Max := by nlinarith [show 0 < i64Max by decide]
      unfold i64Max at *
      omega
    · rw [zero_mul, zero_mul]
    · have h1 : i64Max ≤ value * i64Max := by nlinarith [show 0 < i64Max by decide]
      have h2 : i64Max ≤ value * factor := by nlinarith [show 0 < i64Max by decide]
      unfold i64Max at *
      omega

/-- What fits in 33 bits is rounded away by every divisor from `i64::MAX` on. -/
theorem roundHalfAway_div_min {value : Int} (hlo : -2 ^ 32 ≤ value) (hhi : value < 2 ^ 32)
    (factor : Int) :
    roundHalfAway (value / (min i64Max factor : Int)) = roundHalfAway (value / factor) := by
  have small : ∀ f : Int, i64Max ≤ f → roundHalfAway ((value : ℚ) / f) = 0 := by
    intro f hf
    refine roundHalfAway_eq_zero ?_
    have hfq : ((2 : ℚ) ^ 63 - 1) ≤ f := by exact_mod_cast hf
    have hloq : (-2 ^ 32 : ℚ) ≤ value := by exact_mod_cast hlo
    have hhiq : (value : ℚ) < 2 ^ 32 := by exact_mod_cast hhi
    have hf0 : (0 : ℚ) < f := by linarith
    rw [abs_lt, lt_div_iff₀ hf0, div_lt_iff₀ hf0]
    constructor <;> linarith
  by_cases hle : factor ≤ i64Max
  · rw [min_eq_right hle]
  · have hlt : i64Max < factor := not_le.1 hle
    rw [min_eq_left hlt.le, small _ le_rfl, small _ hlt.le]

/-- The power of ten between two scale factors. -/
def powTen (sf targetSf : Int16) : ℚ := 10 ^ (sf.toInt - targetSf.toInt)

namespace ScaledValue

/-- The number that a scaled value stands for. -/
def toRat (self : ScaledValue T) : ℚ := toInt self.value * 10 ^ self.sf.toInt

/-- A rescaled value is the nearest one on the new scale, capped at the bounds of the type. -/
theorem toInt_value_rescale (self : ScaledValue T) (targetSf : Int16) :
    toInt (self.rescale targetSf).value =
      clampTo T (roundHalfAway (toInt self.value * powTen self.sf targetSf)) := by
  have hlo : -2 ^ 32 ≤ toInt self.value := neg_le_minValue.trans (minValue_le self.value)
  have hhi : toInt self.value < 2 ^ 32 := (le_maxValue self.value).trans_lt maxValue_lt
  unfold rescale powTen
  generalize self.sf.toInt - targetSf.toInt = d
  rcases lt_trichotomy d 0 with hneg | rfl | hpos
  · -- coarser: a division
    obtain ⟨n, rfl⟩ : ∃ n : Nat, d = -n := ⟨d.natAbs, by omega⟩
    have hfactor : 0 < min i64Max (10 ^ n : Int) := lt_min (by decide) (by positivity)
    have hround := roundHalfAway_div (v := toInt self.value) hfactor
    rw [roundHalfAway_div_min hlo hhi] at hround
    simp only [hneg.ne, hneg.not_gt, ↓reduceIte, Int.natAbs_neg, Int.natAbs_natCast,
      toInt_saturatingFromI64, hround]
    rw [zpow_neg, zpow_natCast, Int.cast_pow, ← div_eq_mul_inv]
    rfl
  · simp [clampTo_toInt]
  · -- finer: a product
    obtain ⟨n, rfl⟩ : ∃ n : Nat, d = n := ⟨d.natAbs, by omega⟩
    have hprod : (toInt self.value : ℚ) * 10 ^ (n : ℤ) = (toInt self.value * 10 ^ n : Int) := by
      push_cast
      rw [zpow_natCast]
    rw [hprod, roundHalfAway_intCast]
    simp only [hpos.ne', hpos, ↓reduceIte, Int.natAbs_natCast, toInt_saturatingFromI64,
      clampTo_saturateI64, clampTo_mul_min]

end ScaledValue

end Sep2Bridge
