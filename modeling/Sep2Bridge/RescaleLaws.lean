import Sep2Bridge.Rescale
import Sep2Bridge.Lib.Checked

/-!
# The laws of rescaling

`rescale_laws`: for each of the four integer types, rescaling is the exact product with the power
of ten, rounded to the nearest integer with halves away from zero and clamped to the type. No
`i32` or `i64` operation on the way overflows or divides by zero: the reading of `rescale` with
checked arithmetic (`checkedRescale`) always has a result. Rescaling is monotone in the value, and
back from a finer scale it returns the value it started from unless the first step was clamped.
-/

namespace Sep2Bridge

open Lib ScaledValueInner LawfulScaledValueInner

section Checked

variable {T : Type} [ScaledValueInner T]

/-- The coarser branch of `rescale`: a nudge by half a step, then the truncating division. -/
def checkedDivRounded (value factor : Int) : Option Int := do
  let halfStep ← checkedDiv 63 factor 2
  let nudge ← if value < 0 then checkedNeg 63 halfStep else some halfStep
  let nudged ← checkedAdd 63 value nudge
  checkedDiv 63 nudged factor

/-- `rescale` with every operator checked that can overflow or divide by zero. The saturating
ones cannot. -/
def ScaledValue.checkedRescale (self : ScaledValue T) (targetSf : Int16) :
    Option (ScaledValue T) := do
  let sfDifference ← checkedSub 31 self.sf.toInt targetSf.toInt
  if sfDifference = 0 then some self
  else
    let value := toInt self.value
    let factor := min i64Max (10 ^ sfDifference.natAbs)
    let scaled ←
      if sfDifference > 0 then some (saturateI64 (value * factor))
      else checkedDivRounded value factor
    some ⟨saturatingFromI64 T scaled, targetSf⟩

end Checked

/-- What fits in 33 bits is rounded without leaving `i64`. -/
theorem checkedDivRounded_eq_some {value factor : Int} (hlo : -2 ^ 32 ≤ value)
    (hhi : value < 2 ^ 32) (hpos : 0 < factor) (hle : factor ≤ i64Max) :
    checkedDivRounded value factor =
      some ((value + if value < 0 then -factor.tdiv 2 else factor.tdiv 2).tdiv factor) := by
  unfold i64Max at hle
  have hhalf : factor.tdiv 2 = factor / 2 := Int.tdiv_eq_ediv_of_nonneg hpos.le
  have hfactor : InBits 63 factor := ⟨by omega, by omega⟩
  rw [checkedDivRounded, checkedDiv_eq_some hfactor (by decide)]
  by_cases hv : value < 0
  · have hneg : InBits 63 (-factor.tdiv 2) := ⟨by omega, by omega⟩
    have hsum : InBits 63 (value + -factor.tdiv 2) := ⟨by omega, by omega⟩
    simp only [if_pos hv, Option.bind_eq_bind, Option.bind_some, checkedNeg, checked_eq_some hneg,
      checkedAdd, checked_eq_some hsum, checkedDiv_eq_some hsum hpos]
  · have hsum : InBits 63 (value + factor.tdiv 2) := ⟨by omega, by omega⟩
    simp only [if_neg hv, Option.bind_eq_bind, Option.bind_some, checkedAdd, checked_eq_some hsum,
      checkedDiv_eq_some hsum hpos]

theorem powTen_mul_powTen (sf targetSf : Int16) : powTen sf targetSf * powTen targetSf sf = 1 := by
  unfold powTen
  rw [← zpow_add₀ (by norm_num), sub_add_sub_cancel, sub_self, zpow_zero]

theorem powTen_pos (sf targetSf : Int16) : 0 < powTen sf targetSf := zpow_pos (by norm_num) _

/-- To a finer scale the power of ten is an integer. -/
theorem powTen_of_le {sf targetSf : Int16} (h : targetSf ≤ sf) :
    powTen sf targetSf = (10 ^ (sf.toInt - targetSf.toInt).toNat : Int) := by
  have hle : targetSf.toInt ≤ sf.toInt := Int16.le_iff_toInt_le.1 h
  unfold powTen
  conv_lhs => rw [← Int.toNat_of_nonneg (sub_nonneg.2 hle), zpow_natCast]
  push_cast
  rfl

section Laws

variable {T : Type} [ScaledValueInner T] [LawfulScaledValueInner T]

omit [LawfulScaledValueInner T] in
theorem clampTo_mono {x y : Int} (h : x ≤ y) : clampTo T x ≤ clampTo T y := by
  unfold clampTo
  exact max_le_max le_rfl (min_le_min le_rfl h)

namespace ScaledValue

theorem checkedRescale_eq_some (self : ScaledValue T) (targetSf : Int16) :
    self.checkedRescale targetSf = some (self.rescale targetSf) := by
  have hlo : -2 ^ 32 ≤ toInt self.value := neg_le_minValue.trans (minValue_le self.value)
  have hhi : toInt self.value < 2 ^ 32 := (le_maxValue self.value).trans_lt maxValue_lt
  have hself := And.intro self.sf.le_toInt self.sf.toInt_lt
  have htarget := And.intro targetSf.le_toInt targetSf.toInt_lt
  have hdiff : InBits 31 (self.sf.toInt - targetSf.toInt) := by
    unfold InBits
    omega
  simp only [checkedRescale, rescale, checkedSub, checked_eq_some hdiff, Option.bind_eq_bind,
    Option.bind_some]
  generalize self.sf.toInt - targetSf.toInt = sfDifference
  by_cases hzero : sfDifference = 0
  · rw [if_pos hzero, if_pos hzero]
  · rw [if_neg hzero, if_neg hzero]
    by_cases hpos : sfDifference > 0
    · rw [if_pos hpos, if_pos hpos]
    · have hfactor : 0 < min i64Max (10 ^ sfDifference.natAbs : Int) :=
        lt_min (by decide) (by positivity)
      rw [if_neg hpos, if_neg hpos,
        checkedDivRounded_eq_some hlo hhi hfactor (min_le_left _ _), Option.bind_some]

theorem rescale_monotone (sf targetSf : Int16) {a b : T} (h : toInt a ≤ toInt b) :
    toInt (rescale ⟨a, sf⟩ targetSf).value ≤ toInt (rescale ⟨b, sf⟩ targetSf).value := by
  rw [toInt_value_rescale, toInt_value_rescale]
  have hcast : (toInt a : ℚ) ≤ toInt b := by exact_mod_cast h
  exact clampTo_mono
    (roundHalfAway_mono (mul_le_mul_of_nonneg_right hcast (powTen_pos sf targetSf).le))

/-- Unclamped, the product on a finer scale is exact, and dividing it out again is as well. -/
theorem rescale_rescale_of_finer {self : ScaledValue T} {targetSf : Int16}
    (hfiner : targetSf ≤ self.sf)
    (hfits : clampTo T (roundHalfAway (toInt self.value * powTen self.sf targetSf)) =
      roundHalfAway (toInt self.value * powTen self.sf targetSf)) :
    (self.rescale targetSf).rescale self.sf = self := by
  have hexact : (toInt (self.rescale targetSf).value : ℚ) =
      toInt self.value * powTen self.sf targetSf := by
    rw [toInt_value_rescale, hfits, powTen_of_le hfiner, ← Int.cast_mul, roundHalfAway_intCast]
  have hvalue : ((self.rescale targetSf).rescale self.sf).value = self.value := by
    apply toInt_injective
    rw [toInt_value_rescale, sf_rescale, hexact, mul_assoc, powTen_mul_powTen, mul_one,
      roundHalfAway_intCast, clampTo_toInt]
  have hsf := sf_rescale (self.rescale targetSf) self.sf
  exact ScaledValue.ext hvalue hsf

end ScaledValue

/-- What rescaling promises of a type. -/
structure RescaleLaws (T : Type) [ScaledValueInner T] : Prop where
  /-- No operation on the way overflows or divides by zero. -/
  checked (self : ScaledValue T) (targetSf : Int16) :
    self.checkedRescale targetSf = some (self.rescale targetSf)
  sf (self : ScaledValue T) (targetSf : Int16) : (self.rescale targetSf).sf = targetSf
  value (self : ScaledValue T) (targetSf : Int16) :
    toInt (self.rescale targetSf).value =
      clampTo T (roundHalfAway (toInt self.value * powTen self.sf targetSf))
  monotone (sf targetSf : Int16) (a b : T) : toInt a ≤ toInt b →
    toInt (ScaledValue.rescale ⟨a, sf⟩ targetSf).value ≤
      toInt (ScaledValue.rescale ⟨b, sf⟩ targetSf).value
  /-- There and back over a finer scale, where the first step was not clamped. -/
  finer (self : ScaledValue T) (targetSf : Int16) : targetSf ≤ self.sf →
    clampTo T (roundHalfAway (toInt self.value * powTen self.sf targetSf)) =
      roundHalfAway (toInt self.value * powTen self.sf targetSf) →
    (self.rescale targetSf).rescale self.sf = self

theorem RescaleLaws.of_lawful : RescaleLaws T where
  checked := ScaledValue.checkedRescale_eq_some
  sf := ScaledValue.sf_rescale
  value := ScaledValue.toInt_value_rescale
  monotone sf targetSf _ _ := ScaledValue.rescale_monotone sf targetSf
  finer _ _ := ScaledValue.rescale_rescale_of_finer

end Laws

theorem rescale_laws :
    RescaleLaws UInt16 ∧ RescaleLaws Int16 ∧ RescaleLaws UInt32 ∧ RescaleLaws Int32 :=
  ⟨.of_lawful, .of_lawful, .of_lawful, .of_lawful⟩

end Sep2Bridge
