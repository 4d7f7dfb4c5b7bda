import Mathlib.Data.Rat.Floor
import Mathlib.Tactic.Linarith

/-!
# Rounding to an integer

`roundHalfAway` rounds a rational to the nearest integer, a half away from zero. On quotients of
integers it is the truncating division after a nudge of half the divisor. `roundTowardZero` is the
truncating division itself. What both have in common is `IsRounding`; it is enough for a clamped
result to be blind to a numerator that saturates (`IsRounding.agreeWithin`).
-/

namespace Lib

/-- The nearest integer, and of two the one farther from zero. -/
def roundHalfAway (x : ℚ) : ℤ := if x < 0 then -⌊-x + 1 / 2⌋ else ⌊x + 1 / 2⌋

theorem roundHalfAway_neg (x : ℚ) : roundHalfAway (-x) = -roundHalfAway x := by
  unfold roundHalfAway
  rcases lt_trichotomy x 0 with h | rfl | h
  · rw [if_pos h, if_neg (not_lt.2 (neg_pos.2 h).le), neg_neg]
  · norm_num
  · rw [if_pos (neg_neg_iff_pos.2 h), if_neg h.not_gt, neg_neg]

@[simp] theorem roundHalfAway_intCast (n : ℤ) : roundHalfAway n = n := by
  have half : ∀ m : ℤ, ⌊(m : ℚ) + 1 / 2⌋ = m := fun m =>
    Int.floor_eq_iff.2 ⟨by linarith, by linarith⟩
  unfold roundHalfAway
  by_cases h : (n : ℚ) < 0
  · rw [if_pos h, ← Int.cast_neg, half, neg_neg]
  · rw [if_neg h, half]

/-- Less than a half rounds to zero. -/
theorem roundHalfAway_eq_zero {x : ℚ} (h : |x| < 1 / 2) : roundHalfAway x = 0 := by
  obtain ⟨hlo, hhi⟩ := abs_lt.1 h
  unfold roundHalfAway
  by_cases hx : x < 0
  · rw [if_pos hx, neg_eq_zero]
    exact Int.floor_eq_iff.2 ⟨by norm_num; linarith, by norm_num; linarith⟩
  · rw [if_neg hx]
    exact Int.floor_eq_iff.2 ⟨by norm_num; linarith, by norm_num; linarith⟩

theorem roundHalfAway_nonneg {x : ℚ} (h : 0 ≤ x) : 0 ≤ roundHalfAway x := by
  rw [roundHalfAway, if_neg h.not_gt]
  exact Int.floor_nonneg.2 (by linarith)

theorem roundHalfAway_nonpos {x : ℚ} (h : x ≤ 0) : roundHalfAway x ≤ 0 := by
  have hneg := roundHalfAway_nonneg (neg_nonneg.2 h)
  rw [roundHalfAway_neg] at hneg
  omega

theorem roundHalfAway_mono {x y : ℚ} (h : x ≤ y) : roundHalfAway x ≤ roundHalfAway y := by
  by_cases hx : x < 0
  · by_cases hy : y < 0
    · rw [roundHalfAway, roundHalfAway, if_pos hx, if_pos hy]
      exact neg_le_neg (Int.floor_le_floor (by linarith))
    · exact (roundHalfAway_nonpos hx.le).trans (roundHalfAway_nonneg (not_lt.1 hy))
  · rw [roundHalfAway, roundHalfAway, if_neg hx, if_neg (by linarith)]
    exact Int.floor_le_floor (by linarith)

/-- The nearest integer is at most a half away. -/
theorem abs_roundHalfAway_sub_le (x : ℚ) : |roundHalfAway x - x| ≤ 1 / 2 := by
  have floor_half : ∀ y : ℚ, |⌊y + 1 / 2⌋ - y| ≤ 1 / 2 := by
    intro y
    have hlo := Int.floor_le (y + 1 / 2)
    have hhi := Int.lt_floor_add_one (y + 1 / 2)
    rw [abs_le]
    constructor <;> linarith
  unfold roundHalfAway
  by_cases hx : x < 0
  · have h := floor_half (-x)
    rw [if_pos hx, Int.cast_neg, ← abs_neg, neg_sub, sub_neg_eq_add, add_comm]
    rwa [sub_neg_eq_add] at h
  · rw [if_neg hx]
    exact floor_half x

/-- A nudge by half the divisor turns truncation into rounding. -/
theorem roundHalfAway_div_of_nonneg {v f : ℤ} (hv : 0 ≤ v) (hf : 0 < f) :
    (v + f.tdiv 2).tdiv f = roundHalfAway (v / f) := by
  have hfq : (0 : ℚ) < f := by exact_mod_cast hf
  have hhalf : f.tdiv 2 = f / 2 := Int.tdiv_eq_ediv_of_nonneg hf.le
  have hnonneg : ¬(v : ℚ) / f < 0 := not_lt.2 (div_nonneg (by exact_mod_cast hv) hfq.le)
  rw [roundHalfAway, if_neg hnonneg, hhalf, Int.tdiv_eq_ediv_of_nonneg (by omega)]
  refine (Int.floor_eq_iff.2 ?_).symm
  have hq := Int.mul_ediv_add_emod (v + f / 2) f
  have hr := Int.emod_nonneg (v + f / 2) hf.ne'
  have hr' := Int.emod_lt_of_pos (v + f / 2) hf
  generalize hquot : (v + f / 2) / f = q at hq ⊢
  have hlo : 2 * (f * q) ≤ 2 * v + f := by omega
  have hhi : 2 * v + f < 2 * (f * q) + 2 * f := by omega
  have hloq : (2 * (f * q) : ℚ) ≤ 2 * v + f := by exact_mod_cast hlo
  have hhiq : (2 * v + f : ℚ) < 2 * (f * q) + 2 * f := by exact_mod_cast hhi
  constructor
  · rw [← sub_le_iff_le_add, le_div_iff₀ hfq]
    linarith
  · rw [← lt_sub_iff_add_lt, div_lt_iff₀ hfq]
    linarith

theorem roundHalfAway_div {v f : ℤ} (hf : 0 < f) :
    (v + if v < 0 then -f.tdiv 2 else f.tdiv 2).tdiv f = roundHalfAway (v / f) := by
  by_cases hv : v < 0
  · have h := roundHalfAway_div_of_nonneg (v := -v) (by omega) hf
    have hneg : v + -f.tdiv 2 = -(-v + f.tdiv 2) := by omega
    rw [if_pos hv, hneg, Int.neg_tdiv, h, Int.cast_neg, neg_div, roundHalfAway_neg, neg_neg]
  · rw [if_neg hv]
    exact roundHalfAway_div_of_nonneg (by omega) hf

/-! ## Toward zero -/

/-- The integer part. -/
def roundTowardZero (x : ℚ) : ℤ := if x < 0 then -⌊-x⌋ else ⌊x⌋

theorem roundTowardZero_of_nonneg {x : ℚ} (h : 0 ≤ x) : roundTowardZero x = ⌊x⌋ := if_neg h.not_gt

theorem roundTowardZero_neg (x : ℚ) : roundTowardZero (-x) = -roundTowardZero x := by
  unfold roundTowardZero
  rcases lt_trichotomy x 0 with h | rfl | h
  · rw [if_pos h, if_neg (not_lt.2 (neg_pos.2 h).le), neg_neg]
  · norm_num
  · rw [if_pos (neg_neg_iff_pos.2 h), if_neg h.not_gt, neg_neg]

/-- Truncating division rounds toward zero. -/
theorem tdiv_eq_roundTowardZero (v : ℤ) {f : ℤ} (hf : 0 < f) :
    v.tdiv f = roundTowardZero (v / f) := by
  have hfq : (0 : ℚ) < f := by exact_mod_cast hf
  have of_nonneg : ∀ u : ℤ, 0 ≤ u → u.tdiv f = roundTowardZero (u / f) := by
    intro u hu
    have huq : (0 : ℚ) ≤ u := by exact_mod_cast hu
    have hfloor := Rat.floor_intCast_div_natCast u f.toNat
    have hcast : ((f.toNat : ℤ) : ℚ) = f := by rw [Int.toNat_of_nonneg hf.le]
    rw [← Int.cast_natCast, hcast, Int.toNat_of_nonneg hf.le] at hfloor
    rw [roundTowardZero_of_nonneg (div_nonneg huq hfq.le), hfloor,
      Int.tdiv_eq_ediv_of_nonneg hu]
  by_cases hv : v < 0
  · have h := of_nonneg (-v) (by omega)
    rwa [Int.neg_tdiv, Int.cast_neg, neg_div, roundTowardZero_neg, neg_inj] at h
  · exact of_nonneg v (by omega)

/-! ## What the two have in common -/

/-- A way of rounding that takes everything below a half to zero. -/
structure IsRounding (r : ℚ → ℤ) : Prop where
  mono {x y : ℚ} (h : x ≤ y) : r x ≤ r y
  intCast (n : ℤ) : r n = n
  small {x : ℚ} (h : |x| < 1 / 2) : r x = 0

theorem roundHalfAway_isRounding : IsRounding roundHalfAway where
  mono := roundHalfAway_mono
  intCast := roundHalfAway_intCast
  small := roundHalfAway_eq_zero

theorem roundTowardZero_isRounding : IsRounding roundTowardZero where
  mono {x y} h := by
    have nonneg : ∀ z : ℚ, 0 ≤ z → 0 ≤ roundTowardZero z := fun z hz => by
      rw [roundTowardZero_of_nonneg hz]
      exact Int.floor_nonneg.2 hz
    by_cases hx : x < 0
    · by_cases hy : y < 0
      · rw [roundTowardZero, roundTowardZero, if_pos hx, if_pos hy]
        exact neg_le_neg (Int.floor_le_floor (neg_le_neg h))
      · have hxneg := nonneg (-x) (by linarith)
        rw [roundTowardZero_neg] at hxneg
        exact (by omega : roundTowardZero x ≤ 0).trans (nonneg y (not_lt.1 hy))
    · rw [roundTowardZero_of_nonneg (not_lt.1 hx), roundTowardZero_of_nonneg (by linarith)]
      exact Int.floor_le_floor h
  intCast n := by
    unfold roundTowardZero
    by_cases h : (n : ℚ) < 0
    · rw [if_pos h, ← Int.cast_neg, Int.floor_intCast, neg_neg]
    · rw [if_neg h, Int.floor_intCast]
  small {x} h := by
    obtain ⟨hlo, hhi⟩ := abs_lt.1 h
    unfold roundTowardZero
    by_cases hx : x < 0
    · rw [if_pos hx, neg_eq_zero]
      exact Int.floor_eq_iff.2 ⟨by norm_num; linarith, by norm_num; linarith⟩
    · rw [if_neg hx]
      exact Int.floor_eq_iff.2 ⟨by norm_num; linarith, by norm_num; linarith⟩

/-! ## Up to saturation -/

/-- Equal, or both past the same end of `-bound..=bound`. -/
def AgreeWithin (bound x y : ℤ) : Prop :=
  x = y ∨ bound ≤ x ∧ bound ≤ y ∨ x ≤ -bound ∧ y ≤ -bound

theorem AgreeWithin.trans {bound x y z : ℤ} (hpos : 0 < bound) (h : AgreeWithin bound x y)
    (h' : AgreeWithin bound y z) : AgreeWithin bound x z := by
  unfold AgreeWithin at *
  omega

theorem AgreeWithin.mono {bound bound' x y : ℤ} (hle : bound' ≤ bound)
    (h : AgreeWithin bound x y) : AgreeWithin bound' x y := by
  unfold AgreeWithin at *
  omega

theorem AgreeWithin.clamp_congr {bound lo hi x y : ℤ} (h : AgreeWithin bound x y)
    (hlo : -bound ≤ lo) (hhi : hi ≤ bound) (hle : lo ≤ hi) :
    max lo (min hi x) = max lo (min hi y) := by
  unfold AgreeWithin at h
  omega

/-- Rounding a quotient keeps what agrees in agreement. -/
theorem IsRounding.agreeWithin {r : ℚ → ℤ} (hr : IsRounding r) {bound x y d : ℤ} (hd : 0 < d)
    (h : AgreeWithin (d * bound) x y) : AgreeWithin bound (r (x / d)) (r (y / d)) := by
  have hdq : (0 : ℚ) < d := by exact_mod_cast hd
  have above : ∀ z : ℤ, d * bound ≤ z → bound ≤ r (z / d) := fun z hz => by
    rw [← hr.intCast bound]
    apply hr.mono
    rw [le_div_iff₀ hdq, mul_comm]
    exact_mod_cast hz
  have below : ∀ z : ℤ, z ≤ -(d * bound) → r (z / d) ≤ -bound := fun z hz => by
    rw [← hr.intCast (-bound)]
    apply hr.mono
    rw [div_le_iff₀ hdq, mul_comm]
    have hz' : z ≤ d * -bound := by rwa [mul_neg]
    exact_mod_cast hz'
  obtain rfl | ⟨hx, hy⟩ | ⟨hx, hy⟩ := h
  · exact .inl rfl
  · exact .inr (.inl ⟨above x hx, above y hy⟩)
  · exact .inr (.inr ⟨below x hx, below y hy⟩)

end Lib
