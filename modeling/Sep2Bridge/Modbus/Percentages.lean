import Sep2Bridge.Lib.Checked
import Sep2Bridge.Modbus.Retry
import Sep2Bridge.Rescale

/-!
# Percentages of the rating

**Theorem (`derived_percentages`).** Of a limit in watts and a rating that is not zero, the derived
export limit is the largest register value whose meaning in watts stays within the limit, and the
derived target is the exact percentage, rounded and clamped. No `i128` operation on the way
overflows or divides by zero.

The scale factors of the value, of the rating and of the percentage combine into one power of ten.
A power or a product that saturates does so past `i128::MAX / u16::MAX`, so a saturated numerator
stays past every clamp after the division (`AgreeWithin`), and a saturated denominator rounds
every numerator to zero.
-/

namespace Sep2Bridge.Modbus

open Lib ScaledValueInner

/-! ## With checked arithmetic -/

def checkedDivRoundHalfAwayFromZero (numerator denominator : Int) : Option Int := do
  let absNumerator := min i128Max numerator.natAbs
  let quotient ← checkedDiv 127 absNumerator denominator
  let remainder ← checkedMod 127 absNumerator denominator
  let half ← checkedDiv 127 denominator 2
  let odd ← checkedMod 127 denominator 2
  let threshold ← checkedAdd 127 half odd
  let rounded := if remainder ≥ threshold then saturateI128 (quotient + 1) else quotient
  if numerator < 0 then checkedNeg 127 rounded else some rounded

def checkedDivRoundTowardZero (numerator denominator : Int) : Option Int :=
  checkedDiv 127 numerator denominator

/-- `scaledPercentRaw` with every operator checked that can overflow or divide by zero. -/
def checkedScaledPercentRaw (value : Int) (valueSf : Int16) (rating : Int)
    (ratingSf pctSf : Int16) (roundTowardZero : Bool) : Option (Option Int) :=
  if rating ≤ 0 then some none
  else do
    let difference ← checkedSub 31 valueSf.toInt ratingSf.toInt
    let exponent ← checkedSub 31 difference pctSf.toInt
    let baseNumerator := saturateI128 (value * 100)
    let baseDenominator := rating
    let factor := min i128Max (10 ^ exponent.natAbs)
    let numerator :=
      if exponent ≥ 0 then saturateI128 (baseNumerator * factor) else baseNumerator
    let denominator :=
      if exponent ≥ 0 then baseDenominator else saturateI128 (baseDenominator * factor)
    let quotient ←
      if roundTowardZero then checkedDivRoundTowardZero numerator denominator
      else checkedDivRoundHalfAwayFromZero numerator denominator
    some (some quotient)

/-! ## The two divisions -/

theorem inBits_saturateI128 (x : Int) : InBits 127 (saturateI128 x) := by
  unfold InBits saturateI128 i128Max
  omega

/-- The rounding that the flag asks for. -/
def percentRounding (roundTowardZero : Bool) : ℚ → ℤ :=
  if roundTowardZero then Lib.roundTowardZero else roundHalfAway

theorem percentRounding_isRounding (roundTowardZero : Bool) :
    IsRounding (percentRounding roundTowardZero) := by
  cases roundTowardZero with
  | true => exact roundTowardZero_isRounding
  | false => exact roundHalfAway_isRounding

/-- Comparing the remainder with the threshold is rounding the quotient. -/
theorem rounded_eq_roundHalfAway {n d : Int} (hn : 0 ≤ n) (hd : 0 < d) :
    (if n.tmod d ≥ d.tdiv 2 + d.tmod 2 then n.tdiv d + 1 else n.tdiv d) =
      roundHalfAway (n / d) := by
  have hhalf : d.tdiv 2 = d / 2 := Int.tdiv_eq_ediv_of_nonneg hd.le
  have hodd : d.tmod 2 = d % 2 := Int.tmod_eq_emod_of_nonneg hd.le
  have hquot : n.tdiv d = n / d := Int.tdiv_eq_ediv_of_nonneg hn
  have hmod : n.tmod d = n % d := Int.tmod_eq_emod_of_nonneg hn
  have hsum := Int.mul_ediv_add_emod n d
  have hlo := Int.emod_nonneg n hd.ne'
  have hhi := Int.emod_lt_of_pos n hd
  rw [← roundHalfAway_div_of_nonneg hn hd, hhalf, hodd, hquot, hmod,
    Int.tdiv_eq_ediv_of_nonneg (by omega)]
  generalize n / d = q at hsum ⊢
  have hnext : (q + 1) * d = d * q + d := by rw [add_mul, one_mul, mul_comm]
  have hnext' : (q + 1 + 1) * d = d * q + d + d := by rw [add_mul, hnext, one_mul]
  by_cases hup : n % d ≥ d / 2 + d % 2
  · rw [if_pos hup]
    apply le_antisymm
    · exact (Int.le_ediv_iff_mul_le hd).2 (by omega)
    · exact Int.lt_add_one_iff.1 ((Int.ediv_lt_iff_lt_mul hd).2 (by omega))
  · rw [if_neg hup]
    apply le_antisymm
    · exact (Int.le_ediv_iff_mul_le hd).2 (by rw [mul_comm]; omega)
    · exact Int.lt_add_one_iff.1 ((Int.ediv_lt_iff_lt_mul hd).2 (by omega))

/-- The bound of `i128` that both signs share. -/
def clampI128 (x : Int) : Int := max (-i128Max) (min i128Max x)

theorem agreeWithin_clampI128 (x : Int) : AgreeWithin i128Max (clampI128 x) x := by
  unfold AgreeWithin clampI128 i128Max
  omega

/-- A quotient that is rounded up leaves room for it: the remainder is at least one. -/
theorem saturateI128_tdiv_add_one {n d : Int} (hn : 0 ≤ n) (hle : n ≤ i128Max) (hd : 0 < d)
    (hup : n.tmod d ≥ d.tdiv 2 + d.tmod 2) : saturateI128 (n.tdiv d + 1) = n.tdiv d + 1 := by
  have hhalf : d.tdiv 2 = d / 2 := Int.tdiv_eq_ediv_of_nonneg hd.le
  have hodd : d.tmod 2 = d % 2 := Int.tmod_eq_emod_of_nonneg hd.le
  have hsum := Int.mul_tdiv_add_tmod n d
  have hquot : 0 ≤ n.tdiv d := Int.tdiv_nonneg hn hd.le
  have hgrow : n.tdiv d ≤ d * n.tdiv d := le_mul_of_one_le_left hquot hd
  unfold saturateI128 i128Max at *
  omega

theorem divRoundHalfAwayFromZero_eq (numerator : Int) {denominator : Int} (hd : 0 < denominator) :
    divRoundHalfAwayFromZero numerator denominator =
      roundHalfAway (clampI128 numerator / denominator) := by
  have hnonneg : 0 ≤ min i128Max (numerator.natAbs : Int) :=
    le_min (by decide) (Int.natCast_nonneg _)
  have hle : min i128Max (numerator.natAbs : Int) ≤ i128Max := min_le_left _ _
  have hrounded :
      (if (min i128Max (numerator.natAbs : Int)).tmod denominator ≥
          denominator.tdiv 2 + denominator.tmod 2
        then saturateI128 ((min i128Max (numerator.natAbs : Int)).tdiv denominator + 1)
        else (min i128Max (numerator.natAbs : Int)).tdiv denominator) =
      roundHalfAway ((min i128Max (numerator.natAbs : Int) : Int) / denominator) := by
    rw [← rounded_eq_roundHalfAway hnonneg hd]
    split_ifs with hup
    · exact saturateI128_tdiv_add_one hnonneg hle hd hup
    · rfl
  simp only [divRoundHalfAwayFromZero, hrounded]
  by_cases hneg : numerator < 0
  · have hclamp : clampI128 numerator = -min i128Max (numerator.natAbs : Int) := by
      unfold clampI128 i128Max
      omega
    rw [if_pos hneg, hclamp, Int.cast_neg, neg_div, roundHalfAway_neg]
  · have hclamp : clampI128 numerator = min i128Max (numerator.natAbs : Int) := by
      unfold clampI128 i128Max
      omega
    rw [if_neg hneg, hclamp]

/-- Both divisions round the quotient, and see of the numerator what `i128` has room for. -/
theorem percentRounding_div (roundTowardZero : Bool) (numerator : Int) {denominator : Int}
    (hd : 0 < denominator) :
    ∃ n, AgreeWithin i128Max n numerator ∧
      (if roundTowardZero then divRoundTowardZero numerator denominator
        else divRoundHalfAwayFromZero numerator denominator) =
      percentRounding roundTowardZero (n / denominator) := by
  cases roundTowardZero with
  | true => exact ⟨numerator, .inl rfl, tdiv_eq_roundTowardZero numerator hd⟩
  | false =>
    exact ⟨clampI128 numerator, agreeWithin_clampI128 numerator,
      divRoundHalfAwayFromZero_eq numerator hd⟩

/-- Neither division overflows. -/
theorem checkedDivRoundHalfAwayFromZero_eq_some (numerator : Int) {denominator : Int}
    (hd : 0 < denominator) (hle : denominator ≤ i128Max) :
    checkedDivRoundHalfAwayFromZero numerator denominator =
      some (divRoundHalfAwayFromZero numerator denominator) := by
  have hnonneg : 0 ≤ min i128Max (numerator.natAbs : Int) :=
    le_min (by decide) (Int.natCast_nonneg _)
  have hmax : min i128Max (numerator.natAbs : Int) ≤ i128Max := min_le_left _ _
  generalize hn : min i128Max (numerator.natAbs : Int) = n at hnonneg hmax
  have hnBits : InBits 127 n := by
    unfold InBits i128Max at *
    omega
  have hdBits : InBits 127 denominator := by
    unfold InBits i128Max at *
    omega
  have hhalf : denominator.tdiv 2 = denominator / 2 := Int.tdiv_eq_ediv_of_nonneg hd.le
  have hodd : denominator.tmod 2 = denominator % 2 := Int.tmod_eq_emod_of_nonneg hd.le
  have hthreshold : InBits 127 (denominator.tdiv 2 + denominator.tmod 2) := by
    unfold InBits i128Max at *
    omega
  have hquot : 0 ≤ n.tdiv denominator := Int.tdiv_nonneg hnonneg hd.le
  have hneg : ∀ rounded, rounded = saturateI128 (n.tdiv denominator + 1) ∨
      rounded = n.tdiv denominator → checkedNeg 127 rounded = some (-rounded) := by
    intro rounded hrounded
    have hquotBits := hnBits.tdiv hd
    apply checked_eq_some
    unfold InBits saturateI128 i128Max at *
    omega
  simp only [checkedDivRoundHalfAwayFromZero, divRoundHalfAwayFromZero, hn, checkedAdd,
    checkedDiv_eq_some hnBits hd, checkedMod_eq_some hnBits hd,
    checkedDiv_eq_some hdBits (by decide : (0 : Int) < 2),
    checkedMod_eq_some hdBits (by decide : (0 : Int) < 2), checked_eq_some hthreshold,
    Option.bind_eq_bind, Option.bind_some]
  split_ifs with hnumerator hup
  · exact hneg _ (.inl rfl)
  · exact hneg _ (.inr rfl)
  · rfl
  · rfl

/-- No step overflows or divides by zero, whatever saturates. -/
theorem checkedScaledPercentRaw_eq_some (value : Int) (valueSf : Int16) {rating : Int}
    (ratingSf pctSf : Int16) (roundTowardZero : Bool) (hrating : rating ≤ i128Max) :
    checkedScaledPercentRaw value valueSf rating ratingSf pctSf roundTowardZero =
      some (scaledPercentRaw value valueSf rating ratingSf pctSf roundTowardZero) := by
  have hvalueSf := And.intro valueSf.le_toInt valueSf.toInt_lt
  have hratingSf := And.intro ratingSf.le_toInt ratingSf.toInt_lt
  have hpctSf := And.intro pctSf.le_toInt pctSf.toInt_lt
  have hdifference : InBits 31 (valueSf.toInt - ratingSf.toInt) := by
    unfold InBits
    omega
  have hexponent : InBits 31 (valueSf.toInt - ratingSf.toInt - pctSf.toInt) := by
    unfold InBits
    omega
  rw [checkedScaledPercentRaw, scaledPercentRaw]
  by_cases hnone : rating ≤ 0
  · rw [if_pos hnone, if_pos hnone]
  · rw [if_neg hnone, if_neg hnone]
    simp only [checkedSub, checked_eq_some hdifference, checked_eq_some hexponent,
      Option.bind_eq_bind, Option.bind_some]
    generalize valueSf.toInt - ratingSf.toInt - pctSf.toInt = exponent
    have hpower : (0 : Int) < min i128Max (10 ^ exponent.natAbs) :=
      lt_min (by decide) (by positivity)
    have hproduct : 0 < rating * min i128Max (10 ^ exponent.natAbs) :=
      mul_pos (not_le.1 hnone) hpower
    have hnumerator : InBits 127 (if exponent ≥ 0
        then saturateI128 (saturateI128 (value * 100) * min i128Max (10 ^ exponent.natAbs))
        else saturateI128 (value * 100)) := by
      split_ifs <;> exact inBits_saturateI128 _
    have hdenominator : 0 < (if exponent ≥ 0 then rating
        else saturateI128 (rating * min i128Max (10 ^ exponent.natAbs))) ∧
        (if exponent ≥ 0 then rating
          else saturateI128 (rating * min i128Max (10 ^ exponent.natAbs))) ≤ i128Max := by
      split_ifs
      · exact ⟨not_le.1 hnone, hrating⟩
      · unfold saturateI128
        have hmax : 0 < i128Max := by decide
        omega
    cases roundTowardZero with
    | true =>
      simp only [↓reduceIte, checkedDivRoundTowardZero, divRoundTowardZero,
        checkedDiv_eq_some hnumerator hdenominator.1]
      rfl
    | false =>
      simp only [Bool.false_eq_true, ↓reduceIte,
        checkedDivRoundHalfAwayFromZero_eq_some _ hdenominator.1 hdenominator.2]
      rfl

/-! ## The exact percentage -/

/-- `value` as a percentage of `rating`, in units of the scale `pctSf`. -/
def exactPercent (value rating : ℚ) (pctSf : Int16) : ℚ :=
  value / rating * 100 / 10 ^ pctSf.toInt

/-- A product that saturates on the way leaves `i128`. -/
theorem agreeWithin_saturateI128_mul (x factor : Int) :
    AgreeWithin i128Max (saturateI128 (x * min i128Max factor)) (x * factor) := by
  by_cases hle : factor ≤ i128Max
  · rw [min_eq_right hle]
    unfold AgreeWithin saturateI128 i128Max
    omega
  · have hlt : i128Max < factor := not_le.1 hle
    rw [min_eq_left hlt.le]
    rcases lt_trichotomy x 0 with hneg | rfl | hpos
    · have h1 : x * i128Max ≤ -i128Max := by nlinarith [show 0 < i128Max by decide]
      have h2 : x * factor ≤ -i128Max := by nlinarith [show 0 < i128Max by decide]
      unfold AgreeWithin saturateI128 i128Max at *
      omega
    · rw [zero_mul, zero_mul]
      exact .inl rfl
    · have h1 : i128Max ≤ x * i128Max := by nlinarith [show 0 < i128Max by decide]
      have h2 : i128Max ≤ x * factor := by nlinarith [show 0 < i128Max by decide]
      unfold AgreeWithin saturateI128 i128Max at *
      omega

section Percent

variable {value rating : Int}

/-- The three scale factors combine into one power of ten. -/
theorem exactPercent_eq (value rating : Int) (valueSf ratingSf pctSf : Int16) :
    exactPercent (value * 10 ^ valueSf.toInt) (rating * 10 ^ ratingSf.toInt) pctSf =
      value * 100 * 10 ^ (valueSf.toInt - ratingSf.toInt - pctSf.toInt) / rating := by
  have hten : (10 : ℚ) ≠ 0 := by norm_num
  unfold exactPercent
  rw [zpow_sub₀ hten, zpow_sub₀ hten]
  field_simp

/-- No percentage of a value in watts reaches half of a saturated denominator. -/
theorem abs_div_lt_half (hvalue : value.natAbs ≤ 2 ^ 32) {d : Int} (hd : i128Max ≤ d) :
    |((value * 100 : Int) : ℚ) / d| < 1 / 2 := by
  unfold i128Max at hd
  have hdq : (0 : ℚ) < d := by exact_mod_cast (by omega : 0 < d)
  rw [abs_lt, lt_div_iff₀ hdq, div_lt_iff₀ hdq]
  have hlo : -d < 2 * (value * 100) := by omega
  have hhi : 2 * (value * 100) < d := by omega
  have hloq : (-d : ℚ) < 2 * (value * 100 : Int) := by exact_mod_cast hlo
  have hhiq : (2 * (value * 100 : Int) : ℚ) < d := by exact_mod_cast hhi
  constructor <;> linarith

/-- Up to saturation, a raw percentage is the exact one, rounded. -/
theorem scaledPercentRaw_eq (hvalue : value.natAbs ≤ 2 ^ 32) (hpos : 0 < rating)
    (hrating : rating < 2 ^ 16) (valueSf ratingSf pctSf : Int16) (roundTowardZero : Bool) :
    ∃ raw, scaledPercentRaw value valueSf rating ratingSf pctSf roundTowardZero = some raw ∧
      AgreeWithin (2 ^ 64) raw (percentRounding roundTowardZero
        (exactPercent (value * 10 ^ valueSf.toInt) (rating * 10 ^ ratingSf.toInt) pctSf)) := by
  have hr := percentRounding_isRounding roundTowardZero
  have hbase : saturateI128 (value * 100) = value * 100 := by
    unfold saturateI128 i128Max
    omega
  refine ⟨_, if_neg (not_le.2 hpos), ?_⟩
  rw [exactPercent_eq]
  generalize valueSf.toInt - ratingSf.toInt - pctSf.toInt = exponent
  by_cases hexp : exponent ≥ 0
  · -- finer or equal: the numerator grows
    obtain ⟨n, rfl⟩ : ∃ n : Nat, exponent = n := ⟨exponent.toNat, by omega⟩
    simp only [if_pos hexp, hbase, Int.natAbs_natCast]
    obtain ⟨numerator, hnumerator, hdiv⟩ := percentRounding_div roundTowardZero
      (saturateI128 (value * 100 * min i128Max (10 ^ n))) hpos
    have hagree := hnumerator.trans (by decide)
      (agreeWithin_saturateI128_mul (value * 100) (10 ^ n))
    have hbound : AgreeWithin (rating * 2 ^ 64) numerator (value * 100 * 10 ^ n) :=
      hagree.mono (by unfold i128Max; omega)
    have hfinal := hr.agreeWithin hpos hbound
    rw [hdiv]
    simpa using hfinal
  · -- coarser: the denominator grows
    obtain ⟨n, rfl⟩ : ∃ n : Nat, exponent = -n := ⟨exponent.natAbs, by omega⟩
    simp only [if_neg hexp, hbase, Int.natAbs_neg, Int.natAbs_natCast]
    have hexact : (0 : Int) < rating * 10 ^ n := by positivity
    have hagree := agreeWithin_saturateI128_mul rating (10 ^ n)
    generalize saturateI128 (rating * min i128Max (10 ^ n)) = denominator at hagree ⊢
    have hdenominator : denominator = rating * 10 ^ n ∨
        i128Max ≤ denominator ∧ i128Max ≤ rating * 10 ^ n := by
      unfold AgreeWithin i128Max at *
      omega
    have hd : 0 < denominator := by
      unfold i128Max at hdenominator
      omega
    obtain ⟨numerator, hnumerator, hdiv⟩ := percentRounding_div roundTowardZero (value * 100) hd
    have hsmall : numerator = value * 100 := by
      unfold AgreeWithin i128Max at hnumerator
      omega
    have hpercent : (value * 100 * 10 ^ (-n : ℤ) / rating : ℚ) =
        ((value * 100 : Int) : ℚ) / (rating * 10 ^ n : Int) := by
      push_cast
      rw [zpow_neg, zpow_natCast, ← div_eq_mul_inv, div_div, mul_comm (10 ^ n : ℚ)]
    rw [hdiv, hsmall, hpercent]
    obtain rfl | ⟨hlarge, hlarge'⟩ := hdenominator
    · exact .inl rfl
    · rw [hr.small (abs_div_lt_half hvalue hlarge), hr.small (abs_div_lt_half hvalue hlarge')]
      exact .inl rfl

end Percent

/-! ## The derived registers -/

/-- The watts that a percentage register stands for. -/
def wattsOfPct (pct : Nat) (pctSf : Int16) (wMaxRtg : ScaledValue UInt16) : ℚ :=
  pct * 10 ^ pctSf.toInt / 100 * wMaxRtg.toRat

theorem toRat_pos {wMaxRtg : ScaledValue UInt16} (h : wMaxRtg.value ≠ 0) : 0 < wMaxRtg.toRat :=
  mul_pos (Int.cast_pos.2 (toNat_pos h)) (zpow_pos (by norm_num) _)

/-- A register value means at most the limit if and only if it is at most the percentage. -/
theorem wattsOfPct_le_iff {pct : Nat} {pctSf : Int16} {wMaxRtg : ScaledValue UInt16} {limit : ℚ}
    (h : wMaxRtg.value ≠ 0) :
    wattsOfPct pct pctSf wMaxRtg ≤ limit ↔ (pct : ℚ) ≤ exactPercent limit wMaxRtg.toRat pctSf := by
  have hrtg := toRat_pos h
  have hten : (0 : ℚ) < 10 ^ pctSf.toInt := zpow_pos (by norm_num) _
  unfold wattsOfPct exactPercent
  rw [le_div_iff₀ hten, ← le_div_iff₀ hrtg, div_le_iff₀ (by norm_num)]

section Registers

variable {wMaxRtg : ScaledValue UInt16} {pctSf : Int16}

/-- The export limit is the largest one that the limit in watts permits. -/
theorem toWMaxLimPct_isGreatest (wMaxLim : ScaledValue UInt32) (h : wMaxRtg.value ≠ 0) :
    ∃ pct, toWMaxLimPctFromWMaxLim wMaxLim wMaxRtg pctSf = some ⟨pct, pctSf⟩ ∧
      IsGreatest {p : Nat | p ≤ 65534 ∧ wattsOfPct p pctSf wMaxRtg ≤ wMaxLim.toRat}
        pct.toNat := by
  have hlim := wMaxLim.value.toNat_lt
  have hrtg := wMaxRtg.value.toNat_lt
  have hvalue : (wMaxLim.value.toNat : Int).natAbs ≤ 2 ^ 32 := by omega
  obtain ⟨raw, hraw, hagree⟩ := scaledPercentRaw_eq hvalue (toNat_pos h) (by omega) wMaxLim.sf
    wMaxRtg.sf pctSf true
  have hlimit : (0 : ℚ) ≤ wMaxLim.toRat :=
    mul_nonneg (Int.cast_nonneg (Int.natCast_nonneg _)) (zpow_pos (by norm_num) _).le
  have hpercent : 0 ≤ exactPercent wMaxLim.toRat wMaxRtg.toRat pctSf := by
    have hquot := div_nonneg hlimit (toRat_pos h).le
    exact div_nonneg (mul_nonneg hquot (by norm_num)) (zpow_pos (by norm_num) _).le
  have hfloor : percentRounding true (exactPercent wMaxLim.toRat wMaxRtg.toRat pctSf) =
      ⌊exactPercent wMaxLim.toRat wMaxRtg.toRat pctSf⌋ := roundTowardZero_of_nonneg hpercent
  have hclamp : max 0 (min 65534 raw) = max 0 (min 65534
      (percentRounding true (exactPercent wMaxLim.toRat wMaxRtg.toRat pctSf))) :=
    hagree.clamp_congr (by decide) (by decide) (by decide)
  rw [hfloor] at hclamp
  have hnonneg := Int.floor_nonneg.2 hpercent
  refine ⟨.ofNat (max 0 (min 65534 raw)).toNat, ?_, ?_⟩
  · rw [toWMaxLimPctFromWMaxLim, if_neg h, hraw]
    rfl
  · have hvalue : ((UInt16.ofNat (max 0 (min 65534 raw)).toNat).toNat : Int) =
        min 65534 ⌊exactPercent wMaxLim.toRat wMaxRtg.toRat pctSf⌋ := by
      rw [UInt16.toNat_ofNat', hclamp]
      omega
    have hiff : ∀ p : Nat, p ≤ 65534 ∧ wattsOfPct p pctSf wMaxRtg ≤ wMaxLim.toRat ↔
        (p : Int) ≤ min 65534 ⌊exactPercent wMaxLim.toRat wMaxRtg.toRat pctSf⌋ := by
      intro p
      rw [wattsOfPct_le_iff h, le_min_iff, Int.le_floor, Int.cast_natCast]
      exact and_congr_left' (by omega)
    constructor
    · exact (hiff _).2 hvalue.le
    · intro p hp
      have hle := (hiff p).1 hp
      rw [← hvalue] at hle
      exact Int.ofNat_le.1 hle

/-- The target is the exact percentage, rounded and clamped clear of `i16::MIN`. -/
theorem toWSetPct_eq (wSet : ScaledValue Int32) (roundTowardZero : Bool) (h : wMaxRtg.value ≠ 0) :
    ∃ pct, toWSetPctFromWSet wSet wMaxRtg pctSf roundTowardZero = some ⟨pct, pctSf⟩ ∧
      pct.toInt = max (-32767) (min 32767
        (percentRounding roundTowardZero (exactPercent wSet.toRat wMaxRtg.toRat pctSf))) := by
  have hlo := wSet.value.le_toInt
  have hhi := wSet.value.toInt_lt
  have hrtg := wMaxRtg.value.toNat_lt
  have hvalue : wSet.value.toInt.natAbs ≤ 2 ^ 32 := by omega
  obtain ⟨raw, hraw, hagree⟩ := scaledPercentRaw_eq hvalue (toNat_pos h) (by omega) wSet.sf
    wMaxRtg.sf pctSf roundTowardZero
  refine ⟨.ofInt (max (-(2 ^ 15) + 1) (min (2 ^ 15 - 1) raw)), ?_, ?_⟩
  · rw [toWSetPctFromWSet, if_neg h, hraw]
    rfl
  · rw [Int16.toInt_ofInt_of_le (by omega) (by omega)]
    exact hagree.clamp_congr (by decide) (by decide) (by decide)

end Registers

/-- A derived export limit is the largest permitted one, a derived target the nearest, and no
step of either overflows. -/
theorem derived_percentages (wMaxLim : ScaledValue UInt32) (wSet : ScaledValue Int32)
    (wMaxRtg : ScaledValue UInt16) (pctSf : Int16) (isImportSiteLimit : Bool)
    (h : wMaxRtg.value ≠ 0) :
    (∃ pct, toWMaxLimPctFromWMaxLim wMaxLim wMaxRtg pctSf = some ⟨pct, pctSf⟩ ∧
      IsGreatest {p : Nat | p ≤ 65534 ∧ wattsOfPct p pctSf wMaxRtg ≤ wMaxLim.toRat} pct.toNat) ∧
    (∃ pct, toWSetPctFromWSet wSet wMaxRtg pctSf isImportSiteLimit = some ⟨pct, pctSf⟩ ∧
      pct.toInt = max (-32767) (min 32767
        ((if isImportSiteLimit then roundTowardZero else roundHalfAway)
          (exactPercent wSet.toRat wMaxRtg.toRat pctSf)))) ∧
    checkedScaledPercentRaw wMaxLim.value.toNat wMaxLim.sf wMaxRtg.value.toNat wMaxRtg.sf pctSf
        true =
      some (scaledPercentRaw wMaxLim.value.toNat wMaxLim.sf wMaxRtg.value.toNat wMaxRtg.sf pctSf
        true) ∧
    checkedScaledPercentRaw wSet.value.toInt wSet.sf wMaxRtg.value.toNat wMaxRtg.sf pctSf
        isImportSiteLimit =
      some (scaledPercentRaw wSet.value.toInt wSet.sf wMaxRtg.value.toNat wMaxRtg.sf pctSf
        isImportSiteLimit) := by
  have hrating : (wMaxRtg.value.toNat : Int) ≤ i128Max := by
    have hlt := wMaxRtg.value.toNat_lt
    unfold i128Max
    omega
  exact ⟨toWMaxLimPct_isGreatest wMaxLim h, toWSetPct_eq wSet isImportSiteLimit h,
    checkedScaledPercentRaw_eq_some _ _ _ _ _ hrating,
    checkedScaledPercentRaw_eq_some _ _ _ _ _ hrating⟩

theorem derived_percentages_800_of_1000 :
    ∃ pct, toWMaxLimPctFromWMaxLim ⟨800, 0⟩ ⟨1000, 0⟩ (-2) = some ⟨pct, -2⟩ ∧
      IsGreatest {p : Nat | p ≤ 65534 ∧
        wattsOfPct p (-2) ⟨1000, 0⟩ ≤ (⟨800, 0⟩ : ScaledValue UInt32).toRat} pct.toNat :=
  (derived_percentages ⟨800, 0⟩ ⟨-250, 0⟩ ⟨1000, 0⟩ (-2) true (by decide)).1

end Sep2Bridge.Modbus
