import Sep2Bridge.Modbus.CurveModels
import Sep2Bridge.Modbus.Ended
import Sep2Bridge.Modbus.Sentinels
import Sep2Bridge.RescaleLaws

/-!
# The settings for entering service, there and back

What SEP2 sets for entering service goes to model 703 in hundredths, on the scale of the device;
the registers come back through `Settings` as the `DERSettings` that are reported.

**Theorem (`enterService_round_trip`).** Of what comes back, a limit that was set is unchanged
where the scale of the device is hundredths or finer and the register did not saturate, and within
half a step of the device where it is coarser. A time is rounded to the second, halves up. The
translation back fails only where a limit, rounded to the device, exceeds its SEP2 type.
-/

namespace Sep2Bridge.Modbus

open Lib ScaledValueInner

/-! ## Reading model 703 -/

/-- Model 703 as it is read: a point that is not implemented reads as `none`. -/
structure Model703 where
  esvHi : Option UInt16
  esvLo : Option UInt16
  esHzHi : Option UInt32
  esHzLo : Option UInt32
  esDlyTms : Option UInt32
  esRndTms : Option UInt32
  esRmpTms : Option UInt32
  vSf : Option Int16
  hzSf : Option Int16

/-- `read_model_safe::<Model703>`. -/
def Device.readModel703 (device : Device) (d : Registers) : Option Model703 :=
  if 703 ∉ device.supportedModelIds then none
  else
    some {
      esvHi := implemented (d .esvHi : UInt16)
      esvLo := implemented (d .esvLo : UInt16)
      esHzHi := implemented (d .esHzHi : UInt32)
      esHzLo := implemented (d .esHzLo : UInt32)
      esDlyTms := implemented (d .esDlyTms : UInt32)
      esRndTms := implemented (d .esRndTms : UInt32)
      esRmpTms := implemented (d .esRmpTms : UInt32)
      vSf := device.vSf
      hzSf := device.hzSf }

structure Settings where
  esvHi : Option (ScaledValue UInt16)
  esvLo : Option (ScaledValue UInt16)
  esHzHi : Option (ScaledValue UInt32)
  esHzLo : Option (ScaledValue UInt32)
  esDlyTms : Option UInt32
  esRndTms : Option UInt32
  esRmpTms : Option UInt32

def Settings.from (m703 : Option Model703) : Option Settings :=
  m703.map fun m703 =>
    let vSf := m703.vSf.getD 0
    let hzSf := m703.hzSf.getD 0
    { esvHi := m703.esvHi.map fun esvHi => ⟨esvHi, vSf⟩
      esvLo := m703.esvLo.map fun esvLo => ⟨esvLo, vSf⟩
      esHzHi := m703.esHzHi.map fun esHzHi => ⟨esHzHi, hzSf⟩
      esHzLo := m703.esHzLo.map fun esHzLo => ⟨esHzLo, hzSf⟩
      esDlyTms := m703.esDlyTms
      esRndTms := m703.esRndTms
      esRmpTms := m703.esRmpTms }

/-! ## The report -/

/-- The settings that the bridge reports. -/
structure DERSettings where
  setEsHighVolt : Option Int16
  setEsLowVolt : Option Int16
  setEsHighFreq : Option UInt16
  setEsLowFreq : Option UInt16
  setEsDelay : Option UInt32
  setEsRandomDelay : Option UInt32
  setEsRampTms : Option UInt32
  updatedTime : Int
  deriving DecidableEq

instance : TryConvert UInt16 Int16 where
  tryConvert x := if x.toNat < 2 ^ 15 then .ok (.ofNat x.toNat) else .error .integerOverflow

def secondsToHundredths (seconds : UInt32) : UInt32 :=
  ((⟨seconds, sunspecSecondsSf⟩ : ScaledValue UInt32).rescale sep2HundredthsSf).value

/-- A limit in hundredths, narrowed to its SEP2 type. -/
def toHundredths {T U : Type} [ScaledValueInner T] [TryConvert T U]
    (value : Option (ScaledValue T)) : Except TranslationError (Option U) :=
  (value.map fun val => (val.rescale sep2HundredthsSf).value).mapM tryConvert

/-- `TryFrom<ModbusSettings> for DERSettings`. -/
def Settings.toDERSettings (now : Int) (settings : Settings) : Except NamedError DERSettings := do
  let setEsHighVolt ← named "set_es_high_volt" (toHundredths settings.esvHi)
  let setEsLowVolt ← named "set_es_low_volt" (toHundredths settings.esvLo)
  let setEsHighFreq ← named "set_es_high_freq" (toHundredths settings.esHzHi)
  let setEsLowFreq ← named "set_es_low_freq" (toHundredths settings.esHzLo)
  return {
    setEsHighVolt
    setEsLowVolt
    setEsHighFreq
    setEsLowFreq
    setEsDelay := settings.esDlyTms.map secondsToHundredths
    setEsRandomDelay := settings.esRndTms.map secondsToHundredths
    setEsRampTms := settings.esRmpTms.map secondsToHundredths
    updatedTime := now }

/-! ## One limit -/

/-- An unsigned register type: the value that stands for "not implemented" is the largest. -/
class UnsignedRegister (T : Type) [ScaledValueInner T] [FixedSize T] : Prop where
  invalid_eq : (FixedSize.invalid : T) = maxValue
  minValue_eq : toInt (minValue : T) = 0
  maxValue_emod : toInt (maxValue : T) % 10 ≠ 0

instance : UnsignedRegister UInt16 := ⟨rfl, rfl, by decide⟩

instance : UnsignedRegister UInt32 := ⟨rfl, rfl, by decide⟩

/-- Narrowing to a type of SEP2 keeps the number, up to the bound of that type. -/
class LawfulNarrow (T U : Type) [ScaledValueInner T] [ScaledValueInner U] [TryConvert T U] :
    Prop where
  maxValue_lt : toInt (maxValue : U) < toInt (maxValue : T)
  tryConvert_of_le {x : T} (h : toInt x ≤ toInt (maxValue : U)) :
    ∃ u : U, tryConvert x = .ok u ∧ toInt u = toInt x
  tryConvert_of_lt {x : T} (h : toInt (maxValue : U) < toInt x) :
    (tryConvert x : Except TranslationError U) = .error .integerOverflow

instance : LawfulNarrow UInt16 Int16 where
  maxValue_lt := by decide
  tryConvert_of_le {x} h := by
    have hx : x.toNat < 2 ^ 15 := by
      change (x.toNat : Int) ≤ 32767 at h
      omega
    exact ⟨.ofNat x.toNat, if_pos hx, Int16.toInt_ofNat_of_lt hx⟩
  tryConvert_of_lt {x} h := if_neg (by
    change 32767 < (x.toNat : Int) at h
    omega)

instance : LawfulNarrow UInt32 UInt16 where
  maxValue_lt := by decide
  tryConvert_of_le {x} h := by
    have hx : x.toNat < 2 ^ 16 := by
      change (x.toNat : Int) ≤ 65535 at h
      omega
    refine ⟨.ofNat x.toNat, if_pos hx, ?_⟩
    show ((UInt16.ofNat x.toNat).toNat : Int) = x.toNat
    rw [UInt16.toNat_ofNat']
    omega
  tryConvert_of_lt {x} h := if_neg (by
    change 65535 < (x.toNat : Int) at h
    omega)

section Limit

open LawfulScaledValueInner LawfulNarrow UnsignedRegister

variable {T U : Type} [ScaledValueInner T] [LawfulScaledValueInner T] [FixedSize T]
  [ScaledValueInner U] [TryConvert T U] [LawfulNarrow T U]

variable (U) in
/-- What is reported of a register. -/
def reported (register : T) (sf : Int16) : Except TranslationError (Option U) :=
  toHundredths ((implemented register).map fun value => ⟨value, sf⟩)

omit [LawfulScaledValueInner T] [ScaledValueInner U] [LawfulNarrow T U] in
theorem reported_invalid (sf : Int16) : reported U (FixedSize.invalid : T) sf = .ok none := by
  rw [reported, implemented_invalid]
  rfl

omit [LawfulScaledValueInner T] in
theorem reported_of_le {register : T} {sf : Int16} (hne : register ≠ FixedSize.invalid)
    (h : toInt ((⟨register, sf⟩ : ScaledValue T).rescale sep2HundredthsSf).value ≤
      toInt (maxValue : U)) :
    ∃ u, reported U register sf = .ok (some u) ∧
      toInt u = toInt ((⟨register, sf⟩ : ScaledValue T).rescale sep2HundredthsSf).value := by
  obtain ⟨u, hu, htoInt⟩ := tryConvert_of_le h
  refine ⟨u, ?_, htoInt⟩
  rw [reported, implemented_of_ne hne]
  show some <$> (tryConvert _ : Except TranslationError U) = _
  rw [hu]
  rfl

omit [LawfulScaledValueInner T] in
theorem reported_of_lt {register : T} {sf : Int16} (hne : register ≠ FixedSize.invalid)
    (h : toInt (maxValue : U) <
      toInt ((⟨register, sf⟩ : ScaledValue T).rescale sep2HundredthsSf).value) :
    reported U register sf = .error .integerOverflow := by
  rw [reported, implemented_of_ne hne]
  show some <$> (tryConvert _ : Except TranslationError U) = _
  rw [tryConvert_of_lt h]
  rfl

/-- A number of hundredths, rounded to the device. -/
def deviceRounded (hundredths : Int) (sf : Int16) : ℚ :=
  roundHalfAway (hundredths * powTen sep2HundredthsSf sf) * powTen sf sep2HundredthsSf

variable (T) in
/-- What a limit is reported as after it was set. -/
structure ReportedAs (hundredths : Int) (sf : Int16) (back : Option Int) : Prop where
  unchanged : sf ≤ sep2HundredthsSf →
    clampTo T (roundHalfAway (hundredths * powTen sep2HundredthsSf sf)) =
      roundHalfAway (hundredths * powTen sep2HundredthsSf sf) →
    back = some hundredths
  near : sep2HundredthsSf < sf →
    ∃ h, back = some h ∧ |(h : ℚ) - hundredths| ≤ powTen sf sep2HundredthsSf / 2

section RoundTrip

variable {value : T} {sf : Int16}

/-- The register after the limit was set. -/
def registerOf (value : T) (sf : Int16) : T :=
  ((⟨value, sep2HundredthsSf⟩ : ScaledValue T).rescale sf).value

omit [FixedSize T] in
theorem toInt_registerOf (value : T) (sf : Int16) : toInt (registerOf value sf) =
    clampTo T (roundHalfAway (toInt value * powTen sep2HundredthsSf sf)) :=
  ScaledValue.toInt_value_rescale _ _

omit [LawfulScaledValueInner T] [FixedSize T] in
theorem registerOf_eq (value : T) (sf : Int16) :
    (⟨registerOf value sf, sf⟩ : ScaledValue T) =
      (⟨value, sep2HundredthsSf⟩ : ScaledValue T).rescale sf :=
  ScaledValue.ext rfl (ScaledValue.sf_rescale _ _).symm

variable [UnsignedRegister T]

theorem toInt_nonneg (value : T) : 0 ≤ toInt value :=
  (minValue_eq (T := T)).symm.le.trans (minValue_le value)

/-- On a finer scale the register holds the value itself or a multiple of ten, and `invalid` is
neither. -/
theorem reported_finer (hvalue : toInt value ≤ toInt (maxValue : U)) (hsf : sf ≤ sep2HundredthsSf)
    (hfits : clampTo T (roundHalfAway (toInt value * powTen sep2HundredthsSf sf)) =
      roundHalfAway (toInt value * powTen sep2HundredthsSf sf)) :
    ∃ u, reported U (registerOf value sf) sf = .ok (some u) ∧ toInt u = toInt value := by
  have hback : (⟨registerOf value sf, sf⟩ : ScaledValue T).rescale sep2HundredthsSf =
      ⟨value, sep2HundredthsSf⟩ := by
    rw [registerOf_eq]
    exact ScaledValue.rescale_rescale_of_finer hsf hfits
  have hne : registerOf value sf ≠ FixedSize.invalid := by
    intro h
    have hlt := maxValue_lt (T := T) (U := U)
    have hmod := maxValue_emod (T := T)
    have htoInt := toInt_registerOf value sf
    rw [hfits, powTen_of_le hsf, ← Int.cast_mul, roundHalfAway_intCast, h,
      invalid_eq (T := T)] at htoInt
    cases hk : (sep2HundredthsSf.toInt - sf.toInt).toNat with
    | zero =>
      rw [hk, pow_zero, mul_one] at htoInt
      omega
    | succ k =>
      rw [hk, pow_succ, ← mul_assoc] at htoInt
      omega
  obtain ⟨u, hu, htoInt⟩ := reported_of_le (U := U) hne (by rw [hback]; exact hvalue)
  rw [hback] at htoInt
  exact ⟨u, hu, htoInt⟩

omit [ScaledValueInner U] [LawfulNarrow T U] in
/-- A register that saturates reads as not implemented. -/
theorem reported_saturated
    (hfits : clampTo T (roundHalfAway (toInt value * powTen sep2HundredthsSf sf)) ≠
      roundHalfAway (toInt value * powTen sep2HundredthsSf sf)) :
    reported U (registerOf value sf) sf = .ok none := by
  have hround : 0 ≤ roundHalfAway (toInt value * powTen sep2HundredthsSf sf) :=
    roundHalfAway_nonneg (mul_nonneg (Int.cast_nonneg (toInt_nonneg value))
      (powTen_pos _ _).le)
  have hmin := minValue_eq (T := T)
  have hmax := toInt_nonneg (maxValue : T)
  have hregister : registerOf value sf = FixedSize.invalid := by
    rw [invalid_eq (T := T)]
    apply toInt_injective
    rw [toInt_registerOf]
    unfold clampTo at hfits ⊢
    omega
  rw [hregister, reported_invalid]

/-- On a coarser scale the rounding to the device is all that happens. -/
theorem reported_coarser (hvalue : toInt value ≤ toInt (maxValue : U))
    (hsf : sep2HundredthsSf < sf) :
    (∃ u, reported U (registerOf value sf) sf = .ok (some u) ∧
      (toInt u : ℚ) = deviceRounded (toInt value) sf) ∨
    reported U (registerOf value sf) sf = .error .integerOverflow ∧
      (toInt (maxValue : U) : ℚ) < deviceRounded (toInt value) sf := by
  have hlt := maxValue_lt (T := T) (U := U)
  have hmin := minValue_eq (T := T)
  have hvalue' : (0 : ℚ) ≤ toInt value := Int.cast_nonneg (toInt_nonneg value)
  have hnonneg : 0 ≤ roundHalfAway (toInt value * powTen sep2HundredthsSf sf) :=
    roundHalfAway_nonneg (mul_nonneg hvalue' (powTen_pos _ _).le)
  have hle : roundHalfAway (toInt value * powTen sep2HundredthsSf sf) ≤ toInt value := by
    have hpow : powTen sep2HundredthsSf sf ≤ 1 := by
      have hlt := Int16.lt_iff_toInt_lt.1 hsf
      exact zpow_le_one_of_nonpos₀ (by norm_num) (by omega)
    have hmono := roundHalfAway_mono (mul_le_of_le_one_right hvalue' hpow)
    rwa [roundHalfAway_intCast] at hmono
  have hregister : toInt (registerOf value sf) =
      roundHalfAway (toInt value * powTen sep2HundredthsSf sf) := by
    rw [toInt_registerOf]
    unfold clampTo
    omega
  have hne : registerOf value sf ≠ FixedSize.invalid := by
    intro h
    rw [h, invalid_eq (T := T)] at hregister
    omega
  -- back on hundredths the product is exact
  obtain ⟨n, hn⟩ : ∃ n : Int, deviceRounded (toInt value) sf = n := by
    rw [deviceRounded, powTen_of_le (Int16.le_of_lt hsf), ← Int.cast_mul]
    exact ⟨_, rfl⟩
  have hback : toInt ((⟨registerOf value sf, sf⟩ : ScaledValue T).rescale
      sep2HundredthsSf).value = clampTo T n := by
    rw [ScaledValue.toInt_value_rescale, hregister, ← deviceRounded, hn, roundHalfAway_intCast]
  have hn0 : 0 ≤ n := by
    have hq : 0 ≤ deviceRounded (toInt value) sf :=
      mul_nonneg (Int.cast_nonneg hnonneg) (powTen_pos _ _).le
    rw [hn] at hq
    exact_mod_cast hq
  rw [hn]
  by_cases hfits : n ≤ toInt (maxValue : U)
  · have hclamp : clampTo T n = n := by
      unfold clampTo
      omega
    rw [hclamp] at hback
    obtain ⟨u, hu, htoInt⟩ := reported_of_le (U := U) hne (hback ▸ hfits)
    exact .inl ⟨u, hu, by rw [htoInt, hback]⟩
  · refine .inr ⟨reported_of_lt hne ?_, Int.cast_lt.2 (not_le.1 hfits)⟩
    rw [hback]
    unfold clampTo
    omega

/-- Rounding to the device moves a limit by at most half a step. -/
theorem abs_deviceRounded_sub_le (hundredths : Int) (sf : Int16) :
    |deviceRounded hundredths sf - hundredths| ≤ powTen sf sep2HundredthsSf / 2 := by
  have hpos := powTen_pos sf sep2HundredthsSf
  have hround := abs_roundHalfAway_sub_le (hundredths * powTen sep2HundredthsSf sf)
  have hsplit : deviceRounded hundredths sf - hundredths =
      (roundHalfAway (hundredths * powTen sep2HundredthsSf sf) -
        hundredths * powTen sep2HundredthsSf sf) * powTen sf sep2HundredthsSf := by
    rw [deviceRounded, sub_mul, mul_assoc, powTen_mul_powTen, mul_one]
  rw [hsplit, abs_mul, abs_of_pos hpos]
  calc _ ≤ 1 / 2 * powTen sf sep2HundredthsSf := mul_le_mul_of_nonneg_right hround hpos.le
    _ = powTen sf sep2HundredthsSf / 2 := by ring

/-- What comes back of a limit that was set, and when nothing does. -/
theorem reported_registerOf (hvalue : toInt value ≤ toInt (maxValue : U)) (sf : Int16) :
    (∃ back, reported U (registerOf value sf) sf = .ok back ∧
      ReportedAs T (toInt value) sf (back.map toInt)) ∨
    reported U (registerOf value sf) sf = .error .integerOverflow ∧ sep2HundredthsSf < sf ∧
      (toInt (maxValue : U) : ℚ) < deviceRounded (toInt value) sf := by
  by_cases hsf : sf ≤ sep2HundredthsSf
  · left
    have hcoarse : ¬sep2HundredthsSf < sf := Int16.not_lt.2 hsf
    by_cases hfits : clampTo T (roundHalfAway (toInt value * powTen sep2HundredthsSf sf)) =
        roundHalfAway (toInt value * powTen sep2HundredthsSf sf)
    · obtain ⟨u, hu, htoInt⟩ := reported_finer (U := U) hvalue hsf hfits
      exact ⟨_, hu, fun _ _ => congrArg some htoInt, fun h => absurd h hcoarse⟩
    · exact ⟨_, reported_saturated hfits, fun _ h => absurd h hfits, fun h => absurd h hcoarse⟩
  · have hcoarse : sep2HundredthsSf < sf := Int16.not_le.1 hsf
    refine (reported_coarser hvalue hcoarse).imp (fun h => ?_) fun h => ⟨h.1, hcoarse, h.2⟩
    obtain ⟨u, hu, htoInt⟩ := h
    refine ⟨_, hu, fun h => absurd h hsf, fun _ => ⟨_, rfl, ?_⟩⟩
    rw [htoInt]
    exact abs_deviceRounded_sub_le _ _

/-- A limit that cannot be reported exceeds its SEP2 type. -/
theorem lt_of_reported_error {register : T} {kind : TranslationError}
    (h : reported U register sf = .error kind) : kind = .integerOverflow ∧
      (toInt (maxValue : U) : ℚ) < toInt register * powTen sf sep2HundredthsSf := by
  by_cases hne : register = FixedSize.invalid
  · rw [hne, reported_invalid] at h
    cases h
  · by_cases hle : toInt ((⟨register, sf⟩ : ScaledValue T).rescale sep2HundredthsSf).value ≤
        toInt (maxValue : U)
    · obtain ⟨u, hu, -⟩ := reported_of_le hne hle
      rw [hu] at h
      cases h
    · rw [reported_of_lt hne (not_le.1 hle)] at h
      cases h
      refine ⟨rfl, ?_⟩
      have hq : 0 ≤ (toInt register : ℚ) * powTen sf sep2HundredthsSf :=
        mul_nonneg (Int.cast_nonneg (toInt_nonneg register)) (powTen_pos _ _).le
      have hround := roundHalfAway_nonneg hq
      by_contra hnot
      have hmono := roundHalfAway_mono (not_lt.1 hnot)
      rw [roundHalfAway_intCast] at hmono
      rw [ScaledValue.toInt_value_rescale] at hle
      have hmin := minValue_eq (T := T)
      have hlt := maxValue_lt (T := T) (U := U)
      apply hle
      show clampTo T (roundHalfAway (toInt register * powTen sf sep2HundredthsSf)) ≤ _
      unfold clampTo
      omega

end RoundTrip

/-- The limit exceeds its SEP2 type, as the register has it: rounded to the device if it was set. -/
def Exceeds (U : Type) [ScaledValueInner U] (sf : Int16) (old : Int) : Option Int → Prop
  | some hundredths => sep2HundredthsSf < sf ∧
      (toInt (maxValue : U) : ℚ) < deviceRounded hundredths sf
  | none => (toInt (maxValue : U) : ℚ) < old * powTen sf sep2HundredthsSf

/-- A limit after it was set, or left as it was. -/
structure LimitReport (T U : Type) [ScaledValueInner T] [ScaledValueInner U] (sf : Int16)
    (old : Int) (set? : Option Int) (report : Except TranslationError (Option U)) : Prop where
  ok : ∀ back, report = .ok back → ∀ hundredths, set? = some hundredths →
    ReportedAs T hundredths sf (back.map toInt)
  error : ∀ kind, report = .error kind → kind = .integerOverflow ∧ Exceeds U sf old set?

theorem limitReport [UnsignedRegister T] {set? : Option T} {sf : Int16} {old : T}
    (hset : ∀ value, set? = some value → toInt value ≤ toInt (maxValue : U)) :
    LimitReport T U sf (toInt old) (set?.map toInt)
      (reported U ((set?.map fun value => registerOf value sf).getD old) sf) := by
  cases set? with
  | none =>
    constructor
    · intro _ _ _ h
      cases h
    · intro _ h
      exact lt_of_reported_error h
  | some value =>
    obtain ⟨back, hback, hreported⟩ | ⟨herror, hexceeds⟩ := reported_registerOf (hset value rfl) sf
    · constructor
      · intro back' h hundredths hhundredths
        cases hhundredths
        cases hback.symm.trans h
        exact hreported
      · intro kind h
        cases hback.symm.trans h
    · constructor
      · intro back h
        cases herror.symm.trans h
      · intro kind h
        cases herror.symm.trans h
        exact ⟨rfl, hexceeds⟩

end Limit

/-! ## The registers after a send -/

section Send

variable {device : Device} {curveModels : Parameters → List (UInt16 × UInt16)} {p : Parameters}
  {d : Registers} {r : Point}

/-- The registers of model 703 other than `ES`. -/
def enterServicePoints : List Point :=
  [.esvHi, .esvLo, .esHzHi, .esHzLo, .esDlyTms, .esRndTms, .esRmpTms]

theorem lastWrite_enterServicePoints (hr : r ∈ enterServicePoints) :
    lastWrite r (device.sendNewParameters p curveModels).1 =
      lastWrite r (device.sendModel703Parameters p) := by
  rw [sendNewParameters_eq]
  simp only [enterServicePoints, List.mem_cons, List.not_mem_nil, or_false] at hr
  obtain rfl | rfl | rfl | rfl | rfl | rfl | rfl := hr <;>
    simp [lastWrite_curveModels, lastWrite_pendingLimitDerivations, limitPoints, setPoints,
      Device.sendModel704Functions, writeRescaledIfSome]

theorem send_apply (hr : r ∈ enterServicePoints) : (device.send p curveModels d).1 r =
    (lastWrite r (device.sendModel703Parameters p)).getD (d r) :=
  (writeAll_apply _ _ _).trans (by rw [lastWrite_enterServicePoints hr])

theorem lastWrite_model703 (h703 : 703 ∈ device.supportedModelIds) :
    lastWrite .esvHi (device.sendModel703Parameters p) =
        p.esvHi.map (fun v => (v.rescale (device.vSf.getD 0)).value) ∧
      lastWrite .esvLo (device.sendModel703Parameters p) =
        p.esvLo.map (fun v => (v.rescale (device.vSf.getD 0)).value) ∧
      lastWrite .esHzHi (device.sendModel703Parameters p) =
        p.esHzHi.map (fun v => (v.rescale (device.hzSf.getD 0)).value) ∧
      lastWrite .esHzLo (device.sendModel703Parameters p) =
        p.esHzLo.map (fun v => (v.rescale (device.hzSf.getD 0)).value) ∧
      lastWrite .esDlyTms (device.sendModel703Parameters p) = p.esDlyTms ∧
      lastWrite .esRndTms (device.sendModel703Parameters p) = p.esRndTms ∧
      lastWrite .esRmpTms (device.sendModel703Parameters p) = p.esRmpTms := by
  simp [Device.sendModel703Parameters, h703, writeRescaledIfSome]

end Send

/-! ## The limits and the times -/

inductive EsLimit
  | highVolt | lowVolt | highFreq | lowFreq

namespace EsLimit

/-- The field of the report. -/
def name : EsLimit → String
  | highVolt => "set_es_high_volt"
  | lowVolt => "set_es_low_volt"
  | highFreq => "set_es_high_freq"
  | lowFreq => "set_es_low_freq"

/-- The scale of the device. -/
def sf (device : Device) : EsLimit → Int16
  | highVolt | lowVolt => device.vSf.getD 0
  | highFreq | lowFreq => device.hzSf.getD 0

/-- What SEP2 sets, in hundredths. -/
def set? (attrs : ControlAttributes) : EsLimit → Option Int
  | highVolt => attrs.inner.setEsHighVolt.map toInt
  | lowVolt => attrs.inner.setEsLowVolt.map toInt
  | highFreq => attrs.inner.setEsHighFreq.map toInt
  | lowFreq => attrs.inner.setEsLowFreq.map toInt

/-- What is reported, in hundredths. -/
def reported? (report : DERSettings) : EsLimit → Option Int
  | highVolt => report.setEsHighVolt.map toInt
  | lowVolt => report.setEsLowVolt.map toInt
  | highFreq => report.setEsHighFreq.map toInt
  | lowFreq => report.setEsLowFreq.map toInt

def register (d : Registers) : EsLimit → Int
  | highVolt => toInt (d .esvHi : UInt16)
  | lowVolt => toInt (d .esvLo : UInt16)
  | highFreq => toInt (d .esHzHi : UInt32)
  | lowFreq => toInt (d .esHzLo : UInt32)

/-- `Modbus.ReportedAs` at the type of the register. -/
def ReportedAs : EsLimit → Int → Int16 → Option Int → Prop
  | highVolt | lowVolt => Modbus.ReportedAs UInt16
  | highFreq | lowFreq => Modbus.ReportedAs UInt32

/-- `Modbus.Exceeds` at the type that SEP2 has. -/
def Exceeds : EsLimit → Int16 → Int → Option Int → Prop
  | highVolt | lowVolt => Modbus.Exceeds Int16
  | highFreq | lowFreq => Modbus.Exceeds UInt16

end EsLimit

inductive EsTime
  | delay | randomDelay | rampTms

namespace EsTime

/-- What SEP2 sets, in hundredths of a second. -/
def set? (attrs : ControlAttributes) : EsTime → Option UInt32
  | delay => attrs.inner.setEsDelay
  | randomDelay => attrs.inner.setEsRandomDelay
  | rampTms => attrs.inner.setEsRampTms

/-- What is reported, in hundredths of a second. -/
def reported? (report : DERSettings) : EsTime → Option UInt32
  | delay => report.setEsDelay
  | randomDelay => report.setEsRandomDelay
  | rampTms => report.setEsRampTms

end EsTime

/-- Hundredths of a second on whole seconds, a half up. -/
theorem toNat_hundredthsToSeconds (hundredths : UInt32) :
    (hundredthsToSeconds hundredths).toNat = (hundredths.toNat + 50) / 100 := by
  have hlt := hundredths.toNat_lt
  have hround : roundHalfAway (hundredths.toNat * powTen sep2HundredthsSf sunspecSecondsSf) =
      (hundredths.toNat + 50 : Int) / 100 := by
    have hpow : powTen sep2HundredthsSf sunspecSecondsSf = 1 / 100 := by
      have hexp : sep2HundredthsSf.toInt - sunspecSecondsSf.toInt = -2 := by decide
      rw [powTen, hexp]
      norm_num
    have hdiv := roundHalfAway_div_of_nonneg (v := hundredths.toNat) (f := 100) (by omega)
      (by omega)
    rw [hpow, mul_one_div, ← Int.tdiv_eq_ediv_of_nonneg (by omega)]
    exact hdiv.symm
  have h := ScaledValue.toInt_value_rescale
    (⟨hundredths, sep2HundredthsSf⟩ : ScaledValue UInt32) sunspecSecondsSf
  have hmin : toInt (minValue : UInt32) = 0 := rfl
  have hmax : toInt (maxValue : UInt32) = 4294967295 := rfl
  change ((hundredthsToSeconds hundredths).toNat : Int) =
    clampTo UInt32 (roundHalfAway (hundredths.toNat * _)) at h
  rw [hround, clampTo, hmin, hmax] at h
  omega

theorem toNat_secondsToHundredths (seconds : UInt32) :
    (secondsToHundredths seconds).toNat = min (2 ^ 32 - 1) (100 * seconds.toNat) := by
  have hround : roundHalfAway (seconds.toNat * powTen sunspecSecondsSf sep2HundredthsSf) =
      seconds.toNat * 100 := by
    have hpow : powTen sunspecSecondsSf sep2HundredthsSf = (100 : Int) :=
      powTen_of_le (by decide)
    rw [hpow, ← Int.cast_natCast, ← Int.cast_mul, roundHalfAway_intCast]
  have h := ScaledValue.toInt_value_rescale
    (⟨seconds, sunspecSecondsSf⟩ : ScaledValue UInt32) sep2HundredthsSf
  have hmin : toInt (minValue : UInt32) = 0 := rfl
  have hmax : toInt (maxValue : UInt32) = 4294967295 := rfl
  change ((secondsToHundredths seconds).toNat : Int) =
    clampTo UInt32 (roundHalfAway (seconds.toNat * _)) at h
  rw [hround, clampTo, hmin, hmax] at h
  omega

/-- A time that was set comes back on the whole second. -/
theorem map_secondsToHundredths {hundredths old : UInt32} :
    ((implemented ((some (hundredthsToSeconds hundredths)).getD old)).map
      secondsToHundredths).map UInt32.toNat =
      some (min (2 ^ 32 - 1) (100 * ((hundredths.toNat + 50) / 100))) := by
  have hseconds := toNat_hundredthsToSeconds hundredths
  have hlt := hundredths.toNat_lt
  have hne : hundredthsToSeconds hundredths ≠ FixedSize.invalid := by
    intro h
    rw [h] at hseconds
    change 4294967295 = _ at hseconds
    omega
  rw [Option.getD_some, implemented_of_ne hne, Option.map_some, Option.map_some,
    toNat_secondsToHundredths, hseconds]

/-! ## The round trip -/

section RoundTrip

variable {device : Device} {curveModels : Parameters → List (UInt16 × UInt16)} {p : Parameters}
  {d : Registers} {mapSiteLimits : Bool} {attrs : ControlAttributes} {now : Int}

/-- The registers of the limits after a send, as they are reported. -/
structure LimitReports (device : Device) (attrs : ControlAttributes) (d sent : Registers) :
    Prop where
  highVolt : LimitReport UInt16 Int16 (device.vSf.getD 0) (toInt (d .esvHi : UInt16))
    (attrs.inner.setEsHighVolt.map toInt)
    (reported Int16 (sent .esvHi : UInt16) (device.vSf.getD 0))
  lowVolt : LimitReport UInt16 Int16 (device.vSf.getD 0) (toInt (d .esvLo : UInt16))
    (attrs.inner.setEsLowVolt.map toInt)
    (reported Int16 (sent .esvLo : UInt16) (device.vSf.getD 0))
  highFreq : LimitReport UInt32 UInt16 (device.hzSf.getD 0) (toInt (d .esHzHi : UInt32))
    (attrs.inner.setEsHighFreq.map toInt)
    (reported UInt16 (sent .esHzHi : UInt32) (device.hzSf.getD 0))
  lowFreq : LimitReport UInt32 UInt16 (device.hzSf.getD 0) (toInt (d .esHzLo : UInt32))
    (attrs.inner.setEsLowFreq.map toInt)
    (reported UInt16 (sent .esHzLo : UInt32) (device.hzSf.getD 0))

/-- A voltage that was set, in the type of the register. -/
theorem limitReport_voltage {value : Option UInt16} {input : Option Int16}
    {field : Option (ScaledValue UInt16)} {sf : Int16} {old : UInt16}
    (hfield : field = value.map fun val => ⟨val, sep2HundredthsSf⟩)
    (h : value.map toInt = input.map Int16.toInt) :
    LimitReport UInt16 Int16 sf (toInt old) (input.map toInt)
      (reported Int16 ((field.map fun v => (v.rescale sf).value).getD old) sf) := by
  have hset : ∀ v, value = some v → toInt v ≤ toInt (maxValue : Int16) := by
    intro v hv
    rw [hv] at h
    obtain ⟨x, -, hx⟩ := Option.map_eq_some_iff.1 h.symm
    have hlt := x.toInt_lt
    rw [← hx]
    exact Int.lt_add_one_iff.1 hlt
  have hreport : LimitReport UInt16 Int16 sf (toInt old) _ _ := limitReport hset
  rw [h] at hreport
  rw [hfield, Option.map_map]
  exact hreport

theorem limitReport_frequency {input : Option UInt16} {field : Option (ScaledValue UInt32)}
    {sf : Int16} {old : UInt32}
    (hfield : field = input.map fun val => ⟨val.toUInt32, sep2HundredthsSf⟩) :
    LimitReport UInt32 UInt16 sf (toInt old) (input.map toInt)
      (reported UInt16 ((field.map fun v => (v.rescale sf).value).getD old) sf) := by
  have hset : ∀ v, input.map UInt16.toUInt32 = some v → toInt v ≤ toInt (maxValue : UInt16) := by
    intro v hv
    obtain ⟨x, -, rfl⟩ := Option.map_eq_some_iff.1 hv
    have hlt := x.toNat_lt
    rw [toInt_toUInt32]
    change (x.toNat : Int) ≤ 65535
    omega
  have hreport : LimitReport UInt32 UInt16 sf (toInt old) _ _ := limitReport hset
  rw [Option.map_map] at hreport
  rw [hfield]
  cases input with
  | none => exact hreport
  | some x =>
    have htoInt : toInt x.toUInt32 = toInt x := toInt_toUInt32 x
    simp only [Option.map_some, Function.comp, htoInt] at hreport
    exact hreport

theorem limitReports_send (h703 : 703 ∈ device.supportedModelIds)
    (hp : toParameters mapSiteLimits attrs = .ok p) (d : Registers) :
    LimitReports device attrs d (device.send p curveModels d).1 := by
  have ht := translatesScaled_of_ok hp
  obtain ⟨hHi, hLo, hHzHi, hHzLo, -⟩ := lastWrite_model703 (p := p) h703
  obtain ⟨hi, hhi, hhi'⟩ := ht.esvHi
  obtain ⟨lo, hlo, hlo'⟩ := ht.esvLo
  constructor
  case highVolt =>
    rw [send_apply (by decide), hHi]
    exact limitReport_voltage hhi hhi'
  case lowVolt =>
    rw [send_apply (by decide), hLo]
    exact limitReport_voltage hlo hlo'
  case highFreq =>
    rw [send_apply (by decide), hHzHi]
    exact limitReport_frequency ht.esHzHi
  case lowFreq =>
    rw [send_apply (by decide), hHzLo]
    exact limitReport_frequency ht.esHzLo

/-- The times of a translated set. -/
theorem esTimes_of_ok (h : toParameters mapSiteLimits attrs = .ok p) :
    p.esDlyTms = attrs.inner.setEsDelay.map hundredthsToSeconds ∧
      p.esRndTms = attrs.inner.setEsRandomDelay.map hundredthsToSeconds ∧
      p.esRmpTms = attrs.inner.setEsRampTms.map hundredthsToSeconds := by
  simp only [toParameters, bind_eq_ok, pure, Except.pure, Except.ok.injEq] at h
  obtain ⟨_, -, _, -, _, -, _, -, _, -, _, -, _, -, _, -, _, -, _, -, _, -, _, -, _, -, _, -, _, -,
    _, -, _, -, _, -, rfl⟩ := h
  exact ⟨rfl, rfl, rfl⟩

/-- Model 703 as it comes back. -/
theorem settings_readModel703 (h703 : 703 ∈ device.supportedModelIds) (d : Registers) :
    ∃ settings, Settings.from (device.readModel703 d) = some settings ∧
      toHundredths settings.esvHi = reported Int16 (d .esvHi : UInt16) (device.vSf.getD 0) ∧
      toHundredths settings.esvLo = reported Int16 (d .esvLo : UInt16) (device.vSf.getD 0) ∧
      toHundredths settings.esHzHi = reported UInt16 (d .esHzHi : UInt32) (device.hzSf.getD 0) ∧
      toHundredths settings.esHzLo = reported UInt16 (d .esHzLo : UInt32) (device.hzSf.getD 0) ∧
      settings.esDlyTms = implemented (d .esDlyTms : UInt32) ∧
      settings.esRndTms = implemented (d .esRndTms : UInt32) ∧
      settings.esRmpTms = implemented (d .esRmpTms : UInt32) := by
  rw [Device.readModel703, if_neg (not_not.2 h703)]
  exact ⟨_, rfl, rfl, rfl, rfl, rfl, rfl, rfl, rfl⟩

/-- The limits and the times of a report, or the limit that could not be reported. -/
theorem toDERSettings_cases (now : Int) (settings : Settings) :
    (∃ report, settings.toDERSettings now = .ok report ∧
      toHundredths settings.esvHi = .ok report.setEsHighVolt ∧
      toHundredths settings.esvLo = .ok report.setEsLowVolt ∧
      toHundredths settings.esHzHi = .ok report.setEsHighFreq ∧
      toHundredths settings.esHzLo = .ok report.setEsLowFreq ∧
      report.setEsDelay = settings.esDlyTms.map secondsToHundredths ∧
      report.setEsRandomDelay = settings.esRndTms.map secondsToHundredths ∧
      report.setEsRampTms = settings.esRmpTms.map secondsToHundredths) ∨
    ∃ kind, ∃ limit : EsLimit,
      settings.toDERSettings now = .error ⟨kind, limit.name⟩ ∧
      match limit with
      | .highVolt => (toHundredths settings.esvHi : Except _ (Option Int16)) = .error kind
      | .lowVolt => (toHundredths settings.esvLo : Except _ (Option Int16)) = .error kind
      | .highFreq => (toHundredths settings.esHzHi : Except _ (Option UInt16)) = .error kind
      | .lowFreq => (toHundredths settings.esHzLo : Except _ (Option UInt16)) = .error kind := by
  unfold Settings.toDERSettings
  cases hhv : (toHundredths settings.esvHi : Except _ (Option Int16)) with
  | error kind => exact .inr ⟨kind, .highVolt, rfl, rfl⟩
  | ok highVolt =>
    cases hlv : (toHundredths settings.esvLo : Except _ (Option Int16)) with
    | error kind => exact .inr ⟨kind, .lowVolt, rfl, rfl⟩
    | ok lowVolt =>
      cases hhf : (toHundredths settings.esHzHi : Except _ (Option UInt16)) with
      | error kind => exact .inr ⟨kind, .highFreq, rfl, rfl⟩
      | ok highFreq =>
        cases hlf : (toHundredths settings.esHzLo : Except _ (Option UInt16)) with
        | error kind => exact .inr ⟨kind, .lowFreq, rfl, rfl⟩
        | ok lowFreq => exact .inl ⟨_, rfl, rfl, rfl, rfl, rfl, rfl, rfl, rfl⟩

/-- What a report has of a set that was sent. -/
structure Returns (device : Device) (attrs : ControlAttributes) (report : DERSettings) : Prop where
  limit : ∀ (limit : EsLimit) (hundredths : Int), limit.set? attrs = some hundredths →
    limit.ReportedAs hundredths (limit.sf device) (limit.reported? report)
  time : ∀ (time : EsTime) (hundredths : UInt32), time.set? attrs = some hundredths →
    (time.reported? report).map UInt32.toNat =
      some (min (2 ^ 32 - 1) (100 * ((hundredths.toNat + 50) / 100)))

theorem enterService_round_trip (h703 : 703 ∈ device.supportedModelIds)
    (hp : toParameters mapSiteLimits attrs = .ok p) (d : Registers) (now : Int) :
    ∃ settings,
      Settings.from (device.readModel703 (device.send p curveModels d).1) = some settings ∧
      ((∃ report, settings.toDERSettings now = .ok report ∧ Returns device attrs report) ∨
        ∃ limit : EsLimit,
          settings.toDERSettings now = .error ⟨.integerOverflow, limit.name⟩ ∧
          limit.Exceeds (limit.sf device) (limit.register d) (limit.set? attrs)) := by
  have hlimits : LimitReports device attrs d (device.send p curveModels d).1 :=
    limitReports_send h703 hp d
  obtain ⟨settings, hsettings, hhv, hlv, hhf, hlf, hdly, hrnd, hrmp⟩ :=
    settings_readModel703 h703 (device.send p curveModels d).1
  refine ⟨settings, hsettings, ?_⟩
  obtain ⟨report, hreport, hhv', hlv', hhf', hlf', hdly', hrnd', hrmp'⟩ |
    ⟨kind, limit, herror, hkind⟩ := toDERSettings_cases now settings
  · refine .inl ⟨report, hreport, fun limit hundredths hset => ?_, fun time hundredths hset => ?_⟩
    · cases limit with
      | highVolt => exact hlimits.highVolt.ok _ (hhv.symm.trans hhv') _ hset
      | lowVolt => exact hlimits.lowVolt.ok _ (hlv.symm.trans hlv') _ hset
      | highFreq => exact hlimits.highFreq.ok _ (hhf.symm.trans hhf') _ hset
      | lowFreq => exact hlimits.lowFreq.ok _ (hlf.symm.trans hlf') _ hset
    · obtain ⟨-, -, -, -, hDly, hRnd, hRmp⟩ := lastWrite_model703 (p := p) h703
      obtain ⟨hpDly, hpRnd, hpRmp⟩ := esTimes_of_ok hp
      cases time with
      | delay =>
        change attrs.inner.setEsDelay = some hundredths at hset
        show report.setEsDelay.map UInt32.toNat = _
        rw [hdly', hdly, send_apply (by decide), hDly, hpDly, hset, Option.map_some]
        exact map_secondsToHundredths
      | randomDelay =>
        change attrs.inner.setEsRandomDelay = some hundredths at hset
        show report.setEsRandomDelay.map UInt32.toNat = _
        rw [hrnd', hrnd, send_apply (by decide), hRnd, hpRnd, hset, Option.map_some]
        exact map_secondsToHundredths
      | rampTms =>
        change attrs.inner.setEsRampTms = some hundredths at hset
        show report.setEsRampTms.map UInt32.toNat = _
        rw [hrmp', hrmp, send_apply (by decide), hRmp, hpRmp, hset, Option.map_some]
        exact map_secondsToHundredths
  · right
    cases limit with
    | highVolt =>
      obtain ⟨rfl, hexceeds⟩ := hlimits.highVolt.error _ (hhv.symm.trans hkind)
      exact ⟨.highVolt, herror, hexceeds⟩
    | lowVolt =>
      obtain ⟨rfl, hexceeds⟩ := hlimits.lowVolt.error _ (hlv.symm.trans hkind)
      exact ⟨.lowVolt, herror, hexceeds⟩
    | highFreq =>
      obtain ⟨rfl, hexceeds⟩ := hlimits.highFreq.error _ (hhf.symm.trans hkind)
      exact ⟨.highFreq, herror, hexceeds⟩
    | lowFreq =>
      obtain ⟨rfl, hexceeds⟩ := hlimits.lowFreq.error _ (hlf.symm.trans hkind)
      exact ⟨.lowFreq, herror, hexceeds⟩

/-- 253 V is unchanged on tenths, 50.25 Hz becomes 50.3 Hz there, and 60.5 s become 61 s. -/
def esAttributes : ControlAttributes :=
  { inner := { setEsHighVolt := some 25300, setEsHighFreq := some 5025, setEsDelay := some 6050 } }

def esParameters : Parameters :=
  { pfwInjEna := some .disabled, pfwAbsEna := some .disabled, varSetEna := some .disabled
    esvHi := some ⟨25300, sep2HundredthsSf⟩, esHzHi := some ⟨5025, sep2HundredthsSf⟩
    esDlyTms := some 61, wMaxLimPctEna := some .disabled, wSetEna := some .disabled }

theorem toParameters_esAttributes : toParameters false esAttributes = .ok esParameters := by
  rfl

def tenthsDevice : Device := { Device.plain none with vSf := some (-1), hzSf := some (-1) }

theorem enterService_round_trip_tenths :
    ∃ settings, Settings.from (tenthsDevice.readModel703
        (tenthsDevice.send esParameters (fun _ => []) Registers.initial).1) = some settings ∧
      ((∃ report, settings.toDERSettings 0 = .ok report ∧
          Returns tenthsDevice esAttributes report) ∨
        ∃ limit : EsLimit, settings.toDERSettings 0 = .error ⟨.integerOverflow, limit.name⟩ ∧
          limit.Exceeds (limit.sf tenthsDevice) (limit.register Registers.initial)
            (limit.set? esAttributes)) :=
  enterService_round_trip (by decide) toParameters_esAttributes _ _

example : (Settings.from (tenthsDevice.readModel703
      (tenthsDevice.send esParameters (fun _ => []) Registers.initial).1)).map
        (Settings.toDERSettings 0) =
    some (.ok ⟨some 25300, some 0, some 5030, some 0, some 6100, some 0, some 0, 0⟩) := by
  decide +kernel

end RoundTrip

end Sep2Bridge.Modbus
