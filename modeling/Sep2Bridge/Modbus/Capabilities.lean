import Mathlib.Data.Finset.Union
import Mathlib.Tactic.IntervalCases
import Sep2Bridge.Lib.FirstError
import Sep2Bridge.Modbus.EnterService
import Sep2Bridge.Modbus.Metering

/-!
# The capabilities of the device

`Capabilities::from` and `TryFrom<ModbusCapabilities> for DERCapability`: the ratings of model 702,
each with its scale factor, become SEP2 quantities with a power of ten, and the control modes of
the device become those that SEP2 knows.

A set of flags is the set of what its iterator gives. The bits past all known names come as one
unknown flag.

**Theorem (`toDERCapability_exact`).** A translation that succeeds is exact: each rating that is
reported is the number that model 702 gives, the absorbed reactive power negated. One that fails
names the first rating, in the order of the translation, that SEP2 cannot represent.
-/

namespace Sep2Bridge.Modbus

open Lib ScaledValueInner

/-! ## Model 702 -/

/-- The flags of `CtrlModes`. -/
inductive CtrlMode
  | maxW | fixedW | fixedVar | fixedPf | voltVar | freqWatt | dynReactCurr | lvTrip | hvTrip
  | wattVar | voltWatt | scheduled | lfTrip | hfTrip | unknown
  deriving DecidableEq

abbrev CtrlModes := Finset CtrlMode

/-- Model 702 as it is read. -/
structure Model702 where
  wMaxRtg : Option UInt16 := none
  wOvrExtRtg : Option UInt16 := none
  wOvrExtRtgPf : Option UInt16 := none
  wUndExtRtg : Option UInt16 := none
  wUndExtRtgPf : Option UInt16 := none
  vaMaxRtg : Option UInt16 := none
  varMaxInjRtg : Option UInt16 := none
  varMaxAbsRtg : Option UInt16 := none
  wChaRteMaxRtg : Option UInt16 := none
  vaChaRteMaxRtg : Option UInt16 := none
  vNomRtg : Option UInt16 := none
  vMaxRtg : Option UInt16 := none
  vMinRtg : Option UInt16 := none
  ctrlModes : Option CtrlModes := none
  reactSusceptRtg : Option UInt16 := none
  wSf : Option Int16 := none
  pfSf : Option Int16 := none
  vaSf : Option Int16 := none
  varSf : Option Int16 := none
  vSf : Option Int16 := none
  sSf : Option Int16 := none

structure Capabilities where
  wMaxRtg : Option (ScaledValue UInt16)
  wOvrExtRtg : Option (ScaledValue UInt16)
  wOvrExtRtgPf : Option (ScaledValue UInt16)
  wUndExtRtg : Option (ScaledValue UInt16)
  wUndExtRtgPf : Option (ScaledValue UInt16)
  vaMaxRtg : Option (ScaledValue UInt16)
  varMaxInjRtg : Option (ScaledValue UInt16)
  varMaxAbsRtg : Option (ScaledValue UInt16)
  wChaRteMaxRtg : Option (ScaledValue UInt16)
  vaChaRteMaxRtg : Option (ScaledValue UInt16)
  vNomRtg : Option (ScaledValue UInt16)
  vMaxRtg : Option (ScaledValue UInt16)
  vMinRtg : Option (ScaledValue UInt16)
  ctrlModes : Option CtrlModes
  reactSusceptRtg : Option (ScaledValue UInt16)
  deriving DecidableEq

/-- `From<Model702> for Capabilities`. A scale factor that is not implemented counts as 0. -/
def Capabilities.from (m702 : Model702) : Capabilities :=
  let wSf := m702.wSf.getD 0
  let pfSf := m702.pfSf.getD 0
  let vaSf := m702.vaSf.getD 0
  let varSf := m702.varSf.getD 0
  let vSf := m702.vSf.getD 0
  let sSf := m702.sSf.getD 0
  { wMaxRtg := m702.wMaxRtg.map fun val => ⟨val, wSf⟩
    wOvrExtRtg := m702.wOvrExtRtg.map fun val => ⟨val, wSf⟩
    wOvrExtRtgPf := m702.wOvrExtRtgPf.map fun val => ⟨val, pfSf⟩
    wUndExtRtg := m702.wUndExtRtg.map fun val => ⟨val, wSf⟩
    wUndExtRtgPf := m702.wUndExtRtgPf.map fun val => ⟨val, pfSf⟩
    vaMaxRtg := m702.vaMaxRtg.map fun val => ⟨val, vaSf⟩
    varMaxInjRtg := m702.varMaxInjRtg.map fun val => ⟨val, varSf⟩
    varMaxAbsRtg := m702.varMaxAbsRtg.map fun val => ⟨val, varSf⟩
    wChaRteMaxRtg := m702.wChaRteMaxRtg.map fun val => ⟨val, wSf⟩
    vaChaRteMaxRtg := m702.vaChaRteMaxRtg.map fun val => ⟨val, vaSf⟩
    vNomRtg := m702.vNomRtg.map fun val => ⟨val, vSf⟩
    vMaxRtg := m702.vMaxRtg.map fun val => ⟨val, vSf⟩
    vMinRtg := m702.vMinRtg.map fun val => ⟨val, vSf⟩
    ctrlModes := m702.ctrlModes
    reactSusceptRtg := m702.reactSusceptRtg.map fun val => ⟨val, sSf⟩ }

/-! ## The report -/

structure PowerFactor where
  displacement : UInt16
  multiplier : PowerOfTenMultiplierType
  deriving DecidableEq

structure ApparentPower where
  value : UInt16
  multiplier : PowerOfTenMultiplierType
  deriving DecidableEq

structure VoltageRMS where
  value : UInt16
  multiplier : PowerOfTenMultiplierType
  deriving DecidableEq

structure ReactiveSusceptance where
  value : UInt16
  multiplier : PowerOfTenMultiplierType
  deriving DecidableEq

/-- The flags of `DERControlType` that the bridge can set. -/
inductive DERControlMode
  | opModMaxLimW | opModFixedW | opModFixedVar | opModFixedPfInjectW | opModFixedPfAbsorbW
  | opModVoltVar | opModLvrtMustTrip | opModLvrtMayTrip | opModLvrtMomentaryCessation
  | opModHvrtMustTrip | opModHvrtMayTrip | opModHvrtMomentaryCessation | opModVoltWatt
  | opModLfrtMustTrip | opModLfrtMayTrip | opModHfrtMustTrip | opModHfrtMayTrip
  deriving DecidableEq

abbrev DERControlType := Finset DERControlMode

structure DERCapability where
  rtgMaxW : ActivePower
  rtgOverExcitedW : Option ActivePower
  rtgOverExcitedPf : Option PowerFactor
  rtgUnderExcitedW : Option ActivePower
  rtgUnderExcitedPf : Option PowerFactor
  rtgMaxVa : Option ApparentPower
  rtgMaxVar : Option ReactivePower
  rtgMaxVarNeg : Option ReactivePower
  rtgMaxChargeRateW : Option ActivePower
  rtgMaxChargeRateVa : Option ApparentPower
  rtgVNom : Option VoltageRMS
  rtgMaxV : Option VoltageRMS
  rtgMinV : Option VoltageRMS
  modesSupported : DERControlType
  rtgReactiveSusceptance : Option ReactiveSusceptance
  deriving DecidableEq

instance : TryConvert (ScaledValue UInt16) ActivePower where
  tryConvert self := return { value := ← tryConvert self.value, multiplier := ← tryConvert self.sf }

instance : TryConvert (ScaledValue UInt16) PowerFactor where
  tryConvert self := return { displacement := self.value, multiplier := ← tryConvert self.sf }

instance : TryConvert (ScaledValue UInt16) ApparentPower where
  tryConvert self := return { value := self.value, multiplier := ← tryConvert self.sf }

instance : TryConvert (ScaledValue UInt16) ReactivePower where
  tryConvert self := return { value := ← tryConvert self.value, multiplier := ← tryConvert self.sf }

instance : TryConvert (ScaledValue UInt16) VoltageRMS where
  tryConvert self := return { value := self.value, multiplier := ← tryConvert self.sf }

instance : TryConvert (ScaledValue UInt16) ReactiveSusceptance where
  tryConvert self := return { value := self.value, multiplier := ← tryConvert self.sf }

/-- What a flag of the device stands for. The others are not supported by the bridge, not expected
of a device, deprecated or unknown. -/
def CtrlMode.controls : CtrlMode → DERControlType
  | .maxW => {.opModMaxLimW}
  | .fixedW => {.opModFixedW}
  | .fixedVar => {.opModFixedVar}
  | .fixedPf => {.opModFixedPfInjectW, .opModFixedPfAbsorbW}
  | .voltVar => {.opModVoltVar}
  | .lvTrip => {.opModLvrtMustTrip, .opModLvrtMayTrip, .opModLvrtMomentaryCessation}
  | .hvTrip => {.opModHvrtMustTrip, .opModHvrtMayTrip, .opModHvrtMomentaryCessation}
  | .voltWatt => {.opModVoltWatt}
  -- The AS5438 SEP2 profile doesn't allow for a LFRT/HFRT momentary cessation.
  | .lfTrip => {.opModLfrtMustTrip, .opModLfrtMayTrip}
  | .hfTrip => {.opModHfrtMustTrip, .opModHfrtMayTrip}
  | .freqWatt | .wattVar | .scheduled | .dynReactCurr | .unknown => ∅

instance : Convert (Option CtrlModes) DERControlType where
  convert
    | none => ∅
    | some ctrlModes => ctrlModes.biUnion CtrlMode.controls

/-- `try_convert_mandatory` -/
def tryConvertMandatory {U T : Type} [TryConvert U T] : Option U → Except TranslationError T
  | none => .error .mandatoryNone
  | some val => tryConvert val

/-- `TryFrom<ModbusCapabilities> for DERCapability`. -/
def toDERCapability (caps : Capabilities) : Except NamedError DERCapability := do
  let rtgMaxW ← named "rtg_max_w" (tryConvertMandatory caps.wMaxRtg)
  let rtgOverExcitedW ← named "rtg_over_excited_w" (caps.wOvrExtRtg.mapM tryConvert)
  let rtgOverExcitedPf ← named "rtg_over_excited_pf" (caps.wOvrExtRtgPf.mapM tryConvert)
  let rtgUnderExcitedW ← named "rtg_under_excited_w" (caps.wUndExtRtg.mapM tryConvert)
  let rtgUnderExcitedPf ← named "rtg_under_excited_pf" (caps.wUndExtRtgPf.mapM tryConvert)
  let rtgMaxVa ← named "rtg_max_va" (caps.vaMaxRtg.mapM tryConvert)
  let rtgMaxVar ← named "rtg_max_var" (caps.varMaxInjRtg.mapM tryConvert)
  let varNeg : Option ReactivePower ←
    named "rtg_max_var_neg" (caps.varMaxAbsRtg.mapM tryConvert)
  let rtgMaxChargeRateW ← named "rtg_max_charge_rate_w" (caps.wChaRteMaxRtg.mapM tryConvert)
  let rtgMaxChargeRateVa ← named "rtg_max_charge_rate_va" (caps.vaChaRteMaxRtg.mapM tryConvert)
  let rtgVNom ← named "rtg_v_nom" (caps.vNomRtg.mapM tryConvert)
  let rtgMaxV ← named "rtg_max_v" (caps.vMaxRtg.mapM tryConvert)
  let rtgMinV ← named "rtg_min_v" (caps.vMinRtg.mapM tryConvert)
  let rtgReactiveSusceptance ←
    named "rtg_reactive_susceptance" (caps.reactSusceptRtg.mapM tryConvert)
  return {
    rtgMaxW
    rtgOverExcitedW
    rtgOverExcitedPf
    rtgUnderExcitedW
    rtgUnderExcitedPf
    rtgMaxVa
    rtgMaxVar
    -- Sunspec gives the absorbed rating as a magnitude, SEP2 expects it negative.
    rtgMaxVarNeg := varNeg.map fun var => { var with value := -var.value }
    rtgMaxChargeRateW
    rtgMaxChargeRateVa
    rtgVNom
    rtgMaxV
    rtgMinV
    modesSupported := convert caps.ctrlModes
    rtgReactiveSusceptance }

/-! ## What a conversion keeps -/

/-- The power of ten that a multiplier stands for. -/
def tenTo (multiplier : PowerOfTenMultiplierType) : ℚ := 10 ^ (convert multiplier : Int16).toInt

theorem tryConvert_multiplier (sf : Int16) :
    (∃ multiplier : PowerOfTenMultiplierType, tryConvert sf = .ok multiplier ∧
        (convert multiplier : Int16) = sf ∧ -9 ≤ sf.toInt ∧ sf.toInt ≤ 9) ∨
      ((tryConvert sf : Except TranslationError PowerOfTenMultiplierType) = .error .outOfRange ∧
        (sf.toInt < -9 ∨ 9 < sf.toInt)) := by
  by_cases hsf : -9 ≤ sf.toInt ∧ sf.toInt ≤ 9
  · left
    obtain ⟨hlo, hhi⟩ := hsf
    have hback : ∀ c : Int16, c.toInt = sf.toInt → c = sf := fun c => Int16.toInt_inj.1
    simp only [TryConvert.tryConvert]
    interval_cases sf.toInt <;> exact ⟨_, rfl, hback _ rfl, by decide, by decide⟩
  · right
    refine ⟨?_, by omega⟩
    simp only [TryConvert.tryConvert]
    split <;> first | rfl | omega

/-- Why SEP2 cannot represent a rating of the device, if it cannot. -/
def representationError (isSigned : Bool) (x : ScaledValue UInt16) : Option TranslationError :=
  if isSigned = true ∧ 2 ^ 15 ≤ x.value.toNat then some .integerOverflow
  else if x.sf.toInt < -9 ∨ 9 < x.sf.toInt then some .outOfRange
  else none

/-- A SEP2 quantity: a number with a power of ten, signed or not. -/
class Quantity (T : Type) where
  toRat : T → ℚ
  isSigned : Bool

/-- The conversion of a rating keeps the number, or fails because SEP2 cannot represent it. -/
class LawfulQuantity (T : Type) [TryConvert (ScaledValue UInt16) T] [Quantity T] : Prop where
  errorOf_tryConvert (x : ScaledValue UInt16) : errorOf (tryConvert x : Except _ T) =
    representationError (Quantity.isSigned T) x
  toRat_of_ok (x : ScaledValue UInt16) (t : T) : tryConvert x = .ok t →
    Quantity.toRat t = x.toRat

section Quantities

variable {T : Type} [Quantity T]

/-- A number taken over as it is. -/
theorem unsigned_quantity (mk : PowerOfTenMultiplierType → T) (x : ScaledValue UInt16)
    (hmk : ∀ m, Quantity.toRat (mk m) = x.value.toNat * tenTo m) :
    (∃ t, (tryConvert x.sf >>= fun m => pure (mk m) : Except TranslationError T) = .ok t ∧
        Quantity.toRat t = x.toRat ∧ representationError false x = none) ∨
      ∃ e, (tryConvert x.sf >>= fun m => pure (mk m) : Except TranslationError T) = .error e ∧
        representationError false x = some e := by
  rcases tryConvert_multiplier x.sf with ⟨m, hm, hback, hrange⟩ | ⟨hm, hrange⟩
  · refine .inl ⟨mk m, by rw [hm]; rfl, ?_, ?_⟩
    · rw [hmk, tenTo, hback]
      rfl
    · rw [representationError, if_neg (by simp), if_neg (by omega)]
  · refine .inr ⟨.outOfRange, by rw [hm]; rfl, ?_⟩
    rw [representationError, if_neg (by simp), if_pos hrange]

/-- A number narrowed to a signed one. -/
theorem signed_quantity (mk : Int16 → PowerOfTenMultiplierType → T) (x : ScaledValue UInt16)
    (hmk : ∀ v m, Quantity.toRat (mk v m) = v.toInt * tenTo m) :
    (∃ t, (tryConvert x.value >>= fun v => tryConvert x.sf >>= fun m => pure (mk v m) :
          Except TranslationError T) = .ok t ∧
        Quantity.toRat t = x.toRat ∧ representationError true x = none) ∨
      ∃ e, (tryConvert x.value >>= fun v => tryConvert x.sf >>= fun m => pure (mk v m) :
          Except TranslationError T) = .error e ∧ representationError true x = some e := by
  by_cases hv : x.value.toNat < 2 ^ 15
  · have hle : toInt x.value ≤ toInt (maxValue : Int16) := by
      show (x.value.toNat : Int) ≤ 32767
      omega
    obtain ⟨v, hvalue, hv'⟩ := LawfulNarrow.tryConvert_of_le (U := Int16) hle
    change v.toInt = (x.value.toNat : Int) at hv'
    rw [hvalue]
    have hunsigned := unsigned_quantity (mk v) x fun m => by
      rw [hmk, hv', Int.cast_natCast]
    have herror : representationError true x = representationError false x := by
      have hfits : x.value.toNat < 32768 := hv
      simp [representationError, hfits]
    rw [herror]
    exact hunsigned
  · have hlt : toInt (maxValue : Int16) < toInt x.value := by
      show 32767 < (x.value.toNat : Int)
      omega
    refine .inr ⟨.integerOverflow, ?_, ?_⟩
    · rw [LawfulNarrow.tryConvert_of_lt (U := Int16) hlt]
      rfl
    · rw [representationError, if_pos ⟨rfl, by omega⟩]

end Quantities

/-- What the cases of a conversion say of its error and of its result. -/
theorem LawfulQuantity.of_cases {T : Type} [TryConvert (ScaledValue UInt16) T] [Quantity T]
    (h : ∀ x : ScaledValue UInt16, (∃ t : T, tryConvert x = .ok t ∧
        Quantity.toRat t = x.toRat ∧ representationError (Quantity.isSigned T) x = none) ∨
      ∃ e, (tryConvert x : Except TranslationError T) = .error e ∧
        representationError (Quantity.isSigned T) x = some e) : LawfulQuantity T where
  errorOf_tryConvert x := by
    rcases h x with ⟨t, ht, -, hnone⟩ | ⟨e, he, hsome⟩
    · rw [ht, hnone, errorOf_ok]
    · rw [he, hsome, errorOf_error]
  toRat_of_ok x t ht := by
    rcases h x with ⟨t', ht', hrat, -⟩ | ⟨e, he, -⟩
    · rw [ht] at ht'
      cases ht'
      exact hrat
    · rw [ht] at he
      cases he

instance : Quantity ActivePower where
  toRat power := power.value.toInt * tenTo power.multiplier
  isSigned := true

instance : LawfulQuantity ActivePower :=
  .of_cases fun x => signed_quantity ActivePower.mk x fun _ _ => rfl

instance : Quantity ReactivePower where
  toRat power := power.value.toInt * tenTo power.multiplier
  isSigned := true

instance : LawfulQuantity ReactivePower :=
  .of_cases fun x => signed_quantity ReactivePower.mk x fun _ _ => rfl

instance : Quantity PowerFactor where
  toRat factor := factor.displacement.toNat * tenTo factor.multiplier
  isSigned := false

instance : LawfulQuantity PowerFactor :=
  .of_cases fun x => unsigned_quantity (PowerFactor.mk x.value) x fun _ => rfl

instance : Quantity ApparentPower where
  toRat power := power.value.toNat * tenTo power.multiplier
  isSigned := false

instance : LawfulQuantity ApparentPower :=
  .of_cases fun x => unsigned_quantity (ApparentPower.mk x.value) x fun _ => rfl

instance : Quantity VoltageRMS where
  toRat voltage := voltage.value.toNat * tenTo voltage.multiplier
  isSigned := false

instance : LawfulQuantity VoltageRMS :=
  .of_cases fun x => unsigned_quantity (VoltageRMS.mk x.value) x fun _ => rfl

instance : Quantity ReactiveSusceptance where
  toRat susceptance := susceptance.value.toNat * tenTo susceptance.multiplier
  isSigned := false

instance : LawfulQuantity ReactiveSusceptance :=
  .of_cases fun x => unsigned_quantity (ReactiveSusceptance.mk x.value) x fun _ => rfl

/-! ## The ratings -/

/-- The ratings, in the order in which they are translated. -/
inductive Rating
  | maxW | overExcitedW | overExcitedPf | underExcitedW | underExcitedPf | maxVa | maxVar
  | maxVarNeg | maxChargeRateW | maxChargeRateVa | vNom | maxV | minV | reactiveSusceptance
  deriving DecidableEq

namespace Rating

def all : List Rating :=
  [maxW, overExcitedW, overExcitedPf, underExcitedW, underExcitedPf, maxVa, maxVar, maxVarNeg,
    maxChargeRateW, maxChargeRateVa, vNom, maxV, minV, reactiveSusceptance]

/-- The field that a rating is translated to. -/
def name : Rating → String
  | maxW => "rtg_max_w"
  | overExcitedW => "rtg_over_excited_w"
  | overExcitedPf => "rtg_over_excited_pf"
  | underExcitedW => "rtg_under_excited_w"
  | underExcitedPf => "rtg_under_excited_pf"
  | maxVa => "rtg_max_va"
  | maxVar => "rtg_max_var"
  | maxVarNeg => "rtg_max_var_neg"
  | maxChargeRateW => "rtg_max_charge_rate_w"
  | maxChargeRateVa => "rtg_max_charge_rate_va"
  | vNom => "rtg_v_nom"
  | maxV => "rtg_max_v"
  | minV => "rtg_min_v"
  | reactiveSusceptance => "rtg_reactive_susceptance"

/-- What the device gives. -/
def given (caps : Capabilities) : Rating → Option (ScaledValue UInt16)
  | maxW => caps.wMaxRtg
  | overExcitedW => caps.wOvrExtRtg
  | overExcitedPf => caps.wOvrExtRtgPf
  | underExcitedW => caps.wUndExtRtg
  | underExcitedPf => caps.wUndExtRtgPf
  | maxVa => caps.vaMaxRtg
  | maxVar => caps.varMaxInjRtg
  | maxVarNeg => caps.varMaxAbsRtg
  | maxChargeRateW => caps.wChaRteMaxRtg
  | maxChargeRateVa => caps.vaChaRteMaxRtg
  | vNom => caps.vNomRtg
  | maxV => caps.vMaxRtg
  | minV => caps.vMinRtg
  | reactiveSusceptance => caps.reactSusceptRtg

/-- The number in the report. -/
def reported (report : DERCapability) : Rating → Option ℚ
  | maxW => some (Quantity.toRat report.rtgMaxW)
  | overExcitedW => report.rtgOverExcitedW.map Quantity.toRat
  | overExcitedPf => report.rtgOverExcitedPf.map Quantity.toRat
  | underExcitedW => report.rtgUnderExcitedW.map Quantity.toRat
  | underExcitedPf => report.rtgUnderExcitedPf.map Quantity.toRat
  | maxVa => report.rtgMaxVa.map Quantity.toRat
  | maxVar => report.rtgMaxVar.map Quantity.toRat
  | maxVarNeg => report.rtgMaxVarNeg.map Quantity.toRat
  | maxChargeRateW => report.rtgMaxChargeRateW.map Quantity.toRat
  | maxChargeRateVa => report.rtgMaxChargeRateVa.map Quantity.toRat
  | vNom => report.rtgVNom.map Quantity.toRat
  | maxV => report.rtgMaxV.map Quantity.toRat
  | minV => report.rtgMinV.map Quantity.toRat
  | reactiveSusceptance => report.rtgReactiveSusceptance.map Quantity.toRat

/-- Held in a signed integer of 16 bits. -/
def isSigned : Rating → Bool
  | maxW | overExcitedW | underExcitedW | maxVar | maxVarNeg | maxChargeRateW => true
  | _ => false

/-- The absorbed reactive power is reported as a negative number. -/
def sign : Rating → ℚ
  | maxVarNeg => -1
  | _ => 1

/-- Why SEP2 cannot represent the rating, if it cannot. Only the maximal power is mandatory. -/
def error? (caps : Capabilities) (rating : Rating) : Option NamedError :=
  let kind := match rating.given caps with
    | none => if rating = maxW then some TranslationError.mandatoryNone else none
    | some x => representationError rating.isSigned x
  kind.map (⟨·, rating.name⟩)

end Rating

section Ratings

variable {T : Type} [TryConvert (ScaledValue UInt16) T] [Quantity T] [LawfulQuantity T]
  {name : String} {x : Option (ScaledValue UInt16)}

theorem errorOf_named_mapM : errorOf (named name (x.mapM tryConvert : Except _ (Option T))) =
    (x.bind (representationError (Quantity.isSigned T))).map (⟨·, name⟩) := by
  rw [named, errorOf_mapError, errorOf_mapM_option]
  simp only [LawfulQuantity.errorOf_tryConvert]

omit [Quantity T] [LawfulQuantity T] in
theorem ok_of_named {x : ScaledValue UInt16} {t : T}
    (h : named name (tryConvert x) = .ok t) : tryConvert x = .ok t := by
  cases ht : (tryConvert x : Except TranslationError T) with
  | error e =>
    rw [ht] at h
    cases h
  | ok t' =>
    rw [ht] at h
    cases h
    rfl

omit [Quantity T] [LawfulQuantity T] in
theorem ok_of_named_mapM_some {x : ScaledValue UInt16} {y : Option T}
    (h : named name ((some x).mapM tryConvert) = .ok y) :
    ∃ t, tryConvert x = .ok t ∧ y = some t := by
  have hmap : named name (some <$> (tryConvert x : Except TranslationError T)) = .ok y := h
  cases ht : (tryConvert x : Except TranslationError T) with
  | error e =>
    rw [ht] at hmap
    cases hmap
  | ok t =>
    rw [ht] at hmap
    cases hmap
    exact ⟨t, rfl, rfl⟩

theorem toRat_of_named_mapM {y : Option T} (h : named name (x.mapM tryConvert) = .ok y) :
    y.map Quantity.toRat = x.map ScaledValue.toRat := by
  cases x with
  | none =>
    cases h
    rfl
  | some x =>
    obtain ⟨t, ht, rfl⟩ := ok_of_named_mapM_some h
    exact congrArg some (LawfulQuantity.toRat_of_ok x t ht)

end Ratings

theorem errorOf_mandatory {caps : Capabilities} :
    errorOf (named "rtg_max_w" (tryConvertMandatory caps.wMaxRtg : Except _ ActivePower)) =
      Rating.maxW.error? caps := by
  rw [named, errorOf_mapError, Rating.error?]
  show (errorOf (tryConvertMandatory caps.wMaxRtg)).map _ = _
  unfold Rating.given
  cases caps.wMaxRtg with
  | none => rfl
  | some x => exact congrArg (Option.map _) (LawfulQuantity.errorOf_tryConvert (T := ActivePower) x)

/-- The error of a rating that is not mandatory. -/
theorem error?_of_ne_maxW {caps : Capabilities} {rating : Rating} (h : rating ≠ .maxW) :
    rating.error? caps =
      ((rating.given caps).bind (representationError rating.isSigned)).map (⟨·, rating.name⟩) := by
  unfold Rating.error?
  cases rating.given caps with
  | none => rw [if_neg h]; rfl
  | some x => rfl

/-- The error of the translation is that of the first rating that has one. -/
theorem errorOf_toDERCapability (caps : Capabilities) :
    errorOf (toDERCapability caps) = Rating.all.findSome? (Rating.error? caps) := by
  have hrating {T β : Type} [TryConvert (ScaledValue UInt16) T] [Quantity T] [LawfulQuantity T]
      (rating : Rating) {f : Option T → Except NamedError β} {rest : Option NamedError}
      (hne : rating ≠ .maxW) (hsigned : Quantity.isSigned T = rating.isSigned)
      (hf : ∀ y, errorOf (f y) = rest) :
      errorOf (named rating.name ((rating.given caps).mapM tryConvert) >>= f) =
        (rating.error? caps).or rest := by
    rw [errorOf_bind fun y _ => hf y, errorOf_named_mapM, error?_of_ne_maxW hne, hsigned]
  simp only [Rating.all, findSome?_cons_eq_or, List.findSome?_nil]
  unfold toDERCapability
  rw [← errorOf_mandatory]
  refine errorOf_bind fun _ _ => ?_
  refine hrating .overExcitedW (by decide) rfl fun _ => ?_
  refine hrating .overExcitedPf (by decide) rfl fun _ => ?_
  refine hrating .underExcitedW (by decide) rfl fun _ => ?_
  refine hrating .underExcitedPf (by decide) rfl fun _ => ?_
  refine hrating .maxVa (by decide) rfl fun _ => ?_
  refine hrating .maxVar (by decide) rfl fun _ => ?_
  refine hrating .maxVarNeg (by decide) rfl fun _ => ?_
  refine hrating .maxChargeRateW (by decide) rfl fun _ => ?_
  refine hrating .maxChargeRateVa (by decide) rfl fun _ => ?_
  refine hrating .vNom (by decide) rfl fun _ => ?_
  refine hrating .maxV (by decide) rfl fun _ => ?_
  refine hrating .minV (by decide) rfl fun _ => ?_
  exact hrating .reactiveSusceptance (by decide) rfl fun _ => rfl

/-- A signed number that comes from an unsigned one can be negated. -/
theorem toRat_neg {x : ScaledValue UInt16} {var : ReactivePower} (h : tryConvert x = .ok var) :
    Quantity.toRat { var with value := -var.value } = -Quantity.toRat var := by
  have hnonneg : 0 ≤ var.value.toInt := by
    obtain ⟨v, hv, hrest⟩ := bind_eq_ok.1 h
    obtain ⟨m, -, hvar⟩ := bind_eq_ok.1 hrest
    cases hvar
    rcases le_or_gt (toInt x.value) (toInt (maxValue : Int16)) with hle | hlt
    · obtain ⟨v', hv', hvalue⟩ := LawfulNarrow.tryConvert_of_le (U := Int16) hle
      cases hv'.symm.trans hv
      show 0 ≤ toInt v
      rw [hvalue]
      exact Int.natCast_nonneg _
    · cases (LawfulNarrow.tryConvert_of_lt (U := Int16) hlt).symm.trans hv
  have hmax := var.value.toInt_lt
  have hneg : (-var.value).toInt = -var.value.toInt := by
    rw [Int16.toInt_neg]
    exact Int.bmod_eq_of_le (by omega) (by omega)
  show ((-var.value).toInt : ℚ) * tenTo var.multiplier = -(var.value.toInt * tenTo var.multiplier)
  rw [hneg, Int.cast_neg, neg_mul]

/-- **The report is exact**, or the error names the first rating that SEP2 cannot represent. -/
theorem toDERCapability_exact (caps : Capabilities) :
    (∀ report, toDERCapability caps = .ok report →
      ∀ rating : Rating, rating.reported report =
        (rating.given caps).map fun x => rating.sign * x.toRat) ∧
    ∀ e, toDERCapability caps = .error e ↔
      Rating.all.findSome? (Rating.error? caps) = some e := by
  refine ⟨fun report h rating => ?_, fun e => ?_⟩
  · simp only [toDERCapability, bind_eq_ok, pure, Except.pure, Except.ok.injEq] at h
    obtain ⟨maxW, hmaxW, _, h₁, _, h₂, _, h₃, _, h₄, _, h₅, _, h₆, varNeg, hvarNeg, _, h₈, _, h₉,
      _, h₁₀, _, h₁₁, _, h₁₂, _, h₁₃, rfl⟩ := h
    have hone (x : Option (ScaledValue UInt16)) :
        (x.map fun x => (1 : ℚ) * x.toRat) = x.map ScaledValue.toRat :=
      congrArg x.map (funext fun x => one_mul _)
    cases rating with
    | maxW =>
      show some _ = caps.wMaxRtg.map fun x => 1 * x.toRat
      cases hgiven : caps.wMaxRtg with
      | none =>
        rw [hgiven] at hmaxW
        cases hmaxW
      | some x =>
        rw [hgiven] at hmaxW
        rw [Option.map_some, one_mul, LawfulQuantity.toRat_of_ok x maxW (ok_of_named hmaxW)]
    | maxVarNeg =>
      show (varNeg.map _).map Quantity.toRat = caps.varMaxAbsRtg.map fun x => -1 * x.toRat
      cases hgiven : caps.varMaxAbsRtg with
      | none =>
        rw [hgiven] at hvarNeg
        cases hvarNeg
        rfl
      | some x =>
        rw [hgiven] at hvarNeg
        obtain ⟨var, hvar, rfl⟩ := ok_of_named_mapM_some hvarNeg
        rw [Option.map_some, Option.map_some, Option.map_some, toRat_neg hvar,
          LawfulQuantity.toRat_of_ok x var hvar, neg_one_mul]
    | overExcitedW => exact (toRat_of_named_mapM h₁).trans (hone _).symm
    | overExcitedPf => exact (toRat_of_named_mapM h₂).trans (hone _).symm
    | underExcitedW => exact (toRat_of_named_mapM h₃).trans (hone _).symm
    | underExcitedPf => exact (toRat_of_named_mapM h₄).trans (hone _).symm
    | maxVa => exact (toRat_of_named_mapM h₅).trans (hone _).symm
    | maxVar => exact (toRat_of_named_mapM h₆).trans (hone _).symm
    | maxChargeRateW => exact (toRat_of_named_mapM h₈).trans (hone _).symm
    | maxChargeRateVa => exact (toRat_of_named_mapM h₉).trans (hone _).symm
    | vNom => exact (toRat_of_named_mapM h₁₀).trans (hone _).symm
    | maxV => exact (toRat_of_named_mapM h₁₁).trans (hone _).symm
    | minV => exact (toRat_of_named_mapM h₁₂).trans (hone _).symm
    | reactiveSusceptance => exact (toRat_of_named_mapM h₁₃).trans (hone _).symm
  · rw [← errorOf_toDERCapability, errorOf_eq_some]

/-! ## The control modes -/

namespace DERControlMode

/-- The mode is set by the attributes. A curve counts when it is known. -/
def isSet (attrs : ControlAttributes) (mode : DERControlMode) : Bool :=
  let base := attrs.inner.derControlBase
  let known := fun link : Option Link => (link.bind fun link => attrs.curves[link.href]?).isSome
  match mode with
  | opModMaxLimW => base.opModMaxLimW.isSome
  | opModFixedW => base.opModFixedW.isSome
  | opModFixedVar => base.opModFixedVar.isSome
  | opModFixedPfInjectW => base.opModFixedPfInjectW.isSome
  | opModFixedPfAbsorbW => base.opModFixedPfAbsorbW.isSome
  | opModVoltVar => known base.opModVoltVar
  | opModLvrtMustTrip => known base.opModLvrtMustTrip
  | opModLvrtMayTrip => known base.opModLvrtMayTrip
  | opModLvrtMomentaryCessation => known base.opModLvrtMomentaryCessation
  | opModHvrtMustTrip => known base.opModHvrtMustTrip
  | opModHvrtMayTrip => known base.opModHvrtMayTrip
  | opModHvrtMomentaryCessation => known base.opModHvrtMomentaryCessation
  | opModVoltWatt => known base.opModVoltWatt
  | opModLfrtMustTrip => known base.opModLfrtMustTrip
  | opModLfrtMayTrip => known base.opModLfrtMayTrip
  | opModHfrtMustTrip => known base.opModHfrtMustTrip
  | opModHfrtMayTrip => known base.opModHfrtMayTrip

/-- The parameters ask for the mode: it is enabled, with a value, or its curve is there. -/
def isAskedFor (p : Parameters) : DERControlMode → Bool
  | opModMaxLimW => p.wMaxLimPctEna = some .enabled ∧ p.wMaxLimPct.isSome
  | opModFixedW => p.wSetEna = some .enabled ∧ p.wSetMod = some .wMaxPct ∧ p.wSetPct.isSome
  | opModFixedVar => p.varSetEna = some .enabled ∧ p.varSetMod.isSome ∧ p.varSetPct.isSome
  | opModFixedPfInjectW => p.pfwInjEna = some .enabled ∧ p.pfwInjPf.isSome ∧ p.pfwInjExt.isSome
  | opModFixedPfAbsorbW => p.pfwAbsEna = some .enabled ∧ p.pfwAbsPf.isSome ∧ p.pfwAbsExt.isSome
  | opModVoltVar => p.derVoltVar.isSome
  | opModLvrtMustTrip => p.derTripLvMust.isSome
  | opModLvrtMayTrip => p.derTripLvMay.isSome
  | opModLvrtMomentaryCessation => p.derTripLvMomCess.isSome
  | opModHvrtMustTrip => p.derTripHvMust.isSome
  | opModHvrtMayTrip => p.derTripHvMay.isSome
  | opModHvrtMomentaryCessation => p.derTripHvMomCess.isSome
  | opModVoltWatt => p.derVoltWatt.isSome
  | opModLfrtMustTrip => p.derTripLfMust.isSome
  | opModLfrtMayTrip => p.derTripLfMay.isSome
  | opModHfrtMustTrip => p.derTripHfMust.isSome
  | opModHfrtMayTrip => p.derTripHfMay.isSome

end DERControlMode

/-- **What the bridge can announce, it does**: the parameters ask for a mode exactly if the
attributes set it. -/
theorem isAskedFor_iff {mapSiteLimits : Bool} {attrs : ControlAttributes} {p : Parameters}
    (h : toParameters mapSiteLimits attrs = .ok p) (mode : DERControlMode) :
    mode.isAskedFor p = mode.isSet attrs := by
  have ht := translates_of_ok h
  simp only [toParameters, bind_eq_ok, pure, Except.pure, Except.ok.injEq] at h
  obtain ⟨_, hvv, _, -, _, -, _, -, _, hvw, _, -, _, hlv₁, _, hlv₂, _, hlv₃, _, hhv₁, _, hhv₂, _,
    hhv₃, _, hlf₁, _, hlf₂, _, hhf₁, _, hhf₂, _, -, _, -, hp⟩ := h
  have hena (b : Bool) : (some (convert b : Ena) = some .enabled) ↔ b = true := by
    cases b <;> decide
  cases mode with
  | opModMaxLimW =>
    simp [DERControlMode.isAskedFor, DERControlMode.isSet, ht.wMaxLimPctEna, ht.wMaxLimPct, hena]
  | opModFixedW =>
    -- watts alone are another mode of the same function
    simp only [DERControlMode.isAskedFor, DERControlMode.isSet, ht.wSetEna, ht.wSetPct, ht.wSetMod]
    cases attrs.inner.derControlBase.opModFixedW <;> cases p.wSet <;> rfl
  | opModFixedVar =>
    simp [DERControlMode.isAskedFor, DERControlMode.isSet, ht.varSetEna, ht.varSetPct,
      ht.varSetMod, hena]
  | opModFixedPfInjectW =>
    simp [DERControlMode.isAskedFor, DERControlMode.isSet, ht.pfwInjEna, ht.pfwInjPf,
      ht.pfwInjExt, hena]
  | opModFixedPfAbsorbW =>
    simp [DERControlMode.isAskedFor, DERControlMode.isSet, ht.pfwAbsEna, ht.pfwAbsPf,
      ht.pfwAbsExt, hena]
  | opModVoltVar => rw [← hp]; exact isSome_of_named_mapM hvv
  | opModLvrtMustTrip => rw [← hp]; exact isSome_of_named_mapM hlv₁
  | opModLvrtMayTrip => rw [← hp]; exact isSome_of_named_mapM hlv₂
  | opModLvrtMomentaryCessation => rw [← hp]; exact isSome_of_named_mapM hlv₃
  | opModHvrtMustTrip => rw [← hp]; exact isSome_of_named_mapM hhv₁
  | opModHvrtMayTrip => rw [← hp]; exact isSome_of_named_mapM hhv₂
  | opModHvrtMomentaryCessation => rw [← hp]; exact isSome_of_named_mapM hhv₃
  | opModVoltWatt => rw [← hp]; exact isSome_of_named_mapM hvw
  | opModLfrtMustTrip => rw [← hp]; exact isSome_of_named_mapM hlf₁
  | opModLfrtMayTrip => rw [← hp]; exact isSome_of_named_mapM hlf₂
  | opModHfrtMustTrip => rw [← hp]; exact isSome_of_named_mapM hhf₁
  | opModHfrtMayTrip => rw [← hp]; exact isSome_of_named_mapM hhf₂

theorem isAskedFor_iff_maxLim : DERControlMode.opModMaxLimW.isSet (maxLimAttributes 5000) = true ∧
    ∀ mode : DERControlMode,
      mode.isAskedFor (maxLimParameters 5000) = mode.isSet (maxLimAttributes 5000) :=
  ⟨rfl, isAskedFor_iff (toParameters_maxLimAttributes 5000)⟩

end Sep2Bridge.Modbus
