import Sep2Bridge.Lib.Traverse
import Sep2Bridge.Modbus.Parameters
import Sep2Bridge.Scheduler.Attributes

/-!
# From control attributes to parameters

`translation.rs`, from `TryFrom<ControlAttributes> for ModbusParameters` down. A conversion
between two types is a `Convert` where it cannot fail and a `TryConvert` where it can; only the
translation as a whole knows the names of the fields.

`mapSiteLimits` stands for the build feature `map-imp-exp-site-limits`.
-/

namespace Sep2Bridge.Modbus

open Lib

inductive TranslationError
  | unsignedNegative | integerOverflow | mandatoryNone | unmappableInvalid | outOfRange
  deriving DecidableEq

/-- An error and the field that was being translated to. -/
structure NamedError where
  kind : TranslationError
  name : String
  deriving DecidableEq

/-- Name the field of an error. -/
def named {α : Type} (name : String) (result : Except TranslationError α) : Except NamedError α :=
  result.mapError fun kind => ⟨kind, name⟩

class Convert (U T : Type) where
  convert : U → T

class TryConvert (U T : Type) where
  tryConvert : U → Except TranslationError T

export Convert (convert)
export TryConvert (tryConvert)

def sep2HundredthsSf : Int16 := -2

def sep2ThousandthsSf : Int16 := -3

def sunspecSecondsSf : Int16 := 0

/-! ## Conversions between types -/

instance : TryConvert Int16 UInt16 where
  tryConvert x := if x.toInt < 0 then .error .unsignedNegative else .ok (.ofNat x.toInt.toNat)

instance : TryConvert Int32 UInt32 where
  tryConvert x := if x.toInt < 0 then .error .unsignedNegative else .ok (.ofNat x.toInt.toNat)

instance : TryConvert Int32 UInt16 where
  tryConvert x :=
    if x.toInt < 0 then .error .unsignedNegative
    else if x.toInt < 2 ^ 16 then .ok (.ofNat x.toInt.toNat)
    else .error .integerOverflow

instance : TryConvert Int32 Int16 where
  tryConvert x :=
    if -2 ^ 15 ≤ x.toInt ∧ x.toInt < 2 ^ 15 then .ok (.ofInt x.toInt) else .error .integerOverflow

instance : TryConvert UInt32 UInt16 where
  tryConvert x := if x.toNat < 2 ^ 16 then .ok (.ofNat x.toNat) else .error .integerOverflow

instance : Convert Bool Ena where
  convert b := if b then .enabled else .disabled

instance : Convert Bool PfwExt where
  convert b := if b then .underExcited else .overExcited

instance : TryConvert DERUnitRefType VarSetMod where
  tryConvert
    | .setMaxW => .ok .wMaxPct
    | .setMaxVar => .ok .varMaxPct
    | .statVarAvail => .ok .varAvailPct
    | .statWAvail | .setEffectiveV | .setMaxChargeRateW | .setMaxDischargeRateW
    | .notApplicable => .error .unmappableInvalid

instance : TryConvert DERUnitRefType VoltVarDeptRef where
  tryConvert
    | .setMaxW => .ok .wMaxPct
    | .setMaxVar => .ok .varMaxPct
    | .statVarAvail => .ok .varAvalPct
    | .statWAvail | .setEffectiveV | .setMaxChargeRateW | .setMaxDischargeRateW
    | .notApplicable => .error .unmappableInvalid

instance : TryConvert DERUnitRefType VoltWattDeptRef where
  tryConvert
    | .setMaxW => .ok .wMaxPct
    | .statWAvail => .ok .wAvalPct
    | .setMaxVar | .statVarAvail | .setEffectiveV | .setMaxChargeRateW | .setMaxDischargeRateW
    | .notApplicable => .error .unmappableInvalid

instance : Convert PowerOfTenMultiplierType Int16 where
  convert
    | .nano => -9
    | .negativeEight => -8
    | .negativeSeven => -7
    | .micro => -6
    | .negativeFive => -5
    | .negativeFour => -4
    | .milli => -3
    | .centi => -2
    | .deci => -1
    | .none => 0
    | .deca => 1
    | .hecto => 2
    | .kilo => 3
    | .four => 4
    | .five => 5
    | .mega => 6
    | .seven => 7
    | .eight => 8
    | .giga => 9

instance : Convert FreqDroopType Model711Ctl where
  convert droop :=
    { dbOf := ⟨droop.dBof, sep2ThousandthsSf⟩
      dbUf := ⟨droop.dBuf, sep2ThousandthsSf⟩
      kOf := ⟨droop.kOf, sep2ThousandthsSf⟩
      kUf := ⟨droop.kUf, sep2ThousandthsSf⟩
      rspTms := ⟨droop.openLoopTms.toUInt32, sep2HundredthsSf⟩ }

instance : Convert ActivePower (ScaledValue Int32) where
  convert power := ⟨power.value.toInt32, convert power.multiplier⟩

instance : Convert PowerFactorWithExcitation (ScaledValue UInt16) where
  convert pfw := ⟨pfw.displacement, convert pfw.multiplier⟩

inductive AxisOrder
  | same | flipped

/-- Convert a curve. The trip curves have their axes the other way round. -/
def convertCurve {TX TY : Type} [TryConvert Int32 TX] [TryConvert Int32 TY] (input : DERCurve) :
    AxisOrder → Except TranslationError (Curve TX TY)
  | .same => do
    let points ← input.curveData.mapM fun point => do
      let x ← tryConvert point.xvalue
      let y ← tryConvert point.yvalue
      return (x, y)
    return ⟨points, convert input.xMultiplier, convert input.yMultiplier⟩
  | .flipped => do
    let points ← input.curveData.mapM fun point => do
      let x ← tryConvert point.yvalue
      let y ← tryConvert point.xvalue
      return (x, y)
    return ⟨points, convert input.yMultiplier, convert input.xMultiplier⟩

def hundredthsToSeconds (hundredthsOfASecond : UInt32) : UInt32 :=
  ((⟨hundredthsOfASecond, sep2HundredthsSf⟩ : ScaledValue UInt32).rescale sunspecSecondsSf).value

/-! ## The translation -/

/-- An import limit of the site is a set point of minus its magnitude. -/
def importSiteLimitToWset (mapSiteLimits : Bool) (base : DERControlBase) :
    Option (ScaledValue Int32) :=
  if mapSiteLimits then
    base.opModImpLimW.map fun activePower =>
      let wSet : ScaledValue Int32 := convert activePower
      ⟨-wSet.value.abs, wSet.sf⟩
  else none

def exportSiteLimitToWmaxlim (mapSiteLimits : Bool) (base : DERControlBase) :
    Option (ScaledValue UInt32) :=
  if mapSiteLimits then
    base.opModExpLimW.map fun activePower =>
      let wMaxLim : ScaledValue Int32 := convert activePower
      ⟨wMaxLim.value.abs.toUInt32, wMaxLim.sf⟩
  else none

/-- With both a percentage and watts the percentage is preferred. -/
def wSetModFor (fixedW : Option Int16) (wSet : Option (ScaledValue Int32)) : Option WSetMod :=
  match fixedW, wSet with
  | none, none => none
  | some _, none => some .wMaxPct
  | none, some _ => some .watts
  | some _, some _ => some .wMaxPct

/-- `TryFrom<ControlAttributes> for ModbusParameters`. -/
def toParameters (mapSiteLimits : Bool) (attrs : ControlAttributes) :
    Except NamedError Parameters := do
  let base := attrs.inner.derControlBase
  let fixedW := base.opModFixedW
  let targetW : Option (ScaledValue Int32) := base.opModTargetW.map convert
  let siteLimitW := importSiteLimitToWset mapSiteLimits base
  let wSetIsImportSiteLimit := targetW.isNone && siteLimitW.isSome
  let wSet := targetW.or siteLimitW
  let wMaxLim := exportSiteLimitToWmaxlim mapSiteLimits base
  let getCurveData := fun link : Link => attrs.curves[link.href]?
  let derVoltVarCurve := base.opModVoltVar.bind getCurveData
  let derVoltWattCurve := base.opModVoltWatt.bind getCurveData
  let tripCurve := fun {TX TY : Type} [TryConvert Int32 TX] [TryConvert Int32 TY]
      (name : String) (link : Option Link) =>
    (named name ((link.bind getCurveData).mapM fun c => convertCurve c .flipped) :
      Except NamedError (Option (Curve TX TY)))
  let derVoltVar ← named "der_volt_var" (derVoltVarCurve.mapM fun c => convertCurve c .same)
  let derVoltVarDeptRef ← named "der_volt_var_dept_ref"
    (derVoltVarCurve.mapM fun c => tryConvert c.yRefType)
  let vrefAutoTms ← named "vref_auto_tms"
    ((derVoltVarCurve.bind fun c => c.autonomousVRefTimeConstant).mapM fun val =>
      tryConvert (hundredthsToSeconds val))
  let varSetMod ← named "var_set_mod" (base.opModFixedVar.mapM fun var => tryConvert var.refType)
  let derVoltWatt ← named "der_volt_watt" (derVoltWattCurve.mapM fun c => convertCurve c .same)
  let derVoltWattDeptRef ← named "der_volt_watt_dept_ref"
    (derVoltWattCurve.mapM fun c => tryConvert c.yRefType)
  let derTripLvMust ← tripCurve "der_trip_lv_must" base.opModLvrtMustTrip
  let derTripLvMay ← tripCurve "der_trip_lv_may" base.opModLvrtMayTrip
  let derTripLvMomCess ← tripCurve "der_trip_lv_mom_cess" base.opModLvrtMomentaryCessation
  let derTripHvMust ← tripCurve "der_trip_hv_must" base.opModHvrtMustTrip
  let derTripHvMay ← tripCurve "der_trip_hv_may" base.opModHvrtMayTrip
  let derTripHvMomCess ← tripCurve "der_trip_hv_mom_cess" base.opModHvrtMomentaryCessation
  let derTripLfMust ← tripCurve "der_trip_lf_must" base.opModLfrtMustTrip
  let derTripLfMay ← tripCurve "der_trip_lf_may" base.opModLfrtMayTrip
  let derTripHfMust ← tripCurve "der_trip_hf_must" base.opModHfrtMustTrip
  let derTripHfMay ← tripCurve "der_trip_hf_may" base.opModHfrtMayTrip
  let esvHi : Option UInt16 ← named "esv_hi" (attrs.inner.setEsHighVolt.mapM tryConvert)
  let esvLo : Option UInt16 ← named "esv_lo" (attrs.inner.setEsLowVolt.mapM tryConvert)
  return {
    pfwInjEna := some (convert base.opModFixedPfInjectW.isSome)
    pfwInjPf := base.opModFixedPfInjectW.map convert
    pfwInjExt := base.opModFixedPfInjectW.map fun pfw => convert pfw.excitation
    pfwAbsEna := some (convert base.opModFixedPfAbsorbW.isSome)
    pfwAbsPf := base.opModFixedPfAbsorbW.map convert
    pfwAbsExt := base.opModFixedPfAbsorbW.map fun pfw => convert pfw.excitation
    derVoltVar
    derVoltVarTms := (derVoltVarCurve.bind fun c => c.openLoopTms).map fun val =>
      ⟨val.toUInt32, sep2HundredthsSf⟩
    derVoltVarDeptRef
    vref := (derVoltVarCurve.bind fun c => c.vRef).map fun val => ⟨val, sep2HundredthsSf⟩
    vrefAutoEna := derVoltVarCurve.map fun c => convert (c.autonomousVRefEnable.getD false)
    vrefAutoTms
    varSetEna := some (convert base.opModFixedVar.isSome)
    varSetPct := base.opModFixedVar.map fun var => ⟨var.value, sep2HundredthsSf⟩
    varSetMod
    derVoltWatt
    derVoltWattTms := (derVoltWattCurve.bind fun c => c.openLoopTms).map fun val =>
      ⟨val.toUInt32, sep2HundredthsSf⟩
    derVoltWattDeptRef
    derTripLvMust
    derTripLvMay
    derTripLvMomCess
    derTripHvMust
    derTripHvMay
    derTripHvMomCess
    derTripLfMust
    derTripLfMay
    derTripHfMust
    derTripHfMay
    droopCtl := base.opModFreqDroop.map convert
    es := base.opModConnect.map convert
    esvHi := esvHi.map fun val => ⟨val, sep2HundredthsSf⟩
    esvLo := esvLo.map fun val => ⟨val, sep2HundredthsSf⟩
    esHzHi := attrs.inner.setEsHighFreq.map fun val => ⟨val.toUInt32, sep2HundredthsSf⟩
    esHzLo := attrs.inner.setEsLowFreq.map fun val => ⟨val.toUInt32, sep2HundredthsSf⟩
    esDlyTms := attrs.inner.setEsDelay.map hundredthsToSeconds
    esRndTms := attrs.inner.setEsRandomDelay.map hundredthsToSeconds
    esRmpTms := attrs.inner.setEsRampTms.map hundredthsToSeconds
    -- Whether an export limit enables the function is decided when it is written.
    wMaxLimPctEna := some (convert base.opModMaxLimW.isSome)
    wMaxLimPct := base.opModMaxLimW.map fun val => ⟨val, sep2HundredthsSf⟩
    wSetEna := some (convert (fixedW.isSome || wSet.isSome))
    wSetPct := base.opModFixedW.map fun val => ⟨val, sep2HundredthsSf⟩
    wSet
    wSetIsImportSiteLimit
    wSetMod := wSetModFor fixedW wSet
    wMaxLim }

/-! ## What a translation asks of models 703 and 704 -/

/-- The fields for the functions of models 703 and 704, from the attributes they come from. -/
structure Translates (mapSiteLimits : Bool) (base : DERControlBase) (p : Parameters) : Prop where
  es : p.es = base.opModConnect.map convert
  pfwInjEna : p.pfwInjEna = some (convert base.opModFixedPfInjectW.isSome)
  pfwInjPf : p.pfwInjPf = base.opModFixedPfInjectW.map convert
  pfwInjExt : p.pfwInjExt = base.opModFixedPfInjectW.map fun pfw => convert pfw.excitation
  pfwAbsEna : p.pfwAbsEna = some (convert base.opModFixedPfAbsorbW.isSome)
  pfwAbsPf : p.pfwAbsPf = base.opModFixedPfAbsorbW.map convert
  pfwAbsExt : p.pfwAbsExt = base.opModFixedPfAbsorbW.map fun pfw => convert pfw.excitation
  varSetEna : p.varSetEna = some (convert base.opModFixedVar.isSome)
  varSetPct : p.varSetPct = base.opModFixedVar.map fun var => ⟨var.value, sep2HundredthsSf⟩
  varSetMod : p.varSetMod.isSome = base.opModFixedVar.isSome
  wMaxLimPctEna : p.wMaxLimPctEna = some (convert base.opModMaxLimW.isSome)
  wMaxLimPct : p.wMaxLimPct = base.opModMaxLimW.map fun val => ⟨val, sep2HundredthsSf⟩
  wMaxLim : p.wMaxLim = exportSiteLimitToWmaxlim mapSiteLimits base
  wSetPct : p.wSetPct = base.opModFixedW.map fun val => ⟨val, sep2HundredthsSf⟩
  wSet : p.wSet =
    (base.opModTargetW.map convert).or (importSiteLimitToWset mapSiteLimits base)
  wSetEna : p.wSetEna = some (convert (base.opModFixedW.isSome || p.wSet.isSome))
  wSetIsImportSiteLimit : p.wSetIsImportSiteLimit =
    (base.opModTargetW.isNone && (importSiteLimitToWset mapSiteLimits base).isSome)
  wSetMod : p.wSetMod = wSetModFor base.opModFixedW p.wSet

/-- A named conversion of a field gives a value exactly if there was one to convert. -/
theorem isSome_of_named_mapM {α β : Type} {name : String} {f : α → Except TranslationError β}
    {x : Option α} {y : Option β} (h : named name (x.mapM f) = .ok y) : y.isSome = x.isSome := by
  cases x with
  | none => cases h; rfl
  | some a =>
    have hmap : named name (some <$> f a) = .ok y := h
    cases hf : f a with
    | error e =>
      rw [hf] at hmap
      cases hmap
    | ok b =>
      rw [hf] at hmap
      cases hmap
      rfl

theorem translates_of_ok {mapSiteLimits : Bool} {attrs : ControlAttributes} {p : Parameters}
    (h : toParameters mapSiteLimits attrs = .ok p) :
    Translates mapSiteLimits attrs.inner.derControlBase p := by
  simp only [toParameters, bind_eq_ok, pure, Except.pure, Except.ok.injEq] at h
  obtain ⟨_, -, _, -, _, -, varSetMod, hvarSetMod, _, -, _, -, _, -, _, -, _, -, _, -, _, -, _, -,
    _, -, _, -, _, -, _, -, _, -, _, -, rfl⟩ := h
  have htarget : ∀ power : Option ActivePower,
      (power.map (convert : ActivePower → ScaledValue Int32)).isNone = power.isNone :=
    fun power => by cases power <;> rfl
  constructor
  case varSetMod => exact isSome_of_named_mapM hvarSetMod
  case wSetIsImportSiteLimit => exact congrArg (· && _) (htarget _)
  all_goals rfl

end Sep2Bridge.Modbus
