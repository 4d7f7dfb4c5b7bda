import Sep2Bridge.Modbus.Percentages
import Sep2Bridge.Modbus.Requests

/-!
# Values that read as "not implemented"

**Condition:** every number that SEP2 requests of a scaled point is `Clear` of the value that
stands for "not implemented" in its type: it is that number exactly, or falls short of it by more
than half a step of the device's scale.

**Theorem (`sentinels_avoided_iff`).** A full send leaves no scaled point reading as not
implemented, other than one asked to hold that very number, if and only if the condition holds.

The derived percentages are capped short of that value and always safe; the values that SEP2 gives
are rescaled, which caps them at it. The proof goes sender by sender.
-/

namespace Sep2Bridge.Modbus

open Lib ScaledValueInner

variable {mapSiteLimits : Bool} {attrs : ControlAttributes} {p : Parameters}

/-! ## What a translation keeps of the scaled values -/

/-- A curve that was translated, if there is one. -/
def ConvertsTo {TX TY : Type} [TryConvert Int32 TX] [TryConvert Int32 TY] (order : AxisOrder)
    (input : Option DERCurve) (data : Option (Curve TX TY)) : Prop :=
  input = none ∧ data = none ∨
    ∃ c converted, input = some c ∧ data = some converted ∧ convertCurve c order = .ok converted

theorem convertsTo_of_named {TX TY : Type} [TryConvert Int32 TX] [TryConvert Int32 TY]
    {order : AxisOrder} {name : String} {input : Option DERCurve} {data : Option (Curve TX TY)}
    (h : named name (input.mapM fun c => convertCurve c order) = .ok data) :
    ConvertsTo order input data := by
  cases input with
  | none =>
    cases h
    exact .inl ⟨rfl, rfl⟩
  | some c =>
    have hmap : named name (some <$> convertCurve c order) = .ok data := h
    cases hc : (convertCurve c order : Except TranslationError (Curve TX TY)) with
    | error e =>
      rw [hc] at hmap
      cases hmap
    | ok converted =>
      rw [hc] at hmap
      cases hmap
      exact .inr ⟨c, converted, rfl, rfl, hc⟩

/-- Converting a voltage keeps its number. -/
theorem map_toInt_of_named {name : String} {input : Option Int16} {value : Option UInt16}
    (h : named name (input.mapM tryConvert) = .ok value) :
    value.map toInt = input.map Int16.toInt := by
  cases input with
  | none =>
    cases h
    rfl
  | some v =>
    have hmap : named name (some <$> (tryConvert v : Except TranslationError UInt16)) =
      .ok value := h
    by_cases hneg : v.toInt < 0
    · simp only [tryConvert, if_pos hneg] at hmap
      cases hmap
    · simp only [tryConvert, if_neg hneg] at hmap
      cases hmap
      have hlt := v.toInt_lt
      simp only [Option.map_some, toInt, UInt16.toNat_ofNat', Option.some.injEq]
      omega

/-- The fields that end up in scaled points of models other than 704. -/
structure TranslatesScaled (attrs : ControlAttributes) (p : Parameters) : Prop where
  esvHi : ∃ value : Option UInt16, p.esvHi = value.map (fun val => ⟨val, sep2HundredthsSf⟩) ∧
    value.map toInt = attrs.inner.setEsHighVolt.map Int16.toInt
  esvLo : ∃ value : Option UInt16, p.esvLo = value.map (fun val => ⟨val, sep2HundredthsSf⟩) ∧
    value.map toInt = attrs.inner.setEsLowVolt.map Int16.toInt
  esHzHi : p.esHzHi = attrs.inner.setEsHighFreq.map fun val => ⟨val.toUInt32, sep2HundredthsSf⟩
  esHzLo : p.esHzLo = attrs.inner.setEsLowFreq.map fun val => ⟨val.toUInt32, sep2HundredthsSf⟩
  derVoltVar : ConvertsTo .same (linked attrs attrs.inner.derControlBase.opModVoltVar) p.derVoltVar
  derVoltVarTms : p.derVoltVarTms =
    ((linked attrs attrs.inner.derControlBase.opModVoltVar).bind fun c => c.openLoopTms).map
      fun val => ⟨val.toUInt32, sep2HundredthsSf⟩
  vref : p.vref = ((linked attrs attrs.inner.derControlBase.opModVoltVar).bind fun c => c.vRef).map
    fun val => ⟨val, sep2HundredthsSf⟩
  derVoltWatt :
    ConvertsTo .same (linked attrs attrs.inner.derControlBase.opModVoltWatt) p.derVoltWatt
  derVoltWattTms : p.derVoltWattTms =
    ((linked attrs attrs.inner.derControlBase.opModVoltWatt).bind fun c => c.openLoopTms).map
      fun val => ⟨val.toUInt32, sep2HundredthsSf⟩
  lv (curve : TripCurve) :
    ConvertsTo .flipped (linked attrs (tripLink attrs.inner.derControlBase .m707 curve))
      (TripCurves.get ⟨p.derTripLvMust, p.derTripLvMay, p.derTripLvMomCess⟩ curve)
  hv (curve : TripCurve) :
    ConvertsTo .flipped (linked attrs (tripLink attrs.inner.derControlBase .m708 curve))
      (TripCurves.get ⟨p.derTripHvMust, p.derTripHvMay, p.derTripHvMomCess⟩ curve)
  lf (curve : TripCurve) :
    ConvertsTo .flipped (linked attrs (tripLink attrs.inner.derControlBase .m709 curve))
      (TripCurves.get ⟨p.derTripLfMust, p.derTripLfMay, none⟩ curve)
  hf (curve : TripCurve) :
    ConvertsTo .flipped (linked attrs (tripLink attrs.inner.derControlBase .m710 curve))
      (TripCurves.get ⟨p.derTripHfMust, p.derTripHfMay, none⟩ curve)
  droopCtl : p.droopCtl = attrs.inner.derControlBase.opModFreqDroop.map convert

theorem translatesScaled_of_ok (h : toParameters mapSiteLimits attrs = .ok p) :
    TranslatesScaled attrs p := by
  simp only [toParameters, bind_eq_ok, pure, Except.pure, Except.ok.injEq] at h
  obtain ⟨_, hvoltVar, _, -, _, -, _, -, _, hvoltWatt, _, -, _, hlvMust, _, hlvMay, _, hlvMom,
    _, hhvMust, _, hhvMay, _, hhvMom, _, hlfMust, _, hlfMay, _, hhfMust, _, hhfMay, _, hesvHi,
    _, hesvLo, rfl⟩ := h
  constructor
  case esvHi => exact ⟨_, rfl, map_toInt_of_named hesvHi⟩
  case esvLo => exact ⟨_, rfl, map_toInt_of_named hesvLo⟩
  case derVoltVar => exact convertsTo_of_named hvoltVar
  case derVoltWatt => exact convertsTo_of_named hvoltWatt
  case lv =>
    intro curve
    cases curve with
    | mustTrip => exact convertsTo_of_named hlvMust
    | mayTrip => exact convertsTo_of_named hlvMay
    | momCess => exact convertsTo_of_named hlvMom
  case hv =>
    intro curve
    cases curve with
    | mustTrip => exact convertsTo_of_named hhvMust
    | mayTrip => exact convertsTo_of_named hhvMay
    | momCess => exact convertsTo_of_named hhvMom
  case lf =>
    intro curve
    cases curve with
    | mustTrip => exact convertsTo_of_named hlfMust
    | mayTrip => exact convertsTo_of_named hlfMay
    | momCess => exact .inl ⟨rfl, rfl⟩
  case hf =>
    intro curve
    cases curve with
    | mustTrip => exact convertsTo_of_named hhfMust
    | mayTrip => exact convertsTo_of_named hhfMay
    | momCess => exact .inl ⟨rfl, rfl⟩
  all_goals rfl

/-! ## Models 703 and 704 -/

/-- The scaled part of a rescaled write to models 703 and 704. -/
theorem filterMap_writeRescaled {r : Point} [ScaledValueInner r.Value] (point : ScaledPoint)
    (h : ∀ value : r.Value, scaledOf ⟨r, value⟩ = some ⟨point, toInt value⟩)
    (value : Option (ScaledValue r.Value)) (sf : Int16) :
    (writeRescaledIfSome r value sf).filterMap scaledOf =
      (value.map fun v => rescaled point v sf).toList := by
  cases value with
  | none => rfl
  | some v => simp [writeRescaledIfSome, writeIfSome, h, rescaled]

theorem filterMap_writeIfSome {r : Point} (h : ∀ value, scaledOf ⟨r, value⟩ = none)
    (value : Option r.Value) : (writeIfSome r value).filterMap scaledOf = [] := by
  cases value with
  | none => rfl
  | some v => simp [writeIfSome, h]

variable (device : CurveDevice)

/-- A request to a model that the device does not have. -/
theorem CurveDevice.ifSupported_of_not_mem {α : Type} {model : Nat} {request : Option α}
    (h : model ∉ device.supportedModelIds) : device.ifSupported model request = none := if_neg h

theorem CurveDevice.ifSupported_of_mem {α : Type} {model : Nat} {request : Option α}
    (h : model ∈ device.supportedModelIds) : device.ifSupported model request = request := if_pos h

/-- A field whose values are given by one of the attributes. -/
theorem map_exactly {T U : Type} [ScaledValueInner T] {value : Option (ScaledValue T)}
    {input : Option U} {g : U → ScaledValue T} (h : value = input.map g) (deviceSf : Int16) :
    value.map (fun v => exactly (toInt v.value) v.sf deviceSf) =
      input.map fun u => exactly (toInt (g u).value) (g u).sf deviceSf := by
  rw [h, Option.map_map]
  rfl

theorem toInt_toUInt32 (x : UInt16) : toInt x.toUInt32 = x.toNat := by
  simp only [toInt, UInt16.toNat_toUInt32]

theorem map_exactly_voltage {value : Option UInt16} {input : Option Int16} {field}
    (hfield : field = value.map fun val => (⟨val, sep2HundredthsSf⟩ : ScaledValue UInt16))
    (h : value.map toInt = input.map Int16.toInt) (deviceSf : Int16) :
    field.map (fun v => exactly (toInt v.value) v.sf deviceSf) =
      input.map fun val => exactly val.toInt sep2HundredthsSf deviceSf := by
  have hmap := congrArg (Option.map fun n => exactly n sep2HundredthsSf deviceSf) h
  rw [Option.map_map, Option.map_map] at hmap
  rw [map_exactly hfield]
  exact hmap

theorem realises_model703 (ht : TranslatesScaled attrs p) :
    Realises (device.requested mapSiteLimits attrs)
      (fun r => ((r = .esvHi ∨ r = .esvLo) ∨ r = .esHzHi) ∨ r = .esHzLo)
      ((device.toDevice.sendModel703Parameters p).filterMap scaledOf) := by
  unfold Device.sendModel703Parameters
  by_cases h703 : 703 ∈ device.supportedModelIds
  · rw [if_neg (not_not.2 h703)]
    simp only [List.filterMap_append]
    rw [filterMap_writeIfSome fun _ => rfl, filterMap_writeIfSome fun _ => rfl,
      filterMap_writeIfSome fun _ => rfl, filterMap_writeIfSome fun _ => rfl,
      filterMap_writeRescaled .esvHi fun _ => rfl, filterMap_writeRescaled .esvLo fun _ => rfl,
      filterMap_writeRescaled .esHzHi fun _ => rfl, filterMap_writeRescaled .esHzLo fun _ => rfl]
    simp only [List.nil_append, List.append_nil]
    obtain ⟨hi, hhi, hhi'⟩ := ht.esvHi
    obtain ⟨lo, hlo, hlo'⟩ := ht.esvLo
    refine (((realises_rescaled (fun _ => rfl) ?_).append
      (realises_rescaled (fun _ => rfl) ?_)).append
      (realises_rescaled (fun _ => rfl) ?_)).append (realises_rescaled (fun _ => rfl) ?_)
    · rw [map_exactly_voltage hhi hhi']
      exact device.ifSupported_of_mem h703
    · rw [map_exactly_voltage hlo hlo']
      exact device.ifSupported_of_mem h703
    · rw [map_exactly ht.esHzHi]
      simp only [toInt_toUInt32]
      exact device.ifSupported_of_mem h703
    · rw [map_exactly ht.esHzLo]
      simp only [toInt_toUInt32]
      exact device.ifSupported_of_mem h703
  · rw [if_pos h703]
    refine realises_nil fun r hr => ?_
    obtain ((rfl | rfl) | rfl) | rfl := hr <;> exact device.ifSupported_of_not_mem h703

/-- A value at the scale of the device is not changed by rescaling it to that scale. -/
theorem rescale_self {T : Type} [ScaledValueInner T] (value : ScaledValue T) :
    value.rescale value.sf = value := by
  rw [ScaledValue.rescale, sub_self, if_pos rfl]

theorem toWMaxLimPct_lt {wMaxLim : ScaledValue UInt32} {rtg : ScaledValue UInt16} {pctSf : Int16}
    {derived : ScaledValue UInt16} (h : toWMaxLimPctFromWMaxLim wMaxLim rtg pctSf = some derived) :
    derived.sf = pctSf ∧ derived.value.toNat < 65535 := by
  unfold toWMaxLimPctFromWMaxLim at h
  split_ifs at h
  obtain ⟨raw, -, rfl⟩ := Option.map_eq_some_iff.1 h
  refine ⟨rfl, ?_⟩
  rw [UInt16.toNat_ofNat']
  omega

theorem toWSetPct_gt {wSet : ScaledValue Int32} {rtg : ScaledValue UInt16} {pctSf : Int16}
    {towardZero : Bool} {derived : ScaledValue Int16}
    (h : toWSetPctFromWSet wSet rtg pctSf towardZero = some derived) :
    derived.sf = pctSf ∧ -32768 < derived.value.toInt := by
  unfold toWSetPctFromWSet at h
  split_ifs at h
  obtain ⟨raw, -, rfl⟩ := Option.map_eq_some_iff.1 h
  refine ⟨rfl, ?_⟩
  rw [Int16.toInt_ofInt_of_le (by omega) (by omega)]
  omega

/-- What is at the scale of the device is written as it is. -/
theorem rescaled_self {T : Type} [ScaledValueInner T] (point : ScaledPoint) {value : ScaledValue T}
    {sf : Int16} (h : value.sf = sf) : rescaled point value sf = ⟨point, toInt value.value⟩ := by
  rw [rescaled, ← h, rescale_self]

theorem filterMap_wMaxLimPctEna (value : Option Ena) :
    (writeIfSome .wMaxLimPctEna value).filterMap scaledOf = [] :=
  filterMap_writeIfSome (r := .wMaxLimPctEna) (fun _ => rfl) value

theorem filterMap_wMaxLimPct (value : Option (ScaledValue UInt16)) (sf : Int16) :
    (writeRescaledIfSome .wMaxLimPct value sf).filterMap scaledOf =
      (value.map fun v => rescaled .wMaxLimPct v sf).toList :=
  filterMap_writeRescaled (r := .wMaxLimPct) .wMaxLimPct (fun _ => rfl) value sf

/-- Without a limit in watts the percentage is written as it is. -/
theorem filterMap_sendWMaxLimPct (hlim : p.wMaxLim = none) :
    (device.toDevice.sendWMaxLimPct p false).1.filterMap scaledOf =
      (p.wMaxLimPct.map fun v => rescaled .wMaxLimPct v (device.wMaxLimPctSf.getD 0)).toList := by
  cases hpct : p.wMaxLimPct with
  | none => simp [Device.sendWMaxLimPct, hpct, hlim, filterMap_wMaxLimPctEna]
  | some wMaxLimPct =>
    -- rescaled before it is compared, and once more when it is written
    have hself := rescaled_self .wMaxLimPct
      (ScaledValue.sf_rescale wMaxLimPct (device.wMaxLimPctSf.getD 0))
    rw [Option.map_some, Option.toList_some, rescaled, ← hself]
    simp [Device.sendWMaxLimPct, hpct, hlim, filterMap_wMaxLimPctEna,
      filterMap_wMaxLimPct]

/-- With one, what is written is at most what was derived from it. -/
theorem ne_invalid_of_mem_sendWMaxLimPct {wMaxLim : ScaledValue UInt32}
    (hlim : p.wMaxLim = some wMaxLim) {w : ScaledWrite}
    (hw : w ∈ (device.toDevice.sendWMaxLimPct p false).1.filterMap scaledOf) :
    w.value ≠ w.point.width.invalid := by
  have hbelow : ∀ value : ScaledValue UInt16, value.sf = device.wMaxLimPctSf.getD 0 →
      value.value.toNat < 65535 → w = rescaled .wMaxLimPct value (device.wMaxLimPctSf.getD 0) →
      w.value ≠ w.point.width.invalid := by
    intro value hsf hlt hwrite
    rw [hwrite, rescaled_self _ hsf]
    show (value.value.toNat : Int) ≠ 65535
    omega
  cases hrtg : device.readWMaxRtg p with
  | none => simp [Device.sendWMaxLimPct, hlim, hrtg] at hw
  | some rtg =>
    cases hderived : toWMaxLimPctFromWMaxLim wMaxLim rtg (device.wMaxLimPctSf.getD 0) with
    | none => simp [Device.sendWMaxLimPct, hlim, hrtg, hderived] at hw
    | some derived =>
      obtain ⟨hsf, hlt⟩ := toWMaxLimPct_lt hderived
      cases hpct : p.wMaxLimPct with
      | none =>
        simp [Device.sendWMaxLimPct, hpct, hlim, hrtg, hderived, filterMap_wMaxLimPctEna,
          filterMap_wMaxLimPct] at hw
        exact hbelow derived hsf hlt hw
      | some wMaxLimPct =>
        simp [Device.sendWMaxLimPct, hpct, hlim, hrtg, hderived, filterMap_wMaxLimPctEna,
          filterMap_wMaxLimPct] at hw
        obtain ⟨written, hwritten, hw⟩ := hw
        by_cases hless : derived.value < (wMaxLimPct.rescale (device.wMaxLimPctSf.getD 0)).value
        · rw [if_pos hless, Option.some.injEq] at hwritten
          exact hbelow written (hwritten ▸ hsf) (hwritten ▸ hlt) hw.symm
        · rw [if_neg hless, Option.some.injEq] at hwritten
          have hle := UInt16.not_lt.1 hless
          rw [hwritten, UInt16.le_iff_toNat_le] at hle
          exact hbelow written (hwritten ▸ ScaledValue.sf_rescale _ _) (hle.trans_lt hlt) hw.symm

theorem filterMap_wSetEna (value : Option Ena) :
    (writeIfSome .wSetEna value).filterMap scaledOf = [] :=
  filterMap_writeIfSome (r := .wSetEna) (fun _ => rfl) value

theorem filterMap_wSetMod (value : Option WSetMod) :
    (writeIfSome .wSetMod value).filterMap scaledOf = [] :=
  filterMap_writeIfSome (r := .wSetMod) (fun _ => rfl) value

theorem filterMap_wSetPct (value : Option (ScaledValue Int16)) (sf : Int16) :
    (writeRescaledIfSome .wSetPct value sf).filterMap scaledOf =
      (value.map fun v => rescaled .wSetPct v sf).toList :=
  filterMap_writeRescaled (r := .wSetPct) .wSetPct (fun _ => rfl) value sf

theorem filterMap_wSet (value : Option (ScaledValue Int32)) (sf : Int16) :
    (writeRescaledIfSome .wSet value sf).filterMap scaledOf =
      (value.map fun v => rescaled .wSet v sf).toList :=
  filterMap_writeRescaled (r := .wSet) .wSet (fun _ => rfl) value sf

/-- Watts are written for a target in watts only. -/
def wattsOf (p : Parameters) : Option (ScaledValue Int32) :=
  if p.wSetIsImportSiteLimit then none else p.wSet

/-- An explicit percentage is written as it is. -/
theorem filterMap_sendWSet_some {pct : ScaledValue Int16} (hpct : p.wSetPct = some pct) :
    (device.toDevice.sendWSet p false).1.filterMap scaledOf =
      rescaled .wSetPct pct (device.wSetPctSf.getD 0) ::
        ((wattsOf p).map fun v => rescaled .wSet v (device.wSetSf.getD 0)).toList := by
  cases himport : p.wSetIsImportSiteLimit with
  | false =>
    cases hset : p.wSet <;>
      simp [Device.sendWSet, wattsOf, hpct, himport, hset, filterMap_wSetEna, filterMap_wSetMod,
        filterMap_wSetPct, filterMap_wSet]
  | true =>
    simp [Device.sendWSet, wattsOf, hpct, himport, filterMap_wSetEna, filterMap_wSetMod,
      filterMap_wSetPct]

/-- A percentage that is derived is none that reads as not implemented. -/
theorem filterMap_sendWSet_none (hpct : p.wSetPct = none) :
    ∃ ws, (device.toDevice.sendWSet p false).1.filterMap scaledOf =
        ws ++ ((wattsOf p).map fun v => rescaled .wSet v (device.wSetSf.getD 0)).toList ∧
      ∀ w ∈ ws, w.value ≠ w.point.width.invalid := by
  cases hset : p.wSet with
  | none =>
    refine ⟨[], ?_, fun _ hw => absurd hw List.not_mem_nil⟩
    simp [Device.sendWSet, wattsOf, hpct, hset, filterMap_wSetEna, filterMap_wSetMod]
  | some wSet =>
    cases hrtg : device.readWMaxRtg p with
    | none =>
      refine ⟨[], ?_, fun _ hw => absurd hw List.not_mem_nil⟩
      cases himport : p.wSetIsImportSiteLimit <;>
        simp [Device.sendWSet, wattsOf, hpct, hset, hrtg, himport, filterMap_wSetEna,
          filterMap_wSetMod, filterMap_wSet]
    | some rtg =>
      cases hderived : toWSetPctFromWSet wSet rtg (device.wSetPctSf.getD 0)
          p.wSetIsImportSiteLimit with
      | none =>
        refine ⟨[], ?_, fun _ hw => absurd hw List.not_mem_nil⟩
        cases himport : p.wSetIsImportSiteLimit <;> rw [himport] at hderived <;>
          simp [Device.sendWSet, wattsOf, hpct, hset, hrtg, himport, hderived, filterMap_wSetEna,
            filterMap_wSetMod, filterMap_wSet, filterMap_wSetPct]
      | some derived =>
        obtain ⟨hsf, hgt⟩ := toWSetPct_gt hderived
        refine ⟨[rescaled .wSetPct derived (device.wSetPctSf.getD 0)], ?_, ?_⟩
        · cases himport : p.wSetIsImportSiteLimit <;> rw [himport] at hderived <;>
            simp [Device.sendWSet, wattsOf, hpct, hset, hrtg, himport, hderived, filterMap_wSetEna,
              filterMap_wSetMod, filterMap_wSet, filterMap_wSetPct]
        · intro w hw
          rw [List.mem_singleton.1 hw, rescaled_self _ hsf]
          show derived.value.toInt ≠ -32768
          omega

section Model704

variable (h704 : 704 ∈ device.supportedModelIds)
  (ht : Translates mapSiteLimits attrs.inner.derControlBase p)

include h704 ht

theorem realises_functions :
    Realises (device.requested mapSiteLimits attrs)
      (fun r => (r = .pfwInjPf ∨ r = .pfwAbsPf) ∨ r = .varSetPct)
      ((device.toDevice.sendModel704Functions p).filterMap scaledOf) := by
  unfold Device.sendModel704Functions
  simp only [List.filterMap_append]
  rw [filterMap_writeIfSome fun _ => rfl, filterMap_writeIfSome fun _ => rfl,
    filterMap_writeIfSome fun _ => rfl, filterMap_writeIfSome fun _ => rfl,
    filterMap_writeIfSome fun _ => rfl, filterMap_writeIfSome fun _ => rfl,
    filterMap_writeRescaled .pfwInjPf fun _ => rfl, filterMap_writeRescaled .pfwAbsPf fun _ => rfl,
    filterMap_writeRescaled .varSetPct fun _ => rfl]
  simp only [List.nil_append, List.append_nil]
  refine ((realises_rescaled (fun _ => rfl) ?_).append (realises_rescaled (fun _ => rfl) ?_)).append
    (realises_rescaled (fun _ => rfl) ?_)
  · rw [map_exactly ht.pfwInjPf]
    exact device.ifSupported_of_mem h704
  · rw [map_exactly ht.pfwAbsPf]
    exact device.ifSupported_of_mem h704
  · rw [map_exactly ht.varSetPct]
    exact device.ifSupported_of_mem h704

/-- The percentage is written, and never as `invalid` beside a limit in watts. -/
theorem realises_wMaxLimPct :
    Realises (device.requested mapSiteLimits attrs) (· = .wMaxLimPct)
      ((device.toDevice.sendWMaxLimPct p false).1.filterMap scaledOf) := by
  have hsite := ht.wMaxLim
  unfold exportSiteLimitToWmaxlim at hsite
  cases hlim : p.wMaxLim with
  | none =>
    -- the percentage alone
    rw [filterMap_sendWMaxLimPct device hlim]
    refine realises_rescaled (fun _ => rfl) ?_
    rw [map_exactly ht.wMaxLimPct]
    refine (device.ifSupported_of_mem h704).trans (if_neg fun h => ?_)
    rw [hlim, if_pos h.1, eq_comm, Option.map_eq_none_iff] at hsite
    rw [hsite] at h
    exact absurd h.2 (by decide)
  | some wMaxLim =>
    -- capped by what is derived from the limit in watts
    refine realises_harmless (fun w hw => ne_invalid_of_mem_sendWMaxLimPct device hlim hw)
      fun r hr => ?_
    rw [hr]
    refine (device.ifSupported_of_mem h704).trans (if_pos ?_)
    rw [hlim] at hsite
    split_ifs at hsite with hmap
    obtain ⟨power, hpower, -⟩ := Option.map_eq_some_iff.1 hsite.symm
    exact ⟨hmap, by rw [hpower]; rfl⟩

theorem realises_wSet :
    Realises (device.requested mapSiteLimits attrs) (fun r => r = .wSetPct ∨ r = .wSet)
      ((device.toDevice.sendWSet p false).1.filterMap scaledOf) := by
  have hwatts : (wattsOf p).map (fun v => exactly (toInt v.value) v.sf (device.wSetSf.getD 0)) =
      attrs.inner.derControlBase.opModTargetW.map fun power =>
        exactly power.value.toInt (convert power.multiplier) (device.wSetSf.getD 0) := by
    have himport := ht.wSetIsImportSiteLimit
    have hset := ht.wSet
    cases htarget : attrs.inner.derControlBase.opModTargetW with
    | none =>
      -- whatever is set then is an import limit
      rw [htarget] at himport hset
      rw [wattsOf, himport, hset]
      cases importSiteLimitToWset mapSiteLimits attrs.inner.derControlBase <;> rfl
    | some power =>
      rw [htarget] at himport hset
      rw [wattsOf, himport, hset]
      show some (exactly power.value.toInt32.toInt _ _) = some _
      rw [Int16.toInt_toInt32]
      rfl
  have hset : Realises (device.requested mapSiteLimits attrs) (· = .wSet)
      ((wattsOf p).map fun v => rescaled .wSet v (device.wSetSf.getD 0)).toList := by
    refine realises_rescaled (fun _ => rfl) ?_
    rw [hwatts]
    exact device.ifSupported_of_mem h704
  cases hpct : p.wSetPct with
  | some pct =>
    rw [filterMap_sendWSet_some device hpct]
    have hexplicit : Realises (device.requested mapSiteLimits attrs) (· = .wSetPct)
        (p.wSetPct.map fun v => rescaled .wSetPct v (device.wSetPctSf.getD 0)).toList := by
      refine realises_rescaled (fun _ => rfl) ?_
      rw [map_exactly ht.wSetPct]
      exact device.ifSupported_of_mem h704
    rw [hpct] at hexplicit
    exact hexplicit.append hset
  | none =>
    obtain ⟨ws, hws, hharmless⟩ := filterMap_sendWSet_none device hpct
    have hnone : attrs.inner.derControlBase.opModFixedW = none := by
      rw [ht.wSetPct, Option.map_eq_none_iff] at hpct
      exact hpct
    have hderived : Realises (device.requested mapSiteLimits attrs) (· = .wSetPct) ws := by
      refine realises_harmless hharmless fun r hr => ?_
      rw [hr]
      refine (device.ifSupported_of_mem h704).trans ?_
      rw [hnone]
      rfl
    rw [hws]
    exact hderived.append hset

end Model704

theorem realises_model704 (ht : Translates mapSiteLimits attrs.inner.derControlBase p) :
    Realises (device.requested mapSiteLimits attrs)
      (fun r => ((r = .pfwInjPf ∨ r = .pfwAbsPf) ∨ r = .varSetPct) ∨
        r = .wMaxLimPct ∨ r = .wSetPct ∨ r = .wSet)
      ((device.toDevice.sendModel704Parameters p).1.filterMap scaledOf) := by
  unfold Device.sendModel704Parameters Device.sendModel704PendingLimitDerivations
  by_cases h704 : 704 ∈ device.supportedModelIds
  · rw [if_neg (not_not.2 h704)]
    simp only [if_neg (not_not.2 h704), List.filterMap_append]
    exact (realises_functions device h704 ht).append
      ((realises_wMaxLimPct device h704 ht).append (realises_wSet device h704 ht))
  · rw [if_pos h704]
    refine realises_nil fun r hr => ?_
    obtain ((rfl | rfl) | rfl) | rfl | rfl | rfl := hr <;>
      exact device.ifSupported_of_not_mem h704

/-! ## Models 705 to 711 -/

/-- A setting of a curve that is no scaled value. -/
theorem filterMap_setting {α : Type} {f : α → CurveWrite} (h : ∀ a, (f a).scaled? = none)
    (value : Option α) : (value.map f).toList.filterMap CurveWrite.scaled? = [] := by
  cases value with
  | none => rfl
  | some a => simp [h]

/-- One that is. -/
theorem filterMap_scaledSetting {T : Type} [ScaledValueInner T] (point : ScaledPoint)
    (value : Option (ScaledValue T)) (sf : Int16) :
    (value.map fun v => CurveWrite.scaled (rescaled point v sf)).toList.filterMap
      CurveWrite.scaled? = (value.map fun v => rescaled point v sf).toList := by
  cases value <;> rfl

theorem Curve.toNat_len_eq {TX TY : Type} (data : Curve TX TY) :
    data.len.toNat = min data.points.length 65535 := by
  unfold Curve.len
  by_cases h : data.points.length < 2 ^ 16
  · rw [if_pos h, UInt16.toNat_ofNat']
    omega
  · rw [if_neg h]
    show 65535 = min data.points.length 65535
    omega

/-- A curve is written where the device accepts it. -/
theorem writeVoltCurve_eq {model : VoltModel} {input : DERCurve} {data : Curve UInt16 Int16}
    (hdata : convertCurve input .same = .ok data) :
    device.writeVoltCurve model data =
      if (device.volt model).Accepts input then
        some (.voltActPt model data.len ::
          (coords (.voltX model) (.voltY model) data (device.volt model).toCurveSupport).map
            .scaled)
      else none := by
  have hcrv : (device.volt model).nCrv < VoltCurveModel.targetCurve ↔
      ¬2 ≤ (device.volt model).nCrv.toNat := by
    rw [UInt16.lt_iff_toNat_lt]
    exact not_le.symm
  have hlen : data.len > (device.volt model).nPt ↔
      ¬min input.curveData.length 65535 ≤ (device.volt model).nPt.toNat := by
    rw [gt_iff_lt, UInt16.lt_iff_toNat_lt, data.toNat_len_eq, length_points hdata, not_le]
  unfold CurveDevice.writeVoltCurve CurveSupport.Accepts
  simp only [hcrv, hlen]
  split_ifs <;> simp_all

section Volt

variable {model : VoltModel} {input : DERCurve} {data : Curve UInt16 Int16}

variable (model) in
/-- The curve that is written is the one that is requested. -/
theorem voltCurve_cases {data? : Option (Curve UInt16 Int16)}
    (h : model.id ∈ device.supportedModelIds)
    (hdata : ConvertsTo .same (linked attrs (voltLink attrs.inner.derControlBase model)) data?) :
    device.requestedVolt attrs model = none ∧ data?.bind (device.writeVoltCurve model) = none ∨
      ∃ input, ∃ data : Curve UInt16 Int16, device.requestedVolt attrs model = some input ∧
        linked attrs (voltLink attrs.inner.derControlBase model) = some input ∧
        convertCurve input .same = .ok data ∧
        data?.bind (device.writeVoltCurve model) = some (.voltActPt model data.len ::
          (coords (.voltX model) (.voltY model) data (device.volt model).toCurveSupport).map
            .scaled) := by
  rw [CurveDevice.requestedVolt, device.ifSupported_of_mem h]
  obtain ⟨hlink, rfl⟩ | ⟨input, data, hlink, rfl, hconvert⟩ := hdata
  · rw [hlink]
    exact .inl ⟨rfl, rfl⟩
  · rw [hlink, Option.bind_some, writeVoltCurve_eq device hconvert]
    by_cases haccepts : (device.volt model).Accepts input
    · rw [if_pos haccepts]
      exact .inr ⟨input, data, Option.filter_some_pos (decide_eq_true haccepts), rfl, hconvert,
        rfl⟩
    · rw [if_neg haccepts]
      exact .inl ⟨Option.filter_some_neg (by simpa using haccepts), rfl⟩

theorem realises_voltCoords (hrequested : device.requestedVolt attrs model = some input)
    (hdata : convertCurve input .same = .ok data) :
    Realises (device.requested mapSiteLimits attrs)
      (fun r => ∃ i, r = .voltX model i ∨ r = .voltY model i)
      (coords (.voltX model) (.voltY model) data (device.volt model).toCurveSupport) := by
  refine realises_coords hdata (fun _ _ => rfl) (fun _ _ => rfl) (fun i => ?_) fun i => ?_
  · rw [CurveDevice.requested, hrequested, exactCoordinates, List.getElem?_map, Option.map_map]
    rfl
  · rw [CurveDevice.requested, hrequested, exactCoordinates, List.getElem?_map, Option.map_map]
    rfl

theorem realises_rspTms (hrequested : device.requestedVolt attrs model = some input)
    {tms : Option (ScaledValue UInt32)}
    (h : tms = input.openLoopTms.map fun val => ⟨val.toUInt32, sep2HundredthsSf⟩) :
    Realises (device.requested mapSiteLimits attrs) (· = .rspTms model)
      (tms.map fun v => rescaled (.rspTms model) v (device.volt model).rspTmsSf).toList := by
  refine realises_rescaled (fun _ => rfl) ?_
  rw [map_exactly h, CurveDevice.requested, hrequested]
  simp only [toInt_toUInt32, Option.bind_some]

/-- Where no curve is taken nothing is requested. -/
theorem requested_volt_none (h : device.requestedVolt attrs model = none) {r : ScaledPoint}
    (hr : (∃ i, r = .voltX model i ∨ r = .voltY model i) ∨ r = .rspTms model ∨
      r = .vRef ∧ model = .m705) : device.requested mapSiteLimits attrs r = none := by
  obtain ⟨i, rfl | rfl⟩ | rfl | ⟨rfl, rfl⟩ := hr <;> rw [CurveDevice.requested, h] <;> rfl

end Volt

theorem realises_model705 (ht : TranslatesScaled attrs p) :
    Realises (device.requested mapSiteLimits attrs)
      (fun r => ((∃ i, r = .voltX .m705 i ∨ r = .voltY .m705 i) ∨ r = .rspTms .m705) ∨ r = .vRef)
      ((device.sendModel705Parameters p).filterMap CurveWrite.scaled?) := by
  have hnone (h : device.requestedVolt attrs .m705 = none) :
      Realises (device.requested mapSiteLimits attrs)
        (fun r => ((∃ i, r = .voltX .m705 i ∨ r = .voltY .m705 i) ∨ r = .rspTms .m705) ∨
          r = .vRef) [] :=
    realises_nil fun r hr => requested_volt_none device h (by
      obtain (hr | hr) | hr := hr
      · exact .inl hr
      · exact .inr (.inl hr)
      · exact .inr (.inr ⟨hr, rfl⟩))
  unfold CurveDevice.sendModel705Parameters
  by_cases h705 : 705 ∈ device.supportedModelIds
  · rw [if_neg (not_not.2 h705)]
    obtain ⟨hrequested, hwrite⟩ | ⟨input, data, hrequested, hlink, hconvert, hwrite⟩ :=
      voltCurve_cases device .m705 h705 ht.derVoltVar
    · rw [hwrite]
      exact hnone hrequested
    · have htms := ht.derVoltVarTms
      have hvref := ht.vref
      change linked attrs attrs.inner.derControlBase.opModVoltVar = some input at hlink
      rw [hlink, Option.bind_some] at htms hvref
      rw [hwrite]
      simp only [List.filterMap_append]
      rw [filterMap_setting (f := .voltVarDeptRef) fun _ => rfl,
        filterMap_setting (f := .vRefAutoEna) fun _ => rfl,
        filterMap_setting (f := .vRefAutoTms) fun _ => rfl, filterMap_scaledSetting,
        filterMap_scaledSetting, List.filterMap_cons_none rfl, filterMap_map_scaled]
      have hend : List.filterMap CurveWrite.scaled?
          [.adptReq 705 VoltCurveModel.targetCurve, .ena 705 .enabled] = [] := rfl
      simp only [hend, List.append_nil]
      refine ((realises_voltCoords device hrequested hconvert).append
        (realises_rspTms device hrequested htms)).append (realises_rescaled (fun _ => rfl) ?_)
      rw [map_exactly hvref, CurveDevice.requested, hrequested]
      rfl
  · rw [if_pos h705]
    exact hnone (device.ifSupported_of_not_mem h705)

theorem realises_model706 (ht : TranslatesScaled attrs p) :
    Realises (device.requested mapSiteLimits attrs)
      (fun r => (∃ i, r = .voltX .m706 i ∨ r = .voltY .m706 i) ∨ r = .rspTms .m706)
      ((device.sendModel706Parameters p).filterMap CurveWrite.scaled?) := by
  have hnone (h : device.requestedVolt attrs .m706 = none) :
      Realises (device.requested mapSiteLimits attrs)
        (fun r => (∃ i, r = .voltX .m706 i ∨ r = .voltY .m706 i) ∨ r = .rspTms .m706) [] :=
    realises_nil fun r hr => requested_volt_none device h (hr.imp_right .inl)
  unfold CurveDevice.sendModel706Parameters
  by_cases h706 : 706 ∈ device.supportedModelIds
  · rw [if_neg (not_not.2 h706)]
    obtain ⟨hrequested, hwrite⟩ | ⟨input, data, hrequested, hlink, hconvert, hwrite⟩ :=
      voltCurve_cases device .m706 h706 ht.derVoltWatt
    · rw [hwrite]
      exact hnone hrequested
    · have htms := ht.derVoltWattTms
      change linked attrs attrs.inner.derControlBase.opModVoltWatt = some input at hlink
      rw [hlink, Option.bind_some] at htms
      rw [hwrite]
      simp only [List.filterMap_append]
      rw [filterMap_setting (f := .voltWattDeptRef) fun _ => rfl, filterMap_scaledSetting,
        List.filterMap_cons_none rfl, filterMap_map_scaled]
      have hend : List.filterMap CurveWrite.scaled?
          [.adptReq 706 VoltCurveModel.targetCurve, .ena 706 .enabled] = [] := rfl
      simp only [hend, List.append_nil]
      exact (realises_voltCoords device hrequested hconvert).append
        (realises_rspTms device hrequested htms)
  · rw [if_pos h706]
    exact hnone (device.ifSupported_of_not_mem h706)

section Trip

variable {TX : Type} [ScaledValueInner TX] [LawfulScaledValueInner TX] [TryConvert Int32 TX]
  [LawfulTryConvert TX] {model : TripId}

/-- The coordinates of one curve of a trip model. -/
def TripPoints (model : TripId) (curve : TripCurve) (r : ScaledPoint) : Prop :=
  ∃ i, r = .tripX model curve i ∨ r = .tripY model curve i

theorem realises_tripCurve (hwidth : ∀ curve i v,
      clampTo TX v = (ScaledPoint.tripX model curve i).width.cap v)
    (h : model.id ∈ device.supportedModelIds) (hcrv : 2 ≤ (device.trip model).nCrv.toNat)
    {curve : TripCurve} {data? : Option (Curve TX UInt32)}
    (hdata : ConvertsTo .flipped (linked attrs (tripLink attrs.inner.derControlBase model curve))
      data?) :
    Realises (device.requested mapSiteLimits attrs) (TripPoints model curve)
      ((device.writeTripCurve model curve data?).1.filterMap CurveWrite.scaled?) := by
  have hnone (h : device.requestedTrip attrs model curve = none) :
      Realises (device.requested mapSiteLimits attrs) (TripPoints model curve) [] := by
    refine realises_nil fun r hr => ?_
    obtain ⟨i, rfl | rfl⟩ := hr <;> rw [CurveDevice.requested, h] <;> rfl
  have hfilter : device.requestedTrip attrs model curve =
      (linked attrs (tripLink attrs.inner.derControlBase model curve)).filter
        fun curve => (device.trip model).Accepts curve := device.ifSupported_of_mem h
  obtain ⟨hlink, rfl⟩ | ⟨input, data, hlink, rfl, hconvert⟩ := hdata
  · refine hnone (hfilter.trans ?_)
    rw [hlink]
    rfl
  · rw [hlink] at hfilter
    have hlen : data.len > (device.trip model).nPt ↔ ¬(device.trip model).Accepts input := by
      rw [gt_iff_lt, UInt16.lt_iff_toNat_lt, data.toNat_len_eq, length_points hconvert,
        CurveSupport.Accepts, and_iff_right hcrv, not_le]
    by_cases haccepts : (device.trip model).Accepts input
    · have hrequested : device.requestedTrip attrs model curve = some input := by
        rw [hfilter]
        exact Option.filter_some_pos (decide_eq_true haccepts)
      rw [CurveDevice.writeTripCurve, if_neg (by rw [hlen]; exact not_not.2 haccepts),
        List.filterMap_cons_none rfl, filterMap_map_scaled]
      refine realises_coords hconvert (hwidth curve) (fun _ _ => rfl) (fun i => ?_) fun i => ?_
      · rw [CurveDevice.requested, hrequested, exactCoordinates, List.getElem?_map, Option.map_map]
        rfl
      · rw [CurveDevice.requested, hrequested, exactCoordinates, List.getElem?_map, Option.map_map]
        rfl
    · rw [CurveDevice.writeTripCurve, if_pos (hlen.2 haccepts)]
      refine hnone ?_
      rw [hfilter]
      exact Option.filter_some_neg (by simpa using haccepts)

variable (model) in
/-- All three curves of a trip model. -/
theorem realises_trip (hwidth : ∀ curve i v,
      clampTo TX v = (ScaledPoint.tripX model curve i).width.cap v)
    {curves : TripCurves TX UInt32}
    (hdata : ∀ curve, ConvertsTo .flipped
      (linked attrs (tripLink attrs.inner.derControlBase model curve)) (curves.get curve)) :
    Realises (device.requested mapSiteLimits attrs)
      (fun r => (TripPoints model .mustTrip r ∨ TripPoints model .mayTrip r) ∨
        TripPoints model .momCess r)
      ((device.sendTripParameters model curves).filterMap CurveWrite.scaled?) := by
  have hnone (h : ∀ curve, device.requestedTrip attrs model curve = none) :
      Realises (device.requested mapSiteLimits attrs)
        (fun r => (TripPoints model .mustTrip r ∨ TripPoints model .mayTrip r) ∨
          TripPoints model .momCess r) [] := by
    refine realises_nil fun r hr => ?_
    obtain (⟨i, rfl | rfl⟩ | ⟨i, rfl | rfl⟩) | ⟨i, rfl | rfl⟩ := hr <;>
      rw [CurveDevice.requested, h] <;> rfl
  unfold CurveDevice.sendTripParameters CurveDevice.writeTripCurves
  by_cases hsupported : model.id ∈ device.supportedModelIds
  · rw [if_neg (not_not.2 hsupported)]
    by_cases hcrv : (device.trip model).nCrv.toNat < TripCurveModel.targetCurveSet
    · rw [if_pos hcrv]
      refine hnone fun curve => ?_
      rw [CurveDevice.requestedTrip, device.ifSupported_of_mem hsupported]
      refine Option.filter_eq_none_iff.2 fun input _ => ?_
      exact fun haccepts => absurd (of_decide_eq_true haccepts).1 (not_le.2 hcrv)
    · rw [if_neg hcrv]
      have hcrv' : 2 ≤ (device.trip model).nCrv.toNat := not_lt.1 hcrv
      have hcurve (curve : TripCurve) :
          Realises (device.requested mapSiteLimits attrs) (TripPoints model curve)
            ((device.writeTripCurve model curve (curves.get curve)).1.filterMap
              CurveWrite.scaled?) :=
        realises_tripCurve device hwidth hsupported hcrv' (hdata curve)
      have hrequest (b : Bool) : (if b then [CurveWrite.adptReq model.id
          (.ofNat TripCurveModel.targetCurveSet)] else []).filterMap CurveWrite.scaled? = [] := by
        cases b <;> rfl
      have hena (ena : Ena) : [CurveWrite.ena model.id ena].filterMap CurveWrite.scaled? = [] := rfl
      simp only [List.filterMap_append, hrequest, hena, List.append_nil]
      exact ((hcurve .mustTrip).append (hcurve .mayTrip)).append (hcurve .momCess)
  · rw [if_pos hsupported]
    exact hnone fun curve => device.ifSupported_of_not_mem hsupported

end Trip

theorem realises_model711 (ht : TranslatesScaled attrs p) :
    Realises (device.requested mapSiteLimits attrs)
      (fun r => r = .dbOf ∨ r = .dbUf ∨ r = .kOf ∨ r = .kUf ∨ r = .ctlRspTms)
      ((device.sendModel711Parameters p).filterMap CurveWrite.scaled?) := by
  have hnone (h : device.requestedDroop attrs = none) :
      Realises (device.requested mapSiteLimits attrs)
        (fun r => r = .dbOf ∨ r = .dbUf ∨ r = .kOf ∨ r = .kUf ∨ r = .ctlRspTms) [] := by
    refine realises_nil fun r hr => ?_
    obtain rfl | rfl | rfl | rfl | rfl := hr <;> rw [CurveDevice.requested, h] <;> rfl
  unfold CurveDevice.sendModel711Parameters
  by_cases h711 : 711 ∈ device.supportedModelIds
  · rw [if_neg (not_not.2 h711), ht.droopCtl]
    have hrequested : device.requestedDroop attrs =
        attrs.inner.derControlBase.opModFreqDroop.filter fun _ => 2 ≤ device.nCtl.toNat :=
      device.ifSupported_of_mem h711
    cases hdroop : attrs.inner.derControlBase.opModFreqDroop with
    | none =>
      rw [hdroop] at hrequested
      exact hnone hrequested
    | some droop =>
      rw [hdroop] at hrequested
      simp only [Option.map_some]
      have hge : device.nCtl ≥ 2 ↔ 2 ≤ device.nCtl.toNat := UInt16.le_iff_toNat_le
      by_cases hctl : 2 ≤ device.nCtl.toNat
      · rw [if_pos (hge.2 hctl)]
        have hdroop := hrequested.trans (Option.filter_some_pos (decide_eq_true hctl))
        have hpoint {T : Type} [ScaledValueInner T] [LawfulScaledValueInner T] (r : ScaledPoint)
            (v : ScaledValue T) (sf : Int16) (hwidth : ∀ x, clampTo T x = r.width.cap x)
            (h : device.requested mapSiteLimits attrs r = some (exactly (toInt v.value) v.sf sf)) :
            Realises (device.requested mapSiteLimits attrs) (· = r) [rescaled r v sf] := by
          have hrequest : device.requested mapSiteLimits attrs r =
            (some v).map fun v => exactly (toInt v.value) v.sf sf := h
          exact realises_rescaled hwidth hrequest
        let ctl : Model711Ctl := convert droop
        refine (hpoint .dbOf ctl.dbOf device.dbSf (fun _ => rfl) ?_).append
          ((hpoint .dbUf ctl.dbUf device.dbSf (fun _ => rfl) ?_).append
          ((hpoint .kOf ctl.kOf device.kSf (fun _ => rfl) ?_).append
          ((hpoint .kUf ctl.kUf device.kSf (fun _ => rfl) ?_).append
          (hpoint .ctlRspTms ctl.rspTms device.ctlRspTmsSf (fun _ => rfl) ?_))))
        · rw [CurveDevice.requested, hdroop]; rfl
        · rw [CurveDevice.requested, hdroop]; rfl
        · rw [CurveDevice.requested, hdroop]; rfl
        · rw [CurveDevice.requested, hdroop]; rfl
        · rw [CurveDevice.requested, hdroop]
          show some _ = some (exactly (toInt droop.openLoopTms.toUInt32) _ _)
          rw [toInt_toUInt32]
          rfl
      · rw [if_neg fun h => hctl (hge.1 h)]
        exact hnone (hrequested.trans (Option.filter_some_neg (by simpa using hctl)))
  · rw [if_pos h711]
    exact hnone (device.ifSupported_of_not_mem h711)

/-! ## The whole send -/

theorem realises_scaledWrites (h : toParameters mapSiteLimits attrs = .ok p) :
    Realises (device.requested mapSiteLimits attrs) (fun _ => True) (device.scaledWrites p) := by
  have ht := translates_of_ok h
  have hs := translatesScaled_of_ok h
  unfold CurveDevice.scaledWrites CurveDevice.curveWrites
  simp only [List.filterMap_append]
  refine (((realises_model703 device hs).append (realises_model704 device ht)).append
    (((((((realises_model705 device hs).append (realises_model706 device hs)).append
      (realises_trip device .m707 ?_ hs.lv)).append
      (realises_trip device .m708 ?_ hs.hv)).append
      (realises_trip device .m709 ?_ hs.lf)).append
      (realises_trip device .m710 ?_ hs.hf)).append
      (realises_model711 device hs))).mono fun r _ => ?_
  · exact fun _ _ _ => rfl
  · exact fun _ _ _ => rfl
  · exact fun _ _ _ => rfl
  · exact fun _ _ _ => rfl
  · cases r with
    | tripX model curve i =>
      cases model <;> cases curve <;> simp [TripPoints]
    | tripY model curve i =>
      cases model <;> cases curve <;> simp [TripPoints]
    | voltX model i => cases model <;> simp
    | voltY model i => cases model <;> simp
    | rspTms model => cases model <;> simp
    | _ => simp

/-- A full send leaves no scaled point reading as not implemented, unless SEP2 asks it to hold that
very number. -/
def AvoidsSentinels (mapSiteLimits : Bool) (attrs : ControlAttributes) (p : Parameters) : Prop :=
  ∀ w ∈ device.scaledWrites p, w.value = w.point.width.invalid →
    device.requested mapSiteLimits attrs w.point = some (w.value : ℚ)

theorem sentinels_avoided_iff (h : toParameters mapSiteLimits attrs = .ok p) :
    AvoidsSentinels device mapSiteLimits attrs p ↔
      ∀ point q, device.requested mapSiteLimits attrs point = some q → point.width.Clear q :=
  (realises_scaledWrites device h).avoids_iff

/-! ## A full export limit on a fine scale -/

/-- Attributes that limit the export to a percentage, in hundredths. -/
def maxLimAttributes (percentage : UInt16) : ControlAttributes :=
  { inner := { derControlBase := { opModMaxLimW := some percentage } } }

def maxLimParameters (percentage : UInt16) : Parameters :=
  { pfwInjEna := some .disabled, pfwAbsEna := some .disabled, varSetEna := some .disabled
    wMaxLimPctEna := some .enabled, wMaxLimPct := some ⟨percentage, sep2HundredthsSf⟩
    wSetEna := some .disabled }

theorem toParameters_maxLimAttributes (percentage : UInt16) :
    toParameters false (maxLimAttributes percentage) = .ok (maxLimParameters percentage) := rfl

/-- A device with model 704 alone, whose percentages have a scale of thousandths. -/
def thousandthsDevice : CurveDevice where
  toDevice := { Device.plain none with supportedModelIds := [704], wMaxLimPctSf := some (-3) }
  volt _ := ⟨⟨0, 0, 0, 0⟩, 0⟩
  trip _ := ⟨0, 0, 0, 0⟩
  nCtl := 0
  dbSf := 0
  kSf := 0
  ctlRspTmsSf := 0

/-- A limit of 100 % is written as 65.535 %, which says that there is no limit. -/
theorem full_limit_reads_not_implemented :
    toParameters false (maxLimAttributes 10000) = .ok (maxLimParameters 10000) ∧
      ¬AvoidsSentinels thousandthsDevice false (maxLimAttributes 10000)
        (maxLimParameters 10000) := by
  refine ⟨rfl, fun h => ?_⟩
  have hmem : (⟨.wMaxLimPct, 65535⟩ : ScaledWrite) ∈
      thousandthsDevice.scaledWrites (maxLimParameters 10000) := by decide
  have hrequest := h _ hmem rfl
  have hexact : thousandthsDevice.requested false (maxLimAttributes 10000) .wMaxLimPct =
      some 100000 := by
    decide +kernel
  rw [hexact] at hrequest
  exact absurd (Option.some.inj hrequest) (by norm_num)

/-- A limit of 65 % is not. -/
theorem sentinels_avoided_iff_sixty_five :
    AvoidsSentinels thousandthsDevice false (maxLimAttributes 6500) (maxLimParameters 6500) ↔
      ∀ point q, thousandthsDevice.requested false (maxLimAttributes 6500) point = some q →
        point.width.Clear q :=
  sentinels_avoided_iff thousandthsDevice (toParameters_maxLimAttributes 6500)

end Sep2Bridge.Modbus
