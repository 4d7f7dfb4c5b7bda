import Sep2Bridge.Modbus.Capabilities

/-!
# What is measured is what is reported

A measurement is what model 701 says of one quantity: its unit and phase, the number in the
register and the scale factor.

**Theorem (`toMirrorMeterReadings_exact`).** A translation that succeeds reports every measurement
of the device once, unchanged and in the same order, and nothing else. One that fails names the
scale factor of the first measurement, in the order of the translation, that SEP2 has no power of
ten for.
-/

namespace Sep2Bridge.Modbus

open Lib

structure Measurement where
  uom : UomType
  phase : Option PhaseCode
  value : Int
  sf : Option Int16
  deriving DecidableEq

namespace Metering

variable (metering : Metering)

def powers : List Measurement :=
  [metering.w.map fun value => ⟨.w, none, value.toInt, metering.wSf⟩,
    metering.wl1.map fun value => ⟨.w, some .phaseA, value.toInt, metering.wSf⟩,
    metering.wl2.map fun value => ⟨.w, some .phaseB, value.toInt, metering.wSf⟩,
    metering.wl3.map fun value => ⟨.w, some .phaseC, value.toInt, metering.wSf⟩].reduceOption

def reactivePower : List Measurement :=
  (metering.var.map fun value => ⟨.vAr, none, value.toInt, metering.varSf⟩).toList

def frequency : List Measurement :=
  (metering.hz.map fun value => ⟨.hz, none, value.toNat, metering.hzSf⟩).toList

def voltageMeasurements : List Measurement :=
  metering.voltages.map fun voltage =>
    ⟨.voltage, some voltage.2.code, voltage.1.toNat, metering.vSf⟩

/-- The measurements, in the order of the readings. -/
def measurements : List Measurement :=
  metering.powers ++ metering.reactivePower ++ metering.frequency ++ metering.voltageMeasurements

/-- The scale factors with their names, for each measurement in the order of the translation. -/
def scaleFactors : List (String × Option Int16) :=
  (metering.powers.map fun m => ("w_sf", m.sf)) ++
    (metering.reactivePower.map fun m => ("var_sf", m.sf)) ++
    (metering.voltageMeasurements.map fun m => ("v_sf", m.sf)) ++
    metering.frequency.map fun m => ("hz_sf", m.sf)

end Metering

/-- There is no power of ten for the scale factor. -/
def scaleFactorError (name : String) (sf : Option Int16) : Option NamedError :=
  sf.bind fun sf => if sf.toInt < -9 ∨ 9 < sf.toInt then some ⟨.outOfRange, name⟩ else none

/-- What a reading says. -/
def measured (reading : MirrorMeterReading) : Option Measurement := do
  let readingType ← reading.readingType
  let uom ← readingType.uom
  let inner ← reading.reading
  let value ← inner.value
  return ⟨uom, readingType.phase, value, readingType.powerOfTenMultiplier.map convert⟩

section Conversions

variable {metering : Metering} {now : Int} {name : String} {sf : Option Int16}

theorem errorOf_multiplier :
    errorOf (named name (sf.mapM tryConvert : Except _ (Option PowerOfTenMultiplierType))) =
      scaleFactorError name sf := by
  rw [named, errorOf_mapError, errorOf_mapM_option, scaleFactorError]
  cases sf with
  | none => rfl
  | some sf =>
    simp only [Option.bind_some]
    rcases tryConvert_multiplier sf with ⟨m, hm, -, hrange⟩ | ⟨hm, hrange⟩
    · rw [hm, if_neg (by omega)]
      rfl
    · rw [hm, if_pos hrange]
      rfl

theorem convert_of_multiplier {multiplier : Option PowerOfTenMultiplierType}
    (h : named name (sf.mapM tryConvert) = .ok multiplier) : multiplier.map convert = sf := by
  cases sf with
  | none =>
    cases h
    rfl
  | some sf =>
    have hmap : named name (some <$> (tryConvert sf : Except _ PowerOfTenMultiplierType)) =
        .ok multiplier := h
    rcases tryConvert_multiplier sf with ⟨m, hm, hback, -⟩ | ⟨hm, -⟩
    · rw [hm] at hmap
      cases hmap
      exact congrArg some hback
    · rw [hm] at hmap
      cases hmap

theorem measured_varReading {value : Int16} {reading : MirrorMeterReading}
    (h : varReading metering now value = .ok reading) :
    measured reading = some ⟨.vAr, none, value.toInt, metering.varSf⟩ := by
  obtain ⟨multiplier, hmultiplier, hreading⟩ := bind_eq_ok.1 h
  cases hreading
  rw [← convert_of_multiplier hmultiplier]
  rfl

theorem measured_hzReading {value : UInt32} {reading : MirrorMeterReading}
    (h : hzReading metering now value = .ok reading) :
    measured reading = some ⟨.hz, none, value.toNat, metering.hzSf⟩ := by
  obtain ⟨multiplier, hmultiplier, hreading⟩ := bind_eq_ok.1 h
  cases hreading
  rw [← convert_of_multiplier hmultiplier]
  rfl

theorem tryConvert_phase (phase : PhaseReference) :
    (tryConvert phase : Except TranslationError PhaseCode) = .ok phase.code := by
  cases phase <;> rfl

theorem measured_voltageReading {v : UInt16} {phase : PhaseReference}
    {reading : MirrorMeterReading} (h : voltageReading metering now v phase = .ok reading) :
    measured reading = some ⟨.voltage, some phase.code, v.toNat, metering.vSf⟩ := by
  obtain ⟨code, hcode, h⟩ := bind_eq_ok.1 h
  obtain ⟨multiplier, hmultiplier, hreading⟩ := bind_eq_ok.1 h
  rw [tryConvert_phase] at hcode
  cases hcode
  cases hreading
  rw [← convert_of_multiplier hmultiplier]
  rfl

/-- At most one reading, of at most one measurement. -/
theorem toList_of_mapM {α : Type} {x : Option α} {y : Option MirrorMeterReading}
    {f : α → Except NamedError MirrorMeterReading} {m : α → Measurement} (h : x.mapM f = .ok y)
    (hf : ∀ a reading, f a = .ok reading → measured reading = some (m a)) :
    y.map measured = x.map fun a => some (m a) := by
  cases x with
  | none =>
    cases h
    rfl
  | some a =>
    have hmap : some <$> f a = .ok y := h
    cases hfa : f a with
    | error e =>
      rw [hfa] at hmap
      cases hmap
    | ok reading =>
      rw [hfa] at hmap
      cases hmap
      exact congrArg some (hf a reading hfa)

theorem measured_powerTemplate {value : Option Int16} {phase : Option PhaseCode}
    {reading : Option MirrorMeterReading}
    (h : powerTemplate metering now name value phase = .ok reading) :
    reading.map measured = value.map fun value =>
      some ⟨.w, phase, value.toInt, metering.wSf⟩ := by
  refine toList_of_mapM h fun value reading h => ?_
  obtain ⟨multiplier, hmultiplier, hreading⟩ := bind_eq_ok.1 h
  cases hreading
  rw [← convert_of_multiplier hmultiplier]
  rfl

end Conversions

/-- The readings of a translation that succeeds. -/
theorem measured_of_ok {metering : Metering} {now : Int} {readings : List MirrorMeterReading}
    (h : toMirrorMeterReadings metering now = .ok readings) :
    readings.map measured = metering.measurements.map some := by
  simp only [toMirrorMeterReadings, bind_eq_ok] at h
  obtain ⟨w, hw, wl1, hwl1, wl2, hwl2, wl3, hwl3, var, hvar, voltages, hvoltages, hz, hhz, h⟩ := h
  cases h
  have hw := measured_powerTemplate hw
  have hwl1 := measured_powerTemplate hwl1
  have hwl2 := measured_powerTemplate hwl2
  have hwl3 := measured_powerTemplate hwl3
  have hvar := toList_of_mapM hvar fun _ _ => measured_varReading
  have hhz := toList_of_mapM hhz fun _ _ => measured_hzReading
  have hvoltages := map_eq_of_mapM hvoltages fun _ _ => measured_voltageReading
  have hothers : [w, wl1, wl2, wl3, var, hz].reduceOption.map measured =
      (metering.powers ++ metering.reactivePower ++ metering.frequency).map some := by
    rw [Metering.powers, Metering.reactivePower, Metering.frequency,
      ← List.reduceOption_singleton, ← List.reduceOption_singleton, ← List.reduceOption_append,
      ← List.reduceOption_append, ← List.reduceOption_map, ← List.reduceOption_map]
    simp only [List.map_cons, List.map_nil, hw, hwl1, hwl2, hwl3, hvar, hhz, List.cons_append,
      List.nil_append, Option.map_map]
    rfl
  have hsplit : metering.measurements.map some =
      (metering.powers ++ metering.reactivePower ++ metering.frequency).map some ++
        metering.voltageMeasurements.map some := List.map_append
  rw [List.map_append, hothers, hvoltages, hsplit, Metering.voltageMeasurements, List.map_map]
  rfl

section Errors

variable {metering : Metering} {now : Int}

theorem errorOf_powerTemplate {name : String} {value : Option Int16} {phase : Option PhaseCode} :
    errorOf (powerTemplate metering now name value phase) =
      value.bind fun _ => scaleFactorError "w_sf" metering.wSf := by
  rw [powerTemplate, errorOf_mapM_option]
  refine congrArg value.bind (funext fun value => ?_)
  rw [errorOf_bind fun _ _ => errorOf_pure _, errorOf_multiplier, Option.or_none]

theorem errorOf_varReading {value : Int16} :
    errorOf (varReading metering now value) = scaleFactorError "var_sf" metering.varSf := by
  rw [varReading, errorOf_bind fun _ _ => errorOf_pure _, errorOf_multiplier, Option.or_none]

theorem errorOf_hzReading {value : UInt32} :
    errorOf (hzReading metering now value) = scaleFactorError "hz_sf" metering.hzSf := by
  rw [hzReading, errorOf_bind fun _ _ => errorOf_pure _, errorOf_multiplier, Option.or_none]

theorem errorOf_voltageReading {v : UInt16} {phase : PhaseReference} :
    errorOf (voltageReading metering now v phase) = scaleFactorError "v_sf" metering.vSf := by
  have hrest : ∀ code : PhaseCode, errorOf (do
      let powerOfTenMultiplier ← named "v_sf" (metering.vSf.mapM tryConvert)
      return ({
        description := some ("voltage_" ++ phase.display)
        readingType := some
          { templateReadingType with
            flowDirection := some .forward
            phase := some code
            powerOfTenMultiplier
            uom := some .voltage }
        reading := some { templateReading now with value := some v.toNat } } :
          MirrorMeterReading)) = scaleFactorError "v_sf" metering.vSf := fun code => by
    rw [errorOf_bind fun _ _ => errorOf_pure _, errorOf_multiplier, Option.or_none]
  rw [voltageReading, errorOf_bind fun code _ => hrest code, tryConvert_phase]
  rfl

/-- The error of the translation is that of the first scale factor that has one. -/
theorem errorOf_toMirrorMeterReadings (metering : Metering) (now : Int) :
    errorOf (toMirrorMeterReadings metering now) =
      metering.scaleFactors.findSome? fun f => scaleFactorError f.1 f.2 := by
  have hpowers : ((metering.powers.map fun m => ("w_sf", m.sf)).findSome? fun f =>
      scaleFactorError f.1 f.2) =
        (metering.w.bind fun _ => scaleFactorError "w_sf" metering.wSf).or
          ((metering.wl1.bind fun _ => scaleFactorError "w_sf" metering.wSf).or
            ((metering.wl2.bind fun _ => scaleFactorError "w_sf" metering.wSf).or
              (metering.wl3.bind fun _ => scaleFactorError "w_sf" metering.wSf))) := by
    rw [Metering.powers, ← List.reduceOption_map, findSome?_reduceOption]
    simp only [List.map_cons, List.map_nil, findSome?_cons_eq_or, List.findSome?_nil,
      Option.or_none, Option.map_map, Option.bind_map]
    rfl
  have hvar : ((metering.reactivePower.map fun m => ("var_sf", m.sf)).findSome? fun f =>
      scaleFactorError f.1 f.2) = errorOf (metering.var.mapM (varReading metering now)) := by
    rw [errorOf_mapM_option, Metering.reactivePower]
    cases metering.var with
    | none => rfl
    | some value => simp [errorOf_varReading]
  have hhz : ((metering.frequency.map fun m => ("hz_sf", m.sf)).findSome? fun f =>
      scaleFactorError f.1 f.2) = errorOf (metering.hz.mapM (hzReading metering now)) := by
    rw [errorOf_mapM_option, Metering.frequency]
    cases metering.hz with
    | none => rfl
    | some value => simp [errorOf_hzReading]
  have hvoltages : ((metering.voltageMeasurements.map fun m => ("v_sf", m.sf)).findSome? fun f =>
      scaleFactorError f.1 f.2) =
        errorOf (metering.voltages.mapM fun v => voltageReading metering now v.1 v.2) := by
    rw [errorOf_mapM_list, Metering.voltageMeasurements, List.map_map, List.findSome?_map]
    simp only [errorOf_voltageReading]
    rfl
  have hchain : errorOf (toMirrorMeterReadings metering now) =
      (errorOf (powerTemplate metering now "w" metering.w none)).or
        ((errorOf (powerTemplate metering now "wl1" metering.wl1 (some .phaseA))).or
          ((errorOf (powerTemplate metering now "wl2" metering.wl2 (some .phaseB))).or
            ((errorOf (powerTemplate metering now "wl3" metering.wl3 (some .phaseC))).or
              ((errorOf (metering.var.mapM (varReading metering now))).or
                ((errorOf (metering.voltages.mapM fun v =>
                    voltageReading metering now v.1 v.2)).or
                  ((errorOf (metering.hz.mapM (hzReading metering now))).or none)))))) :=
    errorOf_bind fun _ _ => errorOf_bind fun _ _ => errorOf_bind fun _ _ => errorOf_bind fun _ _ =>
      errorOf_bind fun _ _ => errorOf_bind fun _ _ => errorOf_bind fun _ _ => errorOf_pure _
  rw [hchain, Metering.scaleFactors, List.findSome?_append, List.findSome?_append,
    List.findSome?_append, hpowers, hvar, hvoltages, hhz]
  simp only [errorOf_powerTemplate, Option.or_assoc, Option.or_none]

end Errors

/-- **What is measured is what is reported**, or the error names the first scale factor without a
power of ten. -/
theorem toMirrorMeterReadings_exact (metering : Metering) (now : Int) :
    (∀ readings, toMirrorMeterReadings metering now = .ok readings →
      readings.map measured = metering.measurements.map some) ∧
    ∀ e, toMirrorMeterReadings metering now = .error e ↔
      (metering.scaleFactors.findSome? fun f => scaleFactorError f.1 f.2) = some e := by
  refine ⟨fun _ => measured_of_ok, fun e => ?_⟩
  rw [← errorOf_toMirrorMeterReadings metering now, errorOf_eq_some]

end Sep2Bridge.Modbus
