import Sep2Bridge.Modbus.Translation

/-!
# From model 701 to meter readings

`Metering::from`, and `TryFrom<ModbusMetering> for Vec<MirrorMeterReading>`. Each reading that the
device has becomes one `MirrorMeterReading`, told apart from the others by its unit and its phase.

**Theorem (`slots_sublist`).** The units and phases of the readings are among the fourteen of
`slots`, each at most once.
-/

namespace Sep2Bridge.Modbus

open Lib

/-! ## The readings of the device -/

/-- The readings of model 701 that are reported. -/
structure Model701 where
  w : Option Int16 := none
  wl1 : Option Int16 := none
  wl2 : Option Int16 := none
  wl3 : Option Int16 := none
  wSf : Option Int16 := none
  var : Option Int16 := none
  varSf : Option Int16 := none
  llv : Option UInt16 := none
  lnv : Option UInt16 := none
  vl1l2 : Option UInt16 := none
  vl1 : Option UInt16 := none
  vl2l3 : Option UInt16 := none
  vl2 : Option UInt16 := none
  vl3l1 : Option UInt16 := none
  vl3 : Option UInt16 := none
  vSf : Option Int16 := none
  hz : Option UInt32 := none
  hzSf : Option Int16 := none
  deriving DecidableEq

inductive PhaseReference
  | llv | lnv | vl1l2 | vl1 | vl2l3 | vl2 | vl3l1 | vl3
  deriving DecidableEq

/-- `Display`. -/
def PhaseReference.display : PhaseReference → String
  | llv => "LLV"
  | lnv => "LNV"
  | vl1l2 => "VL1L2"
  | vl1 => "VL1"
  | vl2l3 => "VL2L3"
  | vl2 => "VL2"
  | vl3l1 => "VL3L1"
  | vl3 => "VL3"

structure Metering where
  w : Option Int16 := none
  wl1 : Option Int16 := none
  wl2 : Option Int16 := none
  wl3 : Option Int16 := none
  wSf : Option Int16 := none
  var : Option Int16 := none
  varSf : Option Int16 := none
  /-- `VoltageWithReference`. -/
  voltages : List (UInt16 × PhaseReference) := []
  vSf : Option Int16 := none
  hz : Option UInt32 := none
  hzSf : Option Int16 := none
  deriving DecidableEq

namespace Metering

/-- The voltages that the device has, with their references. -/
def voltagesOf (m701 : Model701) : List (UInt16 × PhaseReference) :=
  [ m701.llv.map (·, .llv), m701.lnv.map (·, .lnv), m701.vl1l2.map (·, .vl1l2),
    m701.vl1.map (·, .vl1), m701.vl2l3.map (·, .vl2l3), m701.vl2.map (·, .vl2),
    m701.vl3l1.map (·, .vl3l1), m701.vl3.map (·, .vl3) ].reduceOption

/-- `Metering::from`. -/
def ofModel701 (m701 : Option Model701) : Option Metering :=
  m701.map fun m701 =>
    { w := m701.w
      wl1 := m701.wl1
      wl2 := m701.wl2
      wl3 := m701.wl3
      wSf := m701.wSf
      var := m701.var
      varSf := m701.varSf
      voltages := voltagesOf m701
      vSf := m701.vSf
      hz := m701.hz
      hzSf := m701.hzSf }

end Metering

/-! ## The translation -/

instance : TryConvert PhaseReference PhaseCode where
  tryConvert
    | .llv => .ok .phaseABC
    | .lnv => .ok .phaseAN
    | .vl1 => .ok .phaseA
    | .vl2 => .ok .phaseB
    | .vl3 => .ok .phaseC
    | .vl1l2 => .ok .phaseAB
    | .vl2l3 => .ok .phaseBC
    | .vl3l1 => .ok .phaseCA

instance : TryConvert Int16 PowerOfTenMultiplierType where
  tryConvert x := match x.toInt with
    | -9 => .ok .nano
    | -8 => .ok .negativeEight
    | -7 => .ok .negativeSeven
    | -6 => .ok .micro
    | -5 => .ok .negativeFive
    | -4 => .ok .negativeFour
    | -3 => .ok .milli
    | -2 => .ok .centi
    | -1 => .ok .deci
    | 0 => .ok .none
    | 1 => .ok .deca
    | 2 => .ok .hecto
    | 3 => .ok .kilo
    | 4 => .ok .four
    | 5 => .ok .five
    | 6 => .ok .mega
    | 7 => .ok .seven
    | 8 => .ok .eight
    | 9 => .ok .giga
    | _ => .error .outOfRange

/-- `template_reading_type` -/
def templateReadingType : ReadingType where
  kind := some .power
  accumulationBehaviour := some .instantaneous
  commodity := some .electricitySecondaryMetered

/-- `template_reading` -/
def templateReading (now : Int) : Reading where
  timePeriod := some ⟨now, 0⟩

/-- `power_template` -/
def powerTemplate (metering : Metering) (now : Int) (name : String) (value : Option Int16)
    (phase : Option PhaseCode) : Except NamedError (Option MirrorMeterReading) :=
  value.mapM fun value => do
    let powerOfTenMultiplier ← named "w_sf" (metering.wSf.mapM tryConvert)
    return {
      description := some name
      readingType := some
        { templateReadingType with
          flowDirection := some .reverse
          uom := some .w
          powerOfTenMultiplier
          phase }
      reading := some { templateReading now with value := some value.toInt } }

def varReading (metering : Metering) (now : Int) (value : Int16) :
    Except NamedError MirrorMeterReading := do
  let powerOfTenMultiplier ← named "var_sf" (metering.varSf.mapM tryConvert)
  return {
    description := some "reactive_power"
    readingType := some
      { templateReadingType with
        flowDirection := some .reverse
        uom := some .vAr
        powerOfTenMultiplier }
    reading := some { templateReading now with value := some value.toInt } }

def voltageReading (metering : Metering) (now : Int) (v : UInt16) (phase : PhaseReference) :
    Except NamedError MirrorMeterReading := do
  let phaseCode ← named "voltages" (tryConvert phase)
  let powerOfTenMultiplier ← named "v_sf" (metering.vSf.mapM tryConvert)
  return {
    description := some ("voltage_" ++ phase.display)
    readingType := some
      { templateReadingType with
        flowDirection := some .forward
        phase := some phaseCode
        powerOfTenMultiplier
        uom := some .voltage }
    reading := some { templateReading now with value := some v.toNat } }

def hzReading (metering : Metering) (now : Int) (value : UInt32) :
    Except NamedError MirrorMeterReading := do
  let powerOfTenMultiplier ← named "hz_sf" (metering.hzSf.mapM tryConvert)
  return {
    description := some "frequency"
    readingType := some
      { templateReadingType with
        flowDirection := some .reverse
        uom := some .hz
        powerOfTenMultiplier }
    reading := some { templateReading now with value := some value.toNat } }

/-- `TryFrom<ModbusMetering> for Vec<MirrorMeterReading>`, at the time `now`. -/
def toMirrorMeterReadings (metering : Metering) (now : Int) :
    Except NamedError (List MirrorMeterReading) := do
  let w ← powerTemplate metering now "w" metering.w none
  let wl1 ← powerTemplate metering now "wl1" metering.wl1 (some .phaseA)
  let wl2 ← powerTemplate metering now "wl2" metering.wl2 (some .phaseB)
  let wl3 ← powerTemplate metering now "wl3" metering.wl3 (some .phaseC)
  let var ← metering.var.mapM (varReading metering now)
  let voltages ← metering.voltages.mapM fun voltage =>
    voltageReading metering now voltage.1 voltage.2
  let hz ← metering.hz.mapM (hzReading metering now)
  return [w, wl1, wl2, wl3, var, hz].reduceOption ++ voltages

/-! ## Units and phases -/

/-- The unit and the phase of a reading. -/
def slot (reading : MirrorMeterReading) : Option (UomType × Option PhaseCode) :=
  reading.readingType.bind fun readingType =>
    readingType.uom.map fun uom => (uom, readingType.phase)

/-- The units and phases of the power, the frequency and the voltages. -/
def slots : List (UomType × Option PhaseCode) :=
  [(.w, none), (.w, some .phaseA), (.w, some .phaseB), (.w, some .phaseC), (.vAr, none),
    (.hz, none), (.voltage, some .phaseABC), (.voltage, some .phaseAN),
    (.voltage, some .phaseAB), (.voltage, some .phaseA), (.voltage, some .phaseBC),
    (.voltage, some .phaseB), (.voltage, some .phaseCA), (.voltage, some .phaseC)]

def PhaseReference.code : PhaseReference → PhaseCode
  | llv => .phaseABC
  | lnv => .phaseAN
  | vl1l2 => .phaseAB
  | vl1 => .phaseA
  | vl2l3 => .phaseBC
  | vl2 => .phaseB
  | vl3l1 => .phaseCA
  | vl3 => .phaseC

section Slots

variable {metering : Metering} {now : Int}

theorem slot_powerTemplate {name : String} {value : Option Int16} {phase : Option PhaseCode}
    {reading : Option MirrorMeterReading}
    (h : powerTemplate metering now name value phase = .ok reading) :
    (reading.toList.map slot).Sublist [some (.w, phase)] := by
  refine sublist_of_mapM h fun value reading h => ?_
  obtain ⟨_, -, hreading⟩ := bind_eq_ok.1 h
  cases hreading
  rfl

theorem slot_varReading {value : Int16} {reading : MirrorMeterReading}
    (h : varReading metering now value = .ok reading) : slot reading = some (.vAr, none) := by
  obtain ⟨_, -, hreading⟩ := bind_eq_ok.1 h
  cases hreading
  rfl

theorem slot_voltageReading {v : UInt16} {phase : PhaseReference} {reading : MirrorMeterReading}
    (h : voltageReading metering now v phase = .ok reading) :
    slot reading = some (.voltage, some phase.code) := by
  obtain ⟨code, hcode, h⟩ := bind_eq_ok.1 h
  obtain ⟨_, -, hreading⟩ := bind_eq_ok.1 h
  cases hreading
  cases phase <;> cases hcode <;> rfl

theorem slot_hzReading {value : UInt32} {reading : MirrorMeterReading}
    (h : hzReading metering now value = .ok reading) : slot reading = some (.hz, none) := by
  obtain ⟨_, -, hreading⟩ := bind_eq_ok.1 h
  cases hreading
  rfl

/-- Each reference is that of at most one voltage. -/
theorem references_sublist (m701 : Model701) :
    ((Metering.voltagesOf m701).map fun voltage =>
      some (UomType.voltage, some voltage.2.code)).Sublist ((slots.drop 6).map some) := by
  have hone : ∀ (v : Option UInt16) (phase : PhaseReference),
      ((v.map (·, phase)).toList.map fun voltage : UInt16 × PhaseReference =>
        some (UomType.voltage, some voltage.2.code)).Sublist
          [some (UomType.voltage, some phase.code)] := by
    intro v phase
    cases v with
    | none => exact List.nil_sublist _
    | some v => exact List.Sublist.refl _
  exact sublist_reduceOption (.cons (hone _ _) (.cons (hone _ _) (.cons (hone _ _)
    (.cons (hone _ _) (.cons (hone _ _) (.cons (hone _ _) (.cons (hone _ _)
      (.cons (hone _ _) .nil))))))))

/-- **The units and phases of a batch** are different. -/
theorem slots_sublist {m701 : Option Model701} {readings : List MirrorMeterReading}
    (hmetering : Metering.ofModel701 m701 = some metering)
    (h : toMirrorMeterReadings metering now = .ok readings) :
    (readings.map slot).Sublist (slots.map some) := by
  obtain ⟨m701, rfl, rfl⟩ := Option.map_eq_some_iff.1 hmetering
  simp only [toMirrorMeterReadings, bind_eq_ok] at h
  obtain ⟨w, hw, wl1, hwl1, wl2, hwl2, wl3, hwl3, var, hvar, voltages, hvoltages, hz, hhz, h⟩ := h
  cases h
  have hpower : ([w, wl1, wl2, wl3, var, hz].reduceOption.map slot).Sublist
      ((slots.take 6).map some) := by
    refine sublist_reduceOption (.cons (slot_powerTemplate hw) (.cons (slot_powerTemplate hwl1)
      (.cons (slot_powerTemplate hwl2) (.cons (slot_powerTemplate hwl3) (.cons ?_
        (.cons ?_ .nil))))))
    · exact sublist_of_mapM hvar fun _ _ h => slot_varReading h
    · exact sublist_of_mapM hhz fun _ _ h => slot_hzReading h
  have hvoltage : (voltages.map slot).Sublist ((slots.drop 6).map some) := by
    rw [map_eq_of_mapM hvoltages fun _ _ h => slot_voltageReading h]
    exact references_sublist m701
  rw [List.map_append]
  exact hpower.append hvoltage

end Slots

end Sep2Bridge.Modbus
