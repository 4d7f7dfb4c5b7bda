import Sep2Bridge.ScaledValue

/-!
# The parameters of a device

`modbus_connection::Parameters`: everything one set of control attributes asks of a device, a
field for each point it may write. `none` asks for nothing.

The symbols of a SunSpec enumeration are those the bridge writes; every other content of such a
register is `other`.
-/

namespace Sep2Bridge.Modbus

/-! ## Enumerated points -/

/-- A point that turns a function off or on. -/
inductive Ena
  | disabled | enabled
  | other (bits : UInt16)
  deriving DecidableEq

abbrev Es := Ena
abbrev PfwInjEna := Ena
abbrev PfwAbsEna := Ena
abbrev VarSetEna := Ena
abbrev WMaxLimPctEna := Ena
abbrev WSetEna := Ena
abbrev CrvVRefAutoEna := Ena

/-- The excitation of a power factor. -/
inductive PfwExt
  | overExcited | underExcited
  | other (bits : UInt16)
  deriving DecidableEq

abbrev PfwInjExt := PfwExt
abbrev PfwAbsExt := PfwExt

inductive VarSetMod
  | wMaxPct | varMaxPct | varAvailPct
  | other (bits : UInt16)
  deriving DecidableEq

/-- Which register holds the set point of active power. -/
inductive WSetMod
  | wMaxPct | watts
  | other (bits : UInt16)
  deriving DecidableEq

/-- `model705::CrvDeptRef`. -/
inductive VoltVarDeptRef
  | wMaxPct | varMaxPct | varAvalPct
  | other (bits : UInt16)
  deriving DecidableEq

/-- `model706::CrvDeptRef`. -/
inductive VoltWattDeptRef
  | wMaxPct | wAvalPct
  | other (bits : UInt16)
  deriving DecidableEq

/-! ## Parameters -/

structure Curve (TX TY : Type) where
  points : List (TX × TY)
  sfX : Int16
  sfY : Int16
  deriving DecidableEq

structure Model711Ctl where
  dbOf : ScaledValue UInt32
  dbUf : ScaledValue UInt32
  kOf : ScaledValue UInt16
  kUf : ScaledValue UInt16
  rspTms : ScaledValue UInt32
  deriving DecidableEq

structure Parameters where
  -- AS5438 Table E.3
  pfwInjEna : Option PfwInjEna := none
  pfwInjPf : Option (ScaledValue UInt16) := none
  pfwInjExt : Option PfwInjExt := none
  pfwAbsEna : Option PfwAbsEna := none
  pfwAbsPf : Option (ScaledValue UInt16) := none
  pfwAbsExt : Option PfwAbsExt := none
  -- AS5438 Table E.4
  vref : Option (ScaledValue UInt16) := none
  vrefAutoEna : Option CrvVRefAutoEna := none
  vrefAutoTms : Option UInt16 := none
  derVoltVar : Option (Curve UInt16 Int16) := none
  derVoltVarTms : Option (ScaledValue UInt32) := none
  derVoltVarDeptRef : Option VoltVarDeptRef := none
  -- AS5438 Table E.6
  derVoltWatt : Option (Curve UInt16 Int16) := none
  derVoltWattTms : Option (ScaledValue UInt32) := none
  derVoltWattDeptRef : Option VoltWattDeptRef := none
  -- AS5438 Table E.5
  varSetEna : Option VarSetEna := none
  varSetMod : Option VarSetMod := none
  varSetPct : Option (ScaledValue Int16) := none
  -- AS5438 Table E.7
  derTripLvMust : Option (Curve UInt16 UInt32) := none
  derTripLvMay : Option (Curve UInt16 UInt32) := none
  derTripLvMomCess : Option (Curve UInt16 UInt32) := none
  derTripHvMust : Option (Curve UInt16 UInt32) := none
  derTripHvMay : Option (Curve UInt16 UInt32) := none
  derTripHvMomCess : Option (Curve UInt16 UInt32) := none
  -- AS5438 Table E.8
  derTripLfMust : Option (Curve UInt32 UInt32) := none
  derTripLfMay : Option (Curve UInt32 UInt32) := none
  derTripHfMust : Option (Curve UInt32 UInt32) := none
  derTripHfMay : Option (Curve UInt32 UInt32) := none
  -- AS5438 Table E.9
  droopCtl : Option Model711Ctl := none
  -- AS5438 Table E.10
  es : Option Es := none
  esvHi : Option (ScaledValue UInt16) := none
  esvLo : Option (ScaledValue UInt16) := none
  esHzHi : Option (ScaledValue UInt32) := none
  esHzLo : Option (ScaledValue UInt32) := none
  esDlyTms : Option UInt32 := none
  esRndTms : Option UInt32 := none
  esRmpTms : Option UInt32 := none
  -- AS5438 Table 11
  wMaxLimPctEna : Option WMaxLimPctEna := none
  wMaxLimPct : Option (ScaledValue UInt16) := none
  -- AS5438 Table 12, with the extensions for a set point in watts and for site limits
  wSetPct : Option (ScaledValue Int16) := none
  wSetEna : Option WSetEna := none
  wSetMod : Option WSetMod := none
  wSet : Option (ScaledValue Int32) := none
  wSetIsImportSiteLimit : Bool := false
  wMaxLim : Option (ScaledValue UInt32) := none
  deriving DecidableEq

end Sep2Bridge.Modbus
