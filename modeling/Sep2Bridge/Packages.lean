import Mathlib.Data.Int.Notation

/-!
# The SEP2 resources

The resource types of `sep2_common::packages` that the bridge reads, each with the fields
the modelled functions use. A `DERCurve` and a `DeviceCapability` are also compared as a whole, so
they carry the rest too. Identifiers (`MRIDType`, `HexBinary160`) are only ever compared,
so they are plain numbers. A time is an `Int` of seconds; sums of times are taken modulo
`2 ^ 64` where the source takes them in `i64`.
-/

namespace Sep2Bridge

/-! ## Primitives -/

abbrev MRIDType := Nat

/-- An LFDI. -/
abbrev HexBinary160 := Nat

abbrev PrimacyType := Nat

abbrev PINType := Nat

/-- Two's complement wrapping of an `i64` result, modulo `2 ^ 64`. -/
def wrapI64 (x : Int) : Int := Int.bmod x 0x10000000000000000

/-- The power of ten of a SEP2 multiplier. -/
inductive PowerOfTenMultiplierType
  | nano | negativeEight | negativeSeven | micro | negativeFive | negativeFour | milli | centi
  | deci | none | deca | hecto | kilo | four | five | mega | seven | eight | giga
  deriving DecidableEq

inductive DERUnitRefType
  | notApplicable | setMaxW | setMaxVar | statVarAvail | setEffectiveV | setMaxChargeRateW
  | setMaxDischargeRateW | statWAvail
  deriving DecidableEq

/-- What a resource says beyond the fields that are read, by name and in the order of the fields. -/
abbrev OtherFields := List (String × String)

/-- Every SEP2 link is read for its href alone. -/
structure Link where
  href : String
  deriving DecidableEq

/-! ## Controls -/

structure ActivePower where
  value : Int16
  multiplier : PowerOfTenMultiplierType
  deriving DecidableEq

structure ReactivePower where
  value : Int16
  multiplier : PowerOfTenMultiplierType
  deriving DecidableEq

structure PowerFactorWithExcitation where
  displacement : UInt16
  excitation : Bool
  multiplier : PowerOfTenMultiplierType
  deriving DecidableEq

structure FixedVar where
  refType : DERUnitRefType
  value : Int16
  deriving DecidableEq

structure FreqDroopType where
  dBof : UInt32
  dBuf : UInt32
  kOf : UInt16
  kUf : UInt16
  openLoopTms : UInt16
  deriving DecidableEq

/-- The 30 attributes that scheduled and default controls share. -/
structure DERControlBase where
  opModConnect : Option Bool := none
  opModEnergize : Option Bool := none
  opModFixedPfAbsorbW : Option PowerFactorWithExcitation := none
  opModFixedPfInjectW : Option PowerFactorWithExcitation := none
  opModFixedVar : Option FixedVar := none
  opModFixedW : Option Int16 := none
  opModFreqDroop : Option FreqDroopType := none
  opModFreqWatt : Option Link := none
  opModHfrtMayTrip : Option Link := none
  opModHfrtMustTrip : Option Link := none
  opModHvrtMayTrip : Option Link := none
  opModHvrtMomentaryCessation : Option Link := none
  opModHvrtMustTrip : Option Link := none
  opModLfrtMayTrip : Option Link := none
  opModLfrtMustTrip : Option Link := none
  opModLvrtMayTrip : Option Link := none
  opModLvrtMomentaryCessation : Option Link := none
  opModLvrtMustTrip : Option Link := none
  opModMaxLimW : Option UInt16 := none
  opModTargetVar : Option ReactivePower := none
  opModTargetW : Option ActivePower := none
  opModVoltVar : Option Link := none
  opModVoltWatt : Option Link := none
  opModWattPf : Option Link := none
  opModWattVar : Option Link := none
  rampTms : Option UInt16 := none
  opModImpLimW : Option ActivePower := none
  opModExpLimW : Option ActivePower := none
  opModGenLimW : Option ActivePower := none
  opModLoadLimW : Option ActivePower := none
  deriving DecidableEq, Inhabited

/-- A default control: the base attributes and the 9 enter-service and gradient settings. -/
structure DefaultDERControl where
  href : Option String := none
  derControlBase : DERControlBase := {}
  setEsDelay : Option UInt32 := none
  setEsHighFreq : Option UInt16 := none
  setEsHighVolt : Option Int16 := none
  setEsLowFreq : Option UInt16 := none
  setEsLowVolt : Option Int16 := none
  setEsRampTms : Option UInt32 := none
  setEsRandomDelay : Option UInt32 := none
  setGradW : Option UInt16 := none
  setSoftGradW : Option UInt16 := none
  deriving DecidableEq, Inhabited

inductive EventStatusType
  | scheduled | active | cancelled | cancelledRandom | superseded
  deriving DecidableEq

/-- The bits of `ResponseRequired` the bridge looks at. -/
structure ResponseRequired where
  messageReceived : Bool
  specificResponse : Bool
  deriving DecidableEq

inductive ResponseStatus
  | eventReceived | eventStarted | eventCompleted | eventCancelled | eventSuperseded
  deriving DecidableEq

structure DateTimeInterval where
  start : Int
  duration : UInt32
  deriving DecidableEq

structure DERControl where
  mrid : MRIDType
  href : Option String := none
  creationTime : Int := 0
  currentStatus : EventStatusType := .scheduled
  interval : DateTimeInterval := ⟨0, 0⟩
  randomizeStart : Option Int16 := none
  randomizeDuration : Option Int16 := none
  responseRequired : Option ResponseRequired := none
  replyTo : Option String := none
  derControlBase : DERControlBase := {}
  deriving DecidableEq

/-! ## Curves -/

structure CurveData where
  xvalue : Int32
  yvalue : Int32
  deriving DecidableEq

structure DERCurve where
  mrid : MRIDType
  href : Option String := none
  curveData : List CurveData := []
  xMultiplier : PowerOfTenMultiplierType := .none
  yMultiplier : PowerOfTenMultiplierType := .none
  yRefType : DERUnitRefType := .notApplicable
  openLoopTms : Option UInt16 := none
  vRef : Option UInt16 := none
  autonomousVRefEnable : Option Bool := none
  autonomousVRefTimeConstant : Option UInt32 := none
  /-- The description and the version, the creation time, the type of the curve, the ramp times, and
  the excitation of its points. -/
  others : OtherFields := []
  deriving DecidableEq

/-! ## The resource tree -/

structure EndDevice where
  href : Option String := none
  lfdi : Option HexBinary160 := none
  functionSetAssignmentsListLink : Option Link := none
  derListLink : Option Link := none
  registrationLink : Option Link := none
  deriving DecidableEq

structure FunctionSetAssignments where
  mrid : MRIDType
  href : Option String := none
  derProgramListLink : Option Link := none
  deriving DecidableEq

structure DERProgram where
  mrid : MRIDType
  href : Option String := none
  primacy : PrimacyType := 0
  defaultDerControlLink : Option Link := none
  derControlListLink : Option Link := none
  derCurveListLink : Option Link := none
  deriving DecidableEq

/-- The endpoints of one DER. -/
structure DER where
  derSettingsLink : Option Link := none
  derStatusLink : Option Link := none
  derCapabilityLink : Option Link := none
  deriving DecidableEq

structure DeviceCapability where
  href : Option String := none
  pollRate : Option UInt32 := none
  timeLink : Option Link := none
  endDeviceListLink : Option Link := none
  mirrorUsagePointListLink : Option Link := none
  /-- The links to other function sets, and the `all` of the lists that are linked. -/
  others : OtherFields := []
  deriving DecidableEq

structure Time where
  pollRate : Option UInt32 := none
  deriving DecidableEq, Inhabited

structure EndDeviceList where
  href : Option String := none
  pollRate : Option UInt32 := none
  all : UInt32 := 0
  endDevice : List EndDevice := []
  deriving DecidableEq

structure FunctionSetAssignmentsList where
  href : Option String := none
  pollRate : Option UInt32 := none
  functionSetAssignments : List FunctionSetAssignments := []
  deriving DecidableEq

structure DERProgramList where
  href : Option String := none
  pollRate : Option UInt32 := none
  derProgram : List DERProgram := []
  deriving DecidableEq

structure DERControlList where
  href : Option String := none
  derControl : List DERControl := []
  deriving DecidableEq

structure DERCurveList where
  href : Option String := none
  derCurve : List DERCurve := []
  deriving DecidableEq

structure DERList where
  href : Option String := none
  pollRate : Option UInt32 := none
  der : List DER := []
  deriving DecidableEq

/-- The identity check of a device: its PIN as the server knows it. -/
structure Registration where
  pin : PINType
  deriving DecidableEq

/-! ## Metering -/

/-- The units the bridge reads in, and the codes of the others. -/
inductive UomType
  | w | vAr | voltage | hz
  | other (code : UInt8)
  deriving DecidableEq

/-- The phases the bridge reads, and the codes of the others. -/
inductive PhaseCode
  | phaseA | phaseB | phaseC | phaseAB | phaseBC | phaseCA | phaseAN | phaseABC
  | other (code : UInt8)
  deriving DecidableEq

inductive FlowDirectionType
  | forward | reverse
  deriving DecidableEq

inductive KindType
  | power
  | other (code : UInt8)
  deriving DecidableEq

inductive AccumulationBehaviourType
  | instantaneous
  | other (code : UInt8)
  deriving DecidableEq

inductive CommodityType
  | electricitySecondaryMetered
  | other (code : UInt8)
  deriving DecidableEq

structure ReadingType where
  kind : Option KindType := none
  accumulationBehaviour : Option AccumulationBehaviourType := none
  commodity : Option CommodityType := none
  flowDirection : Option FlowDirectionType := none
  uom : Option UomType := none
  phase : Option PhaseCode := none
  powerOfTenMultiplier : Option PowerOfTenMultiplierType := none
  deriving DecidableEq

structure Reading where
  value : Option Int := none
  timePeriod : Option DateTimeInterval := none
  deriving DecidableEq

structure MirrorMeterReading where
  mrid : MRIDType := 0
  description : Option String := none
  readingType : Option ReadingType := none
  reading : Option Reading := none
  deriving DecidableEq

inductive UsagePointStatus
  | off | on
  deriving DecidableEq

structure MirrorUsagePoint where
  href : Option String := none
  deviceLfdi : HexBinary160
  postRate : Option UInt32 := none
  mrid : MRIDType := 0
  status : UsagePointStatus := .off
  mirrorMeterReading : List MirrorMeterReading := []
  deriving DecidableEq

structure MirrorUsagePointList where
  href : Option String := none
  pollRate : Option UInt32 := none
  mirrorUsagePoint : List MirrorUsagePoint := []
  deriving DecidableEq

/-! ## What travels between the tasks -/

inductive ResourceKind
  | time | endDeviceList | endDevice | functionSetAssignmentsList | functionSetAssignments
  | derProgramList | derProgram | defaultDerControl | derControlList | derControl
  | derCurveList | derCurve | derList | mirrorUsagePointList
  deriving DecidableEq

/-- A resource received from the server. -/
inductive Sep2ResourceEvent
  | deviceCapability (dcap : DeviceCapability)
  | time (time : Time)
  | endDeviceList (edl : EndDeviceList)
  | functionSetAssignmentsList (fsal : FunctionSetAssignmentsList)
  | derProgramList (derpl : DERProgramList)
  | defaultDerControl (dderc : DefaultDERControl)
  | derControlList (dercl : DERControlList)
  | derCurveList (curves : DERCurveList)
  | derList (derl : DERList)
  | mirrorUsagePointList (mupl : MirrorUsagePointList)
  deriving DecidableEq

end Sep2Bridge
