import Mathlib.Data.Finset.Union
import Sep2Bridge.Modbus.Metering
import Sep2Bridge.RescaleLaws

/-!
# The status of the device

`Status::from` and `TryFrom<ModbusStatus> for DERStatus`: the state, the connection and the alarms
of model 701 and the state of charge of model 713. The clock is read once for each of the four
instants of the report.

**Theorem (`stateOfCharge_law`).** The state of charge that is reported is the nearest hundredth of
a percent, up to 100 %: it never exceeds that, grows with the register, and is within half a
hundredth of what the device gives up to there.
-/

namespace Sep2Bridge.Modbus

open Lib ScaledValueInner

/-! ## Models 701 and 713 -/

inductive St
  | off | on | invalid (value : UInt16)
  deriving DecidableEq

inductive ConnSt
  | disconnected | connected | invalid (value : UInt16)
  deriving DecidableEq

/-- The flags of `Alrm`. -/
inductive AlrmFlag
  | dcOverVolt | manualShutdown | overFrequency | underFrequency | acOverVolt | acUnderVolt
  | overTemp | acDisconnect | dcDisconnect | gridDisconnect | cabinetOpen | groundFault
  | blownStringFuse | underTemp | memoryLoss | hwTestFailure | manufacturerAlrm | unknown
  deriving DecidableEq

abbrev Alrm := Finset AlrmFlag

/-- Model 701 as it is read: the readings, and the state of the device. -/
structure Model701State extends Model701 where
  st : Option St := none
  connSt : Option ConnSt := none
  alrm : Option Alrm := none

structure Model713 where
  soc : Option UInt16 := none
  pctSf : Option Int16 := none

structure Status where
  st : Option St
  connSt : Option ConnSt
  alrm : Option Alrm
  soc : Option (ScaledValue UInt16)
  deriving DecidableEq

/-- `Status::from`. -/
def Status.from (m701 : Option Model701State) (m713 : Option Model713) : Option Status :=
  if m701.isNone = true ∧ m713.isNone = true then none
  else
    some {
      st := m701.bind Model701State.st
      connSt := m701.bind Model701State.connSt
      alrm := m701.bind Model701State.alrm
      soc := m713.bind fun m713 => m713.soc.map fun soc => ⟨soc, m713.pctSf.getD 0⟩ }

/-! ## The report -/

inductive OperationalModeStatusValue
  | off | operational
  deriving DecidableEq

structure OperationalModeStatusType where
  dateTime : Int
  value : OperationalModeStatusValue
  deriving DecidableEq

/-- The flags of `ConnectStatusValue`: none of them, or `Connected`. -/
inductive ConnectStatusValue
  | empty | connected
  deriving DecidableEq

structure ConnectStatusType where
  dateTime : Int
  value : ConnectStatusValue
  deriving DecidableEq

/-- The flags of `DERAlarmStatus` that the bridge can set. -/
inductive DERFault
  | overVoltage | emergencyLocal | overFrequency | underFrequency | underVoltage
  deriving DecidableEq

abbrev DERAlarmStatus := Finset DERFault

structure StateOfChargeStatusType where
  dateTime : Int
  value : UInt16
  deriving DecidableEq

structure DERStatus where
  operationalModeStatus : Option OperationalModeStatusType
  genConnectStatus : Option ConnectStatusType
  storConnectStatus : Option ConnectStatusType
  alarmStatus : Option DERAlarmStatus
  stateOfChargeStatus : Option StateOfChargeStatusType
  readingTime : Int
  deriving DecidableEq

/-- The readings of the clock for a report, in the order in which they are taken. -/
structure StatusClock where
  connection : Int
  mode : Int
  charge : Int
  reading : Int

def St.tryConvert (now : Int) : St → Except TranslationError OperationalModeStatusType
  | .off => .ok ⟨now, .off⟩
  | .on => .ok ⟨now, .operational⟩
  | .invalid _ => .error .unmappableInvalid

def ConnSt.tryConvert (now : Int) : ConnSt → Except TranslationError ConnectStatusType
  | .disconnected => .ok ⟨now, .empty⟩
  | .connected => .ok ⟨now, .connected⟩
  | .invalid _ => .error .unmappableInvalid

/-- The alarm of SEP2 for a flag, if there is a matching one. -/
def AlrmFlag.fault : AlrmFlag → DERAlarmStatus
  | .dcOverVolt => {.overVoltage}
  | .manualShutdown => {.emergencyLocal}
  | .overFrequency => {.overFrequency}
  | .underFrequency => {.underFrequency}
  | .acOverVolt => {.overVoltage}
  | .acUnderVolt => {.underVoltage}
  | .overTemp | .acDisconnect | .dcDisconnect | .gridDisconnect | .cabinetOpen | .groundFault
  | .blownStringFuse | .underTemp | .memoryLoss | .hwTestFailure | .manufacturerAlrm
  | .unknown => ∅

instance : Convert Alrm DERAlarmStatus where
  convert alrm := alrm.biUnion AlrmFlag.fault

/-- `Percent::new`: hundredths of a percent, at most 100 %. -/
def percentNew (hundredths : UInt16) : Option UInt16 :=
  if hundredths.toNat ≤ 10000 then some hundredths else none

/-- The hundredths of a percent of a state of charge. -/
def stateOfCharge (soc : ScaledValue UInt16) : UInt16 :=
  (percentNew (soc.rescale sep2HundredthsSf).value).getD 10000

/-- `TryFrom<ModbusStatus> for DERStatus`. -/
def toDERStatus (clock : StatusClock) (status : Status) : Except NamedError DERStatus := do
  let connectStatus ← named "conn_st" (status.connSt.mapM (ConnSt.tryConvert clock.connection))
  let operationalModeStatus ←
    named "operational_mode_status" (status.st.mapM (St.tryConvert clock.mode))
  return {
    operationalModeStatus
    genConnectStatus := connectStatus
    storConnectStatus := connectStatus
    alarmStatus := status.alrm.map convert
    stateOfChargeStatus := status.soc.map fun soc => ⟨clock.charge, stateOfCharge soc⟩
    readingTime := clock.reading }

/-! ## The state of charge -/

section StateOfCharge

variable (soc : ScaledValue UInt16)

theorem toNat_stateOfCharge :
    (stateOfCharge soc).toNat = min 10000 (soc.rescale sep2HundredthsSf).value.toNat := by
  unfold stateOfCharge percentNew
  by_cases h : (soc.rescale sep2HundredthsSf).value.toNat ≤ 10000
  · rw [if_pos h, Option.getD_some, min_eq_right h]
  · rw [if_neg h, Option.getD_none, min_eq_left (by omega)]
    rfl

/-- The hundredths before they are capped at 100 %. -/
theorem toNat_rescale : ((soc.rescale sep2HundredthsSf).value.toNat : ℤ) =
    clampTo UInt16 (roundHalfAway (100 * soc.toRat)) := by
  have hscale : (toInt soc.value : ℚ) * powTen soc.sf sep2HundredthsSf = 100 * soc.toRat := by
    have hsf : sep2HundredthsSf.toInt = -2 := rfl
    rw [ScaledValue.toRat, powTen, hsf, sub_neg_eq_add, zpow_add₀ (by norm_num)]
    norm_num
    ring
  rw [← hscale]
  exact soc.toInt_value_rescale sep2HundredthsSf

theorem toRat_nonneg : 0 ≤ soc.toRat := by
  have hvalue : (0 : ℤ) ≤ toInt soc.value := Int.natCast_nonneg _
  exact mul_nonneg (Int.cast_nonneg hvalue) (zpow_nonneg (by norm_num) _)

theorem clampTo_uInt16 (x : ℤ) : clampTo UInt16 x = max 0 (min 65535 x) := rfl

/-- Up to 100 % it is the nearest hundredth. -/
theorem stateOfCharge_of_le (h : soc.toRat ≤ 100) :
    ((stateOfCharge soc).toNat : ℤ) = roundHalfAway (100 * soc.toRat) := by
  have hlo : 0 ≤ roundHalfAway (100 * soc.toRat) :=
    roundHalfAway_nonneg (mul_nonneg (by norm_num) (toRat_nonneg soc))
  have hhi : roundHalfAway (100 * soc.toRat) ≤ roundHalfAway ((10000 : ℤ) : ℚ) :=
    roundHalfAway_mono (by push_cast; linarith)
  rw [roundHalfAway_intCast] at hhi
  have hrescale := toNat_rescale soc
  have hcapped := toNat_stateOfCharge soc
  rw [clampTo_uInt16] at hrescale
  omega

theorem stateOfCharge_of_lt (h : 100 < soc.toRat) : stateOfCharge soc = 10000 := by
  have hlo : roundHalfAway ((10000 : ℤ) : ℚ) ≤ roundHalfAway (100 * soc.toRat) :=
    roundHalfAway_mono (by push_cast; linarith)
  rw [roundHalfAway_intCast] at hlo
  have hrescale := toNat_rescale soc
  have hcapped := toNat_stateOfCharge soc
  rw [clampTo_uInt16] at hrescale
  have hmax : (stateOfCharge soc).toNat = 10000 := by omega
  exact UInt16.toNat_inj.1 hmax

end StateOfCharge

/-- **The state of charge.** -/
theorem stateOfCharge_law (sf : Int16) :
    (∀ raw : UInt16, (stateOfCharge ⟨raw, sf⟩).toNat ≤ 10000) ∧
    (∀ raw raw' : UInt16, raw ≤ raw' →
      stateOfCharge ⟨raw, sf⟩ ≤ stateOfCharge ⟨raw', sf⟩) ∧
    ∀ raw : UInt16,
      let soc : ScaledValue UInt16 := ⟨raw, sf⟩
      if soc.toRat ≤ 100 then |((stateOfCharge soc).toNat / 100 : ℚ) - soc.toRat| ≤ 1 / 200
      else stateOfCharge soc = 10000 := by
  refine ⟨fun raw => ?_, fun raw raw' hle => ?_, fun raw => ?_⟩
  · rw [toNat_stateOfCharge]
    exact min_le_left _ _
  · have hvalue : toInt raw ≤ toInt raw' := Int.ofNat_le.2 (UInt16.le_iff_toNat_le.1 hle)
    have hmono : ((ScaledValue.mk raw sf).rescale sep2HundredthsSf).value.toNat ≤
        ((ScaledValue.mk raw' sf).rescale sep2HundredthsSf).value.toNat :=
      Int.ofNat_le.1 (ScaledValue.rescale_monotone sf sep2HundredthsSf hvalue)
    rw [UInt16.le_iff_toNat_le, toNat_stateOfCharge, toNat_stateOfCharge]
    exact min_le_min_left _ hmono
  · intro soc
    split_ifs with h
    · have hnearest := abs_roundHalfAway_sub_le (100 * soc.toRat)
      have hvalue : ((stateOfCharge soc).toNat : ℚ) = roundHalfAway (100 * soc.toRat) := by
        exact_mod_cast stateOfCharge_of_le soc h
      rw [← hvalue, abs_le] at hnearest
      rw [abs_le]
      constructor <;> linarith [hnearest.1, hnearest.2]
    · exact stateOfCharge_of_lt soc (not_le.1 h)

end Sep2Bridge.Modbus
