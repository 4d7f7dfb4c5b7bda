import Sep2Bridge.Connection.Messages
import Sep2Bridge.Modbus.Capabilities
import Sep2Bridge.Modbus.EnterService
import Sep2Bridge.Modbus.Status
import Sep2Bridge.Modbus.Task

/-!
# The dispatchers between the tasks

What each message of one task becomes for the next.
-/

namespace Sep2Bridge

open Connection

/-- `sep2_subscription_and_notification_dispatcher`: the command for the connection task, at the
time `now`. -/
def sep2SubscriptionAndNotificationDispatcher {R : Reports} (now : Int) :
    Event → Option (Command R)
  | .linkAddedOrUpdated href kind pollRate => some (.subscribeToResource href kind pollRate)
  | .linkRemoved href _ => some (.unsubscribeFromResource href)
  | .derControlStatusChanged subject status replyTo =>
    some (.sendControlResponse ⟨subject, status, replyTo, now⟩)
  | .postRatesChanged postRates => some (.updatePostRates postRates)
  | .parametersChanged _ => none

open Modbus

/-- `control_change_dispatcher`: the parameters for the modbus task. Controls that do not translate
are logged, and the device keeps what it was sent before. -/
def controlChangeDispatcher (mapSiteLimits : Bool) : Event → Option Parameters
  | .parametersChanged attrs => (toParameters mapSiteLimits attrs).toOption
  | .linkAddedOrUpdated .. | .linkRemoved .. | .derControlStatusChanged .. | .postRatesChanged _ =>
    none

/-- What a poll of the device gives: its status, its settings and its metering. -/
abbrev DeviceState := Option Status × Option Settings × Option Metering

/-- `poll_device_state`, from the models that the device has. -/
def pollDeviceState (m701 : Option Model701State) (m703 : Option Model703)
    (m713 : Option Model713) : DeviceState :=
  (Status.from m701 m713, Settings.from m703,
    Metering.ofModel701 (m701.map Model701State.toModel701))

/-- The reports that the bridge makes of what it polls. -/
abbrev deviceReports : Reports := ⟨DERSettings, DERStatus, DERCapability⟩

/-- The readings of the clock for the reports of a state, in the order in which they are taken. -/
structure ReportClock where
  status : StatusClock
  settings : Int
  metering : Int

/-- A report that translates is passed along. What does not is logged. -/
def sendTranslated {α : Type} (command : α → Command deviceReports)
    (report : Option (Except NamedError α)) : List (Command deviceReports) :=
  (report.bind Except.toOption).toList.map command

/-- `sep2_device_state_dispatcher`: the commands for the connection task. Nothing is to be done when
a device reconnects. -/
def sep2DeviceStateDispatcher {M : Type} (clock : ReportClock) :
    Modbus.Event M Capabilities DeviceState → List (Command deviceReports)
  | .capabilitiesPolled cap => sendTranslated .sendDeviceCapability (some (toDERCapability cap))
  | .statePolled (status, settings, metering) =>
    sendTranslated .sendDeviceStatus (status.map (toDERStatus clock.status)) ++
    sendTranslated .sendDeviceSettings (settings.map (Settings.toDERSettings clock.settings)) ++
    sendTranslated .sendMeterReadings
      (metering.map fun metering => toMirrorMeterReadings metering clock.metering)
  | .deviceConnected _ => []

end Sep2Bridge
