import Sep2Bridge.Lib.Interaction
import Sep2Bridge.Scheduler.Event

/-!
# What the connection task says and hears

The commands of `sep2_connection::task`, the resources it fetches, the documents it sends, and
`Query`: everything the task awaits, with the type of the answer. The server, the clock, the two
channels and the identifiers of `mrid_gen` answer as they like.

The three reports about the device (`DERSettings`, `DERStatus`, `DERCapability`) are only stored,
compared and passed on here, so their types are parameters.
-/

namespace Sep2Bridge.Connection

/-- The types of the reports about the device. -/
structure Reports where
  DERSettings : Type
  DERStatus : Type
  DERCapability : Type

/-- `ControlResponse`: a change of a control's status, to be answered at an address. -/
structure ControlResponse where
  subject : MRIDType
  status : ResponseStatus
  replyTo : String
  time : Int
  deriving DecidableEq

/-- `Command`. -/
inductive Command (R : Reports)
  | sendDeviceStatus (status : R.DERStatus)
  | sendDeviceCapability (capabilities : R.DERCapability)
  | sendDeviceSettings (settings : R.DERSettings)
  | sendControlResponse (response : ControlResponse)
  | sendMeterReadings (readings : List MirrorMeterReading)
  | updatePostRates (postRates : PostRates)
  | resetConnection
  | wake
  | subscribeToResource (href : String) (kind : ResourceKind) (pollRate : Option UInt32)
  | unsubscribeFromResource (href : String)

namespace Command

variable {R : Reports}

/-- `is_wake_command`. -/
def isWakeCommand : Command R → Bool
  | wake | resetConnection => true
  | _ => false

/-- The commands that only change what is polled. -/
def isSubscription : Command R → Bool
  | subscribeToResource .. | unsubscribeFromResource _ => true
  | _ => false

end Command

/-- The result of a request of the client, with the text of its error. -/
abbrev ClientResult (α : Type) := Except String α

/-- The answers to a POST or a PUT the task tells apart. -/
inductive SEPResponse
  | created (location : Option String)
  | other
  deriving DecidableEq

/-- The resources the task fetches. -/
inductive Resource
  | deviceCapability | endDeviceList | endDevice | registration | derList | mirrorUsagePointList
  | time | functionSetAssignmentsList | derProgramList | derControlList | defaultDerControl
  | derCurveList
  deriving DecidableEq

/-- What a resource decodes to. -/
def Resource.Body : Resource → Type
  | deviceCapability => DeviceCapability
  | endDeviceList => EndDeviceList
  | endDevice => EndDevice
  | registration => Registration
  | derList => DERList
  | mirrorUsagePointList => MirrorUsagePointList
  | time => Time
  | functionSetAssignmentsList => FunctionSetAssignmentsList
  | derProgramList => DERProgramList
  | derControlList => DERControlList
  | defaultDerControl => DefaultDERControl
  | derCurveList => DERCurveList

structure DERControlResponse where
  createdDateTime : Option Int
  endDeviceLfdi : HexBinary160
  status : Option ResponseStatus
  subject : MRIDType
  deriving DecidableEq

/-- What the task sends to the server. -/
inductive Document (R : Reports)
  | endDevice (edev : EndDevice)
  | derControlResponse (response : DERControlResponse)
  | derSettings (settings : R.DERSettings)
  | derStatus (status : R.DERStatus)
  | derCapability (capabilities : R.DERCapability)
  | mirrorMeterReading (reading : MirrorMeterReading)
  | mirrorUsagePoint (mup : MirrorUsagePoint)

/-- Control responses, settings, status, capabilities and readings: all but the registration of the
device. A new `MirrorUsagePoint` carries a reading. -/
def Document.isReport {R : Reports} : Document R → Bool
  | endDevice _ => false
  | _ => true

/-- What the task awaits. Instants are in nanoseconds. -/
inductive Query (R : Reports)
  | recv
  | broadcast (resource : Sep2ResourceEvent)
  | get (resource : Resource) (href : String)
  | put (href : String) (document : Document R)
  | post (href : String) (document : Document R)
  /-- A POST under `HTTP_TIMEOUT`. -/
  | postTimeout (href : String) (document : Document R)
  | startPoll (resource : Resource) (href : String) (pollRate : UInt32)
  | updatePollRate (handle : Nat) (pollRate : UInt32)
  | cancel (handle : Nat)
  | instantNow
  | mridGen

namespace Query

variable {R : Reports}

/-- `recv` is answered with a command, or `none` when the channel is closed; `broadcast` with
whether the channel is open; `postTimeout` with `none` when the time is up; `startPoll` with a
handle. -/
def Answer : Query R → Type
  | recv => Option (Command R)
  | broadcast _ => Bool
  | get resource _ => ClientResult resource.Body
  | put .. | post .. => ClientResult SEPResponse
  | postTimeout .. => Option (ClientResult SEPResponse)
  | startPoll .. => Nat
  | updatePollRate .. | cancel _ => Unit
  | instantNow => Nat
  | mridGen => MRIDType

/-- The document sent, if it is one. -/
def document? : Query R → Option (Document R)
  | put _ document | post _ document | postTimeout _ document => some document
  | _ => none

/-- The query sends a report to the server. -/
def sendsReport (q : Query R) : Bool := q.document?.any Document.isReport

/-- The query asks for the resource at some address. -/
def gets (resource : Resource) : Query R → Bool
  | get resource' _ => resource' = resource
  | _ => false

/-- The query goes to the server. -/
def isRequest : Query R → Bool
  | get .. | put .. | post .. | postTimeout .. => true
  | _ => false

def isRecv : Query R → Bool
  | recv => true
  | _ => false

end Query

end Sep2Bridge.Connection
