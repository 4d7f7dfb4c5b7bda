import Sep2Bridge.Connection.Messages
import Sep2Bridge.Lib.HashMap

/-!
# The SEP2 connection loop

`sep2_connection::task`, function by function. `iteration` is one turn of its loop. The early
`continue`s are `throw .again`, which keeps the local variables as they are at that point.

The retry task and the dcap poll only send commands back to the loop (`wake`, `resetConnection`),
so of each the model keeps whether it runs: any command may arrive at any time.
-/

namespace Sep2Bridge.Connection

open Lib

/-- The errors a lookup can end with. -/
inductive Error
  | channelClosed
  | invalidInput (message : String)
  | unexpectedDevice
  | itemDetailsUnknown
  | serverRejected
  deriving DecidableEq

/-- How a turn of the loop can end early. -/
inductive Exit
  | again
  | stop
  | error (error : Error)
  deriving DecidableEq

structure SEDevice where
  lfdi : HexBinary160
  edev : EndDevice

/-- `Sep2ConnectionArgs`. -/
structure Args where
  dcapUri : String
  maxListSize : UInt32
  defaultPollRate : UInt32
  deviceToRegister : SEDevice
  expectedPin : Option PINType

structure EstablishedPoll where
  handle : Nat
  pollRate : UInt32

/-- What readings are told apart by: the unit, the phase and the power of ten. -/
structure CacheKey where
  uom : UomType
  phase : Option PhaseCode
  powerOfTenMultiplier : PowerOfTenMultiplierType
  deriving DecidableEq

def secs (n : Nat) : Nat := n * 1000000000

/-- `POST_RATE_GENERIC`. -/
def postRateGeneric : Nat := secs 300

/-- `POST_RATE_CAPABILITIES`. -/
def postRateCapabilities : Nat := secs (24 * 60 * 60)

/-- `MAX_RESPONSE_QUEUE_SIZE`. -/
def maxResponseQueueSize : Nat := 30

/-- The local variables of the loop. -/
structure Loop (R : Reports) where
  dcapOption : Option DeviceCapability := none
  serverDevice : Option EndDevice := none
  serverRegistrationInfo : Option Registration := none
  derOption : Option DER := none
  postRateDer : Nat := postRateGeneric
  postRateMup : Nat := postRateGeneric
  /-- Newer responses are at the back. -/
  controlResponseQueue : List ControlResponse := []
  latestDeviceSettings : Option R.DERSettings := none
  lastSentDeviceSettings : Option Nat := none
  latestDeviceStatus : Option R.DERStatus := none
  lastSentDeviceStatus : Option Nat := none
  deviceCapabilities : Option R.DERCapability := none
  lastSentDeviceCapabilities : Option Nat := none
  latestMeterReadings : Option (List MirrorMeterReading) := none
  lastSentMeterReadings : Option Nat := none
  mirrorUsagePoint : Option String := none
  readingMridCache : HashMap CacheKey MRIDType := ∅
  /-- Whether a retry task runs. -/
  retryHandle : Bool := false
  retryRequested : Bool := false
  establishedPolls : HashMap String EstablishedPoll := ∅
  /-- The dcap that the dcap poll compares with, while one runs. -/
  dcapPollHandle : Option DeviceCapability := none

abbrev Task (R : Reports) := Proc (Query R) Query.Answer (Loop R) Exit

/-- Something the task awaited, with its local variables and the answer. -/
abbrev Moment (R : Reports) := Entry (Loop R) (Query R) Query.Answer

variable {R : Reports}

abbrev ask (q : Query R) : Task R q.Answer := Proc.ask q

def fetch (resource : Resource) (href : String) : Task R (ClientResult resource.Body) :=
  ask (.get resource href)

def put (href : String) (document : Document R) : Task R (ClientResult SEPResponse) :=
  ask (.put href document)

def post (href : String) (document : Document R) : Task R (ClientResult SEPResponse) :=
  ask (.post href document)

def broadcast (resource : Sep2ResourceEvent) : Task R Bool := ask (.broadcast resource)

def instantNow : Task R Nat := ask .instantNow

def mridGen : Task R MRIDType := ask .mridGen

def updatePollRate (handle : Nat) (pollRate : UInt32) : Task R Unit :=
  ask (.updatePollRate handle pollRate)

def cancel (handle : Nat) : Task R Unit := ask (.cancel handle)

def paginatedUri (uri : String) (maxListSize : UInt32) : String :=
  uri ++ "?l=" ++ toString maxListSize.toNat

/-! ## Polls -/

/-- What a kind is polled as, and the event each response is broadcast as. The kinds without an
answer are obtained by a list subscription instead. -/
def pollOf : ResourceKind → Option ((resource : Resource) × (resource.Body → Sep2ResourceEvent))
  | .time => some ⟨.time, .time⟩
  | .endDeviceList => some ⟨.endDeviceList, .endDeviceList⟩
  | .functionSetAssignmentsList =>
    some ⟨.functionSetAssignmentsList, .functionSetAssignmentsList⟩
  | .derProgramList => some ⟨.derProgramList, .derProgramList⟩
  | .derControlList => some ⟨.derControlList, .derControlList⟩
  | .defaultDerControl => some ⟨.defaultDerControl, .defaultDerControl⟩
  | .derCurveList => some ⟨.derCurveList, .derCurveList⟩
  | .derList => some ⟨.derList, .derList⟩
  | .mirrorUsagePointList => some ⟨.mirrorUsagePointList, .mirrorUsagePointList⟩
  | .endDevice | .functionSetAssignments | .derProgram | .derControl | .derCurve => none

/-- Lists add pagination options. -/
def kindHref (kind : ResourceKind) (href : String) (maxListSize : UInt32) : String :=
  match kind with
  | .time | .defaultDerControl | .derProgram | .derControl | .derCurve | .endDevice
  | .functionSetAssignments => href
  | .endDeviceList | .functionSetAssignmentsList | .derProgramList | .derCurveList
  | .derControlList | .derList | .mirrorUsagePointList => paginatedUri href maxListSize

/-- The result of the broadcast is ignored. -/
def pollCallback (resource : Sep2ResourceEvent) : Task R Unit := do
  let _ ← broadcast resource

/-- Get the resource immediately instead of waiting for the first poll event. -/
def getThenPoll (resource : Resource) (callback : resource.Body → Sep2ResourceEvent)
    (href : String) (pollRate : UInt32) : Task R Nat := do
  match ← fetch resource href with
  | .ok output => pollCallback (callback output)
  | .error _ => pure ()
  ask (.startPoll resource href pollRate)

def startPollFor (kind : ResourceKind) (href : String) (pollRate maxListSize : UInt32) :
    Task R (Option EstablishedPoll) :=
  match pollOf kind with
  | some ⟨resource, callback⟩ => do
    let handle ← getThenPoll resource callback (kindHref kind href maxListSize) pollRate
    return some ⟨handle, pollRate⟩
  | none => return none

def establish (href : String) (poll : EstablishedPoll) : Task R Unit :=
  modify fun s => { s with establishedPolls := s.establishedPolls.insert href poll }

def subscribeToResource (args : Args) (href : String) (kind : ResourceKind)
    (pollRate : Option UInt32) : Task R Unit := do
  let pollRate := pollRate.getD args.defaultPollRate
  match (← get).establishedPolls.get? href with
  | some establishedPoll =>
    if establishedPoll.pollRate ≠ pollRate then
      updatePollRate establishedPoll.handle pollRate
      establish href { establishedPoll with pollRate }
    else pure ()
  | none =>
    match ← startPollFor kind href pollRate args.maxListSize with
    | some poll => establish href poll
    | none => pure ()

def unsubscribeFromResource (href : String) : Task R Unit := do
  match (← get).establishedPolls.get? href with
  | some establishedPoll =>
    modify fun s =>
      { s with establishedPolls := s.establishedPolls.retain fun href' _ => href' ≠ href }
    cancel establishedPoll.handle
  | none => pure ()

/-! ## Commands -/

/-- Drop the oldest responses `while control_response_queue.len() >= MAX_RESPONSE_QUEUE_SIZE`. -/
def limitQueue (queue : List ControlResponse) : List ControlResponse :=
  queue.drop (queue.length + 1 - maxResponseQueueSize)

def toDuration (rate : Option UInt32) : Nat :=
  match rate with
  | none => postRateGeneric
  | some rate => secs rate.toNat

namespace Loop

/-- Clear out anything known from the last dcap. -/
def resetConnection (s : Loop R) : Loop R :=
  { s with
    dcapOption := none
    serverDevice := none
    serverRegistrationInfo := none
    derOption := none
    mirrorUsagePoint := none
    readingMridCache := ∅
    lastSentDeviceSettings := none
    lastSentDeviceStatus := none
    lastSentDeviceCapabilities := none
    lastSentMeterReadings := none }

/-- Take in a command that is not about polls. -/
def take [DecidableEq R.DERCapability] (s : Loop R) : Command R → Loop R
  | .sendDeviceSettings settings => { s with latestDeviceSettings := some settings }
  | .sendDeviceCapability capabilities =>
    if some capabilities ≠ s.deviceCapabilities then
      { s with deviceCapabilities := some capabilities, lastSentDeviceCapabilities := none }
    else s
  | .sendDeviceStatus status => { s with latestDeviceStatus := some status }
  | .sendMeterReadings readings => { s with latestMeterReadings := some readings }
  | .sendControlResponse response =>
    { s with controlResponseQueue := limitQueue (s.controlResponseQueue ++ [response]) }
  | .updatePostRates postRates =>
    { s with
      postRateDer := toDuration postRates.der
      postRateMup := toDuration postRates.mirrorUsagePoint }
  | .resetConnection => s.resetConnection
  | .wake | .subscribeToResource .. | .unsubscribeFromResource _ => s

end Loop

/-- A change of what is polled does not fall through to the sending. -/
def handle [DecidableEq R.DERCapability] (args : Args) : Command R → Task R Unit
  | .subscribeToResource href kind pollRate => do
    subscribeToResource args href kind pollRate
    throw .again
  | .unsubscribeFromResource href => do
    unsubscribeFromResource href
    throw .again
  | command => modify (·.take command)

def recv : Task R (Command R) := do
  match ← ask .recv with
  | some command => return command
  | none => throw .stop

/-- While a retry task is running, only a wake command goes on to the sending. -/
def awaitRetry (command : Command R) : Task R Unit := do
  if (← get).retryHandle ∧ ¬ command.isWakeCommand then throw .again else pure ()

/-! ## Connecting -/

/-- What is only looked up once. -/
def lookupIfNone {α : Type} (resource : Loop R → Option α) (lookup : Task R Unit) :
    Task R Unit := do
  if (resource (← get)).isNone then lookup else pure ()

/-- Go on with what was looked up, if it was found. -/
def require {α : Type} (resource : Loop R → Option α) : Task R α := do
  match resource (← get) with
  | some found => return found
  | none => throw .again

def getDcap (args : Args) : Task R (Option DeviceCapability) := do
  match ← fetch .deviceCapability args.dcapUri with
  | .ok response => return some response
  | .error _ => return none

/-- Share a new dcap with the scheduler and watch it. -/
def announceDcap (dcap : DeviceCapability) : Task R Unit := do
  if ← broadcast (.deviceCapability dcap) then
    modify fun s => { s with dcapPollHandle := some dcap }
  else throw (.error .channelClosed)

def refetchDcap (args : Args) : Task R Unit := do
  modify fun s => { s with dcapPollHandle := none }
  let dcapOption ← getDcap args
  modify fun s => { s with dcapOption }
  match dcapOption with
  | some dcap => announceDcap dcap
  | none => pure ()

def ensureDcap (args : Args) : Task R DeviceCapability := do
  lookupIfNone Loop.dcapOption (refetchDcap args)
  require Loop.dcapOption

/-- Without the appropriate link the dcap endpoint is fetched again. -/
def edevLink (dcap : DeviceCapability) : Task R Link :=
  match dcap.endDeviceListLink with
  | some link => return link
  | none => do
    modify fun s => { s with dcapOption := none }
    throw .again

def registerNewDevice (edevLink : String) (deviceInfo : SEDevice) :
    Task R (Except Error EndDevice) := do
  match ← post edevLink (.endDevice deviceInfo.edev) with
  | .error _ => return .error .itemDetailsUnknown
  | .ok (.created none) =>
    return .error (.invalidInput "Expected a valid href for the newly registered device")
  | .ok (.created (some loc)) =>
    match ← fetch .endDevice loc with
    | .ok device => return .ok device
    | .error _ => return .error .itemDetailsUnknown
  | .ok .other => return .error .serverRejected

/-- Our own entry of the server's list, registered if the list is empty. -/
def ensureDeviceRegistered (args : Args) (edevUri : String) : Task R (Option EndDevice) := do
  match ← fetch .endDeviceList (paginatedUri edevUri args.maxListSize) with
  | .error _ => return none
  | .ok edevResponse =>
    if edevResponse.all = 0 then
      match ← registerNewDevice edevUri args.deviceToRegister with
      | .ok device => return some device
      | .error _ => return none
    else if edevResponse.all = 1 then
      match edevResponse.endDevice with
      | [] => throw (.error (.invalidInput "EndDeviceList is missing an item"))
      | device :: _ =>
        if device.lfdi ≠ some args.deviceToRegister.lfdi then throw (.error .unexpectedDevice)
        else return some device
    else throw (.error .unexpectedDevice)

def lookupServerDevice (args : Args) (edevUri : String) : Task R Unit := do
  let serverDevice ← ensureDeviceRegistered args edevUri
  modify fun s => { s with serverDevice }

def ensureServerDevice (args : Args) (edevUri : String) : Task R EndDevice := do
  lookupIfNone Loop.serverDevice (lookupServerDevice args edevUri)
  require Loop.serverDevice

/-- Fetch the registration, keep it, and compare the PIN. -/
def validatePin (regLink : Link) (expectedPin : PINType) : Task R Unit := do
  match ← fetch .registration regLink.href with
  | .ok regInfo =>
    modify fun s => { s with serverRegistrationInfo := some regInfo }
    if expectedPin ≠ regInfo.pin then throw .again else pure ()
  | .error _ => throw .again

/-- The PIN is validated when there is a registration link, the client was started with a PIN,
and no registration is kept from before. -/
def checkRegistration (args : Args) (serverDevice : EndDevice) : Task R Unit := do
  match (← get).serverRegistrationInfo, serverDevice.registrationLink, args.expectedPin with
  | none, some regLink, some expectedPin => validatePin regLink expectedPin
  | _, _, _ => pure ()

/-- The dcap and our entry on the server. -/
def findDevice (args : Args) : Task R (DeviceCapability × EndDevice) := do
  let dcap ← ensureDcap args
  let link ← edevLink dcap
  let serverDevice ← ensureServerDevice args link.href
  return (dcap, serverDevice)

/-- What is needed before anything is sent. -/
def connect (args : Args) : Task R (DeviceCapability × EndDevice) := do
  let found ← findDevice args
  checkRegistration args found.2
  return found

/-! ## Control responses -/

/-- The part begins at some position of the text. -/
def occursIn (part : List Char) : List Char → Bool
  | [] => part.isEmpty
  | c :: text => part.isPrefixOf (c :: text) || occursIn part text

def contains (text part : String) : Bool := occursIn part.toList text.toList

/-- A refused connection or a 429 should be retried. -/
def isFailureRetriable (err : String) : Bool :=
  contains err "Connection refused" ||
    (contains err "Unexpected HTTP response" && contains err "429")

def isRetryable : Option (ClientResult SEPResponse) → Bool
  | none => true
  | some (.ok _) => false
  | some (.error err) => isFailureRetriable err

def responsePayload (args : Args) (response : ControlResponse) : DERControlResponse where
  createdDateTime := some response.time
  endDeviceLfdi := args.deviceToRegister.lfdi
  status := some response.status
  subject := response.subject

def postTimeout (href : String) (document : Document R) :
    Task R (Option (ClientResult SEPResponse)) := ask (.postTimeout href document)

def setQueue (controlResponseQueue : List ControlResponse) : Task R Unit :=
  modify fun s => { s with controlResponseQueue }

/-- Send the queued responses from the front. Returns true if a retry is requested: the response
is then back at the front. -/
def sendControlResponses (args : Args) : List ControlResponse → Task R Bool
  | [] => return false
  | response :: queue => do
    setQueue queue
    let result ← postTimeout response.replyTo (.derControlResponse (responsePayload args response))
    if isRetryable result then
      setQueue (response :: queue)
      return true
    else sendControlResponses args queue

/-! ## Reports -/

def lookupDer (args : Args) (endDevice : EndDevice) : Task R (Option DER) :=
  match endDevice.derListLink with
  | none => return none
  | some derlLink => do
    match ← fetch .derList (paginatedUri derlLink.href args.maxListSize) with
    | .error _ => return none
    | .ok derlResponse =>
      match derlResponse.der with
      | [der] => return some der
      | _ => return none

def storeDer (args : Args) (serverDevice : EndDevice) : Task R Unit := do
  let derOption ← lookupDer args serverDevice
  modify fun s => { s with derOption }

def ensureDer (args : Args) (serverDevice : EndDevice) : Task R DER := do
  lookupIfNone Loop.derOption (storeDer args serverDevice)
  require Loop.derOption

/-- Nothing was sent yet, or more than the post rate ago. -/
def isDue (lastSent : Option Nat) (postRate : Nat) : Task R Bool :=
  match lastSent with
  | none => return true
  | some time => do
    let now ← instantNow
    return decide (now - time > postRate)

/-- Send a report, if one is due and there is a valid link. On success `sent` records it. -/
def sendReport (lastSent : Option Nat) (postRate : Nat) (report : Option (Document R))
    (link : Option Link) (sent : Nat → Loop R → Loop R) : Task R Unit := do
  if ← isDue lastSent postRate then
    match report, link with
    | some report, some link =>
      match ← put link.href report with
      | .ok _ =>
        let now ← instantNow
        modify (sent now)
      | .error _ => throw .again
    | _, _ => pure ()
  else pure ()

def sendDeviceSettings (der : DER) : Task R Unit := do
  let s ← get
  sendReport s.lastSentDeviceSettings s.postRateDer (s.latestDeviceSettings.map .derSettings)
    der.derSettingsLink fun now s =>
      { s with latestDeviceSettings := none, lastSentDeviceSettings := some now }

def sendDeviceStatus (der : DER) : Task R Unit := do
  let s ← get
  sendReport s.lastSentDeviceStatus s.postRateDer (s.latestDeviceStatus.map .derStatus)
    der.derStatusLink fun now s =>
      { s with latestDeviceStatus := none, lastSentDeviceStatus := some now }

/-- Capabilities are kept after they are sent. -/
def sendDeviceCapabilities (der : DER) : Task R Unit := do
  let s ← get
  sendReport s.lastSentDeviceCapabilities postRateCapabilities
    (s.deviceCapabilities.map .derCapability) der.derCapabilityLink fun now s =>
      { s with lastSentDeviceCapabilities := some now }

/-! ## Meter readings -/

/-- A reading without a type or a unit has no key. -/
def readingKey (reading : MirrorMeterReading) : Option CacheKey :=
  reading.readingType.bind fun readingType =>
    readingType.uom.map fun uom =>
      ⟨uom, readingType.phase, readingType.powerOfTenMultiplier.getD .none⟩

def lookupMup (args : Args) (muplHref : String) : Task R (Option MirrorUsagePoint) := do
  match ← fetch .mirrorUsagePointList (paginatedUri muplHref args.maxListSize) with
  | .ok mupl =>
    return mupl.mirrorUsagePoint.find? fun mup => mup.deviceLfdi = args.deviceToRegister.lfdi
  | .error _ => return none

def registerMup (args : Args) (muplHref : String) (reading : MirrorMeterReading) :
    Task R (Option String) := do
  let mrid ← mridGen
  let mup : MirrorUsagePoint :=
    { mrid
      deviceLfdi := args.deviceToRegister.lfdi
      status := .on
      mirrorMeterReading := [reading] }
  match ← post muplHref (.mirrorUsagePoint mup) with
  | .ok (.created (some location)) => return some location
  | .ok _ | .error _ => return none

/-- Look up the `MirrorUsagePoint` or create it. Either way the reading is sent. -/
def ensureMup (args : Args) (muplHref : String) (reading : MirrorMeterReading) :
    Task R (Option String) := do
  match ← lookupMup args muplHref with
  | some mup =>
    match mup.href with
    | none => return none
    | some href =>
      match ← post href (.mirrorMeterReading reading) with
      | .ok _ => return some href
      | .error _ => return none
  | none => registerMup args muplHref reading

/-- The mRIDs of the readings the server already has. A later reading of the same key wins. -/
def mridsOf (mup : MirrorUsagePoint) : HashMap CacheKey MRIDType :=
  (mup.mirrorMeterReading.filterMap fun reading =>
    (readingKey reading).map fun key => (key, reading.mrid)).foldl
      (fun cache entry => cache.insert entry.1 entry.2) ∅

def initialiseReadingMridCache (args : Args) (dcap : DeviceCapability) :
    Task R (HashMap CacheKey MRIDType) :=
  match dcap.mirrorUsagePointListLink with
  | none => return ∅
  | some muplLink => do
    match ← lookupMup args muplLink.href with
    | some mup => return mridsOf mup
    | none => return ∅

def setCache (readingMridCache : HashMap CacheKey MRIDType) : Task R Unit :=
  modify fun s => { s with readingMridCache }

/-- The mRID of a key from the cache, or a fresh one that goes into it. -/
def cachedMrid (key : CacheKey) : Task R MRIDType := do
  match (← get).readingMridCache.get? key with
  | some mrid => return mrid
  | none =>
    let mrid ← mridGen
    modify fun s => { s with readingMridCache := s.readingMridCache.insert key mrid }
    return mrid

/-- Send one reading. Returns true if a retry is required. -/
def sendReading (args : Args) (dcap : DeviceCapability) (reading : MirrorMeterReading) :
    Task R Bool := do
  match (← get).mirrorUsagePoint with
  | some mup =>
    match ← post mup (.mirrorMeterReading reading) with
    | .ok _ => return false
    | .error _ => return true
  | none =>
    match dcap.mirrorUsagePointListLink with
    | none => return true
    | some muplLink =>
      let mirrorUsagePoint ← ensureMup args muplLink.href reading
      modify fun s => { s with mirrorUsagePoint }
      return mirrorUsagePoint.isNone

/-- Send the readings in order, up to the first that fails. One without a key is discarded. -/
def sendReadings (args : Args) (dcap : DeviceCapability) : List MirrorMeterReading → Task R Bool
  | [] => return false
  | reading :: readings =>
    match readingKey reading with
    | none => sendReadings args dcap readings
    | some key => do
      let mrid ← cachedMrid key
      if ← sendReading args dcap { reading with mrid } then return true
      else sendReadings args dcap readings

def fillCache (args : Args) (dcap : DeviceCapability) : Task R Unit := do
  if (← get).readingMridCache.entries.isEmpty then
    setCache (← initialiseReadingMridCache args dcap)
  else pure ()

def sendMeterReadings (args : Args) (dcap : DeviceCapability)
    (readings : List MirrorMeterReading) : Task R Bool := do
  fillCache args dcap
  sendReadings args dcap readings

/-- Send the latest readings, if they are due, and forget them if that succeeds. -/
def sendLatestMeterReadings (args : Args) (dcap : DeviceCapability) : Task R Unit := do
  let s ← get
  match s.latestMeterReadings with
  | none => pure ()
  | some readings =>
    if ← isDue s.lastSentMeterReadings s.postRateMup then
      if ← sendMeterReadings args dcap readings then throw .again
      else
        let now ← instantNow
        modify fun s =>
          { s with lastSentMeterReadings := some now, latestMeterReadings := none }
    else pure ()

/-! ## The loop -/

/-- Send whatever is queued or due, up to the first failure. -/
def deliver (args : Args) (dcap : DeviceCapability) (serverDevice : EndDevice) : Task R Unit := do
  if ← sendControlResponses args (← get).controlResponseQueue then throw .again
  else
    let der ← ensureDer args serverDevice
    sendDeviceSettings der
    sendDeviceStatus der
    sendDeviceCapabilities der
    sendLatestMeterReadings args dcap

/-- Spawn a retry task if one is needed and none runs, or stop the one that runs. -/
def manageRetryTask : Task R Unit :=
  modify fun s => { s with retryHandle := s.retryRequested }

/-- A retry is requested before the attempt, and not needed after it. -/
def attempt (args : Args) : Task R Unit := do
  modify fun s => { s with retryRequested := true }
  let found ← connect args
  deliver args found.1 found.2
  modify fun s => { s with retryRequested := false }

/-- One turn of the loop. -/
def iteration [DecidableEq R.DERCapability] (args : Args) : Task R Unit := do
  manageRetryTask
  let command ← recv
  handle args command
  awaitRetry command
  attempt args

/-- A turn of the loop that does not end the task. -/
def goesOn : Except Exit Unit → Bool
  | .ok _ | .error .again => true
  | .error _ => false

/-- The log of the task at some moment: what it has gone through in its turns so far, the last of
which may be under way or may have ended the task. -/
def Log [DecidableEq R.DERCapability] (args : Args) (log : List (Moment R)) : Prop :=
  ∃ turns last s r t, Proc.Iterates (iteration args) goesOn {} turns s ∧
    Proc.Runs (iteration args) s last r t ∧ log <+: turns ++ last

end Sep2Bridge.Connection
