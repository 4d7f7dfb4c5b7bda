import Sep2Bridge.Connection.Task

/-!
# What each part of the loop leaves alone

A turn of the loop is a receive, a change of polls or of what is to be sent, and then the parts of
an attempt: connecting, the control responses, the DER, three reports, the meter readings. Each
part has its own local variables and its own questions. Its lemma here says that it leaves all
other variables as they are, at every moment, and asks no others. What a part does with its own
variables is then the business of one module each.
-/

namespace Sep2Bridge.Connection

open Lib Proc

variable {R : Reports}

/-! ## The variables of each part -/

namespace Loop

/-- All but the polls. -/
def exceptPolls (s : Loop R) : Loop R := { s with establishedPolls := ∅ }

def exceptDcap (s : Loop R) : Loop R := { s with dcapOption := none, dcapPollHandle := none }

def exceptServerDevice (s : Loop R) : Loop R := { s with serverDevice := none }

def exceptRegistration (s : Loop R) : Loop R := { s with serverRegistrationInfo := none }

/-- All but what connecting finds out. -/
def exceptConnection (s : Loop R) : Loop R :=
  { s with
    dcapOption := none
    serverDevice := none
    serverRegistrationInfo := none
    dcapPollHandle := none }

def exceptQueue (s : Loop R) : Loop R := { s with controlResponseQueue := [] }

def exceptDer (s : Loop R) : Loop R := { s with derOption := none }

def exceptSettings (s : Loop R) : Loop R :=
  { s with latestDeviceSettings := none, lastSentDeviceSettings := none }

def exceptStatus (s : Loop R) : Loop R :=
  { s with latestDeviceStatus := none, lastSentDeviceStatus := none }

def exceptSentCapabilities (s : Loop R) : Loop R := { s with lastSentDeviceCapabilities := none }

/-- All but the registration of the readings. -/
def exceptMup (s : Loop R) : Loop R := { s with mirrorUsagePoint := none, readingMridCache := ∅ }

def exceptMeter (s : Loop R) : Loop R :=
  { s with
    mirrorUsagePoint := none
    readingMridCache := ∅
    latestMeterReadings := none
    lastSentMeterReadings := none }

/-- All but what delivering changes. -/
def exceptDelivery (s : Loop R) : Loop R :=
  { s with
    controlResponseQueue := []
    derOption := none
    latestDeviceSettings := none
    lastSentDeviceSettings := none
    latestDeviceStatus := none
    lastSentDeviceStatus := none
    lastSentDeviceCapabilities := none
    mirrorUsagePoint := none
    readingMridCache := ∅
    latestMeterReadings := none
    lastSentMeterReadings := none }

end Loop

/-! ## The questions of each part -/

namespace Query

def isPolling : Query R → Bool
  | get resource _ => resource ≠ .deviceCapability ∧ resource ≠ .endDevice ∧
      resource ≠ .registration
  | broadcast _ | startPoll .. | updatePollRate .. | cancel _ => true
  | _ => false

def isDcap : Query R → Bool
  | get resource _ => resource = .deviceCapability
  | broadcast _ => true
  | _ => false

def isRegistering : Query R → Bool
  | get resource _ => resource = .endDeviceList ∨ resource = .endDevice
  | post _ (.endDevice _) => true
  | _ => false

def isConnecting (q : Query R) : Bool := q.isDcap ∨ q.isRegistering ∨ q.gets .registration

def isResponding : Query R → Bool
  | postTimeout _ (.derControlResponse _) => true
  | _ => false

def isDer : Query R → Bool
  | get resource _ => resource = .derList
  | _ => false

def isSettings : Query R → Bool
  | put _ (.derSettings _) | instantNow => true
  | _ => false

def isStatus : Query R → Bool
  | put _ (.derStatus _) | instantNow => true
  | _ => false

def isCapability : Query R → Bool
  | put _ (.derCapability _) | instantNow => true
  | _ => false

def isMetering : Query R → Bool
  | get resource _ => resource = .mirrorUsagePointList
  | post _ (.mirrorMeterReading _) | post _ (.mirrorUsagePoint _) | mridGen | instantNow => true
  | _ => false

def isDelivering (q : Query R) : Bool :=
  q.isResponding ∨ q.isDer ∨ q.isSettings ∨ q.isStatus ∨ q.isCapability ∨ q.isMetering

end Query

section Lookups

variable {α β : Type} {view : Loop R → β} {φ : Query R → Prop} (resource : Loop R → Option α)

theorem keeps_lookupIfNone {lookup : Task R Unit} (h : Keeps view φ lookup) :
    Keeps view φ (lookupIfNone resource lookup) :=
  keeps_bind keeps_get fun _ => keeps_ite h (keeps_pure _)

theorem keeps_require : Keeps view φ (require resource) := by
  refine keeps_bind keeps_get fun s => ?_
  cases resource s with
  | none => exact keeps_throw _
  | some found => exact keeps_pure _

theorem runs_require {s t : Loop R} {l : List (Moment R)} {r : Except Exit α}
    (h : Runs (require resource) s l r t) :
    l = [] ∧ t = s ∧ r = (resource s).elim (.error .again) .ok := by
  rcases runs_bind.1 h with ⟨e, h, -⟩ | ⟨l₁, l₂, u, s', rfl, h₁, h₂⟩
  · obtain ⟨-, h, -⟩ := runs_get.1 h
    cases h
  · obtain ⟨rfl, hu, rfl⟩ := runs_get.1 h₁
    cases hu
    cases hresource : resource u with
    | none =>
      rw [hresource] at h₂
      obtain ⟨rfl, rfl, rfl⟩ := runs_throw.1 h₂
      exact ⟨rfl, rfl, rfl⟩
    | some found =>
      rw [hresource] at h₂
      obtain ⟨rfl, rfl, rfl⟩ := runs_pure.1 h₂
      exact ⟨rfl, rfl, rfl⟩

end Lookups

/-! ## Polls -/

theorem keeps_getThenPoll {kind : ResourceKind} {poll} (hpoll : pollOf kind = some poll)
    (href : String) (pollRate : UInt32) :
    Keeps Loop.exceptPolls (fun q : Query R => q.isPolling = true)
      (getThenPoll poll.1 poll.2 href pollRate) := by
  have hresource : ∀ href, (Query.get poll.1 href : Query R).isPolling = true := by
    cases kind <;> cases hpoll <;> intro href <;> rfl
  refine keeps_bind (keeps_ask (hresource href)) fun output => ?_
  cases output with
  | error err => exact keeps_ask rfl
  | ok output =>
    exact keeps_bind (keeps_bind (keeps_ask rfl) fun _ => keeps_pure _) fun _ => keeps_ask rfl

theorem keeps_startPollFor (kind : ResourceKind) (href : String) (pollRate maxListSize : UInt32) :
    Keeps Loop.exceptPolls (fun q : Query R => q.isPolling = true)
      (startPollFor kind href pollRate maxListSize) := by
  unfold startPollFor
  cases hpoll : pollOf kind with
  | none => exact keeps_pure _
  | some poll => exact keeps_bind (keeps_getThenPoll hpoll _ _) fun _ => keeps_pure _

theorem keeps_establish (href : String) (poll : EstablishedPoll) :
    Keeps Loop.exceptPolls (fun q : Query R => q.isPolling = true) (establish href poll) :=
  keeps_modify fun _ => rfl

theorem keeps_subscribeToResource (args : Args) (href : String) (kind : ResourceKind)
    (pollRate : Option UInt32) :
    Keeps Loop.exceptPolls (fun q : Query R => q.isPolling = true)
      (subscribeToResource args href kind pollRate) := by
  refine keeps_bind keeps_get fun s => ?_
  cases s.establishedPolls.get? href with
  | some establishedPoll =>
    refine keeps_ite ?_ (keeps_pure _)
    exact keeps_bind (keeps_ask rfl) fun _ => keeps_establish _ _
  | none =>
    refine keeps_bind (keeps_startPollFor _ _ _ _) fun poll => ?_
    cases poll with
    | none => exact keeps_pure _
    | some poll => exact keeps_establish _ _

theorem keeps_unsubscribeFromResource (href : String) :
    Keeps Loop.exceptPolls (fun q : Query R => q.isPolling = true)
      (unsubscribeFromResource href) := by
  refine keeps_bind keeps_get fun s => ?_
  cases s.establishedPolls.get? href with
  | none => exact keeps_pure _
  | some poll => exact keeps_bind (keeps_modify fun _ => rfl) fun _ => keeps_ask rfl

/-! ## Connecting -/

theorem keeps_refetchDcap (args : Args) :
    Keeps Loop.exceptDcap (fun q : Query R => q.isDcap = true) (refetchDcap args) := by
  refine keeps_bind (keeps_modify fun _ => rfl) fun _ => ?_
  refine keeps_bind (keeps_bind (keeps_ask rfl) fun response => ?_) fun dcap => ?_
  · cases response <;> exact keeps_pure _
  · refine keeps_bind (keeps_modify fun _ => rfl) fun _ => ?_
    cases dcap with
    | none => exact keeps_pure _
    | some dcap =>
      refine keeps_bind (keeps_ask rfl) fun sent => ?_
      exact keeps_ite (keeps_modify fun _ => rfl) (keeps_throw _)

theorem keeps_ensureDcap (args : Args) :
    Keeps Loop.exceptDcap (fun q : Query R => q.isDcap = true) (ensureDcap args) :=
  keeps_bind (keeps_lookupIfNone _ (keeps_refetchDcap args)) fun _ => keeps_require _

theorem keeps_edevLink (dcap : DeviceCapability) :
    Keeps Loop.exceptDcap (fun q : Query R => q.isDcap = true) (edevLink dcap) := by
  unfold edevLink
  cases dcap.endDeviceListLink with
  | some link => exact keeps_pure _
  | none => exact keeps_bind (keeps_modify fun _ => rfl) fun _ => keeps_throw _

theorem keeps_registerNewDevice {β : Type} (view : Loop R → β) (edevLink : String)
    (deviceInfo : SEDevice) :
    Keeps view (fun q : Query R => q.isRegistering = true)
      (registerNewDevice edevLink deviceInfo) := by
  refine keeps_bind (keeps_ask rfl) fun response => ?_
  rcases response with err | (_ | loc) | _
  · exact keeps_pure _
  · exact keeps_pure _
  · refine keeps_bind (keeps_ask rfl) fun device => ?_
    cases device <;> exact keeps_pure _
  · exact keeps_pure _

theorem keeps_ensureDeviceRegistered {β : Type} (view : Loop R → β) (args : Args)
    (edevUri : String) :
    Keeps view (fun q : Query R => q.isRegistering = true)
      (ensureDeviceRegistered args edevUri) := by
  refine keeps_bind (keeps_ask rfl) fun response => ?_
  rcases response with err | edevResponse
  · exact keeps_pure _
  · refine keeps_ite ?_ (keeps_ite ?_ (keeps_throw _))
    · refine keeps_bind (keeps_registerNewDevice _ _ _) fun device => ?_
      cases device <;> exact keeps_pure _
    · cases edevResponse.endDevice with
      | nil => exact keeps_throw _
      | cons device _ => exact keeps_ite (keeps_throw _) (keeps_pure _)

theorem keeps_ensureServerDevice (args : Args) (edevUri : String) :
    Keeps Loop.exceptServerDevice (fun q : Query R => q.isRegistering = true)
      (ensureServerDevice args edevUri) := by
  refine keeps_bind (keeps_lookupIfNone _ ?_) fun _ => keeps_require _
  exact keeps_bind (keeps_ensureDeviceRegistered _ _ _) fun _ => keeps_modify fun _ => rfl

theorem keeps_checkRegistration (args : Args) (serverDevice : EndDevice) :
    Keeps Loop.exceptRegistration (fun q : Query R => q.gets .registration = true)
      (checkRegistration args serverDevice) := by
  refine keeps_bind keeps_get fun s => ?_
  rcases s.serverRegistrationInfo, serverDevice.registrationLink, args.expectedPin with
    ⟨_ | reg, _ | regLink, _ | expectedPin⟩
  all_goals try exact keeps_pure _
  refine keeps_bind (keeps_ask rfl) fun response => ?_
  cases response with
  | error err => exact keeps_throw _
  | ok regInfo =>
    refine keeps_bind (keeps_modify fun _ => rfl) fun _ => ?_
    exact keeps_ite (keeps_throw _) (keeps_pure _)

/-- A frame of finding the device, from those of its parts. -/
theorem keeps_findDevice {β : Type} {view : Loop R → β} {φ : Query R → Prop} (args : Args)
    (hdcap : Keeps view φ (ensureDcap args)) (hlink : ∀ dcap, Keeps view φ (edevLink dcap))
    (hdevice : ∀ uri, Keeps view φ (ensureServerDevice args uri)) :
    Keeps view φ (findDevice args) :=
  keeps_bind hdcap fun dcap => keeps_bind (hlink dcap) fun link =>
    keeps_bind (hdevice link.href) fun _ => keeps_pure _

theorem keeps_connect (args : Args) :
    Keeps Loop.exceptConnection (fun q : Query R => q.isConnecting = true) (connect args) := by
  have hdcap {q : Query R} (hq : q.isDcap = true) : q.isConnecting = true := by
    simp [Query.isConnecting, hq]
  have hregistering {q : Query R} (hq : q.isRegistering = true) : q.isConnecting = true := by
    simp [Query.isConnecting, hq]
  have hgets {q : Query R} (hq : q.gets .registration = true) : q.isConnecting = true := by
    simp [Query.isConnecting, hq]
  refine keeps_bind (keeps_findDevice args ?_ ?_ ?_) fun found =>
    keeps_bind ?_ fun _ => keeps_pure _
  · exact (keeps_ensureDcap args).weaken Loop.exceptConnection (fun _ => rfl) fun _ => hdcap
  · intro dcap
    exact (keeps_edevLink dcap).weaken Loop.exceptConnection (fun _ => rfl) fun _ => hdcap
  · intro uri
    exact (keeps_ensureServerDevice args uri).weaken Loop.exceptConnection (fun _ => rfl)
      fun _ => hregistering
  · exact (keeps_checkRegistration args found.2).weaken Loop.exceptConnection (fun _ => rfl)
      fun _ => hgets

/-! ## Control responses -/

theorem keeps_sendControlResponses (args : Args) (queue : List ControlResponse) :
    Keeps Loop.exceptQueue (fun q : Query R => q.isResponding = true)
      (sendControlResponses args queue) := by
  induction queue with
  | nil => exact keeps_pure _
  | cons response queue ih =>
    refine keeps_bind (keeps_modify fun _ => rfl) fun _ => ?_
    refine keeps_bind (keeps_ask rfl) fun result => ?_
    exact keeps_ite (keeps_bind (keeps_modify fun _ => rfl) fun _ => keeps_pure _) ih

/-! ## Reports -/

theorem keeps_lookupDer {β : Type} (view : Loop R → β) (args : Args) (endDevice : EndDevice) :
    Keeps view (fun q : Query R => q.isDer = true) (lookupDer args endDevice) := by
  unfold lookupDer
  cases endDevice.derListLink with
  | none => exact keeps_pure _
  | some link =>
    refine keeps_bind (keeps_ask rfl) fun response => ?_
    rcases response with err | derlResponse
    · exact keeps_pure _
    · dsimp only
      rcases derlResponse.der with _ | ⟨der, _ | ⟨_, _⟩⟩ <;> exact keeps_pure _

theorem keeps_ensureDer (args : Args) (serverDevice : EndDevice) :
    Keeps Loop.exceptDer (fun q : Query R => q.isDer = true) (ensureDer args serverDevice) := by
  refine keeps_bind (keeps_lookupIfNone _ ?_) fun _ => keeps_require _
  exact keeps_bind (keeps_lookupDer _ _ _) fun _ => keeps_modify fun _ => rfl

section Reports

variable {β : Type} {view : Loop R → β} {φ : Query R → Prop}

theorem keeps_isDue (hnow : φ .instantNow) (lastSent : Option Nat) (postRate : Nat) :
    Keeps view φ (isDue lastSent postRate : Task R Bool) := by
  unfold isDue
  cases lastSent with
  | none => exact keeps_pure _
  | some time => exact keeps_bind (keeps_ask hnow) fun _ => keeps_pure _

/-- A report changes only what `sent` changes, and only sends the report. -/
theorem keeps_sendReport (hnow : φ .instantNow) {report : Option (Document R)}
    (hput : ∀ href, ∀ document ∈ report, φ (.put href document)) {sent : Nat → Loop R → Loop R}
    (hsent : ∀ now s, view (sent now s) = view s) (lastSent : Option Nat) (postRate : Nat)
    (link : Option Link) : Keeps view φ (sendReport lastSent postRate report link sent) := by
  refine keeps_bind (keeps_isDue hnow lastSent postRate) fun due => ?_
  refine keeps_ite ?_ (keeps_pure _)
  rcases report, link with ⟨_ | document, _ | link⟩
  all_goals try exact keeps_pure _
  refine keeps_bind (keeps_ask (hput _ document rfl)) fun response => ?_
  cases response with
  | error err => exact keeps_throw _
  | ok _ => exact keeps_bind (keeps_ask hnow) fun now => keeps_modify (hsent now)

end Reports

theorem keeps_sendDeviceSettings (der : DER) :
    Keeps Loop.exceptSettings (fun q : Query R => q.isSettings = true)
      (sendDeviceSettings der) := by
  refine keeps_bind keeps_get fun s => ?_
  refine keeps_sendReport ?_ ?_ ?_ _ _ _
  · rfl
  · intro href document h
    obtain ⟨settings, -, rfl⟩ := Option.map_eq_some_iff.1 h
    rfl
  · intro now s
    rfl

theorem keeps_sendDeviceStatus (der : DER) :
    Keeps Loop.exceptStatus (fun q : Query R => q.isStatus = true) (sendDeviceStatus der) := by
  refine keeps_bind keeps_get fun s => ?_
  refine keeps_sendReport ?_ ?_ ?_ _ _ _
  · rfl
  · intro href document h
    obtain ⟨status, -, rfl⟩ := Option.map_eq_some_iff.1 h
    rfl
  · intro now s
    rfl

theorem keeps_sendDeviceCapabilities (der : DER) :
    Keeps Loop.exceptSentCapabilities (fun q : Query R => q.isCapability = true)
      (sendDeviceCapabilities der) := by
  refine keeps_bind keeps_get fun s => ?_
  refine keeps_sendReport ?_ ?_ ?_ _ _ _
  · rfl
  · intro href document h
    obtain ⟨capabilities, -, rfl⟩ := Option.map_eq_some_iff.1 h
    rfl
  · intro now s
    rfl

/-! ## Meter readings -/

theorem keeps_lookupMup {β : Type} (view : Loop R → β) (args : Args) (muplHref : String) :
    Keeps view (fun q : Query R => q.isMetering = true) (lookupMup args muplHref) := by
  refine keeps_bind (keeps_ask rfl) fun response => ?_
  cases response <;> exact keeps_pure _

theorem keeps_registerMup {β : Type} (view : Loop R → β) (args : Args) (muplHref : String)
    (reading : MirrorMeterReading) :
    Keeps view (fun q : Query R => q.isMetering = true) (registerMup args muplHref reading) := by
  refine keeps_bind (keeps_ask rfl) fun mrid => ?_
  refine keeps_bind (keeps_ask rfl) fun response => ?_
  rcases response with err | (_ | location) | _ <;> exact keeps_pure _

theorem keeps_ensureMup {β : Type} (view : Loop R → β) (args : Args) (muplHref : String)
    (reading : MirrorMeterReading) :
    Keeps view (fun q : Query R => q.isMetering = true) (ensureMup args muplHref reading) := by
  refine keeps_bind (keeps_lookupMup _ _ _) fun mup => ?_
  rcases mup with _ | mup
  · exact keeps_registerMup _ _ _ _
  · dsimp only
    cases mup.href with
    | none => exact keeps_pure _
    | some href =>
      refine keeps_bind (keeps_ask rfl) fun response => ?_
      cases response <;> exact keeps_pure _

theorem keeps_fillCache (args : Args) (dcap : DeviceCapability) :
    Keeps Loop.exceptMup (fun q : Query R => q.isMetering = true) (fillCache args dcap) := by
  refine keeps_bind keeps_get fun s => keeps_ite ?_ (keeps_pure _)
  refine keeps_bind ?_ fun cache => keeps_modify fun _ => rfl
  unfold initialiseReadingMridCache
  cases dcap.mirrorUsagePointListLink with
  | none => exact keeps_pure _
  | some link =>
    refine keeps_bind (keeps_lookupMup _ _ _) fun mup => ?_
    cases mup <;> exact keeps_pure _

theorem keeps_cachedMrid (key : CacheKey) :
    Keeps Loop.exceptMup (fun q : Query R => q.isMetering = true) (cachedMrid key) := by
  refine keeps_bind keeps_get fun s => ?_
  cases s.readingMridCache.get? key with
  | some mrid => exact keeps_pure _
  | none =>
    refine keeps_bind (keeps_ask rfl) fun mrid => ?_
    exact keeps_bind (keeps_modify fun _ => rfl) fun _ => keeps_pure _

theorem keeps_sendReading (args : Args) (dcap : DeviceCapability) (reading : MirrorMeterReading) :
    Keeps Loop.exceptMup (fun q : Query R => q.isMetering = true)
      (sendReading args dcap reading) := by
  refine keeps_bind keeps_get fun s => ?_
  rcases s.mirrorUsagePoint, dcap.mirrorUsagePointListLink with ⟨_ | mup, _ | link⟩
  · exact keeps_pure _
  · refine keeps_bind (keeps_ensureMup _ _ _ _) fun mup => ?_
    exact keeps_bind (keeps_modify fun _ => rfl) fun _ => keeps_pure _
  all_goals
    refine keeps_bind (keeps_ask rfl) fun response => ?_
    cases response <;> exact keeps_pure _

theorem keeps_sendReadings (args : Args) (dcap : DeviceCapability)
    (readings : List MirrorMeterReading) :
    Keeps Loop.exceptMup (fun q : Query R => q.isMetering = true)
      (sendReadings args dcap readings) := by
  induction readings with
  | nil => exact keeps_pure _
  | cons reading readings ih =>
    unfold sendReadings
    cases readingKey reading with
    | none => exact ih
    | some key =>
      refine keeps_bind (keeps_cachedMrid key) fun mrid => ?_
      refine keeps_bind (keeps_sendReading _ _ _) fun retry => ?_
      exact keeps_ite (keeps_pure _) ih

theorem keeps_sendMeterReadings (args : Args) (dcap : DeviceCapability)
    (readings : List MirrorMeterReading) :
    Keeps Loop.exceptMup (fun q : Query R => q.isMetering = true)
      (sendMeterReadings args dcap readings) :=
  keeps_bind (keeps_fillCache args dcap) fun _ => keeps_sendReadings args dcap readings

theorem keeps_sendLatestMeterReadings (args : Args) (dcap : DeviceCapability) :
    Keeps Loop.exceptMeter (fun q : Query R => q.isMetering = true)
      (sendLatestMeterReadings args dcap) := by
  refine keeps_bind keeps_get fun s => ?_
  cases s.latestMeterReadings with
  | none => exact keeps_pure _
  | some readings =>
    have hnow : (Query.instantNow : Query R).isMetering = true := rfl
    refine keeps_bind (keeps_isDue hnow _ _) fun due => keeps_ite ?_ (keeps_pure _)
    have hsend := (keeps_sendMeterReadings (R := R) args dcap readings).weaken Loop.exceptMeter
      (fun _ => rfl) fun _ => id
    refine keeps_bind hsend fun retry => keeps_ite (keeps_throw _) ?_
    exact keeps_bind (keeps_ask rfl) fun now => keeps_modify fun _ => rfl

/-! ## All of the sending -/

theorem keeps_deliver (args : Args) (dcap : DeviceCapability) (serverDevice : EndDevice) :
    Keeps Loop.exceptDelivery (fun q : Query R => q.isDelivering = true)
      (deliver args dcap serverDevice) := by
  refine keeps_bind keeps_get fun s => keeps_bind ?_ fun retry => keeps_ite (keeps_throw _) ?_
  · refine (keeps_sendControlResponses args _).weaken Loop.exceptDelivery (fun _ => rfl) ?_
    intro q hq; simp [Query.isDelivering, hq]
  refine keeps_bind ?_ fun der => keeps_bind ?_ fun _ => keeps_bind ?_ fun _ =>
    keeps_bind ?_ fun _ => ?_
  · refine (keeps_ensureDer args serverDevice).weaken Loop.exceptDelivery (fun _ => rfl) ?_
    intro q hq; simp [Query.isDelivering, hq]
  · refine (keeps_sendDeviceSettings der).weaken Loop.exceptDelivery (fun _ => rfl) ?_
    intro q hq; simp [Query.isDelivering, hq]
  · refine (keeps_sendDeviceStatus der).weaken Loop.exceptDelivery (fun _ => rfl) ?_
    intro q hq; simp [Query.isDelivering, hq]
  · refine (keeps_sendDeviceCapabilities der).weaken Loop.exceptDelivery (fun _ => rfl) ?_
    intro q hq; simp [Query.isDelivering, hq]
  · refine (keeps_sendLatestMeterReadings args dcap).weaken Loop.exceptDelivery (fun _ => rfl) ?_
    intro q hq; simp [Query.isDelivering, hq]

end Sep2Bridge.Connection
