import Sep2Bridge.Cycle
import Sep2Bridge.Lib.Relay
import Sep2Bridge.Scheduler.Changes

/-!
# The whole bridge

`main` with all that it spawns: the connection task, the scheduler with its wait task, the modbus
task, and the four dispatchers between them. A label is one step of one of them, so that a list of
labels is an interleaving. A step that sends into a channel is refused while the channel is full.

The connection task goes through a whole turn in one step, and the modbus task through a whole
iteration. What they broadcast meanwhile is then pending, as what the loop of the scheduler
broadcasts is, and its next step waits until all of it is sent. A turn that ends the task ends the
process, so there is no step for it.

`log`, `iterations`, the output channels of the scheduler and of the modbus task, and what the
relays have taken are histories: the tasks do not read them. `Next` says once what each step does.
-/

namespace Sep2Bridge

open Lib Proc

/-- What the bridge is started with. -/
structure Setup where
  args : Connection.Args
  /-- The feature `map-imp-exp-site-limits`. -/
  mapSiteLimits : Bool
  curveModels : Modbus.Parameters → List (UInt16 × UInt16)

/-- A turn of the connection task. -/
abbrev Setup.iteration (setup : Setup) : Connection.Task deviceReports Unit :=
  Connection.iteration setup.args

/-- The device whose certificate was loaded. -/
def Setup.lfdi (setup : Setup) : HexBinary160 := setup.args.deviceToRegister.lfdi

/-- Where `main` stands: it wakes the connection task, then the scheduler. -/
inductive MainPhase
  | waking | refreshing | awaiting
  deriving DecidableEq

/-- The state of the bridge, for devices whose model 1 is an `M`. -/
structure Bridge (M : Type) where
  main : MainPhase := .waking
  connection : Connection.Loop deviceReports := {}
  /-- What the connection task has gone through in its turns. -/
  log : List (Connection.Moment deviceReports) := []
  connectionInput : List (Connection.Command deviceReports) := []
  /-- Broadcast by the connection task in its last turn, and not yet sent. -/
  fetched : List Sep2ResourceEvent := []
  resources : Relay Unit Sep2ResourceEvent Command := {}
  scheduler : Scheduler
  /-- Broadcast by the scheduler in its last step, and not yet sent. -/
  published : List Event := []
  subscriptions : Relay Int Event (Connection.Command deviceReports) := {}
  controls : Relay Unit Event Modbus.Parameters := {}
  modbusInput : List Modbus.Parameters := []
  modbus : Modbus.Loop M Modbus.Capabilities DeviceState
  iterations : List (Modbus.Iteration M Modbus.Capabilities DeviceState) := []
  /-- Broadcast by the modbus task in its last iteration, and not yet sent. -/
  polled : List (Modbus.Event M Modbus.Capabilities DeviceState) := []
  deviceState : Relay ReportClock (Modbus.Event M Modbus.Capabilities DeviceState)
    (Connection.Command deviceReports) := {}

/-- One step of an interleaving. -/
inductive BridgeLabel (M : Type)
  /-- `main` sends its next command. -/
  | main
  /-- A turn of the connection task. -/
  | turn (env : Environment deviceReports)
  | broadcastResource
  /-- `resource_update_dispatcher` -/
  | takeResource
  | forwardResource
  /-- The loop of the scheduler goes on to its next suspension. -/
  | loop (label : TaskLabel)
  | broadcastEvent
  /-- `sep2_subscription_and_notification_dispatcher` -/
  | takeEvent (now : Int)
  | forwardCommand
  /-- `control_change_dispatcher` -/
  | takeControl
  | forwardParameters
  /-- An iteration of the modbus task. -/
  | iterate (iteration : Modbus.Iteration M Modbus.Capabilities DeviceState)
  | broadcastPolled
  /-- `sep2_device_state_dispatcher` -/
  | takePolled (clock : ReportClock)
  | forwardReport
  | tick (now : DateTime)
  /-- The wait task of the scheduler sends an event or wakes the loop. -/
  | wait
  /-- The callback of a poll broadcasts a resource. -/
  | poll (resource : Sep2ResourceEvent)
  /-- The retry task or the poll of the dcap wakes or resets the connection task. -/
  | wake (command : Connection.Command deviceReports)

/-! ## The relays -/

/-- `resource_update_dispatcher`. -/
def resourceUpdateDispatcher : Unit → Sep2ResourceEvent → List Command
  | _, resource => [.resourceUpdated resource]

def subscriptionRelay (now : Int) (event : Event) : List (Connection.Command deviceReports) :=
  (sep2SubscriptionAndNotificationDispatcher now event).toList

def controlRelay (setup : Setup) : Unit → Event → List Modbus.Parameters
  | _, event => (controlChangeDispatcher setup.mapSiteLimits event).toList

namespace Bridge

variable {M : Type} (setup : Setup)

def start (clock : DateTime) (loaded : Sep2Model) (now : Nat) (registers : Modbus.Registers) :
    Bridge M where
  scheduler := .start clock loaded
  modbus := .start now registers

/-! ## The steps -/

section Steps

variable (s : Bridge M)

/-- `main`, when it has spawned the tasks. -/
def stepMain : Option (Bridge M) :=
  match s.main with
  | .waking =>
    if s.connectionInput.length < capacity then
      some { s with main := .refreshing, connectionInput := s.connectionInput ++ [.wake] }
    else none
  | .refreshing =>
    if s.scheduler.inputCh.length < capacity then
      some { s with main := .awaiting, scheduler := s.scheduler.send .refreshActiveResources }
    else none
  | .awaiting => none

/-- A turn of the connection task that does not end it. -/
def turn (env : Environment deviceReports) : Option (Bridge M) :=
  match s.fetched, s.connectionInput with
  | [], command :: rest =>
    let turn := (setup.iteration.run.run s.connection).exec (env.hearing command) s.log
    if Connection.goesOn turn.2.1 = true then
      some { s with
        connection := turn.2.2
        log := s.log ++ turn.1
        connectionInput := rest
        fetched := Connection.broadcasts turn.1 }
    else none
  | _, _ => none

/-- There is room in a channel of resources. -/
def poll (resource : Sep2ResourceEvent) : Option (Bridge M) :=
  if s.resources.channel.length < capacity then
    some { s with resources := s.resources.send resource }
  else none

def broadcastResource : Option (Bridge M) :=
  match s.fetched with
  | resource :: rest => ({ s with fetched := rest } : Bridge M).poll resource
  | [] => none

/-- Send a command to the connection task. -/
def tell (command : Connection.Command deviceReports) : Option (Bridge M) :=
  if s.connectionInput.length < capacity then
    some { s with connectionInput := s.connectionInput ++ [command] }
  else none

def forwardResource : Option (Bridge M) :=
  s.resources.pass.bind fun (command, resources) =>
    if s.scheduler.inputCh.length < capacity then
      some { s with resources, scheduler := s.scheduler.send command }
    else none

def loop (label : TaskLabel) : Option (Bridge M) :=
  if s.published = [] ∧ label.isLoop = true then
    (s.scheduler.step setup.lfdi label).map fun scheduler =>
      { s with
        scheduler
        published := scheduler.outputCh.drop s.scheduler.outputCh.length }
  else none

/-- Both dispatchers of the scheduler's events receive each of them, so that the slower one limits
the channel. -/
def announce (event : Event) : Option (Bridge M) :=
  if s.subscriptions.channel.length < capacity ∧ s.controls.channel.length < capacity then
    some { s with
      subscriptions := s.subscriptions.send event
      controls := s.controls.send event }
  else none

def broadcastEvent : Option (Bridge M) :=
  match s.published with
  | event :: rest => ({ s with published := rest } : Bridge M).announce event
  | [] => none

/-- The wait task broadcasts one event, or sends one command. -/
def wait : Option (Bridge M) :=
  s.scheduler.wait.bind fun scheduler =>
    match scheduler.outputCh.drop s.scheduler.outputCh.length with
    | event :: _ => ({ s with scheduler } : Bridge M).announce event
    | [] => if scheduler.inputCh.length ≤ capacity then some { s with scheduler } else none

def forwardParameters : Option (Bridge M) :=
  s.controls.pass.bind fun (parameters, controls) =>
    if s.modbusInput.length < capacity then
      some { s with controls, modbusInput := s.modbusInput ++ [parameters] }
    else none

/-- An iteration of the modbus task, which takes a command if there is one. -/
def iterate (i : Modbus.Iteration M Modbus.Capabilities DeviceState) : Option (Bridge M) :=
  if s.polled = [] ∧ i.command = s.modbusInput.head? then
    let modbus := s.modbus.iterate setup.curveModels i
    some { s with
      modbus
      modbusInput := s.modbusInput.tail
      iterations := s.iterations ++ [i]
      polled := modbus.outputCh.drop s.modbus.outputCh.length }
  else none

def broadcastPolled : Option (Bridge M) :=
  match s.polled with
  | event :: rest =>
    if s.deviceState.channel.length < capacity then
      some { s with polled := rest, deviceState := s.deviceState.send event }
    else none
  | [] => none

def step (s : Bridge M) : BridgeLabel M → Option (Bridge M)
  | .main => s.stepMain
  | .turn env => s.turn setup env
  | .broadcastResource => s.broadcastResource
  | .takeResource => (s.resources.take resourceUpdateDispatcher ()).map
      fun resources => { s with resources }
  | .forwardResource => s.forwardResource
  | .loop label => s.loop setup label
  | .broadcastEvent => s.broadcastEvent
  | .takeEvent now => (s.subscriptions.take subscriptionRelay now).map
      fun subscriptions => { s with subscriptions }
  | .forwardCommand => s.subscriptions.pass.bind fun (command, subscriptions) =>
      ({ s with subscriptions } : Bridge M).tell command
  | .takeControl => (s.controls.take (controlRelay setup) ()).map
      fun controls => { s with controls }
  | .forwardParameters => s.forwardParameters
  | .iterate i => s.iterate setup i
  | .broadcastPolled => s.broadcastPolled
  | .takePolled clock => (s.deviceState.take sep2DeviceStateDispatcher clock).map
      fun deviceState => { s with deviceState }
  | .forwardReport => s.deviceState.pass.bind fun (command, deviceState) =>
      ({ s with deviceState } : Bridge M).tell command
  | .tick now => (s.scheduler.tick now).map fun scheduler => { s with scheduler }
  | .wait => s.wait
  | .poll resource => s.poll resource
  | .wake command => if command.isWakeCommand = true then s.tell command else none

end Steps

/-! ## What a step does -/

/-- What each step does to a bridge that it is not refused in. -/
inductive Next (s : Bridge M) : BridgeLabel M → Bridge M → Prop
  | waking : s.main = .waking → s.connectionInput.length < capacity →
      Next s .main { s with
        main := .refreshing, connectionInput := s.connectionInput ++ [.wake] }
  | refreshing : s.main = .refreshing → s.scheduler.inputCh.length < capacity →
      Next s .main { s with
        main := .awaiting, scheduler := s.scheduler.send .refreshActiveResources }
  | turn {env : Environment deviceReports} {command : Connection.Command deviceReports}
      {rest : List (Connection.Command deviceReports)}
      {l : List (Connection.Moment deviceReports)} {r : Except Connection.Exit Unit}
      {t : Connection.Loop deviceReports} :
      s.fetched = [] → s.connectionInput = command :: rest →
      Runs setup.iteration s.connection
        (⟨(s.connection.beginTurn, .recv), some command⟩ :: l) r t →
      Connection.goesOn r = true →
      Next s (.turn env) { s with
        connection := t
        log := s.log ++ ⟨(s.connection.beginTurn, .recv), some command⟩ :: l
        connectionInput := rest
        fetched := Connection.broadcasts l }
  | broadcastResource {resource : Sep2ResourceEvent} {rest : List Sep2ResourceEvent} :
      s.fetched = resource :: rest → s.resources.channel.length < capacity →
      Next s .broadcastResource { s with
        fetched := rest, resources := s.resources.send resource }
  | takeResource {resources : Relay Unit Sep2ResourceEvent Command} :
      s.resources.take resourceUpdateDispatcher () = some resources →
      Next s .takeResource { s with resources }
  | forwardResource {command : Command} {resources : Relay Unit Sep2ResourceEvent Command} :
      s.resources.pass = some (command, resources) → s.scheduler.inputCh.length < capacity →
      Next s .forwardResource { s with resources, scheduler := s.scheduler.send command }
  | loop {label : TaskLabel} {scheduler : Scheduler} {published : List Event} :
      s.published = [] → label.isLoop = true →
      s.scheduler.step setup.lfdi label = some scheduler →
      scheduler.outputCh = s.scheduler.outputCh ++ published →
      Next s (.loop label) { s with scheduler, published }
  | broadcastEvent {event : Event} {rest : List Event} :
      s.published = event :: rest → s.subscriptions.channel.length < capacity →
      s.controls.channel.length < capacity →
      Next s .broadcastEvent { s with
        published := rest
        subscriptions := s.subscriptions.send event
        controls := s.controls.send event }
  | takeEvent {now : Int} {subscriptions : Relay Int Event (Connection.Command deviceReports)} :
      s.subscriptions.take subscriptionRelay now = some subscriptions →
      Next s (.takeEvent now) { s with subscriptions }
  | forwardCommand {command : Connection.Command deviceReports}
      {subscriptions : Relay Int Event (Connection.Command deviceReports)} :
      s.subscriptions.pass = some (command, subscriptions) → s.connectionInput.length < capacity →
      Next s .forwardCommand { s with
        subscriptions, connectionInput := s.connectionInput ++ [command] }
  | takeControl {controls : Relay Unit Event Modbus.Parameters} :
      s.controls.take (controlRelay setup) () = some controls →
      Next s .takeControl { s with controls }
  | forwardParameters {parameters : Modbus.Parameters}
      {controls : Relay Unit Event Modbus.Parameters} :
      s.controls.pass = some (parameters, controls) → s.modbusInput.length < capacity →
      Next s .forwardParameters { s with
        controls, modbusInput := s.modbusInput ++ [parameters] }
  | iterate {i : Modbus.Iteration M Modbus.Capabilities DeviceState}
      {polled : List (Modbus.Event M Modbus.Capabilities DeviceState)} :
      s.polled = [] → i.command = s.modbusInput.head? →
      (s.modbus.iterate setup.curveModels i).outputCh = s.modbus.outputCh ++ polled →
      Next s (.iterate i) { s with
        modbus := s.modbus.iterate setup.curveModels i
        modbusInput := s.modbusInput.tail
        iterations := s.iterations ++ [i]
        polled }
  | broadcastPolled {event : Modbus.Event M Modbus.Capabilities DeviceState}
      {rest : List (Modbus.Event M Modbus.Capabilities DeviceState)} :
      s.polled = event :: rest → s.deviceState.channel.length < capacity →
      Next s .broadcastPolled { s with polled := rest, deviceState := s.deviceState.send event }
  | takePolled {clock : ReportClock}
      {deviceState : Relay ReportClock (Modbus.Event M Modbus.Capabilities DeviceState)
        (Connection.Command deviceReports)} :
      s.deviceState.take sep2DeviceStateDispatcher clock = some deviceState →
      Next s (.takePolled clock) { s with deviceState }
  | forwardReport {command : Connection.Command deviceReports}
      {deviceState : Relay ReportClock (Modbus.Event M Modbus.Capabilities DeviceState)
        (Connection.Command deviceReports)} :
      s.deviceState.pass = some (command, deviceState) → s.connectionInput.length < capacity →
      Next s .forwardReport { s with
        deviceState, connectionInput := s.connectionInput ++ [command] }
  | tick {now : DateTime} {scheduler : Scheduler} :
      s.scheduler.tick now = some scheduler → Next s (.tick now) { s with scheduler }
  | responds {event : Event} {scheduler : Scheduler} :
      s.scheduler.wait = some scheduler →
      scheduler.outputCh = s.scheduler.outputCh ++ [event] →
      s.subscriptions.channel.length < capacity → s.controls.channel.length < capacity →
      Next s .wait { s with
        scheduler
        subscriptions := s.subscriptions.send event
        controls := s.controls.send event }
  | finishes {scheduler : Scheduler} :
      s.scheduler.wait = some scheduler → scheduler.outputCh = s.scheduler.outputCh →
      scheduler.inputCh.length ≤ capacity → Next s .wait { s with scheduler }
  | poll {resource : Sep2ResourceEvent} : s.resources.channel.length < capacity →
      Next s (.poll resource) { s with resources := s.resources.send resource }
  | wake {command : Connection.Command deviceReports} : command.isWakeCommand = true →
      s.connectionInput.length < capacity →
      Next s (.wake command) { s with connectionInput := s.connectionInput ++ [command] }

variable {setup} {s t : Bridge M} {l : BridgeLabel M}

theorem announce_eq_some {event : Event} : s.announce event = some t ↔
    s.subscriptions.channel.length < capacity ∧ s.controls.channel.length < capacity ∧
      { s with
        subscriptions := s.subscriptions.send event
        controls := s.controls.send event } = t := by
  unfold announce
  rw [Option.ite_none_right_eq_some, Option.some_inj, and_assoc]

theorem tell_eq_some {command : Connection.Command deviceReports} : s.tell command = some t ↔
    s.connectionInput.length < capacity ∧
      { s with connectionInput := s.connectionInput ++ [command] } = t := by
  unfold tell
  rw [Option.ite_none_right_eq_some, Option.some_inj]

theorem poll_eq_some {resource : Sep2ResourceEvent} : s.poll resource = some t ↔
    s.resources.channel.length < capacity ∧
      { s with resources := s.resources.send resource } = t := by
  unfold poll
  rw [Option.ite_none_right_eq_some, Option.some_inj]

/-- **The cases of a step.** -/
theorem next_of_step (h : s.step setup l = some t) : s.Next setup l t := by
  cases l with
  | main =>
    unfold step stepMain at h
    cases hmain : s.main with
    | waking =>
      rw [hmain] at h
      obtain ⟨hroom, h⟩ := Option.ite_none_right_eq_some.1 h
      cases h
      exact .waking hmain hroom
    | refreshing =>
      rw [hmain] at h
      obtain ⟨hroom, h⟩ := Option.ite_none_right_eq_some.1 h
      cases h
      exact .refreshing hmain hroom
    | awaiting =>
      rw [hmain] at h
      cases h
  | turn env =>
    unfold step turn at h
    cases hfetched : s.fetched with
    | cons resource rest =>
      rw [hfetched] at h
      cases h
    | nil =>
      cases hinput : s.connectionInput with
      | nil =>
        rw [hfetched, hinput] at h
        cases h
      | cons command rest =>
        rw [hfetched, hinput] at h
        obtain ⟨hgoes, h⟩ := Option.ite_none_right_eq_some.1 h
        cases h
        exact .turn hfetched hinput (Interaction.runs_exec (env.hearing command) _ s.log) hgoes
  | broadcastResource =>
    unfold step broadcastResource at h
    cases hfetched : s.fetched with
    | nil =>
      rw [hfetched] at h
      cases h
    | cons resource rest =>
      rw [hfetched] at h
      obtain ⟨hroom, rfl⟩ := poll_eq_some.1 h
      exact .broadcastResource hfetched hroom
  | takeResource =>
    obtain ⟨resources, htake, rfl⟩ := Option.map_eq_some_iff.1 h
    exact .takeResource htake
  | forwardResource =>
    obtain ⟨⟨command, resources⟩, hpass, h⟩ := Option.bind_eq_some_iff.1 h
    obtain ⟨hroom, h⟩ := Option.ite_none_right_eq_some.1 h
    cases h
    exact .forwardResource hpass hroom
  | loop label =>
    obtain ⟨⟨hpublished, hloop⟩, h⟩ := Option.ite_none_right_eq_some.1 h
    obtain ⟨scheduler, hstep, rfl⟩ := Option.map_eq_some_iff.1 h
    obtain ⟨events, hevents⟩ := Scheduler.outputCh_step hstep
    rw [hevents, List.drop_left]
    exact .loop hpublished hloop hstep hevents
  | broadcastEvent =>
    unfold step broadcastEvent at h
    cases hpublished : s.published with
    | nil =>
      rw [hpublished] at h
      cases h
    | cons event rest =>
      rw [hpublished] at h
      obtain ⟨hsubscriptions, hcontrols, rfl⟩ := announce_eq_some.1 h
      exact .broadcastEvent hpublished hsubscriptions hcontrols
  | takeEvent now =>
    obtain ⟨subscriptions, htake, rfl⟩ := Option.map_eq_some_iff.1 h
    exact .takeEvent htake
  | forwardCommand =>
    obtain ⟨⟨command, subscriptions⟩, hpass, h⟩ := Option.bind_eq_some_iff.1 h
    obtain ⟨hroom, rfl⟩ := tell_eq_some.1 h
    exact .forwardCommand hpass hroom
  | takeControl =>
    obtain ⟨controls, htake, rfl⟩ := Option.map_eq_some_iff.1 h
    exact .takeControl htake
  | forwardParameters =>
    obtain ⟨⟨parameters, controls⟩, hpass, h⟩ := Option.bind_eq_some_iff.1 h
    obtain ⟨hroom, h⟩ := Option.ite_none_right_eq_some.1 h
    cases h
    exact .forwardParameters hpass hroom
  | iterate i =>
    obtain ⟨⟨hpolled, hcommand⟩, h⟩ := Option.ite_none_right_eq_some.1 h
    obtain ⟨events, hevents⟩ : ∃ events, (s.modbus.iterate setup.curveModels i).outputCh =
      s.modbus.outputCh ++ events := Modbus.Loop.outputCh_iterate
    rw [hevents, List.drop_left] at h
    cases h
    exact .iterate hpolled hcommand hevents
  | broadcastPolled =>
    unfold step broadcastPolled at h
    cases hpolled : s.polled with
    | nil =>
      rw [hpolled] at h
      cases h
    | cons event rest =>
      rw [hpolled] at h
      obtain ⟨hroom, h⟩ := Option.ite_none_right_eq_some.1 h
      cases h
      exact .broadcastPolled hpolled hroom
  | takePolled clock =>
    obtain ⟨deviceState, htake, rfl⟩ := Option.map_eq_some_iff.1 h
    exact .takePolled htake
  | forwardReport =>
    obtain ⟨⟨command, deviceState⟩, hpass, h⟩ := Option.bind_eq_some_iff.1 h
    obtain ⟨hroom, rfl⟩ := tell_eq_some.1 h
    exact .forwardReport hpass hroom
  | tick now =>
    obtain ⟨scheduler, htick, rfl⟩ := Option.map_eq_some_iff.1 h
    exact .tick htick
  | wait =>
    obtain ⟨scheduler, hwait, h⟩ := Option.bind_eq_some_iff.1 h
    obtain ⟨event, hevent⟩ | hnone :
        (∃ event, scheduler.outputCh = s.scheduler.outputCh ++ [event]) ∨
          scheduler.outputCh = s.scheduler.outputCh := by
      obtain ⟨w, -, -, ⟨-, rfl⟩ | ⟨-, -, -, ⟨event, -, -, rfl⟩ | ⟨-, rfl⟩⟩⟩ :=
        Scheduler.wait_cases hwait
      · exact .inr rfl
      · exact .inl ⟨event, rfl⟩
      · exact .inr rfl
    · rw [hevent, List.drop_left] at h
      obtain ⟨hsubscriptions, hcontrols, rfl⟩ := announce_eq_some.1 h
      exact .responds hwait hevent hsubscriptions hcontrols
    · rw [hnone, List.drop_length] at h
      obtain ⟨hroom, h⟩ := Option.ite_none_right_eq_some.1 h
      cases h
      exact .finishes hwait hnone hroom
  | poll resource =>
    obtain ⟨hroom, rfl⟩ := poll_eq_some.1 h
    exact .poll hroom
  | wake command =>
    obtain ⟨hwake, h⟩ := Option.ite_none_right_eq_some.1 h
    obtain ⟨hroom, rfl⟩ := tell_eq_some.1 h
    exact .wake hwake hroom

/-! ## A bridge -/

/-- Our device is number 1. -/
def aSetup : Setup where
  args := { Connection.ourArgs with deviceToRegister := ⟨1, Connection.ourDevice⟩ }
  mapSiteLimits := false
  curveModels _ := []

/-- An iteration in which the device is reached and not polled. -/
def anIteration (command : Option Modbus.Parameters) :
    Modbus.Iteration Unit Modbus.Capabilities DeviceState where
  command
  connect := .ok ((), none)
  registers := .initial
  device := .plain none
  send := .ok ()
  written := 0
  now := 0
  poll := .err
  polledAt := 0

/-- No server is reached. Each poll has a handle of its own. -/
def unserved (past : List (Connection.Moment deviceReports)) :
    (m : Connection.Loop deviceReports × Connection.Query deviceReports) → m.2.Answer
  | (_, .recv) => none
  | (_, .get ..) | (_, .put ..) | (_, .post ..) => .error "timeout"
  | (_, .postTimeout ..) => none
  | (_, .broadcast _) => true
  | (_, .startPoll ..) | (_, .mridGen) => past.length
  | (_, .instantNow) => (0 : Nat)
  | (_, .updatePollRate ..) | (_, .cancel _) => ()

/-- A server that knows our device and accepts what it is sent. -/
def served (past : List (Connection.Moment deviceReports)) :
    (m : Connection.Loop deviceReports × Connection.Query deviceReports) → m.2.Answer
  | (_, .get .deviceCapability _) => .ok { endDeviceListLink := some ⟨"/edev"⟩ }
  | (_, .get .endDeviceList _) =>
    .ok { all := 1, endDevice := [{ Connection.ourDevice with lfdi := some 1 }] }
  | (_, .get .registration _) => .ok ⟨111115⟩
  | (_, .get .derList _) => .ok { der := [⟨some ⟨"/ders"⟩, some ⟨"/derst"⟩, some ⟨"/dercap"⟩⟩] }
  | (_, .put ..) => .ok .other
  | (_, .postTimeout ..) => some (.ok .other)
  | m => unserved past m

/-- The bridge starts during the control. -/
abbrev aStart : Bridge Unit := start (Scheduler.second 15) Scheduler.knownModel 0 .initial

end Bridge

end Sep2Bridge
