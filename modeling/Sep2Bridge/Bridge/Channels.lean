import Mathlib.Data.List.Perm.Basic
import Sep2Bridge.Bridge.Machine
import Sep2Bridge.Connection.Commands

/-!
# What goes through the channels of the bridge

Each task of the bridge runs as it would alone: `scheduler_of_exec`, `iterates_of_exec` and
`modbus_of_exec` give its run. What one of them receives is what the others have sent it: nothing
is lost, repeated or reordered on the way (`Flows`). Two senders share a channel where the reports
about the device and the events of the scheduler both become commands for the connection task, and
`told` is all that was sent into it.

The wait task of the scheduler broadcasts while the loop may still have events pending, so that the
order of the broadcasts is that of the scheduler for the events of the loop only.
-/

namespace Sep2Bridge

open Lib Proc

namespace Connection.Command

variable {R : Reports}

/-- What `sep2_subscription_and_notification_dispatcher` sends. -/
def fromScheduler : Command R → Bool
  | sendControlResponse _ | updatePostRates _ | subscribeToResource .. |
    unsubscribeFromResource _ => true
  | _ => false

/-- What `sep2_device_state_dispatcher` sends. -/
def fromDevice : Command R → Bool
  | sendDeviceStatus _ | sendDeviceCapability _ | sendDeviceSettings _ | sendMeterReadings _ => true
  | _ => false

theorem not_fromScheduler_of_fromDevice {command : Command R} (h : command.fromDevice = true) :
    command.fromScheduler = false := by
  cases command <;> first | rfl | cases h

theorem not_fromDevice_of_fromScheduler {command : Command R} (h : command.fromScheduler = true) :
    command.fromDevice = false := by
  cases command <;> first | rfl | cases h

theorem not_sent_of_isWakeCommand {command : Command R} (h : command.isWakeCommand = true) :
    command.fromScheduler = false ∧ command.fromDevice = false := by
  cases command <;> first | exact ⟨rfl, rfl⟩ | cases h

end Connection.Command

open Connection.Command

theorem fromScheduler_of_subscriptionRelay (now : Int) (event : Event) :
    ∀ command ∈ subscriptionRelay now event, command.fromScheduler = true := by
  intro command h
  cases event <;> cases Option.mem_toList.1 h <;> rfl

theorem fromDevice_of_sendTranslated {α : Type} {make : α → Connection.Command deviceReports}
    (hmake : ∀ report, (make report).fromDevice = true)
    (report : Option (Except Modbus.NamedError α)) :
    ∀ command ∈ sendTranslated make report, command.fromDevice = true := by
  intro command h
  obtain ⟨report, -, rfl⟩ := List.mem_map.1 h
  exact hmake report

theorem fromDevice_of_sep2DeviceStateDispatcher {M : Type} (clock : ReportClock)
    (event : Modbus.Event M Modbus.Capabilities DeviceState) :
    ∀ command ∈ sep2DeviceStateDispatcher clock event, command.fromDevice = true := by
  cases event with
  | deviceConnected => exact fun command h => absurd h List.not_mem_nil
  | capabilitiesPolled cap => exact fromDevice_of_sendTranslated (fun _ => rfl) _
  | statePolled state =>
    intro command h
    rcases List.mem_append.1 h with h | h
    · rcases List.mem_append.1 h with h | h
      · exact fromDevice_of_sendTranslated (fun _ => rfl) _ command h
      · exact fromDevice_of_sendTranslated (fun _ => rfl) _ command h
    · exact fromDevice_of_sendTranslated (fun _ => rfl) _ command h

/-- The resource that a command brings. -/
def Command.resource? : Command → Option Sep2ResourceEvent
  | .resourceUpdated resource => some resource
  | _ => none

namespace Bridge

variable {M : Type} {setup : Setup} {s t : Bridge M} {l : BridgeLabel M}

/-! ## The tasks by themselves -/

/-- A step of the bridge is a step of the scheduler, or none of it. -/
theorem scheduler_next (h : s.Next setup l t) : t.scheduler = s.scheduler ∨
    ∃ label, s.scheduler.step setup.lfdi label = some t.scheduler := by
  cases h with
  | refreshing => exact .inr ⟨.send .refreshActiveResources, rfl⟩
  | @forwardResource command _ => exact .inr ⟨.send command, rfl⟩
  | @loop label _ _ _ _ hstep => exact .inr ⟨label, hstep⟩
  | @tick now _ htick => exact .inr ⟨.tick now, htick⟩
  | responds hwait => exact .inr ⟨.wait, hwait⟩
  | finishes hwait => exact .inr ⟨.wait, hwait⟩
  | _ => exact .inl rfl

/-- A step of the bridge is a turn of the connection task, or none of it. -/
theorem iterates_next
    (hs : Iterates setup.iteration Connection.goesOn {} s.log s.connection)
    (h : s.Next setup l t) :
    Iterates setup.iteration Connection.goesOn {} t.log t.connection := by
  cases h with
  | turn _ _ hrun hgoes => exact .turn hs hrun hgoes
  | _ => exact hs

/-- A step of the bridge is an iteration of the modbus task, or none of it. -/
theorem modbus_next {now : Nat} {registers : Modbus.Registers}
    (hs : s.modbus = Modbus.Loop.run setup.curveModels now registers s.iterations)
    (h : s.Next setup l t) :
    t.modbus = Modbus.Loop.run setup.curveModels now registers t.iterations := by
  cases h with
  | iterate =>
    unfold Modbus.Loop.run at hs ⊢
    rw [List.foldl_concat, ← hs]
  | _ => exact hs

/-! ## What was sent to the connection task -/

/-- All commands that were ever sent to the connection task. -/
def told (s : Bridge M) : List (Connection.Command deviceReports) :=
  Connection.commandsIn s.log ++ s.connectionInput

/-- A turn takes the next command. -/
theorem told_turn {command : Connection.Command deviceReports}
    {rest : List (Connection.Command deviceReports)}
    {l : List (Connection.Moment deviceReports)} {r : Except Connection.Exit Unit}
    {t : Connection.Loop deviceReports} (hinput : s.connectionInput = command :: rest)
    (hrun : Runs setup.iteration s.connection
      (⟨(s.connection.beginTurn, .recv), some command⟩ :: l) r t) :
    Connection.commandsIn (s.log ++ ⟨(s.connection.beginTurn, .recv), some command⟩ :: l) ++ rest =
      s.told := by
  have hl := (Connection.turn_of_command (Connection.turn_of_runs hrun)).1
  rw [told, hinput, Connection.commandsIn_append, List.append_assoc]
  show _ ++ (command :: Connection.commandsIn l ++ rest) = _
  rw [Connection.commandsIn_eq_nil hl]
  rfl

/-! ## The laws of the channels -/

/-- All but responses, which the wait task broadcasts too. -/
def isLoopEvent : Event → Bool
  | .derControlStatusChanged .. => false
  | _ => true

theorem isLoopEvent_of_isResponse {e : Event} (h : e.IsResponse) : isLoopEvent e = false := by
  cases e <;> first | rfl | cases h

/-- Nothing is lost, repeated or reordered on the way from one task to the next. -/
structure Flows (setup : Setup) (s : Bridge M) : Prop where
  responses : s.scheduler.Responses
  /-- Both dispatchers receive all events. -/
  both : s.controls.sent = s.subscriptions.sent
  events : (s.subscriptions.sent ++ s.published).Perm s.scheduler.outputCh
  loopEvents : (s.subscriptions.sent ++ s.published).filter isLoopEvent =
    s.scheduler.outputCh.filter isLoopEvent
  subscriptions : s.subscriptions.Passed subscriptionRelay (s.told.filter fromScheduler)
  controls : s.controls.Passed (controlRelay setup)
    (s.iterations.filterMap Modbus.Iteration.command ++ s.modbusInput)
  polled : s.deviceState.sent ++ s.polled = s.modbus.outputCh
  deviceState : s.deviceState.Passed sep2DeviceStateDispatcher (s.told.filter fromDevice)

/-- What is read off the events of the loop is the same in either order. -/
theorem Flows.filterMap_events {β : Type} {f : Event → Option β}
    (h : s.Flows setup) (hf : ∀ e, isLoopEvent e = false → f e = none) :
    (s.subscriptions.sent ++ s.published).filterMap f = s.scheduler.outputCh.filterMap f := by
  have hfilter (events : List Event) :
      events.filterMap f = (events.filter isLoopEvent).filterMap f := by
    rw [List.filterMap_filter]
    refine List.filterMap_congr fun e _ => ?_
    cases he : isLoopEvent e with
    | true => rfl
    | false => exact hf e he
  rw [hfilter, h.loopEvents, ← hfilter]

theorem told_append (command : Connection.Command deviceReports) :
    Connection.commandsIn s.log ++ (s.connectionInput ++ [command]) = s.told ++ [command] :=
  (List.append_assoc _ _ _).symm

theorem subscriptions_next
    (hs : s.subscriptions.Passed subscriptionRelay (s.told.filter fromScheduler))
    (hdevice : s.deviceState.Passed sep2DeviceStateDispatcher (s.told.filter fromDevice))
    (h : s.Next setup l t) :
    t.subscriptions.Passed subscriptionRelay (t.told.filter fromScheduler) := by
  cases h with
  | waking =>
    simp only [told, told_append]
    rw [Relay.filter_append_other rfl]
    exact hs
  | turn _ hinput hrun =>
    simp only [told, told_turn hinput hrun]
    exact hs
  | broadcastEvent => exact hs.send _
  | responds => exact hs.send _
  | takeEvent htake => exact hs.take htake
  | forwardCommand hpass =>
    simp only [told, told_append]
    exact hs.pass_shared fromScheduler_of_subscriptionRelay hpass
  | forwardReport hpass =>
    have hown := hdevice.own_pass fromDevice_of_sep2DeviceStateDispatcher hpass
    simp only [told, told_append]
    rw [Relay.filter_append_other (not_fromScheduler_of_fromDevice hown)]
    exact hs
  | wake hwake =>
    simp only [told, told_append]
    rw [Relay.filter_append_other (not_sent_of_isWakeCommand hwake).1]
    exact hs
  | _ => exact hs

theorem deviceState_next
    (hs : s.deviceState.Passed sep2DeviceStateDispatcher (s.told.filter fromDevice))
    (hscheduler : s.subscriptions.Passed subscriptionRelay (s.told.filter fromScheduler))
    (h : s.Next setup l t) :
    t.deviceState.Passed sep2DeviceStateDispatcher (t.told.filter fromDevice) := by
  cases h with
  | waking =>
    simp only [told, told_append]
    rw [Relay.filter_append_other rfl]
    exact hs
  | turn _ hinput hrun =>
    simp only [told, told_turn hinput hrun]
    exact hs
  | broadcastPolled => exact hs.send _
  | takePolled htake => exact hs.take htake
  | forwardReport hpass =>
    simp only [told, told_append]
    exact hs.pass_shared fromDevice_of_sep2DeviceStateDispatcher hpass
  | forwardCommand hpass =>
    have hown := hscheduler.own_pass fromScheduler_of_subscriptionRelay hpass
    simp only [told, told_append]
    rw [Relay.filter_append_other (not_fromDevice_of_fromScheduler hown)]
    exact hs
  | wake hwake =>
    simp only [told, told_append]
    rw [Relay.filter_append_other (not_sent_of_isWakeCommand hwake).2]
    exact hs
  | _ => exact hs

theorem controls_next
    (hs : s.controls.Passed (controlRelay setup)
      (s.iterations.filterMap Modbus.Iteration.command ++ s.modbusInput))
    (h : s.Next setup l t) :
    t.controls.Passed (controlRelay setup)
      (t.iterations.filterMap Modbus.Iteration.command ++ t.modbusInput) := by
  cases h with
  | broadcastEvent => exact hs.send _
  | responds => exact hs.send _
  | takeControl htake => exact hs.take htake
  | forwardParameters hpass =>
    dsimp only
    rw [← List.append_assoc]
    exact hs.pass hpass
  | @iterate i _ _ hcommand =>
    dsimp only
    have hinput : [i].filterMap Modbus.Iteration.command ++ s.modbusInput.tail =
        s.modbusInput := by
      cases hinput : s.modbusInput with
      | nil =>
        rw [hinput] at hcommand
        rw [List.filterMap_cons_none hcommand]
        rfl
      | cons p rest =>
        rw [hinput] at hcommand
        rw [List.filterMap_cons_some hcommand]
        rfl
    rw [List.filterMap_append, List.append_assoc, hinput]
    exact hs
  | _ => exact hs

theorem polled_next (hs : s.deviceState.sent ++ s.polled = s.modbus.outputCh)
    (h : s.Next setup l t) : t.deviceState.sent ++ t.polled = t.modbus.outputCh := by
  cases h with
  | iterate hpolled _ hevents =>
    rw [hpolled, List.append_nil] at hs
    dsimp only
    rw [hevents, hs]
  | broadcastPolled hpolled =>
    rw [hpolled, List.append_cons, ← Relay.sent_send] at hs
    exact hs
  | takePolled htake =>
    dsimp only
    rw [Relay.sent_take htake]
    exact hs
  | forwardReport hpass =>
    dsimp only
    rw [Relay.sent_pass hpass]
    exact hs
  | _ => exact hs

theorem both_next (hs : s.controls.sent = s.subscriptions.sent) (h : s.Next setup l t) :
    t.controls.sent = t.subscriptions.sent := by
  cases h with
  | broadcastEvent =>
    dsimp only
    rw [Relay.sent_send, Relay.sent_send, hs]
  | responds =>
    dsimp only
    rw [Relay.sent_send, Relay.sent_send, hs]
  | takeEvent htake => exact hs.trans (Relay.sent_take htake).symm
  | forwardCommand hpass => exact hs.trans (Relay.sent_pass hpass).symm
  | takeControl htake => exact (Relay.sent_take htake).trans hs
  | forwardParameters hpass => exact (Relay.sent_pass hpass).trans hs
  | _ => exact hs

theorem isResponse_of_wait {u v : Scheduler} {event : Event} (hs : u.Responses)
    (h : u.wait = some v) (hevent : v.outputCh = u.outputCh ++ [event]) : event.IsResponse := by
  obtain ⟨w, hw, -, ⟨-, rfl⟩ | ⟨-, -, -, ⟨e, rest, hpending, rfl⟩ | ⟨-, rfl⟩⟩⟩ :=
    Scheduler.wait_cases h
  · cases List.self_eq_append_right.1 hevent
  · cases List.append_cancel_left hevent
    exact hs w hw event (by rw [hpending]; exact List.mem_cons_self)
  · cases List.self_eq_append_right.1 hevent

theorem events_next (hs : (s.subscriptions.sent ++ s.published).Perm s.scheduler.outputCh)
    (h : s.Next setup l t) :
    (t.subscriptions.sent ++ t.published).Perm t.scheduler.outputCh := by
  cases h with
  | loop hpublished _ _ hevents =>
    rw [hpublished, List.append_nil] at hs
    dsimp only
    rw [hevents]
    exact hs.append_right _
  | broadcastEvent hpublished =>
    rw [hpublished, List.append_cons, ← Relay.sent_send] at hs
    exact hs
  | @responds event _ _ hevent =>
    dsimp only
    rw [hevent, Relay.sent_send, List.append_assoc]
    refine (List.perm_append_comm.append_left _).trans ?_
    rw [← List.append_assoc]
    exact hs.append_right _
  | finishes _ hevent =>
    dsimp only
    rw [hevent]
    exact hs
  | tick htick =>
    obtain ⟨-, rfl⟩ := Scheduler.tick_eq_some.1 htick
    exact hs
  | takeEvent htake =>
    dsimp only
    rw [Relay.sent_take htake]
    exact hs
  | forwardCommand hpass =>
    dsimp only
    rw [Relay.sent_pass hpass]
    exact hs
  | _ => exact hs

theorem loopEvents_next (hresponses : s.scheduler.Responses)
    (hs : (s.subscriptions.sent ++ s.published).filter isLoopEvent =
      s.scheduler.outputCh.filter isLoopEvent) (h : s.Next setup l t) :
    (t.subscriptions.sent ++ t.published).filter isLoopEvent =
      t.scheduler.outputCh.filter isLoopEvent := by
  cases h with
  | loop hpublished _ _ hevents =>
    rw [hpublished, List.append_nil] at hs
    dsimp only
    rw [hevents, List.filter_append, List.filter_append, hs]
  | broadcastEvent hpublished =>
    rw [hpublished, List.append_cons, ← Relay.sent_send] at hs
    exact hs
  | @responds event _ hwait hevent =>
    have hresponse := isLoopEvent_of_isResponse (isResponse_of_wait hresponses hwait hevent)
    dsimp only
    rw [hevent, Relay.sent_send, List.filter_append, Relay.filter_append_other hresponse,
      ← List.filter_append, Relay.filter_append_other hresponse]
    exact hs
  | finishes _ hevent =>
    dsimp only
    rw [hevent]
    exact hs
  | tick htick =>
    obtain ⟨-, rfl⟩ := Scheduler.tick_eq_some.1 htick
    exact hs
  | takeEvent htake =>
    dsimp only
    rw [Relay.sent_take htake]
    exact hs
  | forwardCommand hpass =>
    dsimp only
    rw [Relay.sent_pass hpass]
    exact hs
  | _ => exact hs

theorem responses_next (hs : s.scheduler.Responses) (h : s.Next setup l t) :
    t.scheduler.Responses := by
  obtain heq | ⟨label, hstep⟩ := scheduler_next h
  · rw [heq]
    exact hs
  · exact hs.step hstep

/-- **Step lemma.** -/
theorem Flows.next (hs : s.Flows setup) (h : s.Next setup l t) : t.Flows setup where
  responses := responses_next hs.responses h
  both := both_next hs.both h
  events := events_next hs.events h
  loopEvents := loopEvents_next hs.responses hs.loopEvents h
  subscriptions := subscriptions_next hs.subscriptions hs.deviceState h
  controls := controls_next hs.controls h
  polled := polled_next hs.polled h
  deviceState := deviceState_next hs.deviceState hs.subscriptions h

/-! ## Runs -/

variable {ok : Bridge M → BridgeLabel M → Prop} {labels : List (BridgeLabel M)}
  {clock : DateTime} {loaded : Sep2Model} {now : Nat} {registers : Modbus.Registers}

/-- **Nothing is lost on the way** in any run. -/
theorem flows_of_exec (h : Exec (step setup) ok (start clock loaded now registers) labels t) :
    t.Flows setup := by
  refine h.invariant ?_ fun _ _ _ hs _ hstep => hs.next (next_of_step hstep)
  exact {
    responses := Scheduler.responses_start clock loaded
    both := rfl
    events := List.Perm.nil
    loopEvents := rfl
    subscriptions := .start
    controls := .start
    polled := rfl
    deviceState := .start }

theorem iterates_of_exec (h : Exec (step setup) ok (start clock loaded now registers) labels t) :
    Iterates setup.iteration Connection.goesOn {} t.log t.connection :=
  h.invariant (I := fun s => Iterates setup.iteration Connection.goesOn {} s.log s.connection)
    .start fun _ _ _ hs _ hstep => iterates_next hs (next_of_step hstep)

theorem modbus_of_exec (h : Exec (step setup) ok (start clock loaded now registers) labels t) :
    t.modbus = Modbus.Loop.run setup.curveModels now registers t.iterations :=
  h.invariant
    (I := fun s => s.modbus = Modbus.Loop.run setup.curveModels now registers s.iterations) rfl
    fun _ _ _ hs _ hstep => modbus_next hs (next_of_step hstep)

end Bridge

end Sep2Bridge
