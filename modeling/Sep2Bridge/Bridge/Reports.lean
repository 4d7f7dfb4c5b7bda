import Sep2Bridge.Bridge.Channels
import Sep2Bridge.Connection.Accepted

/-!
# The reports of the device

What the modbus task polls is translated and reaches the connection task, which PUTs it when it is
due. The readings of the clock are those of the dispatcher.

**Theorem (`reports_arrive`).** What was polled is taken in or under way. The settings that the
server has accepted are translations of states taken in, in order and each at most once, and so for
the status. When nothing is under way, the last that translates is accepted or still to be sent.
-/

namespace Sep2Bridge

open Lib Connection

variable {M : Type}

/-- A state of the device that was polled, with the clock for its reports. -/
abbrev Taken (M : Type) : Type := ReportClock × Modbus.Event M Modbus.Capabilities DeviceState

/-- The settings that are reported of what was polled. -/
def settingsReport? : Taken M → Option Modbus.DERSettings
  | (clock, .statePolled (_, settings, _)) =>
    (settings.map (Modbus.Settings.toDERSettings clock.settings)).bind Except.toOption
  | _ => none

/-- The status that is reported of what was polled. -/
def statusReport? : Taken M → Option Modbus.DERStatus
  | (clock, .statePolled (status, _, _)) =>
    (status.map (Modbus.toDERStatus clock.status)).bind Except.toOption
  | _ => none

section Translated

variable {α γ : Type} (make : α → Connection.Command deviceReports)
  (report : Option (Except Modbus.NamedError α))

/-- What is read off the reports of its own kind. -/
theorem filterMap_sendTranslated {f : Connection.Command deviceReports → Option α}
    (hf : ∀ report, f (make report) = some report) :
    (sendTranslated make report).filterMap f = (report.bind Except.toOption).toList := by
  unfold sendTranslated
  rw [List.filterMap_map, Function.comp_def]
  simp only [hf, List.filterMap_some]

/-- Nothing is read off the reports of another kind. -/
theorem filterMap_sendTranslated_other {f : Connection.Command deviceReports → Option γ}
    (hf : ∀ report, f (make report) = none) : (sendTranslated make report).filterMap f = [] := by
  unfold sendTranslated
  rw [List.filterMap_map]
  exact List.filterMap_eq_nil_iff.2 fun report _ => hf report

end Translated

theorem filterMap_settings (clock : ReportClock)
    (event : Modbus.Event M Modbus.Capabilities DeviceState) :
    (sep2DeviceStateDispatcher clock event).filterMap Connection.Command.settings? =
      (settingsReport? (clock, event)).toList := by
  cases event with
  | deviceConnected => rfl
  | capabilitiesPolled cap => exact filterMap_sendTranslated_other _ _ fun _ => rfl
  | statePolled state =>
    obtain ⟨status, settings, metering⟩ := state
    unfold sep2DeviceStateDispatcher
    rw [List.filterMap_append, List.filterMap_append,
      filterMap_sendTranslated_other .sendDeviceStatus _ fun _ => rfl,
      filterMap_sendTranslated .sendDeviceSettings _ fun _ => rfl,
      filterMap_sendTranslated_other .sendMeterReadings _ fun _ => rfl]
    exact List.append_nil _

theorem filterMap_status (clock : ReportClock)
    (event : Modbus.Event M Modbus.Capabilities DeviceState) :
    (sep2DeviceStateDispatcher clock event).filterMap Connection.Command.status? =
      (statusReport? (clock, event)).toList := by
  cases event with
  | deviceConnected => rfl
  | capabilitiesPolled cap => exact filterMap_sendTranslated_other _ _ fun _ => rfl
  | statePolled state =>
    obtain ⟨status, settings, metering⟩ := state
    unfold sep2DeviceStateDispatcher
    rw [List.filterMap_append, List.filterMap_append,
      filterMap_sendTranslated .sendDeviceStatus _ fun _ => rfl,
      filterMap_sendTranslated_other .sendDeviceSettings _ fun _ => rfl,
      filterMap_sendTranslated_other .sendMeterReadings _ fun _ => rfl]
    exact (List.append_nil _).trans (List.append_nil _)

namespace Bridge

variable {setup : Setup} {s t : Bridge M} {labels : List (BridgeLabel M)} {clock : DateTime}
  {loaded : Sep2Model} {now : Nat} {registers : Modbus.Registers}

/-- What has become of the reports of one kind. -/
structure Arrives {V : Type} (s : Bridge M) (report? : Taken M → Option V) (accepted : List V)
    (pending : Option V) : Prop where
  inOrder : (accepted ++ pending.toList).Sublist (s.deviceState.taken.filterMap report?)
  last : s.deviceState.held = [] → s.connectionInput = [] →
    (accepted ++ pending.toList).getLast? = (s.deviceState.taken.filterMap report?).getLast?

/-- What the connection task makes of the reports that reach it. -/
theorem Flows.arrives {V : Type} {report? : Taken M → Option V}
    {value? : Connection.Command deviceReports → Option V} {accepted : List V} {pending : Option V}
    (hs : s.Flows setup) (hreport : ∀ clock event,
      (sep2DeviceStateDispatcher clock event).filterMap value? = (report? (clock, event)).toList)
    (hother : ∀ command, command.fromDevice = false → value? command = none)
    (h : Arriving ((commandsIn s.log).filterMap value?) accepted pending) :
    s.Arrives report? accepted pending := by
  have hmade : s.deviceState.taken.filterMap report? = (commandsIn s.log).filterMap value? ++
      (s.connectionInput.filterMap value? ++ s.deviceState.held.filterMap value?) := by
    rw [← Relay.filterMap_made hreport, hs.deviceState, List.filterMap_append,
      Relay.filterMap_shared hother, told, List.filterMap_append, List.append_assoc]
  refine ⟨?_, fun hheld hinput => ?_⟩
  · rw [hmade]
    exact h.inOrder.trans (List.sublist_append_left _ _)
  · rw [hheld, hinput] at hmade
    rw [hmade]
    exact h.last.trans (congrArg List.getLast? (List.append_nil _).symm)

/-- **What arrives** at the server of the settings and of the status of the device. -/
theorem reports_arrive (h : run (step setup) (start clock loaded now registers) labels = some t) :
    t.deviceState.taken.map Prod.snd ++ t.deviceState.channel ++ t.polled = t.modbus.outputCh ∧
      t.Arrives settingsReport? (acceptedBy settings? t.log) t.connection.latestDeviceSettings ∧
      t.Arrives statusReport? (acceptedBy status? t.log) t.connection.latestDeviceStatus := by
  have hexec := exec_true_iff.2 h
  have hflows := flows_of_exec hexec
  obtain ⟨hsettings, hstatus⟩ := arriving_of_iterates (iterates_of_exec hexec)
  refine ⟨hflows.polled, hflows.arrives filterMap_settings (fun command hcommand => ?_) hsettings,
    hflows.arrives filterMap_status (fun command hcommand => ?_) hstatus⟩
  · cases command <;> first | rfl | cases hcommand
  · cases command <;> first | rfl | cases hcommand

/-! ## A report -/

/-- A poll of a device that reports a state of charge of 50 %. -/
def aPoll : Modbus.Iteration Unit Modbus.Capabilities DeviceState :=
  { anIteration none with
    now := 1001
    poll := .ok (pollDeviceState none none (some ⟨some 50, none⟩)) }

/-- The state is polled, and its status accepted. -/
def aReport : List (BridgeLabel Unit) :=
  [.main, .iterate aPoll, .broadcastPolled, .broadcastPolled, .takePolled ⟨⟨1, 2, 3, 4⟩, 5, 6⟩,
    .takePolled ⟨⟨1, 2, 3, 4⟩, 5, 6⟩, .forwardReport, .turn served, .broadcastResource,
    .turn served]

abbrev anEmptyStart : Bridge Unit := start (Scheduler.second 6) {} 0 .initial

theorem reports_arrive_status : ∃ t, run (step aSetup) anEmptyStart aReport = some t ∧
    (acceptedBy status? t.log).map Modbus.DERStatus.stateOfChargeStatus = [some ⟨3, 5000⟩] ∧
    t.deviceState.taken.map Prod.snd ++ t.deviceState.channel ++ t.polled = t.modbus.outputCh ∧
      t.Arrives settingsReport? (acceptedBy settings? t.log) t.connection.latestDeviceSettings ∧
      t.Arrives statusReport? (acceptedBy status? t.log) t.connection.latestDeviceStatus := by
  have hrun : (run (step aSetup) anEmptyStart aReport).any (fun t =>
      decide ((acceptedBy status? t.log).map Modbus.DERStatus.stateOfChargeStatus =
        [some ⟨3, 5000⟩])) = true := by
    decide +kernel
  obtain ⟨t, hrun, ht⟩ := (Option.any_eq_true _ _).1 hrun
  exact ⟨t, hrun, of_decide_eq_true ht, reports_arrive hrun⟩

end Bridge

end Sep2Bridge
