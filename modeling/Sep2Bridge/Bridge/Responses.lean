import Sep2Bridge.Bridge.Channels
import Sep2Bridge.Connection.ResponseQueue

/-!
# The responses to controls

The loop of the scheduler and its wait task ask for responses. Each goes through the dispatcher and
waits in the queue of the connection task, which sends the oldest when the server is reached, and
drops the oldest when too many wait.

**Theorem (`responses_accounted`).** In any run, an outbox accounts for the responses asked for:
each is settled, waits in the queue or is under way, once and in order, and those that the server
has accepted are those settled as such.
-/

namespace Sep2Bridge

open Lib Connection

/-- What a response says: of which control, its status, and where it goes. -/
abbrev Request := MRIDType × ResponseStatus × String

/-- The response that an event asks for. -/
def Event.request? : Event → Option Request
  | .derControlStatusChanged subject status replyTo => some (subject, status, replyTo)
  | _ => none

namespace Connection

variable {R : Reports} {log : List (Moment R)}

def ControlResponse.request (response : ControlResponse) : Request :=
  (response.subject, response.status, response.replyTo)

def Command.response? : Command R → Option ControlResponse
  | sendControlResponse response => some response
  | _ => none

def Command.request? (command : Command R) : Option Request :=
  command.response?.map ControlResponse.request

theorem filterMap_response (log : List (Moment R)) :
    (commandsIn log).filterMap Command.response? = log.filterMap arrived? := by
  unfold commandsIn
  rw [List.filterMap_map, List.filterMap_filterMap]
  refine List.filterMap_congr fun e _ => ?_
  obtain ⟨⟨s, q⟩, answer⟩ := e
  cases q with
  | recv =>
    rcases answer with _ | command
    · rfl
    · cases command <;> rfl
  | _ => rfl

theorem filterMap_request (log : List (Moment R)) :
    (commandsIn log).filterMap Command.request? =
      (log.filterMap arrived?).map ControlResponse.request := by
  rw [← filterMap_response, List.map_filterMap]
  rfl

end Connection

theorem filterMap_subscriptionRelay (now : Int) (event : Event) :
    (subscriptionRelay now event).filterMap Command.request? = event.request?.toList := by
  cases event <;> rfl

namespace Bridge

variable {M : Type} {setup : Setup} {s t : Bridge M} {labels : List (BridgeLabel M)}
  {clock : DateTime} {loaded : Sep2Model} {now : Nat} {registers : Modbus.Registers}

/-- The responses on the way to the connection task, the first to arrive first. -/
def responsesUnderWay (s : Bridge M) : List Request :=
  s.connectionInput.filterMap Command.request? ++
    s.subscriptions.held.filterMap Command.request? ++
    s.subscriptions.channel.filterMap Event.request? ++ s.published.filterMap Event.request?

/-- The responses broadcast, in this order. -/
def responsesAsked (s : Bridge M) : List Request :=
  (s.subscriptions.sent ++ s.published).filterMap Event.request?

/-- `o` accounts for the responses that were asked for. -/
structure Accounts (setup : Setup) (s : Bridge M) (o : Outbox ControlResponse) : Prop where
  books : Books setup.args (maxResponseQueueSize - 1) s.log o
  valid : o.Valid (s.log.filterMap arrived?)
  waiting : o.waiting = s.connection.controlResponseQueue
  /-- What the server has accepted, each once. -/
  accepted : s.log.filterMap acceptedResponse? = (delivered o).map fun response =>
    (response.replyTo, .derControlResponse (responsePayload setup.args response))
  /-- Each response is settled, waits or is under way. -/
  conserved : s.responsesAsked =
    (o.settled.map Prod.fst ++ o.waiting).map ControlResponse.request ++ s.responsesUnderWay
  /-- The scheduler has asked for these, and for no others. -/
  asked : s.responsesAsked.Perm (s.scheduler.outputCh.filterMap Event.request?)

theorem Flows.responsesAsked_eq (h : s.Flows setup) : s.responsesAsked =
    (s.log.filterMap arrived?).map ControlResponse.request ++ s.responsesUnderWay := by
  have hother (command : Connection.Command deviceReports)
      (hcommand : command.fromScheduler = false) : command.request? = none := by
    cases command <;> first | rfl | cases hcommand
  have hsent := h.subscriptions.conserved_shared filterMap_subscriptionRelay hother
  rw [responsesAsked, List.filterMap_append, hsent, told, List.filterMap_append, filterMap_request]
  simp only [responsesUnderWay, List.append_assoc]

/-- **No response is lost, repeated or made up**, up to the limit of the queue. -/
theorem responses_accounted
    (h : run (step setup) (start clock loaded now registers) labels = some t) :
    ∃ o, t.Accounts setup o := by
  have hexec := exec_true_iff.2 h
  have hflows := flows_of_exec hexec
  have hfits : Fits (maxResponseQueueSize - 1) t.log := .inl (by decide)
  obtain ⟨o, hbooks, hwaiting⟩ := booked_of_iterates (iterates_of_exec hexec) hfits
  refine ⟨o, hbooks, hbooks.valid, hwaiting, hbooks.accepted, ?_, hflows.events.filterMap _⟩
  rw [hflows.responsesAsked_eq, hbooks.valid.conserved]

/-! ## A control that has ended -/

/-- The control ends while the server is not reached. The response to it is sent once it is. -/
def anEnd : List (BridgeLabel Unit) :=
  [.main, .main, .loop (.receive (fun _ => (0, 0)) [])] ++ List.replicate 8 .broadcastEvent ++
    [.loop .schedule, .broadcastEvent, .loop .rearm, .tick (Scheduler.second 24), .wait] ++
    (List.replicate 8 [.takeEvent 0, .forwardCommand]).flatten ++
    [.takeEvent 0, .takeEvent 24, .forwardCommand] ++ List.replicate 10 (.turn unserved) ++
    [.wake .wake, .turn served]

theorem responses_accounted_completed : ∃ t, run (step aSetup) aStart anEnd = some t ∧
    t.responsesAsked = [(4, .eventCompleted, "/rsp")] ∧
    (t.log.filterMap acceptedResponse?).length = 1 ∧ ∃ o, t.Accounts aSetup o := by
  have hrun : (run (step aSetup) aStart anEnd).any (fun t =>
      decide (t.responsesAsked = [(4, .eventCompleted, "/rsp")] ∧
        (t.log.filterMap acceptedResponse?).length = 1)) = true := by
    decide +kernel
  obtain ⟨t, hrun, ht⟩ := (Option.any_eq_true _ _).1 hrun
  obtain ⟨hasked, haccepted⟩ := of_decide_eq_true ht
  exact ⟨t, hrun, hasked, haccepted, responses_accounted hrun⟩

end Bridge

end Sep2Bridge
