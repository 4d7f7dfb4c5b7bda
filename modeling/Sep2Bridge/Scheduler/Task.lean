import Sep2Bridge.Lib.Run
import Sep2Bridge.Scheduler.NextSchedule

/-!
# The scheduler loop

`scheduler::task` and the wait task it spawns, as one machine. The state is the loop's local
variables, the wait task, the two channels and the wall clock. A label is one step of the loop up
to its next suspension, one step of the wait task, a command queued from outside, or the passing
of time, so that a list of labels is an interleaving.

The loop goes round as `receive`, `persist` (after an update only), `schedule` (which reads the
clock and publishes) and `rearm` (which plans the wait task from that same reading). Since the
reading and the planning are separate steps, the wait task can fire in between.

The input channel is a queue without a bound here, and the output channel is the list of all that
was ever broadcast. Neither calculation can fail: `all_controls_for_device` returns no error.
-/

namespace Sep2Bridge

open Lib

/-- `scheduler::Command`. -/
inductive Command
  | nextSchedule
  | resourceUpdated (resource : Sep2ResourceEvent)
  | refreshActiveResources
  deriving DecidableEq

/-- Where a spawned `scheduler_action_task` stands. -/
structure WaitTask where
  nextEventTime : Option DateTime
  nextEvents : List Event
  /-- The events not yet broadcast. -/
  pending : List Event
  finished : Bool
  deriving DecidableEq

/-- Where the loop stands between two suspensions. -/
inductive Phase
  | receiving
  | persisting
  | scheduling
  | rearming (now : DateTime)
  deriving DecidableEq

structure Scheduler where
  clock : DateTime
  inputCh : List Command := []
  outputCh : List Event := []
  phase : Phase := .receiving
  model : Sep2Model := {}
  waitTask : Option WaitTask := none
  priorNextEvents : List Event := []
  priorNextSchedulerTime : Option DateTime := none
  priorParameters : ControlAttributes := {}
  priorPostRates : PostRates := {}
  /-- The model in the persistence file. -/
  persisted : Sep2Model := {}
  /-- The last reading the loop took of the clock. -/
  lastReading : Option DateTime := none
  /-- How many commands have been processed. -/
  processed : Nat := 0
  deriving DecidableEq

/-- One step of an interleaving. -/
inductive TaskLabel
  | tick (now : DateTime)
  | send (command : Command)
  | receive (seeds : Nat → Nat × Nat) (curveOrder : List (MRIDType × DERCurve))
  | persist (succeeds : Bool)
  | schedule
  | rearm
  | wait

namespace Scheduler

/-- The loop at its start, with the model it loads. -/
def start (clock : DateTime) (loaded : Sep2Model) : Scheduler :=
  { clock, model := loaded, persisted := loaded }

/-- The wall clock never goes back. -/
def tick (now : DateTime) (s : Scheduler) : Option Scheduler :=
  if s.clock.timestamp ≤ now.timestamp then some { s with clock := now } else none

def send (command : Command) (s : Scheduler) : Scheduler :=
  { s with inputCh := s.inputCh ++ [command] }

/-- Take a command. An update is applied and its events are broadcast. -/
def receive (seeds : Nat → Nat × Nat) (curveOrder : List (MRIDType × DERCurve)) (s : Scheduler) :
    Option Scheduler :=
  match s.phase, s.inputCh with
  | .receiving, .nextSchedule :: rest => some { s with inputCh := rest, phase := .scheduling }
  | .receiving, .refreshActiveResources :: rest =>
    some { s with
      inputCh := rest
      outputCh := s.outputCh ++ s.model.refreshKnownLinks
      phase := .scheduling }
  | .receiving, .resourceUpdated resource :: rest =>
    let draws := fun i => ⟨(seeds i).1, (seeds i).2, s.clock.timestamp⟩
    (s.model.applyUpdate ⟨draws, curveOrder⟩ resource).map fun updated =>
      { s with
        inputCh := rest
        outputCh := s.outputCh ++ updated.2
        model := updated.1
        phase := .persisting }
  | _, _ => none

/-- A failure to persist is logged and otherwise ignored. -/
def persist (succeeds : Bool) (s : Scheduler) : Option Scheduler :=
  match s.phase with
  | .persisting =>
    some { s with
      persisted := if succeeds then s.model else s.persisted
      phase := .scheduling }
  | _ => none

/-- Publish what changed: the post rates, then the parameters at the clock's reading. -/
def schedule (deviceLfdi : HexBinary160) (s : Scheduler) : Option Scheduler :=
  match s.phase with
  | .scheduling =>
    let curPostRates : PostRates :=
      { der := s.model.derListPollRate deviceLfdi
        mirrorUsagePoint := s.model.mirrorUsagePointPostRate deviceLfdi }
    let now := s.clock
    let curParameters := calcParameters s.model deviceLfdi now.timestamp
    some { s with
      outputCh := s.outputCh ++
        (if curPostRates = s.priorPostRates then [] else [.postRatesChanged curPostRates]) ++
        (if curParameters = s.priorParameters then [] else [.parametersChanged curParameters])
      priorPostRates := curPostRates
      priorParameters := curParameters
      phase := .rearming now
      lastReading := some now }
  | _ => none

/-- Replace the wait task, unless it already waits for what is predicted. -/
def rearm (deviceLfdi : HexBinary160) (s : Scheduler) : Option Scheduler :=
  match s.phase with
  | .rearming now =>
    let next := calcNextScheduleTime s.model deviceLfdi now
    if next.1 = s.priorNextSchedulerTime ∧ next.2 = s.priorNextEvents then
      some { s with phase := .receiving, processed := s.processed + 1 }
    else
      some { s with
        waitTask := some ⟨next.1, next.2, next.2, false⟩
        priorNextSchedulerTime := next.1
        priorNextEvents := next.2
        phase := .receiving
        processed := s.processed + 1 }
  | _ => none

/-- The next step of the wait task: broadcast one event, or wake the loop after the last. Without
a time to wait for it just ends. -/
def wait (s : Scheduler) : Option Scheduler :=
  match s.waitTask with
  | some ⟨none, nextEvents, pending, false⟩ =>
    some { s with waitTask := some ⟨none, nextEvents, pending, true⟩ }
  | some ⟨some time, nextEvents, pending, false⟩ =>
    if time.timestamp ≤ s.clock.timestamp then
      match pending with
      | event :: pending =>
        some { s with
          outputCh := s.outputCh ++ [event]
          waitTask := some ⟨some time, nextEvents, pending, false⟩ }
      | [] =>
        some { s with
          inputCh := s.inputCh ++ [.nextSchedule]
          waitTask := some ⟨some time, nextEvents, [], true⟩ }
    else none
  | _ => none

/-- The scheduler for a device. -/
def step (deviceLfdi : HexBinary160) (s : Scheduler) : TaskLabel → Option Scheduler
  | .tick now => s.tick now
  | .send command => some (s.send command)
  | .receive seeds curveOrder => s.receive seeds curveOrder
  | .persist succeeds => s.persist succeeds
  | .schedule => s.schedule deviceLfdi
  | .rearm => s.rearm deviceLfdi
  | .wait => s.wait

end Scheduler

end Sep2Bridge
