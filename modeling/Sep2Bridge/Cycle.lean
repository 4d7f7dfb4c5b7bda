import Sep2Bridge.Connection.Broadcasts
import Sep2Bridge.Dispatch
import Sep2Bridge.Lib.Ring
import Sep2Bridge.Lib.Run
import Sep2Bridge.Scheduler.Task

/-!
# The cycle of the tasks

The resources that the connection task fetches go through `resource_update_dispatcher` to the
scheduler, and the links that the scheduler finds in them go through
`sep2_subscription_and_notification_dispatcher` back to the connection task. Each of the four
channels holds ten messages, and whoever sends to a full one waits. The cycle is a `Lib.Ring`, and
all four tasks wait exactly if it is jammed.

One resource can add any number of links. If they and the commands before them make the connection
task fetch more than the way back to the scheduler holds, the four tasks wait for each other for
good: `refresh_jams` is a bridge that starts with ten programs in its cache.

**Condition:** whenever the cycle takes in more, either at most ten events are not yet relayed, or
at most ten commands come before the last eleven of these, or the resources under way and those
that are fetched for all but the last eleven of these commands are at most 21 (`Fits`).

**Theorem (`never_jammed`).** In a run that meets the condition the tasks never all wait.
-/

namespace Sep2Bridge

open Lib Connection Proc

variable {R : Reports} [DecidableEq R.DERCapability]

/-! ## A turn of the connection task -/

/-- How the server and the clock answer, given what came before. -/
abbrev Environment (R : Reports) := List (Moment R) → (m : Loop R × Query R) → m.2.Answer

/-- The environment of a turn that begins with a command. The channels stay open. -/
def Environment.hearing (env : Environment R) (command : Connection.Command R) : Environment R
  | _, (_, .recv) => some command
  | _, (_, .broadcast _) => true
  | past, m => env past m

/-- One turn of the connection task: the resources it broadcasts, and its local variables after
it. The GETs of a subscription succeed. -/
def connectionTurn (args : Args) (env : Environment R) (command : Connection.Command R)
    (s : Loop R) : Option (List Sep2ResourceEvent × Loop R) :=
  let turn := ((iteration args).run.run s).exec (env.hearing command) []
  if goesOn turn.2.1 = true ∧ (command.isSubscription = true → ∀ e ∈ turn.1, failedGet e = false)
  then some (broadcasts turn.1, turn.2.2)
  else none

/-! ## The cycle -/

/-- The capacity of the channels. -/
def capacity : Nat := 10

structure Cycle (R : Reports) where
  connection : Loop R := {}
  /-- The events of the scheduler, which become commands for the connection task. -/
  events : Leg Event (Connection.Command R) := {}
  /-- The resources of the connection task, which become commands for the scheduler. -/
  resources : Leg Sep2ResourceEvent Command := {}
  /-- The scheduler, apart from what is in its channels. -/
  scheduler : Scheduler

/-- One step of an interleaving. -/
inductive CycleLabel (R : Reports)
  /-- The connection task takes a command. What it broadcasts in this turn is then pending. -/
  | turn (env : Environment R)
  | broadcastResource
  /-- `resource_update_dispatcher` -/
  | takeResource
  | forwardResource
  /-- The scheduler goes on to its next suspension. What it broadcasts there is then pending. -/
  | loop (label : TaskLabel)
  | broadcastEvent
  /-- `sep2_subscription_and_notification_dispatcher` -/
  | takeEvent (now : Int)
  | forwardCommand
  | tick (now : DateTime)
  /-- The wait task of the scheduler sends an event or wakes the loop. -/
  | wait
  /-- The callback of a poll broadcasts a resource. -/
  | poll (resource : Sep2ResourceEvent)
  /-- Another task sends a command to the connection task. -/
  | send (command : Connection.Command R)

/-- The labels of the loop itself. -/
def TaskLabel.isLoop : TaskLabel → Bool
  | .receive .. | .persist _ | .schedule | .rearm => true
  | .tick _ | .send _ | .wait => false

/-- The steps that put more under way. -/
def CycleLabel.takesIn : CycleLabel R → Bool
  | loop _ | wait | poll _ | send _ => true
  | _ => false

namespace Cycle

/-- The start: `main` wakes the connection task, and has the scheduler emit what it knows. -/
def start (clock : DateTime) (loaded : Sep2Model) : Cycle R where
  events := { inbox := [.wake] }
  resources := { inbox := [.refreshActiveResources] }
  scheduler := .start clock loaded

/-- The scheduler with its input channel. -/
def port (s : Cycle R) : Scheduler :=
  { s.scheduler with inputCh := s.resources.inbox, outputCh := [] }

/-- The cycle after a step of the scheduler, which broadcasts directly or makes events pending. -/
def unport (s : Cycle R) (t : Scheduler) : Cycle R :=
  { s with
    resources := { s.resources with inbox := t.inputCh }
    scheduler := { t with inputCh := [], outputCh := [] } }

variable (args : Args) (deviceLfdi : HexBinary160) (s : Cycle R)

def turn (env : Environment R) : Option (Cycle R) :=
  match s.resources.pending, s.events.inbox with
  | [], command :: rest =>
    (connectionTurn args env command s.connection).map fun out =>
      { s with
        connection := out.2
        events := { s.events with inbox := rest }
        resources := { s.resources with pending := out.1 } }
  | _, _ => none

/-- The loop of the scheduler goes on when all it has broadcast is sent. -/
def loop (label : TaskLabel) : Option (Cycle R) :=
  if s.events.pending = [] ∧ label.isLoop = true then
    (s.port.step deviceLfdi label).map fun t =>
      { s.unport t with events := { s.events with pending := t.outputCh } }
  else none

/-- The wait task sends when there is room. -/
def wait : Option (Cycle R) :=
  s.port.wait.bind fun t =>
    if s.events.channel.length + t.outputCh.length ≤ capacity ∧ t.inputCh.length ≤ capacity then
      some { s.unport t with
        events := { s.events with channel := s.events.channel ++ t.outputCh } }
    else none

def poll (resource : Sep2ResourceEvent) : Option (Cycle R) :=
  if s.resources.channel.length < capacity then
    some { s with
      resources := { s.resources with channel := s.resources.channel ++ [resource] } }
  else none

def send (command : Connection.Command R) : Option (Cycle R) :=
  if s.events.inbox.length < capacity then
    some { s with events := { s.events with inbox := s.events.inbox ++ [command] } }
  else none

def step (s : Cycle R) : CycleLabel R → Option (Cycle R)
  | .turn env => s.turn args env
  | .broadcastResource => (s.resources.send capacity).map fun l => { s with resources := l }
  | .takeResource =>
    (s.resources.take fun resource => some (.resourceUpdated resource)).map
      fun l => { s with resources := l }
  | .forwardResource => (s.resources.forward capacity).map fun l => { s with resources := l }
  | .loop label => s.loop deviceLfdi label
  | .broadcastEvent => (s.events.send capacity).map fun l => { s with events := l }
  | .takeEvent now =>
    (s.events.take (sep2SubscriptionAndNotificationDispatcher now)).map
      fun l => { s with events := l }
  | .forwardCommand => (s.events.forward capacity).map fun l => { s with events := l }
  | .tick now => (s.scheduler.tick now).map fun t => { s with scheduler := t }
  | .wait => s.wait
  | .poll resource => s.poll resource
  | .send command => s.send command

/-- All four tasks wait for room in a channel. -/
def Jammed : Prop :=
  (s.resources.pending ≠ [] ∧ s.resources.channel.length = capacity) ∧
    (s.resources.held.isSome = true ∧ s.resources.inbox.length = capacity) ∧
    (s.events.pending ≠ [] ∧ s.events.channel.length = capacity) ∧
    s.events.held.isSome = true ∧ s.events.inbox.length = capacity

/-- The commands that events become, apart from the times of the responses. -/
def commandsOf (events : List Event) : List (Connection.Command R) :=
  events.filterMap (sep2SubscriptionAndNotificationDispatcher 0)

/-- The commands that come before the last `capacity + 1` events. -/
def ahead (events : Leg Event (Connection.Command R)) : List (Connection.Command R) :=
  events.arrived ++ commandsOf (events.raw.rdrop (capacity + 1))

/-- What is under way fits. When all four tasks wait, the last `capacity + 1` events are not taken
yet, nor the last `capacity + 1` commands before them. What is fetched for the others finds room. -/
def Fits (connection : Loop R) (events : Leg Event (Connection.Command R))
    (resources : Leg Sep2ResourceEvent Command) : Prop :=
  events.raw.length ≤ capacity ∨ (ahead events).length ≤ capacity ∨
    resources.load + connection.fetches ((ahead events).rdrop (capacity + 1)) ≤ 2 * capacity + 1

instance (connection : Loop R) (events : Leg Event (Connection.Command R))
    (resources : Leg Sep2ResourceEvent Command) : Decidable (Fits connection events resources) :=
  inferInstanceAs (Decidable (_ ∨ _ ∨ _))

/-- What is taken in with a step fits: the events of the scheduler, what the wait task sends, a
resource that was polled, or another command. -/
def Admits : CycleLabel R → Prop
  | .loop label => ∀ t ∈ s.port.step deviceLfdi label,
    Fits s.connection { s.events with pending := t.outputCh }
      { s.resources with inbox := t.inputCh }
  | .wait => ∀ t ∈ s.port.wait,
    Fits s.connection { s.events with channel := s.events.channel ++ t.outputCh }
      { s.resources with inbox := t.inputCh }
  | .poll resource =>
    Fits s.connection s.events
      { s.resources with channel := s.resources.channel ++ [resource] }
  | .send command =>
    Fits s.connection { s.events with inbox := s.events.inbox ++ [command] } s.resources
  | _ => True

instance : (label : CycleLabel R) → Decidable (s.Admits deviceLfdi label)
  | .loop label => inferInstanceAs (Decidable (∀ t ∈ s.port.step deviceLfdi label, _))
  | .wait => inferInstanceAs (Decidable (∀ t ∈ s.port.wait, _))
  | .poll _ | .send _ => inferInstanceAs (Decidable (Fits ..))
  | .turn _ | .broadcastResource | .takeResource | .forwardResource | .broadcastEvent
  | .takeEvent _ | .forwardCommand | .tick _ => isTrue trivial

/-! ## The ring -/

def wiring (args : Args) :
    Wiring (Loop R) Sep2ResourceEvent Command Event (Connection.Command R) Int where
  cap := capacity
  relayWork := sep2SubscriptionAndNotificationDispatcher
  relayResult := .resourceUpdated
  turn s command out t := ∃ env, connectionTurn args env command s = some (out, t)

def ring : Ring (Loop R) Sep2ResourceEvent Command Event (Connection.Command R) :=
  ⟨s.connection, s.events, s.resources⟩

theorem jammed_iff : s.Jammed ↔ (wiring args).Jammed s.ring := by
  unfold Jammed Wiring.Jammed
  constructor
  · intro h
    exact ⟨⟨h.2.2.1.1, h.2.2.1.2, h.2.2.2.1, h.2.2.2.2⟩, h.1.1, h.1.2, h.2.1.1, h.2.1.2⟩
  · intro h
    exact ⟨⟨h.2.1, h.2.2.1⟩, h.2.2.2, ⟨h.1.1, h.1.2.1⟩, h.1.2.2⟩

/-- What a turn of the connection task is in terms of its cases. -/
theorem turn_of_connectionTurn {env : Environment R} {command : Connection.Command R}
    {s t : Loop R} {out : List Sep2ResourceEvent}
    (h : connectionTurn args env command s = some (out, t)) :
    ∃ l r, Turn args s.beginTurn (⟨(s.beginTurn, .recv), some command⟩ :: l) r t ∧
      out = broadcasts l := by
  let turn := ((iteration args).run.run s).exec (env.hearing command) []
  have hrun : Runs (iteration args) s turn.1 turn.2.1 turn.2.2 := Interaction.runs_exec _ _ []
  obtain ⟨-, hout⟩ := Option.ite_none_right_eq_some.1 h
  cases hout
  exact ⟨_, _, turn_of_runs hrun, rfl⟩

/-- **The tasks by themselves** make steps of the ring. -/
theorem ring_step {label : CycleLabel R} {t : Cycle R} (h : s.step args deviceLfdi label = some t)
    (hquiet : label.takesIn = false) : t.ring = s.ring ∨ (wiring args).Step s.ring t.ring := by
  cases label with
  | turn env =>
    unfold step turn at h
    cases hpending : s.resources.pending with
    | cons _ _ =>
      rw [hpending] at h
      cases h
    | nil =>
      cases hinbox : s.events.inbox with
      | nil =>
        rw [hpending, hinbox] at h
        cases h
      | cons command rest =>
        rw [hpending, hinbox] at h
        obtain ⟨⟨out, u⟩, hturn, rfl⟩ := Option.map_eq_some_iff.1 h
        exact .inr (.turn hpending hinbox ⟨env, hturn⟩)
  | broadcastResource =>
    obtain ⟨l, hl, rfl⟩ := Option.map_eq_some_iff.1 h
    exact .inr (.results (.send hl))
  | takeResource =>
    obtain ⟨l, hl, rfl⟩ := Option.map_eq_some_iff.1 h
    exact .inr (.results (.take () hl))
  | forwardResource =>
    obtain ⟨l, hl, rfl⟩ := Option.map_eq_some_iff.1 h
    exact .inr (.results (.forward hl))
  | broadcastEvent =>
    obtain ⟨l, hl, rfl⟩ := Option.map_eq_some_iff.1 h
    exact .inr (.work (.send hl))
  | takeEvent now =>
    obtain ⟨l, hl, rfl⟩ := Option.map_eq_some_iff.1 h
    exact .inr (.work (.take now hl))
  | forwardCommand =>
    obtain ⟨l, hl, rfl⟩ := Option.map_eq_some_iff.1 h
    exact .inr (.work (.forward hl))
  | tick now =>
    obtain ⟨u, -, rfl⟩ := Option.map_eq_some_iff.1 h
    exact .inl rfl
  | _ => cases hquiet

/-! ### What the commands can fetch -/

/-- A command apart from the time of a response. -/
def untimed : Connection.Command R → Connection.Command R
  | .sendControlResponse response => .sendControlResponse { response with time := 0 }
  | command => command

omit [DecidableEq R.DERCapability] in
theorem newPolls_untimed (polled : String → Bool) (commands : List (Connection.Command R)) :
    newPolls polled (commands.map untimed) = newPolls polled commands := by
  induction commands generalizing polled with
  | nil => rfl
  | cons command commands ih => cases command <;> simp [newPolls, untimed, ih]

omit [DecidableEq R.DERCapability] in
theorem dcapFetches_untimed (linked retrying : Bool) (commands : List (Connection.Command R)) :
    dcapFetches linked retrying (commands.map untimed) = dcapFetches linked retrying commands := by
  induction commands generalizing linked retrying with
  | nil => rfl
  | cons command commands ih =>
    cases command <;>
      simp [dcapFetches, untimed, Command.isSubscription, Command.isWakeCommand,
        Command.isReset, ih]

omit [DecidableEq R.DERCapability] in
theorem fetches_untimed (s : Loop R) (commands : List (Connection.Command R)) :
    s.fetches (commands.map untimed) = s.fetches commands := by
  rw [Loop.fetches, newPolls_untimed, dcapFetches_untimed, Loop.fetches]

omit [DecidableEq R.DERCapability] in
theorem fetches_rdrop (s : Loop R) {commands commands' : List (Connection.Command R)} (n : Nat)
    (h : commands.map untimed = commands'.map untimed) :
    s.fetches (commands.rdrop n) = s.fetches (commands'.rdrop n) := by
  have hlength : commands.length = commands'.length := by
    rw [← List.length_map untimed, h, List.length_map]
  rw [← fetches_untimed, ← fetches_untimed s (commands'.rdrop n), List.rdrop, List.rdrop,
    List.map_take, List.map_take, h, hlength]

omit [DecidableEq R.DERCapability] in
theorem commandsOf_cons (event : Event) (events : List Event) :
    commandsOf (R := R) (event :: events) =
      (sep2SubscriptionAndNotificationDispatcher 0 event).toList ++ commandsOf events := by
  cases event <;> rfl

/-- The dispatcher makes the same of events at any time. -/
theorem untimed_of_relays {events : List Event} {commands : List (Connection.Command R)}
    (h : (wiring args).Relays events commands) :
    commands.map untimed = (commandsOf events).map untimed := by
  induction h with
  | nil => rfl
  | @cons now event events commands _ ih =>
    rw [commandsOf_cons, List.map_append, List.map_append, ih]
    congr 1
    cases event <;> rfl

theorem yields_le {s : Loop R} {commands : List (Connection.Command R)} {n : Nat}
    (h : (wiring args).Yields s commands n) : n ≤ s.fetches commands := by
  induction h with
  | stop => exact Nat.zero_le _
  | turn hturn _ ih =>
    obtain ⟨env, hturn⟩ := hturn
    obtain ⟨l, r, hcases, rfl⟩ := turn_of_connectionTurn args hturn
    exact (Nat.add_le_add_left ih _).trans (fetches_turn _ hcases)

theorem roomy_of_fits {s : Cycle R} (h : Fits s.connection s.events s.resources) :
    (wiring args).Roomy s.ring := by
  refine h.imp_right fun h commands hrelays => ?_
  have hcommands : (s.events.arrived ++ commands).map untimed =
      (s.events.arrived ++ commandsOf (s.events.raw.rdrop (capacity + 1))).map untimed := by
    rw [List.map_append, List.map_append, untimed_of_relays args hrelays]
    rfl
  have hlength := congrArg List.length hcommands
  rw [List.length_map, List.length_map] at hlength
  refine h.imp (fun h => hlength.trans_le h) fun h n hyields => ?_
  have hn := yields_le args hyields
  have hfetches := fetches_rdrop s.connection (capacity + 1) hcommands
  exact (Nat.add_le_add_left (hn.trans_eq hfetches) _).trans h

/-! ### What a list of subscriptions does fetch -/

/-- Every GET succeeds. -/
def Environment.Serves (env : Environment R) : Prop :=
  ∀ past s resource href, ∃ body, env past (s, .get resource href) = .ok body

/-- A subscription fetches all that was counted, if the server answers. -/
theorem exists_connectionTurn {env : Environment R} (henv : Environment.Serves env)
    {command : Connection.Command R} (hsub : command.isSubscription = true) (s : Loop R) :
    ∃ out t, connectionTurn args env command s = some (out, t) ∧
      ∀ rest, out.length + t.fetches rest = s.fetches (command :: rest) := by
  let turn := ((iteration args).run.run s).exec (env.hearing command) []
  have hrun : Runs (iteration args) s turn.1 turn.2.1 turn.2.2 := Interaction.runs_exec _ _ []
  have hcases : Turn args s.beginTurn (⟨(s.beginTurn, .recv), some command⟩ :: turn.1.tail)
    turn.2.1 turn.2.2 := turn_of_runs hrun
  have hget : ∀ e ∈ turn.1, failedGet e = false := by
    intro e he
    obtain ⟨past, hanswer⟩ := Interaction.answer_exec he
    obtain ⟨⟨u, q⟩, answer⟩ := e
    cases q with
    | get resource href =>
      obtain ⟨body, hbody⟩ := henv past u resource href
      have hok : answer = .ok body := hanswer.trans hbody
      rw [hok]
      rfl
    | _ => rfl
  have hend : turn.2.1 = .error .again := (fetches_subscription hsub hcases []).1
  have hgo : goesOn turn.2.1 = true := by rw [hend]; rfl
  refine ⟨broadcasts turn.1, turn.2.2, if_pos ⟨hgo, fun _ => hget⟩, fun rest => ?_⟩
  have hfetches := (fetches_subscription hsub hcases rest).2
  have hnone : turn.1.tail.countP failedGet = 0 := by
    rw [List.countP_eq_zero]
    intro e he
    rw [hget e (List.mem_of_mem_tail he)]
    exact Bool.false_ne_true
  rw [hnone] at hfetches
  exact hfetches

theorem yields_subscriptions {env : Environment R} (henv : Environment.Serves env)
    {commands : List (Connection.Command R)} (hsub : ∀ c ∈ commands, c.isSubscription = true)
    (s : Loop R) : (wiring args).Yields s commands (s.fetches commands) := by
  induction commands generalizing s with
  | nil => exact .stop _ _
  | cons command rest ih =>
    have hcommand := hsub command List.mem_cons_self
    obtain ⟨out, t, hturn, hfetches⟩ := exists_connectionTurn args henv hcommand s
    rw [← hfetches rest]
    exact .turn ⟨env, hturn⟩ (ih (fun c hc => hsub c (List.mem_cons_of_mem _ hc)) t)

theorem relays_commandsOf (events : List Event) :
    (wiring (R := R) args).Relays events (commandsOf events) := by
  induction events with
  | nil => exact .nil
  | cons event events ih =>
    rw [commandsOf_cons]
    exact .cons (w := wiring args) (0 : Int) event ih

/-! ## The condition -/

/-- A step that is admitted leaves room. -/
theorem roomy_step {label : CycleLabel R} {s t : Cycle R} (hroomy : (wiring args).Roomy s.ring)
    (hadmits : s.Admits deviceLfdi label) (h : s.step args deviceLfdi label = some t) :
    (wiring args).Roomy t.ring := by
  cases label with
  | loop label =>
    unfold step loop at h
    obtain ⟨⟨hpending, -⟩, h⟩ := Option.ite_none_right_eq_some.1 h
    obtain ⟨u, hu, rfl⟩ := Option.map_eq_some_iff.1 h
    exact roomy_of_fits args (hadmits u hu)
  | wait =>
    obtain ⟨u, hu, h⟩ := Option.bind_eq_some_iff.1 h
    obtain ⟨-, h⟩ := Option.ite_none_right_eq_some.1 h
    cases h
    exact roomy_of_fits args (hadmits u hu)
  | poll resource =>
    obtain ⟨-, h⟩ := Option.ite_none_right_eq_some.1 h
    cases h
    exact roomy_of_fits args hadmits
  | send command =>
    obtain ⟨-, h⟩ := Option.ite_none_right_eq_some.1 h
    cases h
    exact roomy_of_fits args hadmits
  | _ =>
    obtain hring | hstep := ring_step args deviceLfdi s h rfl
    · rw [hring]
      exact hroomy
    · exact hroomy.step hstep

/-- **The tasks never all wait**, from the start on, if whatever is taken in fits. -/
theorem never_jammed {clock : DateTime} {loaded : Sep2Model} {labels : List (CycleLabel R)}
    {t : Cycle R}
    (h : Exec (step args deviceLfdi) (Admits deviceLfdi) (start clock loaded) labels t) :
    ¬t.Jammed := by
  have hstart : (wiring args).Roomy (start (R := R) clock loaded).ring := .inl (Nat.zero_le _)
  have hroomy : (wiring args).Roomy t.ring :=
    h.invariant hstart fun _ _ _ hs hadmits hstep => roomy_step args deviceLfdi hs hadmits hstep
  rw [jammed_iff args]
  exact hroomy.not_jammed

/-- An empty answer. -/
def emptyBody : (resource : Resource) → resource.Body
  | .deviceCapability => ({} : DeviceCapability)
  | .endDeviceList => ({} : EndDeviceList)
  | .endDevice => ({} : EndDevice)
  | .registration => (⟨0⟩ : Registration)
  | .derList => ({} : DERList)
  | .mirrorUsagePointList => ({} : MirrorUsagePointList)
  | .time => ({} : Time)
  | .functionSetAssignmentsList => ({} : FunctionSetAssignmentsList)
  | .derProgramList => ({} : DERProgramList)
  | .derControlList => ({} : DERControlList)
  | .defaultDerControl => ({} : DefaultDERControl)
  | .derCurveList => ({} : DERCurveList)

/-- A server that answers every GET. -/
def serving : Environment NoReports
  | _, (_, .get resource _) => .ok (emptyBody resource)
  | past, m => scripted [] past m

/-- What has a link is fetched, and reaches the scheduler. -/
def aFetch : List (CycleLabel NoReports) :=
  [.loop (.receive (fun _ => (0, 0)) []), .turn (unreachable []), .broadcastEvent, .takeEvent 0,
    .forwardCommand, .turn serving, .broadcastResource, .takeResource, .forwardResource,
    .loop .schedule, .loop .rearm]

theorem never_jammed_fetching : ∃ t : Cycle NoReports,
    Exec (step ourArgs 7) (Admits 7) (start (datetimeFromInt64 0)
      { dcap := some { endDeviceListLink := some ⟨"/edev"⟩ } }) aFetch t ∧
      t.resources.inbox = [.resourceUpdated (.endDeviceList {})] ∧ ¬t.Jammed := by
  have hrun : (runIf (step (R := NoReports) ourArgs 7) (Admits 7) (start (datetimeFromInt64 0)
      { dcap := some { endDeviceListLink := some ⟨"/edev"⟩ } }) aFetch).any (fun t =>
        decide (t.resources.inbox = [.resourceUpdated (.endDeviceList {})])) = true := by
    decide +kernel
  obtain ⟨t, hrun, ht⟩ := (Option.any_eq_true _ _).1 hrun
  have hexec := exec_iff_runIf.2 hrun
  exact ⟨t, hexec, of_decide_eq_true ht, never_jammed ourArgs 7 hexec⟩

/-! ## A cycle that comes to a halt -/

/-- Each step of the ring is one of the tasks. -/
theorem exists_step {s : Cycle R} {r : Ring (Loop R) Sep2ResourceEvent Command Event
    (Connection.Command R)} (h : (wiring args).Step s.ring r) :
    ∃ label t, s.step args deviceLfdi label = some t ∧ t.ring = r := by
  cases h with
  | @turn command rest out t hpending hinbox hturn =>
    obtain ⟨env, hturn⟩ := hturn
    have hpending : s.resources.pending = [] := hpending
    have hinbox : s.events.inbox = command :: rest := hinbox
    refine ⟨.turn env, { s with
      connection := t
      events := { s.events with inbox := rest }
      resources := { s.resources with pending := out } }, ?_, rfl⟩
    show s.turn args env = _
    unfold turn
    rw [hpending, hinbox]
    exact Option.map_eq_some_iff.2 ⟨(out, t), hturn, rfl⟩
  | work hmove =>
    cases hmove with
    | send h => exact ⟨.broadcastEvent, _, Option.map_eq_some_iff.2 ⟨_, h, rfl⟩, rfl⟩
    | take now h => exact ⟨.takeEvent now, _, Option.map_eq_some_iff.2 ⟨_, h, rfl⟩, rfl⟩
    | forward h => exact ⟨.forwardCommand, _, Option.map_eq_some_iff.2 ⟨_, h, rfl⟩, rfl⟩
  | results hmove =>
    cases hmove with
    | send h => exact ⟨.broadcastResource, _, Option.map_eq_some_iff.2 ⟨_, h, rfl⟩, rfl⟩
    | take _ h => exact ⟨.takeResource, _, Option.map_eq_some_iff.2 ⟨_, h, rfl⟩, rfl⟩
    | forward h => exact ⟨.forwardResource, _, Option.map_eq_some_iff.2 ⟨_, h, rfl⟩, rfl⟩

theorem exists_run {s : Cycle R} {r : Ring (Loop R) Sep2ResourceEvent Command Event
    (Connection.Command R)} (h : Relation.ReflTransGen (wiring args).Step s.ring r) :
    ∃ labels t, run (step args deviceLfdi) s labels = some t ∧ t.ring = r := by
  induction h with
  | refl => exact ⟨[], s, rfl, rfl⟩
  | tail _ hstep ih =>
    obtain ⟨labels, t, hrun, rfl⟩ := ih
    obtain ⟨label, u, hlabel, hu⟩ := exists_step args deviceLfdi hstep
    refine ⟨labels ++ [label], u, run_append_eq_some.2 ⟨t, hrun, ?_⟩, hu⟩
    exact run_cons_eq_some.2 ⟨u, hlabel, rfl⟩

/-- **Subscriptions that do not fit** bring the cycle to a halt. -/
theorem exists_jammed {env : Environment R} (henv : Environment.Serves env) {s : Cycle R}
    (hevents : s.events.Within capacity) (hresources : s.resources.Within capacity)
    (hsub : ∀ c ∈ ahead s.events, c.isSubscription = true)
    (h : ¬Fits s.connection s.events s.resources) :
    ∃ labels t, run (step args deviceLfdi) s labels = some t ∧ t.Jammed := by
  obtain ⟨hraw, h⟩ := not_or.1 h
  obtain ⟨hahead, hload⟩ := not_or.1 h
  have hroomy : ¬(wiring args).Roomy s.ring := by
    refine Wiring.not_roomy_iff.2 ⟨not_le.1 hraw, _, relays_commandsOf args _,
      not_le.1 hahead, _, ?_, not_le.1 hload⟩
    exact yields_subscriptions args henv (fun c hc => hsub c (List.mem_of_mem_take hc)) _
  have hcap : 0 < (wiring (R := R) args).cap := Nat.zero_lt_succ 9
  have hwithin : (wiring args).Within s.ring := ⟨hevents, hresources⟩
  obtain ⟨r, hsteps, hjam⟩ := Wiring.exists_jammed hcap hwithin hroomy
  obtain ⟨labels, t, hrun, rfl⟩ := exists_run args deviceLfdi hsteps
  exact ⟨labels, t, hrun, (jammed_iff args t).2 hjam⟩

/-- A program with its links. -/
def program (i : Nat) : DERProgram where
  mrid := i
  href := some ("/p" ++ toString i)
  defaultDerControlLink := some ⟨"/d" ++ toString i⟩
  derControlListLink := some ⟨"/c" ++ toString i⟩
  derCurveListLink := some ⟨"/v" ++ toString i⟩

/-- A cached model: our device, with one assignment of ten programs. -/
def tenPrograms : Sep2Model where
  endDeviceList := some ⟨"/edev", [7], none⟩
  endDevices := (∅ : HashMap _ _).insert 7
    { href := some "/edev/7", lfdi := some 7, functionSetAssignmentsListLink := some ⟨"/fsa"⟩ }
  functionSetAssignmentsLists := (∅ : HashMap _ _).insert "/fsa" ⟨"/fsa", [1], none⟩
  functionSetAssignments := (∅ : HashMap _ _).insert 1
    { mrid := 1, href := some "/fsa/1", derProgramListLink := some ⟨"/derp"⟩ }
  programLists := (∅ : HashMap _ _).insert "/derp" ⟨"/derp", List.range 10, none⟩
  programs := (List.range 10).foldl (fun programs i => programs.insert i (program i)) ∅

/-- The first step of each task: all known links become pending, and the connection task wakes
while the server is not reachable. -/
def firstSteps : List (CycleLabel NoReports) :=
  [.loop (.receive (fun _ => (0, 0)) []), .turn (unreachable [])]

/-- With ten programs in the cache, the tasks come to wait for each other. -/
theorem refresh_jams : ∃ labels t,
    run (step (R := NoReports) ourArgs 7) (start (datetimeFromInt64 0) tenPrograms) labels =
      some t ∧ t.Jammed := by
  have hfirst : (run (step (R := NoReports) ourArgs 7) (start (datetimeFromInt64 0) tenPrograms)
      firstSteps).any (fun s => decide (s.events.Within capacity ∧ s.resources.Within capacity ∧
        (∀ c ∈ ahead s.events, c.isSubscription = true) ∧
          ¬Fits s.connection s.events s.resources)) = true := by
    decide +kernel
  obtain ⟨s, hrun, hs⟩ := (Option.any_eq_true _ _).1 hfirst
  obtain ⟨hevents, hresources, hsub, hfits⟩ := of_decide_eq_true hs
  have hserves : Environment.Serves serving := fun _ _ _ _ => ⟨_, rfl⟩
  obtain ⟨labels, t, hlabels, hjam⟩ :=
    exists_jammed ourArgs 7 hserves hevents hresources hsub hfits
  exact ⟨firstSteps ++ labels, t, run_append_eq_some.2 ⟨s, hrun, hlabels⟩, hjam⟩

end Cycle

end Sep2Bridge
