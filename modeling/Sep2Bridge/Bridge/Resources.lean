import Sep2Bridge.Bridge.Channels
import Sep2Bridge.Connection.Broadcasts
import Sep2Bridge.Scheduler.Idempotent

/-!
# The resources of the server

The connection task broadcasts the resources that it fetches, and the callbacks of the polls those
that are polled. The scheduler takes in one after the other.

**Theorem (`model_absorbs`).** In any run, the model of the scheduler is what it has loaded, with
the resources absorbed that were broadcast first. Those that were broadcast since are under way, and
the connection task still has to send what else it has fetched.
-/

namespace Sep2Bridge

open Lib Connection

/-! ## What the scheduler takes in -/

namespace Scheduler

variable {lfdi : HexBinary160} {s t : Scheduler}

/-- The resources that wait to be taken in. -/
def waitingResources (s : Scheduler) : List Sep2ResourceEvent :=
  s.inputCh.filterMap Command.resource?

theorem waitingResources_send (command : Command) :
    (s.send command).waitingResources = s.waitingResources ++ command.resource?.toList := by
  unfold waitingResources send
  rw [List.filterMap_append]
  cases command <;> rfl

/-- What a step does with the model and with the resources that wait. -/
inductive TakesIn (s t : Scheduler) : Prop
  | none : t.model = s.model → t.waitingResources = s.waitingResources → TakesIn s t
  | absorbs {update : Surroundings × Sep2ResourceEvent} :
      s.model.step update = some t.model →
      s.waitingResources = update.2 :: t.waitingResources → TakesIn s t

theorem takesIn_step {l : TaskLabel} (hl : ∀ command, l ≠ .send command)
    (h : s.step lfdi l = some t) : TakesIn s t := by
  cases l with
  | tick now =>
    obtain ⟨-, rfl⟩ := tick_eq_some.1 h
    exact .none rfl rfl
  | send command => exact absurd rfl (hl command)
  | receive seeds order =>
    obtain ⟨-, command, rest, hinput, ⟨rfl, rfl⟩ | ⟨rfl, rfl⟩ |
      ⟨resource, model, events, rfl, hupdate, rfl⟩⟩ := receive_eq_some h
    · refine .none rfl ?_
      rw [waitingResources, waitingResources, hinput]
      rfl
    · refine .none rfl ?_
      rw [waitingResources, waitingResources, hinput]
      rfl
    · have hstep : s.model.step
          (⟨fun i => ⟨(seeds i).1, (seeds i).2, s.clock.timestamp⟩, order⟩, resource) =
            some model := Option.map_eq_some_iff.2 ⟨_, hupdate, rfl⟩
      refine .absorbs hstep ?_
      rw [waitingResources, waitingResources, hinput]
      rfl
  | persist succeeds =>
    obtain ⟨-, _, rfl⟩ := persist_cases h
    exact .none rfl rfl
  | schedule =>
    obtain ⟨-, rfl⟩ := schedule_eq_some h
    exact .none rfl rfl
  | rearm =>
    obtain ⟨now, -, ⟨-, -, rfl⟩ | ⟨-, rfl⟩⟩ := rearm_cases h <;> exact .none rfl rfl
  | wait =>
    obtain ⟨w, hw, -, ⟨-, rfl⟩ | ⟨-, -, -, ⟨e, rest, hpending, rfl⟩ | ⟨-, rfl⟩⟩⟩ := wait_cases h
    · exact .none rfl rfl
    · exact .none rfl rfl
    · refine .none rfl ?_
      rw [waitingResources, List.filterMap_append]
      exact List.append_nil _

end Scheduler

theorem resource_of_resourceUpdateDispatcher (i : Unit) (resource : Sep2ResourceEvent) :
    ∀ command ∈ resourceUpdateDispatcher i resource, command.resource?.isSome = true := by
  intro command h
  rw [List.mem_singleton.1 h]
  rfl

theorem filterMap_resourceUpdateDispatcher (i : Unit) (resource : Sep2ResourceEvent) :
    (resourceUpdateDispatcher i resource).filterMap Command.resource? = (some resource).toList :=
  rfl

/-- What the callback of a poll broadcasts. -/
def BridgeLabel.polled? {M : Type} : BridgeLabel M → Option Sep2ResourceEvent
  | .poll resource => some resource
  | _ => none

namespace Bridge

variable {M : Type} {setup : Setup} {s t : Bridge M} {l : BridgeLabel M}
  {labels : List (BridgeLabel M)} {clock : DateTime} {loaded : Sep2Model} {now : Nat}
  {registers : Modbus.Registers}

/-! ## What is absorbed -/

/-- The resources that were broadcast are those absorbed, those that wait, and those on the way. -/
def Absorbed (loaded : Sep2Model) (s : Bridge M) : Prop :=
  ∃ updates, run Sep2Model.step loaded updates = some s.scheduler.model ∧
    s.resources.Passed resourceUpdateDispatcher
      ((updates.map Prod.snd ++ s.scheduler.waitingResources).map Command.resourceUpdated)

theorem Absorbed.scheduler (hs : s.Absorbed loaded) (h : s.scheduler.TakesIn t.scheduler)
    (hresources : t.resources = s.resources) : t.Absorbed loaded := by
  obtain ⟨updates, hrun, hpassed⟩ := hs
  unfold Absorbed
  rw [hresources]
  cases h with
  | none hmodel hwaiting => exact ⟨updates, hmodel ▸ hrun, hwaiting ▸ hpassed⟩
  | @absorbs update hmodel hwaiting =>
    refine ⟨updates ++ [update], run_append_eq_some.2 ⟨_, hrun, ?_⟩, ?_⟩
    · exact run_cons_eq_some.2 ⟨_, hmodel, rfl⟩
    · rw [hwaiting] at hpassed
      rw [List.map_append (f := Prod.snd), List.append_assoc]
      exact hpassed

/-- **Step lemma.** -/
theorem Absorbed.next (hs : s.Absorbed loaded) (h : s.Next setup l t) : t.Absorbed loaded := by
  have hstep (label : TaskLabel) {u : Scheduler} (hlabel : ∀ command, label ≠ .send command)
      (h : s.scheduler.step setup.lfdi label = some u) : s.scheduler.TakesIn u :=
    Scheduler.takesIn_step hlabel h
  cases h with
  | refreshing =>
    refine hs.scheduler (.none rfl ?_) rfl
    exact (Scheduler.waitingResources_send _).trans (List.append_nil _)
  | broadcastResource => exact hs
  | poll => exact hs
  | takeResource htake =>
    obtain ⟨updates, hrun, hpassed⟩ := hs
    exact ⟨updates, hrun, hpassed.take htake⟩
  | @forwardResource command _ hpass =>
    obtain ⟨updates, hrun, hpassed⟩ := hs
    refine ⟨updates, hrun, ?_⟩
    have hresource := hpassed.own_pass resource_of_resourceUpdateDispatcher hpass
    rw [Scheduler.waitingResources_send, ← List.append_assoc, List.map_append]
    cases command with
    | resourceUpdated resource => exact hpassed.pass hpass
    | _ => cases hresource
  | @loop label _ _ _ hlabel hscheduler =>
    refine hs.scheduler (hstep label (fun command heq => ?_) hscheduler) rfl
    rw [heq] at hlabel
    cases hlabel
  | @tick now _ htick => exact hs.scheduler (hstep (.tick now) (fun _ h => by cases h) htick) rfl
  | responds hwait => exact hs.scheduler (hstep .wait (fun _ h => by cases h) hwait) rfl
  | finishes hwait => exact hs.scheduler (hstep .wait (fun _ h => by cases h) hwait) rfl
  | _ => exact hs

theorem absorbed_of_exec {ok : Bridge M → BridgeLabel M → Prop}
    (h : Exec (step setup) ok (start clock loaded now registers) labels t) : t.Absorbed loaded :=
  h.invariant ⟨[], rfl, .start⟩ fun _ _ _ hs _ hstep => hs.next (next_of_step hstep)

/-! ## What is broadcast -/

/-- What the connection task has fetched and the polls have brought, in `labels`, was broadcast, but
for what the connection task still has to send. -/
def Broadcast (labels : List (BridgeLabel M)) (s : Bridge M) : Prop :=
  ∃ fetched, broadcasts s.log = fetched ++ s.fetched ∧
    Merge fetched (labels.filterMap BridgeLabel.polled?) s.resources.sent

/-- **Step lemma.** -/
theorem Broadcast.next (hs : s.Broadcast labels) (h : s.Next setup l t) :
    t.Broadcast (labels ++ [l]) := by
  obtain ⟨fetched, hfetched, hmerge⟩ := hs
  unfold Broadcast
  rw [List.filterMap_append]
  cases h with
  | turn hempty hinput hrun =>
    rw [hempty, List.append_nil] at hfetched
    refine ⟨fetched, ?_, ?_⟩
    · dsimp only
      rw [← hfetched]
      exact List.filterMap_append
    · exact (List.append_nil _).symm ▸ hmerge
  | @broadcastResource resource rest hpending =>
    refine ⟨fetched ++ [resource], ?_, ?_⟩
    · rw [hfetched, hpending]
      exact List.append_cons _ _ _
    · dsimp only
      rw [Relay.sent_send]
      exact (List.append_nil _).symm ▸ hmerge.left resource
  | @poll resource =>
    refine ⟨fetched, hfetched, ?_⟩
    dsimp only
    rw [Relay.sent_send]
    exact hmerge.right resource
  | takeResource htake =>
    refine ⟨fetched, hfetched, ?_⟩
    dsimp only
    rw [Relay.sent_take htake]
    exact (List.append_nil _).symm ▸ hmerge
  | forwardResource hpass =>
    refine ⟨fetched, hfetched, ?_⟩
    dsimp only
    rw [Relay.sent_pass hpass]
    exact (List.append_nil _).symm ▸ hmerge
  | _ => exact ⟨fetched, hfetched, (List.append_nil _).symm ▸ hmerge⟩

theorem broadcast_of_interleaving {ok : Bridge M → BridgeLabel M → Prop}
    (h : Exec (step setup) ok (start clock loaded now registers) labels t) : t.Broadcast labels :=
  h.history ⟨[], rfl, .nil⟩ fun _ _ _ _ hs _ hstep => hs.next (next_of_step hstep)

/-- The resources on the way to the scheduler, the first to arrive first. -/
def resourcesUnderWay (s : Bridge M) : List Sep2ResourceEvent :=
  s.scheduler.waitingResources ++ s.resources.held.filterMap Command.resource? ++
    s.resources.channel

/-- **The model absorbs what is broadcast**, all of it and in order. -/
theorem model_absorbs
    (h : run (step setup) (start clock loaded now registers) labels = some t) :
    ∃ updates fetched, run Sep2Model.step loaded updates = some t.scheduler.model ∧
      broadcasts t.log = fetched ++ t.fetched ∧
      Merge fetched (labels.filterMap BridgeLabel.polled?)
        (updates.map Prod.snd ++ t.resourcesUnderWay) := by
  have hexec := exec_true_iff.2 h
  obtain ⟨updates, hrun, hpassed⟩ := absorbed_of_exec hexec
  obtain ⟨fetched, hfetched, hmerge⟩ := broadcast_of_interleaving hexec
  refine ⟨updates, fetched, hrun, hfetched, ?_⟩
  have hresources (resources : List Sep2ResourceEvent) :
      (resources.map Command.resourceUpdated).filterMap Command.resource? = resources := by
    rw [List.filterMap_map]
    exact List.filterMap_some
  have hsent := hpassed.conserved filterMap_resourceUpdateDispatcher
  rw [List.filterMap_some, List.filterMap_some, hresources] at hsent
  rw [hsent] at hmerge
  simp only [resourcesUnderWay, List.append_assoc] at hmerge ⊢
  exact hmerge

/-! ## A fetch and a poll -/

/-- The connection task fetches a resource, and the time is polled meanwhile. The scheduler takes in
the first. -/
def aFetch : List (BridgeLabel Unit) :=
  [.main, .turn served, .poll (.time { pollRate := some 60 }), .broadcastResource, .takeResource,
    .forwardResource, .takeResource, .forwardResource, .loop (.receive (fun _ => (0, 0)) [])]

abbrev aNewStart : Bridge Unit := start (Scheduler.second 27) {} 0 .initial

theorem model_absorbs_time : ∃ t, run (step aSetup) aNewStart aFetch = some t ∧
    t.scheduler.model.time.pollRate = some 60 ∧ t.resourcesUnderWay = broadcasts t.log ∧
    (broadcasts t.log).length = 1 ∧
    ∃ updates fetched, run Sep2Model.step {} updates = some t.scheduler.model ∧
      broadcasts t.log = fetched ++ t.fetched ∧
      Merge fetched (aFetch.filterMap BridgeLabel.polled?)
        (updates.map Prod.snd ++ t.resourcesUnderWay) := by
  have hrun : (run (step aSetup) aNewStart aFetch).any (fun t =>
      decide (t.scheduler.model.time.pollRate = some 60 ∧
        t.resourcesUnderWay = broadcasts t.log ∧ (broadcasts t.log).length = 1)) = true := by
    decide +kernel
  obtain ⟨t, hrun, ht⟩ := (Option.any_eq_true _ _).1 hrun
  obtain ⟨htime, hunderWay, hbroadcast⟩ := of_decide_eq_true ht
  exact ⟨t, hrun, htime, hunderWay, hbroadcast, model_absorbs hrun⟩

end Bridge

end Sep2Bridge
