import Sep2Bridge.Bridge.Channels
import Sep2Bridge.Connection.Endings
import Sep2Bridge.Scheduler.Realise

/-!
# The bridge at a standstill

A task that sends into a full channel waits. The bridge is at a standstill when none of its tasks
and dispatchers can go on by itself, so that at most a timer goes off or a server answers a poll.

**Theorem (`standstill_iff`).** That is so exactly if the bridge is jammed: each of the three tasks
waits for room in what the others receive from, and each dispatcher that has received a message
cannot pass it on. The way from the scheduler is then blocked by the connection task, by the modbus
task, or by both.

**Theorem (`standstill_forever`).** From then on nothing moves, whatever happens outside.
-/

namespace Sep2Bridge

open Lib Connection

/-- The steps that the tasks and the dispatchers make as soon as they can. -/
def BridgeLabel.isInner {M : Type} : BridgeLabel M → Bool
  | .tick _ | .wait | .poll _ | .wake _ => false
  | _ => true

/-! ## A control can be drawn -/

/-- The start and the duration can be shifted by at least nothing. The draw panics otherwise. -/
def Sep2ResourceEvent.Drawable : Sep2ResourceEvent → Prop
  | .derControlList controls =>
    ∀ c ∈ controls.derControl, 0 ≤ c.startMagnitude ∧ 0 ≤ c.durationMagnitude
  | _ => True

namespace Sep2Model

theorem setDerControls_isSome {draws : Nat → Draw} {m : Sep2Model} {controls : List DERControl}
    (h : ∀ c ∈ controls, 0 ≤ c.startMagnitude ∧ 0 ≤ c.durationMagnitude) :
    (setDerControls draws m controls).isSome = true := by
  induction controls generalizing draws m with
  | nil => rfl
  | cons c cs ih =>
    obtain ⟨⟨m', events⟩, hset⟩ : ∃ result, m.setDerControl (draws 0) c = some result := by
      unfold setDerControl
      cases m.controls.get? c.mrid with
      | some stored => exact ⟨_, rfl⟩
      | none =>
        obtain ⟨hstart, hduration⟩ := h c List.mem_cons_self
        obtain ⟨startShift, hs, -⟩ := randomRange_bounds hstart (draws 0).startSeed
        obtain ⟨durationShift, hd, -⟩ := randomRange_bounds hduration (draws 0).durationSeed
        rw [realise_eq hs hd]
        exact ⟨_, rfl⟩
    have hrest : (setDerControls (fun i => draws (i + 1)) m' cs).isSome = true :=
      ih fun c hc => h c (List.mem_cons_of_mem _ hc)
    obtain ⟨⟨m'', events'⟩, hsets⟩ := Option.isSome_iff_exists.1 hrest
    simp [setDerControls, hset, hsets]

theorem applyUpdate_isSome {env : Surroundings} {m : Sep2Model} {resource : Sep2ResourceEvent}
    (h : resource.Drawable) : (m.applyUpdate env resource).isSome = true := by
  suffices hset : ∃ merged, m.setResource env.draws resource = some merged by
    obtain ⟨merged, hset⟩ := hset
    exact Option.isSome_iff_exists.2 ⟨_, applyUpdate_eq_some.2 ⟨_, _, hset, rfl, rfl⟩⟩
  cases resource with
  | derControlList controls =>
    show ∃ merged, setDerControlList env.draws m controls = some merged
    unfold setDerControlList
    cases controls.href with
    | none => exact ⟨_, rfl⟩
    | some href => exact Option.isSome_iff_exists.1 (setDerControls_isSome h)
  | _ => exact ⟨_, rfl⟩

end Sep2Model

/-- The loop of a scheduler that has received a command goes on. -/
theorem Scheduler.exists_step {lfdi : HexBinary160} {s : Scheduler} (hinput : s.inputCh ≠ [])
    (hdrawable : ∀ resource ∈ s.inputCh.head?.bind Command.resource?, resource.Drawable) :
    ∃ label, label.isLoop = true ∧ (s.step lfdi label).isSome = true := by
  cases hphase : s.phase with
  | receiving =>
    refine ⟨.receive (fun _ => (0, 0)) [], rfl, ?_⟩
    show (s.receive _ _).isSome = true
    unfold receive
    obtain ⟨command, rest, hcommand⟩ := List.exists_cons_of_ne_nil hinput
    rw [hphase, hcommand]
    cases command with
    | resourceUpdated resource =>
      rw [hcommand] at hdrawable
      rw [Option.isSome_map]
      exact Sep2Model.applyUpdate_isSome (hdrawable resource rfl)
    | _ => rfl
  | persisting =>
    refine ⟨.persist true, rfl, ?_⟩
    show (s.persist true).isSome = true
    rw [persist, hphase]
    rfl
  | scheduling =>
    refine ⟨.schedule, rfl, ?_⟩
    show (s.schedule lfdi).isSome = true
    rw [schedule, hphase]
    rfl
  | rearming now =>
    refine ⟨.rearm, rfl, ?_⟩
    show (s.rearm lfdi).isSome = true
    rw [rearm, hphase]
    dsimp only
    split_ifs <;> rfl

namespace Bridge

variable {M : Type} {setup : Setup} {s t : Bridge M} {l : BridgeLabel M}
  {labels : List (BridgeLabel M)}

/-- No task and no dispatcher can go on. -/
def Standstill (setup : Setup) (s : Bridge M) : Prop :=
  ∀ l : BridgeLabel M, l.isInner = true → step setup s l = none

/-- Each task waits for room, and each dispatcher for room or for a message. -/
structure Jammed (s : Bridge M) : Prop where
  fetched : s.fetched ≠ []
  resourcesFull : capacity ≤ s.resources.channel.length
  resourcesHeld : s.resources.held ≠ []
  schedulerFull : capacity ≤ s.scheduler.inputCh.length
  published : s.published ≠ []
  /-- The slower dispatcher of the two has not received the events before. -/
  eventsFull : capacity ≤ s.subscriptions.channel.length ∨ capacity ≤ s.controls.channel.length
  subscriptionsHeld : s.subscriptions.channel ≠ [] → s.subscriptions.held ≠ []
  controlsHeld : s.controls.channel ≠ [] → s.controls.held ≠ []
  modbusFull : s.controls.held ≠ [] → capacity ≤ s.modbusInput.length
  polled : s.polled ≠ []
  deviceStateFull : capacity ≤ s.deviceState.channel.length
  deviceStateHeld : s.deviceState.held ≠ []
  connectionFull : capacity ≤ s.connectionInput.length

/-! ## What goes on when there is room -/

/-- The connection task goes on when it has received a command: no server can end it that does not
answer. -/
theorem exists_turn (hfetched : s.fetched = []) (hinput : s.connectionInput ≠ []) :
    ∃ env, (s.turn setup env).isSome = true := by
  obtain ⟨command, rest, hcommand⟩ := List.exists_cons_of_ne_nil hinput
  refine ⟨unserved, ?_⟩
  unfold turn
  rw [hfetched, hcommand]
  let turn := (setup.iteration.run.run s.connection).exec
    (Environment.hearing unserved command) s.log
  have hrun : Proc.Runs setup.iteration s.connection turn.1 turn.2.1 turn.2.2 :=
    Interaction.runs_exec _ _ _
  have hnone : endings setup.args turn.1 = [] := by
    unfold endings
    split_ifs
    · rfl
    · refine List.filterMap_eq_nil_iff.2 fun e he => ?_
      obtain ⟨past, hanswer⟩ := Interaction.answer_exec he
      obtain ⟨⟨u, q⟩, answer⟩ := e
      cases q with
      | recv =>
        cases hanswer
        rfl
      | broadcast resource =>
        cases hanswer
        rfl
      | get resource href =>
        cases hanswer
        cases resource <;> rfl
      | _ => rfl
  have hgo : goesOn turn.2.1 = true := by
    rw [goesOn_iff, ← endings_eq hrun]
    exact hnone
  show (if goesOn turn.2.1 = true then some _ else none).isSome = true
  rw [if_pos hgo]
  rfl

/-- An iteration in which the device is not reached. -/
def unreached (command : Option Modbus.Parameters) :
    Modbus.Iteration M Modbus.Capabilities DeviceState where
  command
  connect := .err
  registers := .initial
  device := .plain none
  send := .err
  written := 0
  now := 0
  poll := .err
  polledAt := 0

theorem nonempty_of_full {α : Type} {l : List α} (h : capacity ≤ l.length) : l ≠ [] := by
  rintro rfl
  cases h

/-- What a dispatcher holds it passes on, when there is room. -/
theorem pass_of_held {α β ι : Type} {r : Relay ι α β} (h : r.held ≠ []) :
    ∃ b r', r.pass = some (b, r') := by
  obtain ⟨b, rest, hheld⟩ := List.exists_cons_of_ne_nil h
  exact ⟨b, _, Relay.pass_eq_some.2 ⟨rest, hheld, rfl⟩⟩

section Standstill

variable (h : s.Standstill setup)

include h

theorem Standstill.polled : s.polled ≠ [] := by
  intro hpolled
  have hnone := h (.iterate (unreached s.modbusInput.head?)) rfl
  rw [step, iterate, if_pos ⟨hpolled, rfl⟩] at hnone
  cases hnone

theorem Standstill.deviceStateFull : capacity ≤ s.deviceState.channel.length := by
  have hnone := h .broadcastPolled rfl
  obtain ⟨event, rest, hpolled⟩ := List.exists_cons_of_ne_nil h.polled
  rw [step, broadcastPolled, hpolled] at hnone
  by_contra hfull
  dsimp only at hnone
  rw [if_pos (Nat.lt_of_not_le hfull)] at hnone
  cases hnone

theorem Standstill.deviceStateHeld : s.deviceState.held ≠ [] := by
  have hnone := h (.takePolled ⟨⟨0, 0, 0, 0⟩, 0, 0⟩) rfl
  rw [step, Option.map_eq_none_iff, Relay.take_eq_none] at hnone
  exact hnone (nonempty_of_full h.deviceStateFull)

theorem Standstill.connectionFull : capacity ≤ s.connectionInput.length := by
  have hnone := h .forwardReport rfl
  obtain ⟨command, deviceState, hpass⟩ := pass_of_held h.deviceStateHeld
  rw [step, hpass, Option.bind_some] at hnone
  by_contra hfull
  dsimp only [tell] at hnone
  rw [if_pos (Nat.lt_of_not_le hfull)] at hnone
  cases hnone

theorem Standstill.fetched : s.fetched ≠ [] := by
  intro hfetched
  obtain ⟨env, hturn⟩ := exists_turn hfetched (nonempty_of_full h.connectionFull)
  have hnone : s.turn setup env = none := h (.turn env) rfl
  rw [hnone] at hturn
  cases hturn

theorem Standstill.resourcesFull : capacity ≤ s.resources.channel.length := by
  have hnone := h .broadcastResource rfl
  obtain ⟨resource, rest, hfetched⟩ := List.exists_cons_of_ne_nil h.fetched
  rw [step, broadcastResource, hfetched] at hnone
  by_contra hfull
  dsimp only [poll] at hnone
  rw [if_pos (Nat.lt_of_not_le hfull)] at hnone
  cases hnone

theorem Standstill.resourcesHeld : s.resources.held ≠ [] := by
  have hnone := h .takeResource rfl
  rw [step, Option.map_eq_none_iff, Relay.take_eq_none] at hnone
  exact hnone (nonempty_of_full h.resourcesFull)

theorem Standstill.schedulerFull : capacity ≤ s.scheduler.inputCh.length := by
  have hnone := h .forwardResource rfl
  obtain ⟨command, resources, hpass⟩ := pass_of_held h.resourcesHeld
  rw [step, forwardResource, hpass, Option.bind_some] at hnone
  by_contra hfull
  dsimp only at hnone
  rw [if_pos (Nat.lt_of_not_le hfull)] at hnone
  cases hnone

theorem Standstill.published
    (hdrawable : ∀ resource ∈ s.scheduler.inputCh.head?.bind Command.resource?,
      resource.Drawable) : s.published ≠ [] := by
  intro hpublished
  obtain ⟨label, hlabel, hstep⟩ :=
    Scheduler.exists_step (nonempty_of_full h.schedulerFull) hdrawable
  have hnone := h (.loop label) rfl
  rw [step, loop, if_pos ⟨hpublished, hlabel⟩, Option.map_eq_none_iff] at hnone
  rw [hnone] at hstep
  cases hstep

theorem Standstill.eventsFull (hpublished : s.published ≠ []) :
    capacity ≤ s.subscriptions.channel.length ∨ capacity ≤ s.controls.channel.length := by
  have hnone := h .broadcastEvent rfl
  obtain ⟨event, rest, hpending⟩ := List.exists_cons_of_ne_nil hpublished
  rw [step, broadcastEvent, hpending] at hnone
  by_contra hfull
  dsimp only [announce] at hnone
  rw [if_pos ⟨by omega, by omega⟩] at hnone
  cases hnone

theorem Standstill.subscriptionsHeld :
    s.subscriptions.channel ≠ [] → s.subscriptions.held ≠ [] := by
  have hnone := h (.takeEvent 0) rfl
  rwa [step, Option.map_eq_none_iff, Relay.take_eq_none] at hnone

theorem Standstill.controlsHeld : s.controls.channel ≠ [] → s.controls.held ≠ [] := by
  have hnone := h .takeControl rfl
  rwa [step, Option.map_eq_none_iff, Relay.take_eq_none] at hnone

theorem Standstill.modbusFull (hheld : s.controls.held ≠ []) :
    capacity ≤ s.modbusInput.length := by
  have hnone := h .forwardParameters rfl
  obtain ⟨parameters, controls, hpass⟩ := pass_of_held hheld
  rw [step, forwardParameters, hpass, Option.bind_some] at hnone
  by_contra hfull
  dsimp only at hnone
  rw [if_pos (Nat.lt_of_not_le hfull)] at hnone
  cases hnone

end Standstill

/-! ## What a jam refuses -/

/-- **Step lemma.** Only timers and polls go on, and they change nothing. -/
theorem Jammed.next (hs : s.Jammed) (h : s.Next setup l t) : l.isInner = false ∧ t.Jammed := by
  have hfull {α : Type} {l : List α} (hfull : capacity ≤ l.length) (hroom : l.length < capacity) :
      False := Nat.not_lt_of_le hfull hroom
  have hblocked {α β ι : Type} {r r' : Relay ι α β} {relay : ι → α → List β} {i : ι}
      (hheld : r.channel ≠ [] → r.held ≠ []) (htake : r.take relay i = some r') : False := by
    rw [Relay.take_eq_none.2 hheld] at htake
    cases htake
  cases h with
  | waking _ hroom => exact (hfull hs.connectionFull hroom).elim
  | refreshing _ hroom => exact (hfull hs.schedulerFull hroom).elim
  | turn hfetched => exact absurd hfetched hs.fetched
  | broadcastResource _ hroom => exact (hfull hs.resourcesFull hroom).elim
  | takeResource htake => exact (hblocked (fun _ => hs.resourcesHeld) htake).elim
  | forwardResource _ hroom => exact (hfull hs.schedulerFull hroom).elim
  | loop hpublished => exact absurd hpublished hs.published
  | broadcastEvent _ hsubscriptions hcontrols =>
    obtain hevents | hevents := hs.eventsFull
    · exact (hfull hevents hsubscriptions).elim
    · exact (hfull hevents hcontrols).elim
  | takeEvent htake => exact (hblocked hs.subscriptionsHeld htake).elim
  | forwardCommand _ hroom => exact (hfull hs.connectionFull hroom).elim
  | takeControl htake => exact (hblocked hs.controlsHeld htake).elim
  | forwardParameters hpass hroom =>
    obtain ⟨rest, hheld, -⟩ := Relay.pass_eq_some.1 hpass
    have hne : s.controls.held ≠ [] := by
      rw [hheld]
      exact List.cons_ne_nil _ _
    exact (hfull (hs.modbusFull hne) hroom).elim
  | iterate hpolled => exact absurd hpolled hs.polled
  | broadcastPolled _ hroom => exact (hfull hs.deviceStateFull hroom).elim
  | takePolled htake => exact (hblocked (fun _ => hs.deviceStateHeld) htake).elim
  | forwardReport _ hroom => exact (hfull hs.connectionFull hroom).elim
  | tick htick =>
    obtain ⟨-, rfl⟩ := Scheduler.tick_eq_some.1 htick
    exact ⟨rfl, hs.1, hs.2, hs.3, hs.4, hs.5, hs.6, hs.7, hs.8, hs.9, hs.10, hs.11, hs.12, hs.13⟩
  | responds _ _ hsubscriptions hcontrols =>
    obtain hevents | hevents := hs.eventsFull
    · exact (hfull hevents hsubscriptions).elim
    · exact (hfull hevents hcontrols).elim
  | finishes hwait =>
    refine ⟨rfl, { hs with schedulerFull := hs.schedulerFull.trans ?_ }⟩
    obtain ⟨w, -, -, ⟨-, hu⟩ | ⟨-, -, -, ⟨e, rest, -, hu⟩ | ⟨-, hu⟩⟩⟩ :=
      Scheduler.wait_cases hwait
    · rw [hu]
    · rw [hu]
    · rw [hu]
      exact List.length_append ▸ Nat.le_add_right _ _
  | poll hroom => exact (hfull hs.resourcesFull hroom).elim
  | wake _ hroom => exact (hfull hs.connectionFull hroom).elim

theorem Jammed.standstill (hs : s.Jammed) : s.Standstill setup := by
  intro l hl
  cases hstep : step setup s l with
  | none => rfl
  | some t =>
    have hinner := (hs.next (next_of_step hstep)).1
    rw [hl] at hinner
    cases hinner

theorem Jammed.of_standstill (h : s.Standstill setup)
    (hdrawable : ∀ resource ∈ s.scheduler.inputCh.head?.bind Command.resource?,
      resource.Drawable) : s.Jammed where
  fetched := h.fetched
  resourcesFull := h.resourcesFull
  resourcesHeld := h.resourcesHeld
  schedulerFull := h.schedulerFull
  published := h.published hdrawable
  eventsFull := h.eventsFull (h.published hdrawable)
  subscriptionsHeld := h.subscriptionsHeld
  controlsHeld := h.controlsHeld
  modbusFull := h.modbusFull
  polled := h.polled
  deviceStateFull := h.deviceStateFull
  deviceStateHeld := h.deviceStateHeld
  connectionFull := h.connectionFull

/-- **At a standstill** the bridge is jammed, and only then. -/
theorem standstill_iff (hdrawable : ∀ resource ∈ s.scheduler.inputCh.head?.bind Command.resource?,
    resource.Drawable) : s.Standstill setup ↔ s.Jammed := by
  constructor
  · intro h
    exact .of_standstill h hdrawable
  · intro h
    exact h.standstill

theorem jammed_of_run (hs : s.Jammed) (h : run (step setup) s labels = some t) :
    (∀ l ∈ labels, l.isInner = false) ∧ t.Jammed := by
  induction labels generalizing s with
  | nil =>
    cases h
    exact ⟨fun l hl => absurd hl List.not_mem_nil, hs⟩
  | cons l labels ih =>
    obtain ⟨u, hstep, hrun⟩ := run_cons_eq_some.1 h
    obtain ⟨hl, hu⟩ := hs.next (next_of_step hstep)
    obtain ⟨hlabels, ht⟩ := ih hu hrun
    exact ⟨List.forall_mem_cons.2 ⟨hl, hlabels⟩, ht⟩

/-- **A standstill is for good.** Only timers go off and polls are answered, to no effect. -/
theorem standstill_forever
    (hdrawable : ∀ resource ∈ s.scheduler.inputCh.head?.bind Command.resource?, resource.Drawable)
    (hs : s.Standstill setup) (h : run (step setup) s labels = some t) :
    (∀ l ∈ labels, l.isInner = false) ∧ t.Standstill setup := by
  have hjammed : s.Jammed := .of_standstill hs hdrawable
  obtain ⟨hlabels, ht⟩ := jammed_of_run hjammed h
  exact ⟨hlabels, ht.standstill⟩

/-! ## A jam -/

/-- Ten links are to be polled, and each task waits for the others. -/
def aJam : Bridge Unit where
  connectionInput := List.replicate 10 .wake
  fetched := [.time {}]
  resources := ⟨List.replicate 10 (.time {}), [.resourceUpdated (.time {})], []⟩
  scheduler :=
    { clock := Scheduler.second 28, inputCh := List.replicate 10 (.resourceUpdated (.time {})) }
  published := [.linkRemoved "/derp" .derProgramList]
  subscriptions :=
    ⟨List.replicate 10 (.linkRemoved "/derp" .derProgramList),
      [.unsubscribeFromResource "/derp"], []⟩
  modbus := .start 0 .initial
  polled := [.deviceConnected ()]
  deviceState := ⟨List.replicate 10 (.deviceConnected ()), [.sendMeterReadings []], []⟩

theorem jammed_aJam : aJam.Jammed where
  fetched := by decide
  resourcesFull := by decide
  resourcesHeld := by decide
  schedulerFull := by decide
  published := by decide
  eventsFull := by decide
  subscriptionsHeld := by decide
  controlsHeld := by decide
  modbusFull := by decide
  polled := by decide
  deviceStateFull := by decide
  deviceStateHeld := by decide
  connectionFull := by decide

theorem drawable_aJam :
    ∀ resource ∈ aJam.scheduler.inputCh.head?.bind Command.resource?, resource.Drawable := by
  intro resource h
  cases h
  trivial

theorem standstill_iff_aJam :
    aJam.Standstill aSetup ∧ (aJam.Standstill aSetup ↔ aJam.Jammed) :=
  ⟨jammed_aJam.standstill, standstill_iff drawable_aJam⟩

/-- Time goes on. -/
def aWhile : List (BridgeLabel Unit) := [.tick (Scheduler.second 29), .tick (Scheduler.second 30)]

theorem standstill_forever_aJam : ∃ t, run (step aSetup) aJam aWhile = some t ∧
    (∀ l ∈ aWhile, l.isInner = false) ∧ t.Standstill aSetup := by
  have hrun : (run (step aSetup) aJam aWhile).isSome = true := rfl
  obtain ⟨t, hrun⟩ := Option.isSome_iff_exists.1 hrun
  exact ⟨t, hrun, standstill_forever drawable_aJam jammed_aJam.standstill hrun⟩

end Bridge

end Sep2Bridge
