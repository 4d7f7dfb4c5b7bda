import Sep2Bridge.Bridge.Channels

/-!
# The controls on the device

What the scheduler broadcasts as parameters is translated and reaches the modbus task, which sends
it to the device.

**Theorem (`parameters_conserved`).** The translations of all that was broadcast are what the modbus
task has received, followed by what is under way, in this order.

**Theorem (`sent_was_called_for`).** Whatever is sent to the device is the translation of what the
model of the scheduler called for, at some moment of the run up to then.

**Theorem (`controls_converge`).** When the way to the device is settled and the next change of the
controls is not due, a device that is connected has been sent the translation of the controls that
the model calls for now.
-/

namespace Sep2Bridge

open Lib

/-! ## The scheduler between commands -/

theorem lastParameters_eq (events : List Event) :
    lastParameters events = (events.filterMap Event.parameters?).getLastD {} := by
  induction events using List.reverseRecOn with
  | nil => rfl
  | append_singleton events e ih =>
    rw [List.filterMap_append]
    cases e with
    | parametersChanged attributes =>
      rw [lastParameters_append_changed]
      exact List.getLastD_concat.symm
    | _ =>
      rw [lastParameters_append fun e he => (by rw [List.mem_singleton.1 he]; trivial), ih,
        List.filterMap_cons_none rfl, List.filterMap_nil, List.append_nil]

namespace Scheduler

variable {lfdi : HexBinary160} {s t : Scheduler}

theorem inSync_start (clock : DateTime) (loaded : Sep2Model) :
    InSync lfdi (start clock loaded) where
  broadcast := rfl
  responses := responses_start clock loaded
  calculated := .of_start clock loaded
  armed := .of_start clock loaded
  wakes w hw := by cases hw

/-- Between commands, while the wait task is not due, what was last calculated holds now. -/
theorem InSync.parameters (h : InSync lfdi s) (hprocessed : 0 < s.processed)
    (hphase : s.phase = .receiving) (hqueue : s.inputCh = []) (hdue : s.NotDue) :
    lastParameters s.outputCh = s.curParameters lfdi := by
  obtain ⟨now, hnow⟩ := Option.ne_none_iff_exists'.1 (h.calculated.read hprocessed)
  obtain ⟨hreckoned, htime, -⟩ := h.calculated.receiving hphase now hnow
  have hahead (time : DateTime) (hnext : (calcNextScheduleTime s.model lfdi now).1 = some time) :
      s.clock.timestamp < time.timestamp := by
    rw [← htime] at hnext
    cases hw : s.waitTask with
    | none => cases (h.armed.none hw).symm.trans hnext
    | some w =>
      have hwtime := (h.armed.time w hw).trans hnext
      exact hdue w hw (h.wakes.not_finished hphase hqueue hw hwtime) time hwtime
  rw [h.broadcast, hreckoned.parameters]
  exact (quiet hreckoned.past hahead).1.symm

end Scheduler

namespace Bridge

variable {M : Type} {setup : Setup} {s t : Bridge M} {ok : Bridge M → BridgeLabel M → Prop}
  {labels : List (BridgeLabel M)} {clock : DateTime} {loaded : Sep2Model} {now : Nat}
  {registers : Modbus.Registers}

/-! ## Nothing is lost -/

theorem controlChangeDispatcher_response {mapSiteLimits : Bool} {e : Event}
    (h : isLoopEvent e = false) : controlChangeDispatcher mapSiteLimits e = none := by
  cases e <;> first | rfl | cases h

/-- The translations of what was broadcast, along the way to the modbus task. -/
theorem Flows.parameters (h : s.Flows setup) :
    s.scheduler.outputCh.filterMap (controlChangeDispatcher setup.mapSiteLimits) =
      s.iterations.filterMap Modbus.Iteration.command ++ s.modbusInput ++ s.controls.held ++
        s.controls.channel.filterMap (controlChangeDispatcher setup.mapSiteLimits) ++
        s.published.filterMap (controlChangeDispatcher setup.mapSiteLimits) := by
  rw [← h.filterMap_events fun e => controlChangeDispatcher_response, List.filterMap_append,
    ← h.both, h.controls.conserved fun _ e => List.filterMap_some, List.filterMap_some,
    List.filterMap_some]

/-- **Nothing is lost, repeated or reordered** on the way to the device. -/
theorem parameters_conserved
    (h : run (step setup) (start clock loaded now registers) labels = some t) :
    t.scheduler.outputCh.filterMap (controlChangeDispatcher setup.mapSiteLimits) =
      t.iterations.filterMap Modbus.Iteration.command ++ t.modbusInput ++ t.controls.held ++
        t.controls.channel.filterMap (controlChangeDispatcher setup.mapSiteLimits) ++
        t.published.filterMap (controlChangeDispatcher setup.mapSiteLimits) :=
  (flows_of_exec (exec_true_iff.2 h)).parameters

/-! ## Nothing is made up -/

/-- Parameters that are broadcast with a step are what the model calls for at that moment. -/
theorem curParameters_of_broadcast {u v : Scheduler} {lfdi : HexBinary160} {label : TaskLabel}
    {attributes : ControlAttributes} (hresponses : u.Responses)
    (h : u.step lfdi label = some v) (hu : .parametersChanged attributes ∉ u.outputCh)
    (hv : .parametersChanged attributes ∈ v.outputCh) : attributes = u.curParameters lfdi := by
  cases hlabel : label.publishes with
  | false =>
    obtain ⟨events, hevents, hfeed, -⟩ := Scheduler.outputCh_of_not_publishes hresponses hlabel h
    rw [hevents] at hv
    obtain hv | hv := List.mem_append.1 hv
    · exact absurd hv hu
    · cases (hfeed _ hv).1
  | true =>
    have hnew : attributes ∈ v.outputCh.filterMap Event.parameters? :=
      List.mem_filterMap.2 ⟨_, hv, rfl⟩
    rw [(Scheduler.publishes_parameters.published hresponses hlabel h).1] at hnew
    obtain hold | hnew := List.mem_append.1 hnew
    · obtain ⟨e, he, hattributes⟩ := List.mem_filterMap.1 hold
      cases e <;> cases hattributes
      exact absurd he hu
    · split_ifs at hnew
      · exact absurd hnew List.not_mem_nil
      · exact List.mem_singleton.1 hnew

/-- **The device is only sent what was called for.** -/
theorem sent_was_called_for
    (h : run (step setup) (start clock loaded now registers) labels = some t)
    {a : Modbus.Attempt} (ha : a ∈ t.modbus.attempts) :
    ∃ before u, before <+: labels ∧
      run (step setup) (start clock loaded now registers) before = some u ∧
      Modbus.toParameters setup.mapSiteLimits
        (calcParameters u.scheduler.model setup.lfdi u.scheduler.clock.timestamp) =
          .ok a.parameters := by
  have hexec := exec_true_iff.2 h
  have hreceived : a.parameters ∈ t.iterations.filterMap Modbus.Iteration.command := by
    rw [modbus_of_exec hexec] at ha
    obtain ha | ha | ha := Modbus.Loop.attempts_foldl _ ha
    · exact absurd ha List.not_mem_nil
    · cases ha
    · exact ha
  have hbroadcast : a.parameters ∈ t.scheduler.outputCh.filterMap
      (controlChangeDispatcher setup.mapSiteLimits) := by
    rw [(flows_of_exec hexec).parameters]
    simp only [List.append_assoc]
    exact List.mem_append_left _ hreceived
  obtain ⟨e, he, htranslates⟩ := List.mem_filterMap.1 hbroadcast
  cases e with
  | parametersChanged attributes =>
    obtain ⟨before, l, after, u, v, rfl, hbefore, hstep, hu, hv⟩ :=
      exists_origin (fun s : Bridge M => s.scheduler.outputCh) h he List.not_mem_nil
    refine ⟨before, u, List.prefix_append _ _, hbefore, ?_⟩
    obtain hsame | ⟨label, hlabel⟩ := scheduler_next (next_of_step hstep)
    · rw [hsame] at hv
      exact absurd hv hu
    · have hresponses := (flows_of_exec (exec_true_iff.2 hbefore)).responses
      have hattributes := curParameters_of_broadcast hresponses hlabel hu hv
      unfold Scheduler.curParameters at hattributes
      rw [← hattributes]
      have htranslates : (Modbus.toParameters setup.mapSiteLimits attributes).toOption =
        some a.parameters := htranslates
      cases hresult : Modbus.toParameters setup.mapSiteLimits attributes with
      | ok p =>
        rw [hresult] at htranslates
        cases htranslates
        rfl
      | error err =>
        rw [hresult] at htranslates
        cases htranslates
  | _ => cases htranslates

/-! ## Convergence -/

/-- The scheduler waits for a command and its wait task is not due, and nothing is under way to the
modbus task. -/
structure ControlsSettled (s : Bridge M) : Prop where
  processed : 0 < s.scheduler.processed
  receiving : s.scheduler.phase = .receiving
  inputCh : s.scheduler.inputCh = []
  notDue : s.scheduler.NotDue
  published : s.published = []
  channel : s.controls.channel = []
  held : s.controls.held = []
  modbusInput : s.modbusInput = []

/-- `p` was sent in full on the present connection, nothing else was sent since, and a retry is
pending exactly if the latest attempt deferred. -/
def OnDevice (s : Bridge M) (p : Modbus.Parameters) : Prop :=
  s.modbus.lastSentParameters = some p ∧
    Modbus.SentOn s.modbus.attempts p s.modbus.pendingApply

/-- A device that is connected has the latest parameters received. -/
theorem onDevice_of_exec (h : Exec (step setup) ok (start clock loaded now registers) labels t)
    (hconnected : t.modbus.connected = true) {p : Modbus.Parameters}
    (hp : (t.iterations.filterMap Modbus.Iteration.command).getLast? = some p) : t.OnDevice p := by
  have hmodbus := modbus_of_exec h
  obtain ⟨hrecorded, hupToDate⟩ : t.modbus.Recorded ∧ t.modbus.UpToDate := by
    rw [hmodbus]
    exact Modbus.Loop.recorded_foldl _ (fun h => by cases h) fun h => by cases h
  have hparameters : t.modbus.parameters = some p := by
    rw [hmodbus, Modbus.Loop.run, Modbus.Loop.parameters_foldl, hp]
    rfl
  have hsent := hupToDate hconnected p hparameters
  exact ⟨hsent, hrecorded hconnected p hsent⟩

/-- When the way is settled, the modbus task has received all that was broadcast and translates. -/
theorem ControlsSettled.received (hsettled : s.ControlsSettled) (hs : s.Flows setup) :
    s.iterations.filterMap Modbus.Iteration.command =
      s.scheduler.outputCh.filterMap (controlChangeDispatcher setup.mapSiteLimits) := by
  rw [hs.parameters, hsettled.modbusInput, hsettled.held, hsettled.channel, hsettled.published]
  simp

/-- The translation of the last parameters broadcast is the last that translates. -/
theorem getLast?_translated {mapSiteLimits : Bool} {events : List Event} {p : Modbus.Parameters}
    (hbroadcast : events.filterMap Event.parameters? ≠ [])
    (htranslates : Modbus.toParameters mapSiteLimits (lastParameters events) = .ok p) :
    (events.filterMap (controlChangeDispatcher mapSiteLimits)).getLast? = some p := by
  have hdispatch : controlChangeDispatcher mapSiteLimits = fun e =>
      (Event.parameters? e).bind fun attributes =>
        (Modbus.toParameters mapSiteLimits attributes).toOption := by
    funext e
    cases e <;> rfl
  rw [lastParameters_eq] at htranslates
  rw [hdispatch, ← List.filterMap_filterMap]
  obtain ⟨before, attributes, hlast⟩ := (List.eq_nil_or_concat' _).resolve_left hbroadcast
  rw [hlast, List.getLastD_concat] at htranslates
  rw [hlast, List.filterMap_append, List.filterMap_cons_some (by rw [htranslates]; rfl),
    List.filterMap_nil, List.getLast?_concat]

/-- The scheduler stays in sync, as long as the times in its model are ones that a `DateTime` can
represent. -/
theorem scheduler_inSync (h : Exec (step setup) (fun s _ => Scheduler.TimesFit s.scheduler.model)
      (start clock loaded now registers) labels t) : Scheduler.InSync setup.lfdi t.scheduler := by
  refine h.invariant (I := fun s => Scheduler.InSync setup.lfdi s.scheduler)
    (Scheduler.inSync_start clock loaded) fun s l u hs hfit hstep => ?_
  obtain hsame | ⟨label, hlabel⟩ := scheduler_next (next_of_step hstep)
  · rw [hsame]
    exact hs
  · exact hs.step hfit hlabel

/-- **The device converges** to the controls that the model calls for. There is nothing on it as
long as these were the default from the start. Controls that do not translate leave it with the
last that did. -/
theorem controls_converge (h : Exec (step setup) (fun s _ => Scheduler.TimesFit s.scheduler.model)
      (start clock loaded now registers) labels t) (hsettled : t.ControlsSettled)
    (hconnected : t.modbus.connected = true) :
    let attributes :=
      calcParameters t.scheduler.model setup.lfdi t.scheduler.clock.timestamp
    (∀ p, Modbus.toParameters setup.mapSiteLimits attributes = .ok p → t.OnDevice p ∨
      attributes = {} ∧ ∀ e ∈ t.scheduler.outputCh, e.parameters? = none) ∧
    ∀ p, (t.scheduler.outputCh.filterMap
      (controlChangeDispatcher setup.mapSiteLimits)).getLast? = some p → t.OnDevice p := by
  intro attributes
  have hreceived := hsettled.received (flows_of_exec h)
  have hlast (p : Modbus.Parameters) (hp : (t.scheduler.outputCh.filterMap
      (controlChangeDispatcher setup.mapSiteLimits)).getLast? = some p) : t.OnDevice p :=
    onDevice_of_exec h hconnected (hreceived ▸ hp)
  have hcurrent : lastParameters t.scheduler.outputCh = attributes :=
    (scheduler_inSync h).parameters hsettled.processed hsettled.receiving hsettled.inputCh
      hsettled.notDue
  refine ⟨fun p htranslates => ?_, hlast⟩
  by_cases hbroadcast : t.scheduler.outputCh.filterMap Event.parameters? = []
  · refine .inr ⟨?_, List.filterMap_eq_nil_iff.1 hbroadcast⟩
    rw [← hcurrent, lastParameters_eq, hbroadcast]
    rfl
  · rw [← hcurrent] at htranslates
    exact .inl (hlast p (getLast?_translated hbroadcast htranslates))

/-! ## A device that is disconnected -/

/-- What the control of `Scheduler.knownModel` asks of the device. -/
def disconnected : Option Modbus.Parameters :=
  (Modbus.toParameters false (calcParameters Scheduler.knownModel 1 15)).toOption

/-- The scheduler starts during the control, with its links; the control reaches the device. -/
def aControl : List (BridgeLabel Unit) :=
  [.main, .main, .loop (.receive (fun _ => (0, 0)) [])] ++ List.replicate 8 .broadcastEvent ++
    [.loop .schedule, .broadcastEvent, .loop .rearm] ++ List.replicate 9 .takeControl ++
    [.forwardParameters, .iterate (anIteration disconnected)]

theorem parameters_conserved_control : ∃ p t, run (step aSetup) aStart aControl = some t ∧
    t.iterations.filterMap Modbus.Iteration.command = [p] ∧
    t.scheduler.outputCh.filterMap (controlChangeDispatcher aSetup.mapSiteLimits) =
      [p] ++ t.modbusInput ++ t.controls.held ++
        t.controls.channel.filterMap (controlChangeDispatcher aSetup.mapSiteLimits) ++
        t.published.filterMap (controlChangeDispatcher aSetup.mapSiteLimits) := by
  have hrun : (run (step aSetup) aStart aControl).any (fun t =>
      disconnected.any fun p =>
        t.iterations.filterMap Modbus.Iteration.command = [p]) = true := by
    decide +kernel
  obtain ⟨t, hrun, ht⟩ := (Option.any_eq_true _ _).1 hrun
  obtain ⟨p, -, hp⟩ := (Option.any_eq_true _ _).1 ht
  have hreceived := of_decide_eq_true hp
  refine ⟨p, t, hrun, hreceived, ?_⟩
  rw [← hreceived]
  exact parameters_conserved hrun

theorem sent_was_called_for_control : ∃ t a, run (step aSetup) aStart aControl = some t ∧
    a ∈ t.modbus.attempts ∧ ∃ before u, before <+: aControl ∧
      run (step aSetup) aStart before = some u ∧
      Modbus.toParameters aSetup.mapSiteLimits
        (calcParameters u.scheduler.model aSetup.lfdi u.scheduler.clock.timestamp) =
          .ok a.parameters := by
  have hrun : (run (step aSetup) aStart aControl).any (fun t =>
      t.modbus.attempts ≠ []) = true := by
    decide +kernel
  obtain ⟨t, hrun, ht⟩ := (Option.any_eq_true _ _).1 hrun
  obtain ⟨a, ha⟩ := List.exists_mem_of_ne_nil _ (of_decide_eq_true ht)
  exact ⟨t, a, hrun, ha, sent_was_called_for hrun ha⟩

theorem controls_converge_control : ∃ t,
    Exec (step aSetup) (fun s _ => Scheduler.TimesFit s.scheduler.model) aStart aControl t ∧
      (∃ p, disconnected = some p ∧ t.modbus.lastSentParameters = some p) ∧
      let attributes := calcParameters t.scheduler.model aSetup.lfdi t.scheduler.clock.timestamp
      (∀ p, Modbus.toParameters aSetup.mapSiteLimits attributes = .ok p → t.OnDevice p ∨
        attributes = {} ∧ ∀ e ∈ t.scheduler.outputCh, e.parameters? = none) ∧
      ∀ p, (t.scheduler.outputCh.filterMap
        (controlChangeDispatcher aSetup.mapSiteLimits)).getLast? = some p → t.OnDevice p := by
  have hrun : (runIf (step aSetup) (fun s _ => Scheduler.TimesFit s.scheduler.model) aStart
      aControl).any (fun t => decide ((disconnected.isSome = true ∧
        t.modbus.lastSentParameters = disconnected ∧ t.modbus.connected = true) ∧
        0 < t.scheduler.processed ∧ t.scheduler.phase = .receiving ∧ t.scheduler.inputCh = [] ∧
        t.scheduler.NotDue ∧ t.published = [] ∧ t.controls.channel = [] ∧ t.controls.held = [] ∧
        t.modbusInput = [])) = true := by
    decide +kernel
  obtain ⟨t, hrun, ht⟩ := (Option.any_eq_true _ _).1 hrun
  obtain ⟨⟨hsome, hsent, hconnected⟩, hprocessed, hreceiving, hinput, hdue, hpublished, hchannel,
    hheld, hmodbus⟩ := of_decide_eq_true ht
  obtain ⟨p, hp⟩ := Option.isSome_iff_exists.1 hsome
  have hexec := exec_iff_runIf.2 hrun
  have hsettled : t.ControlsSettled :=
    ⟨hprocessed, hreceiving, hinput, hdue, hpublished, hchannel, hheld, hmodbus⟩
  exact ⟨t, hexec, ⟨p, hp, hsent.trans hp⟩, controls_converge hexec hsettled hconnected⟩

end Bridge

end Sep2Bridge
