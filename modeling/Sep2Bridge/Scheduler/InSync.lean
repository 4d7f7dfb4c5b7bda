import Sep2Bridge.Scheduler.LinkFeed
import Sep2Bridge.Scheduler.Task

/-!
# The scheduler keeps the device in step with the model

Between commands, what was last broadcast as parameters is what the model gives now, and the wait
task is armed for the next time that may change it.

**The invariant** (`InSync`) ties the loop's locals together: the last broadcast is
`priorParameters`; the wait task is the one planned by the prior prediction (`Armed`); between
commands both were calculated from the present model, at the last reading (`Calculated`). By `quiet`
the last reading is as good as a present one until the wait task is due.

**A wait task that has fired** is not armed any more. `Wakes` says that its wake-up is then queued
or being served, so that between commands with an empty queue there is none. This needs the times of
the controls to be ones a `DateTime` can represent: the loop would otherwise plan the same
unrepresentable time again and keep the task that has ended.

Main result: `inSync_of_exec`.
-/

namespace Sep2Bridge

open Lib

/-! ## The last parameters broadcast -/

/-- The attributes last broadcast, or the default if there were none. -/
def lastParameters (events : List Event) : ControlAttributes :=
  events.foldl (fun last event =>
    match event with
    | .parametersChanged attributes => attributes
    | _ => last) {}

/-- The event carries no parameters. -/
def Event.NoParameters : Event → Prop
  | .parametersChanged _ => False
  | _ => True

theorem Event.IsResponse.noParameters {e : Event} (h : e.IsResponse) : e.NoParameters := by
  cases e <;> trivial

theorem lastParameters_append {es es' : List Event} (h : ∀ e ∈ es', e.NoParameters) :
    lastParameters (es ++ es') = lastParameters es := by
  induction es' using List.reverseRecOn with
  | nil => simp
  | append_singleton es' e ih =>
    have he := h e (by simp)
    rw [← List.append_assoc, lastParameters, List.foldl_append]
    cases e with
    | parametersChanged => exact he.elim
    | _ => exact ih fun e he => h e (by simp [he])

@[simp] theorem lastParameters_append_changed (es : List Event) (a : ControlAttributes) :
    lastParameters (es ++ [.parametersChanged a]) = a := by
  simp [lastParameters]

namespace Sep2Model

theorem resourceLinkEvents_noParameters {prior post : ResourceLinks} {e : Event}
    (h : e ∈ resourceLinkEvents prior post) : e.NoParameters := by
  simp only [resourceLinkEvents, List.mem_append, List.mem_map] at h
  rcases h with ⟨_, -, rfl⟩ | ⟨_, -, rfl⟩ <;> trivial

theorem applyUpdate_noParameters {env : Surroundings} {m m' : Sep2Model} {u : Sep2ResourceEvent}
    {es : List Event} (h : m.applyUpdate env u = some (m', es)) : ∀ e ∈ es, e.NoParameters := by
  obtain ⟨merged, responses, hset, -, rfl⟩ := applyUpdate_eq_some.1 h
  intro e he
  rcases List.mem_append.1 he with he | he
  · exact resourceLinkEvents_noParameters he
  · exact (setResource_isResponse hset e he).noParameters

end Sep2Model

theorem boundaryResponse_isResponse {c : ScheduledControl} {status : ResponseStatus} {e : Event}
    (h : boundaryResponse c status = some e) : e.IsResponse := by
  obtain ⟨r, -, rfl⟩ := Option.map_eq_some_iff.1 h
  trivial

theorem calcNextScheduleTime_isResponse {m : Sep2Model} {lfdi : HexBinary160} {now : DateTime}
    {e : Event} (h : e ∈ (calcNextScheduleTime m lfdi now).2) : e.IsResponse := by
  obtain ⟨⟨b, e'⟩, he, rfl⟩ := List.mem_filterMap.1 h
  obtain ⟨c, -, hb⟩ := List.mem_flatMap.1 (mem_upcoming.1 (List.mem_of_mem_filter he)).1
  cases c with
  | default => cases hb
  | scheduled c =>
    simp only [ControlRef.boundaries, List.mem_cons, Prod.mk.injEq, List.not_mem_nil, or_false]
      at hb
    rcases hb with ⟨-, hb⟩ | ⟨-, hb⟩ <;> exact boundaryResponse_isResponse hb.symm

/-! ## Steps and what they leave alone -/

namespace Scheduler

variable {lfdi : HexBinary160} {s t : Scheduler}

/-- Taking a command broadcasts no parameters, and leads to a reading of the clock. -/
theorem receive_cases {seeds : Nat → Nat × Nat} {order : List (MRIDType × DERCurve)}
    (h : s.receive seeds order = some t) :
    ∃ model events phase, (∀ e ∈ events, e.NoParameters) ∧
      (phase = .persisting ∨ phase = .scheduling) ∧
      t = { s with
        inputCh := s.inputCh.tail, outputCh := s.outputCh ++ events, model := model,
        phase := phase } := by
  simp only [receive] at h
  split at h
  · next hqueue =>
    cases h
    exact ⟨s.model, [], .scheduling, by simp, .inr rfl, by simp [hqueue]⟩
  · next hqueue =>
    cases h
    refine ⟨s.model, s.model.refreshKnownLinks, .scheduling, ?_, .inr rfl, by simp [hqueue]⟩
    exact fun e he => Sep2Model.resourceLinkEvents_noParameters he
  · next hqueue =>
    obtain ⟨⟨model, events⟩, hupdate, rfl⟩ := Option.map_eq_some_iff.1 h
    exact ⟨model, events, .persisting, Sep2Model.applyUpdate_noParameters hupdate, .inl rfl,
      by simp [hqueue]⟩
  · cases h

theorem tick_eq_some {now : DateTime} :
    s.tick now = some t ↔ s.clock.timestamp ≤ now.timestamp ∧ { s with clock := now } = t := by
  simp only [tick, Option.ite_none_right_eq_some, Option.some.injEq]

theorem persist_cases {succeeds : Bool} (h : s.persist succeeds = some t) :
    s.phase = .persisting ∧ ∃ persisted,
      t = { s with persisted := persisted, phase := .scheduling } := by
  simp only [persist] at h
  split at h
  · next hphase => cases h; exact ⟨hphase, _, rfl⟩
  · cases h

/-- Publishing broadcasts what is new, and remembers it with the reading. -/
theorem schedule_cases (h : s.schedule lfdi = some t) :
    s.phase = .scheduling ∧ ∃ rates events, (∀ e ∈ events, e = .postRatesChanged rates) ∧
      t = { s with
        outputCh := s.outputCh ++ events ++
          if calcParameters s.model lfdi s.clock.timestamp = s.priorParameters then []
          else [.parametersChanged (calcParameters s.model lfdi s.clock.timestamp)]
        priorPostRates := rates
        priorParameters := calcParameters s.model lfdi s.clock.timestamp
        phase := .rearming s.clock
        lastReading := some s.clock } := by
  simp only [schedule] at h
  split at h
  · next hphase =>
    cases h
    refine ⟨hphase, _, _, ?_, rfl⟩
    split_ifs <;> simp
  · cases h

/-- Planning keeps a wait task that waits for what is predicted, and else puts a new one. -/
theorem rearm_cases (h : s.rearm lfdi = some t) : ∃ now, s.phase = .rearming now ∧
    (((calcNextScheduleTime s.model lfdi now).1 = s.priorNextSchedulerTime ∧
        (calcNextScheduleTime s.model lfdi now).2 = s.priorNextEvents ∧
        t = { s with phase := .receiving, processed := s.processed + 1 }) ∨
      (¬ ((calcNextScheduleTime s.model lfdi now).1 = s.priorNextSchedulerTime ∧
          (calcNextScheduleTime s.model lfdi now).2 = s.priorNextEvents) ∧
        t = { s with
          waitTask := some ⟨(calcNextScheduleTime s.model lfdi now).1,
            (calcNextScheduleTime s.model lfdi now).2,
            (calcNextScheduleTime s.model lfdi now).2, false⟩
          priorNextSchedulerTime := (calcNextScheduleTime s.model lfdi now).1
          priorNextEvents := (calcNextScheduleTime s.model lfdi now).2
          phase := .receiving
          processed := s.processed + 1 })) := by
  simp only [rearm] at h
  split at h
  · next now hphase =>
    split_ifs at h with hsame
    · exact ⟨now, hphase, .inl ⟨hsame.1, hsame.2, (Option.some.inj h).symm⟩⟩
    · exact ⟨now, hphase, .inr ⟨hsame, (Option.some.inj h).symm⟩⟩
  · cases h

/-- A step of the wait task broadcasts a response, or ends it with a wake-up. -/
theorem wait_cases (h : s.wait = some t) : ∃ w, s.waitTask = some w ∧ w.finished = false ∧
    ((w.nextEventTime = none ∧ t = { s with waitTask := some { w with finished := true } }) ∨
    ∃ time, w.nextEventTime = some time ∧ time.timestamp ≤ s.clock.timestamp ∧
      ((∃ e rest, w.pending = e :: rest ∧ t = { s with
          outputCh := s.outputCh ++ [e], waitTask := some { w with pending := rest } }) ∨
        (w.pending = [] ∧ t = { s with
          inputCh := s.inputCh ++ [.nextSchedule],
          waitTask := some { w with finished := true } }))) := by
  simp only [wait] at h
  split at h
  · next hw => cases h; exact ⟨_, hw, rfl, .inl ⟨rfl, rfl⟩⟩
  · next time _ pending hw =>
    split_ifs at h with hdue
    refine ⟨_, hw, rfl, .inr ⟨time, rfl, hdue, ?_⟩⟩
    cases pending with
    | nil => cases h; exact .inr ⟨rfl, rfl⟩
    | cons e rest => cases h; exact .inl ⟨e, rest, rfl, rfl⟩
  · cases h

/-- The wait task has nothing but control responses to broadcast. -/
def Responses (s : Scheduler) : Prop :=
  ∀ w ∈ s.waitTask, ∀ e ∈ w.pending, e.IsResponse

theorem Responses.step {l : TaskLabel} (hs : s.Responses) (h : s.step lfdi l = some t) :
    t.Responses := by
  cases l with
  | tick now => obtain ⟨-, rfl⟩ := tick_eq_some.1 h; exact hs
  | send command => cases h; exact hs
  | receive seeds order => obtain ⟨_, _, _, -, -, rfl⟩ := receive_cases h; exact hs
  | persist succeeds => obtain ⟨-, _, rfl⟩ := persist_cases h; exact hs
  | schedule => obtain ⟨-, _, _, -, rfl⟩ := schedule_cases h; exact hs
  | rearm =>
    obtain ⟨now, -, ⟨-, -, rfl⟩ | ⟨-, rfl⟩⟩ := rearm_cases h
    · exact hs
    · rintro _ ⟨⟩ e he
      exact calcNextScheduleTime_isResponse he
  | wait =>
    obtain ⟨w, hw, -, ⟨-, rfl⟩ | ⟨-, -, -, ⟨e, rest, hpending, rfl⟩ | ⟨-, rfl⟩⟩⟩ := wait_cases h
    · rintro _ ⟨⟩; exact hs w hw
    · rintro _ ⟨⟩ e' he'
      exact hs w hw e' (by rw [hpending]; exact List.mem_cons_of_mem _ he')
    · rintro _ ⟨⟩; exact hs w hw

/-- Only publishing touches what the device was last told, and what the loop remembers of it. -/
theorem lastParameters_step {l : TaskLabel} (hs : s.Responses) (hl : l ≠ .schedule)
    (h : s.step lfdi l = some t) :
    lastParameters t.outputCh = lastParameters s.outputCh ∧
      t.priorParameters = s.priorParameters ∧ t.lastReading = s.lastReading := by
  cases l with
  | tick now => obtain ⟨-, rfl⟩ := tick_eq_some.1 h; exact ⟨rfl, rfl, rfl⟩
  | send command => cases h; exact ⟨rfl, rfl, rfl⟩
  | receive seeds order =>
    obtain ⟨_, events, _, hevents, -, rfl⟩ := receive_cases h
    exact ⟨lastParameters_append hevents, rfl, rfl⟩
  | persist succeeds => obtain ⟨-, _, rfl⟩ := persist_cases h; exact ⟨rfl, rfl, rfl⟩
  | schedule => exact absurd rfl hl
  | rearm =>
    obtain ⟨now, -, ⟨-, -, rfl⟩ | ⟨-, rfl⟩⟩ := rearm_cases h <;> exact ⟨rfl, rfl, rfl⟩
  | wait =>
    obtain ⟨w, hw, -, ⟨-, rfl⟩ | ⟨-, -, -, ⟨e, rest, hpending, rfl⟩ | ⟨-, rfl⟩⟩⟩ := wait_cases h
    · exact ⟨rfl, rfl, rfl⟩
    · have he : e.IsResponse := hs w hw e (by simp [hpending])
      exact ⟨lastParameters_append (by simpa using he.noParameters), rfl, rfl⟩
    · exact ⟨rfl, rfl, rfl⟩

/-- Publishing tells the device the parameters at the reading, unless the loop wrongly believes
that it was told. -/
theorem lastParameters_schedule (h : s.schedule lfdi = some t)
    (hs : lastParameters s.outputCh = s.priorParameters ∨
      calcParameters s.model lfdi s.clock.timestamp ≠ s.priorParameters) :
    lastParameters t.outputCh = t.priorParameters := by
  obtain ⟨-, rates, events, hrates, rfl⟩ := schedule_cases h
  have hevents : ∀ e ∈ events, e.NoParameters := fun e he => by rw [hrates e he]; trivial
  by_cases hsame : calcParameters s.model lfdi s.clock.timestamp = s.priorParameters
  · have hs := hs.resolve_right (not_not.2 hsame)
    simp only [hsame, if_true, List.append_nil, lastParameters_append hevents, hs]
  · simp only [hsame, if_false, lastParameters_append_changed]

/-! ## What the locals were calculated from -/

/-- The locals are those of the model at `now`. -/
structure Reckoned (lfdi : HexBinary160) (s : Scheduler) (now : DateTime) : Prop where
  past : now.timestamp ≤ s.clock.timestamp
  parameters : s.priorParameters = calcParameters s.model lfdi now.timestamp

/-- From the reading until the next command, the parameters remembered are those of the model at
the last reading; once the wait task is planned, so is the prediction. -/
structure Calculated (lfdi : HexBinary160) (s : Scheduler) : Prop where
  rearming : ∀ now, s.phase = .rearming now → s.lastReading = some now ∧ Reckoned lfdi s now
  receiving : s.phase = .receiving → ∀ now, s.lastReading = some now → Reckoned lfdi s now ∧
    s.priorNextSchedulerTime = (calcNextScheduleTime s.model lfdi now).1 ∧
    s.priorNextEvents = (calcNextScheduleTime s.model lfdi now).2
  read : 0 < s.processed → s.lastReading ≠ none

theorem Calculated.of_start (clock : DateTime) (loaded : Sep2Model) :
    Calculated lfdi (start clock loaded) :=
  ⟨by simp [start], by simp [start], by simp [start]⟩

/-- Between readings the locals stay what they are. -/
theorem Calculated.frame (hs : Calculated lfdi s) (hphase : t.phase = s.phase)
    (hmodel : t.model = s.model) (hclock : s.clock.timestamp ≤ t.clock.timestamp)
    (hparameters : t.priorParameters = s.priorParameters)
    (htime : t.priorNextSchedulerTime = s.priorNextSchedulerTime)
    (hevents : t.priorNextEvents = s.priorNextEvents)
    (hreading : t.lastReading = s.lastReading) (hprocessed : t.processed = s.processed) :
    Calculated lfdi t := by
  have hreckoned : ∀ {now}, Reckoned lfdi s now → Reckoned lfdi t now := fun h =>
    ⟨h.past.trans hclock, by rw [hparameters, hmodel]; exact h.parameters⟩
  refine ⟨fun now hnow => ?_, fun hrec now hnow => ?_, ?_⟩
  · rw [hphase] at hnow
    exact ⟨hreading ▸ (hs.rearming now hnow).1, hreckoned (hs.rearming now hnow).2⟩
  · rw [hphase] at hrec
    rw [hreading] at hnow
    rw [htime, hevents, hmodel]
    exact ⟨hreckoned (hs.receiving hrec now hnow).1, (hs.receiving hrec now hnow).2⟩
  · rw [hprocessed, hreading]
    exact hs.read

theorem Calculated.step {l : TaskLabel} (hs : Calculated lfdi s) (h : s.step lfdi l = some t) :
    Calculated lfdi t := by
  cases l with
  | tick now =>
    obtain ⟨hle, rfl⟩ := tick_eq_some.1 h
    exact hs.frame rfl rfl hle rfl rfl rfl rfl rfl
  | send command => cases h; exact hs.frame rfl rfl le_rfl rfl rfl rfl rfl rfl
  | receive seeds order =>
    obtain ⟨_, _, _, -, rfl | rfl, rfl⟩ := receive_cases h <;> exact ⟨by simp, by simp, hs.read⟩
  | persist succeeds =>
    obtain ⟨-, _, rfl⟩ := persist_cases h
    exact ⟨by simp, by simp, hs.read⟩
  | schedule =>
    obtain ⟨-, rates, events, -, rfl⟩ := schedule_cases h
    refine ⟨?_, by simp, by simp⟩
    rintro _ ⟨⟩
    exact ⟨rfl, le_rfl, rfl⟩
  | rearm =>
    obtain ⟨now, hphase, hcases⟩ := rearm_cases h
    obtain ⟨hreading, hreckoned⟩ := hs.rearming now hphase
    rcases hcases with ⟨htime, hevents, rfl⟩ | ⟨-, rfl⟩
    · refine ⟨by simp, fun _ now' hnow' => ?_, by simp [hreading]⟩
      cases Option.some.inj (hreading.symm.trans hnow')
      exact ⟨⟨hreckoned.past, hreckoned.parameters⟩, htime.symm, hevents.symm⟩
    · refine ⟨by simp, fun _ now' hnow' => ?_, by simp [hreading]⟩
      cases Option.some.inj (hreading.symm.trans hnow')
      exact ⟨⟨hreckoned.past, hreckoned.parameters⟩, rfl, rfl⟩
  | wait =>
    obtain ⟨w, -, -, ⟨-, rfl⟩ | ⟨-, -, -, ⟨_, _, -, rfl⟩ | ⟨-, rfl⟩⟩⟩ := wait_cases h <;>
      exact hs.frame rfl rfl le_rfl rfl rfl rfl rfl rfl

/-! ## The wait task -/

/-- The wait task is the one that the prior prediction planned. -/
structure Armed (s : Scheduler) : Prop where
  fresh : s.processed = 0 → s.waitTask = none
  none : s.waitTask = none → s.priorNextSchedulerTime = none
  time : ∀ w ∈ s.waitTask, w.nextEventTime = s.priorNextSchedulerTime
  events : ∀ w ∈ s.waitTask, w.nextEvents = s.priorNextEvents
  pending : ∀ w ∈ s.waitTask, w.pending <:+ w.nextEvents

theorem Armed.of_start (clock : DateTime) (loaded : Sep2Model) : (start clock loaded).Armed :=
  ⟨fun _ => rfl, fun _ => rfl, by simp [start], by simp [start], by simp [start]⟩

theorem Armed.step {l : TaskLabel} (hs : s.Armed) (h : s.step lfdi l = some t) : t.Armed := by
  cases l with
  | tick now =>
    obtain ⟨-, rfl⟩ := tick_eq_some.1 h
    exact ⟨hs.fresh, hs.none, hs.time, hs.events, hs.pending⟩
  | send command => cases h; exact ⟨hs.fresh, hs.none, hs.time, hs.events, hs.pending⟩
  | receive seeds order =>
    obtain ⟨_, _, _, -, -, rfl⟩ := receive_cases h
    exact ⟨hs.fresh, hs.none, hs.time, hs.events, hs.pending⟩
  | persist succeeds =>
    obtain ⟨-, _, rfl⟩ := persist_cases h
    exact ⟨hs.fresh, hs.none, hs.time, hs.events, hs.pending⟩
  | schedule =>
    obtain ⟨-, _, _, -, rfl⟩ := schedule_cases h
    exact ⟨hs.fresh, hs.none, hs.time, hs.events, hs.pending⟩
  | rearm =>
    obtain ⟨now, -, ⟨-, -, rfl⟩ | ⟨-, rfl⟩⟩ := rearm_cases h
    · exact ⟨by simp, hs.none, hs.time, hs.events, hs.pending⟩
    · exact ⟨by simp, by simp, by simp, by simp, by simp⟩
  | wait =>
    obtain ⟨w, hw, -, hcases⟩ := wait_cases h
    have hfresh : s.processed ≠ 0 := fun hzero => by simp [hs.fresh hzero] at hw
    rcases hcases with ⟨-, rfl⟩ | ⟨-, -, -, ⟨e, rest, hpending, rfl⟩ | ⟨-, rfl⟩⟩
    · refine ⟨fun h => absurd h hfresh, by simp, ?_, ?_, ?_⟩ <;> rintro _ ⟨⟩
      exacts [hs.time w hw, hs.events w hw, hs.pending w hw]
    · refine ⟨fun h => absurd h hfresh, by simp, ?_, ?_, ?_⟩ <;> rintro _ ⟨⟩
      · exact hs.time w hw
      · exact hs.events w hw
      · exact (List.suffix_cons e rest).trans (hpending ▸ hs.pending w hw)
    · refine ⟨fun h => absurd h hfresh, by simp, ?_, ?_, ?_⟩ <;> rintro _ ⟨⟩
      exacts [hs.time w hw, hs.events w hw, hs.pending w hw]

/-- A command that was taken when the clock had reached `time`, or has yet to read it, is being
served. -/
def Phase.Covers (time : DateTime) : Phase → Prop
  | .receiving => False
  | .persisting => True
  | .scheduling => True
  | .rearming now => time.timestamp ≤ now.timestamp

/-- The wake-up of a wait task that ended at `time` is queued or being served. -/
def Woken (s : Scheduler) (time : DateTime) : Prop :=
  time.timestamp ≤ s.clock.timestamp ∧
    (.nextSchedule ∈ s.inputCh ∨ Phase.Covers time s.phase)

/-- A wait task that has ended woke the loop. -/
def Wakes (s : Scheduler) : Prop :=
  ∀ w ∈ s.waitTask, w.finished = true → ∀ t ∈ w.nextEventTime, s.Woken t

/-- The realised times of the stored controls are ones a `DateTime` can represent. -/
def TimesFit (m : Sep2Model) : Prop :=
  ∀ e ∈ m.controls.entries, (minUtc ≤ e.2.startTime ∧ e.2.startTime ≤ maxUtc) ∧
    (minUtc ≤ e.2.endTime ∧ e.2.endTime ≤ maxUtc)

end Scheduler

/-- A prediction from fitting times lies ahead. -/
theorem lt_calcNextScheduleTime {m : Sep2Model} {lfdi : HexBinary160} {now t : DateTime}
    (hfit : Scheduler.TimesFit m) (h : (calcNextScheduleTime m lfdi now).1 = some t) :
    now.timestamp < t.timestamp := by
  rw [calcNextScheduleTime_fst] at h
  obtain ⟨b, hb, rfl⟩ := Option.map_eq_some_iff.1 h
  have hlt := lt_of_earliest_upcoming hb
  obtain ⟨⟨e, he, rfl⟩, -⟩ := earliest_eq_some_iff.1 hb
  obtain ⟨c, hc, hbound⟩ := List.mem_flatMap.1 (mem_upcoming.1 he).1
  have hrange : minUtc ≤ e.1 ∧ e.1 ≤ maxUtc := by
    cases c with
    | default => cases hbound
    | scheduled c =>
      obtain ⟨id, hid⟩ := stored_of_mem_allControlsForDevice hc
      have := hfit _ hid
      simp only [ControlRef.boundaries, List.mem_cons, List.not_mem_nil, or_false] at hbound
      rcases hbound with rfl | rfl
      · exact this.1
      · exact this.2
  rwa [timestamp_datetimeFromInt64 hrange]

namespace Scheduler

variable {lfdi : HexBinary160} {s t : Scheduler}

/-- A wait task that has ended is replaced by the loop it woke, for the times ahead of the reading
are not the time it waited for. -/
theorem Wakes.rearm (hfit : TimesFit s.model) (harmed : s.Armed) (hs : s.Wakes)
    (h : s.rearm lfdi = some t) : t.Wakes := by
  obtain ⟨now, hphase, ⟨hsame, -, rfl⟩ | ⟨-, rfl⟩⟩ := rearm_cases h
  · intro w hw hfin time htime
    obtain ⟨hdue, hqueued | hcovers⟩ := hs w hw hfin time htime
    · exact ⟨hdue, .inl hqueued⟩
    · have hnext : (calcNextScheduleTime s.model lfdi now).1 = some time := by
        rw [hsame, ← harmed.time w hw]
        exact htime
      rw [hphase] at hcovers
      exact absurd (lt_calcNextScheduleTime hfit hnext) (not_lt.2 hcovers)
  · rintro _ ⟨⟩ hfin
    cases hfin

theorem wakes_wait (h : s.wait = some t) : t.Wakes := by
  obtain ⟨w, hw, hfin, ⟨hnone, rfl⟩ | ⟨time, htime, hdue, ⟨e, rest, -, rfl⟩ | ⟨-, rfl⟩⟩⟩ :=
    wait_cases h
  · rintro _ ⟨⟩ - t ht
    exact absurd (hnone.symm.trans ht) (by simp)
  · rintro _ ⟨⟩ hfin'
    exact absurd (hfin.symm.trans hfin') (by simp)
  · rintro _ ⟨⟩ - t ht
    cases Option.some.inj (htime.symm.trans ht)
    exact ⟨hdue, .inl (by simp)⟩

theorem Wakes.step {l : TaskLabel} (hs : s.Wakes) (harmed : s.Armed) (hfit : TimesFit s.model)
    (h : s.step lfdi l = some t) : t.Wakes := by
  cases l with
  | tick now =>
    obtain ⟨hle, rfl⟩ := tick_eq_some.1 h
    exact fun w hw hfin t ht => ⟨(hs w hw hfin t ht).1.trans hle, (hs w hw hfin t ht).2⟩
  | send command =>
    cases h
    exact fun w hw hfin t ht =>
      ⟨(hs w hw hfin t ht).1, (hs w hw hfin t ht).2.imp_left (List.mem_append_left _)⟩
  | receive seeds order =>
    obtain ⟨_, _, _, -, rfl | rfl, rfl⟩ := receive_cases h <;>
      exact fun w hw hfin t ht => ⟨(hs w hw hfin t ht).1, .inr trivial⟩
  | persist succeeds =>
    obtain ⟨-, _, rfl⟩ := persist_cases h
    exact fun w hw hfin t ht => ⟨(hs w hw hfin t ht).1, .inr trivial⟩
  | schedule =>
    obtain ⟨-, _, _, -, rfl⟩ := schedule_cases h
    exact fun w hw hfin t ht => ⟨(hs w hw hfin t ht).1, .inr (hs w hw hfin t ht).1⟩
  | rearm => exact hs.rearm hfit harmed h
  | wait => exact wakes_wait h

/-- Between commands with an empty queue, no wait task has fired. -/
theorem Wakes.not_finished (hs : s.Wakes) (hphase : s.phase = .receiving)
    (hqueue : s.inputCh = []) {w : WaitTask} (hw : w ∈ s.waitTask) {time : DateTime}
    (htime : w.nextEventTime = some time) : w.finished = false := by
  by_contra hfin
  obtain ⟨-, hqueued | hcovers⟩ := hs w hw (by simpa using hfin) time htime
  · simp [hqueue] at hqueued
  · simp [hphase, Phase.Covers] at hcovers

/-! ## Runs -/

structure InSync (lfdi : HexBinary160) (s : Scheduler) : Prop where
  broadcast : lastParameters s.outputCh = s.priorParameters
  responses : s.Responses
  calculated : Calculated lfdi s
  armed : s.Armed
  wakes : s.Wakes

theorem InSync.step {l : TaskLabel} (hs : InSync lfdi s) (hfit : TimesFit s.model)
    (h : s.step lfdi l = some t) : InSync lfdi t := by
  refine ⟨?_, hs.responses.step h, hs.calculated.step h, hs.armed.step h,
    hs.wakes.step hs.armed hfit h⟩
  by_cases hl : l = .schedule
  · subst hl
    exact lastParameters_schedule h (.inl hs.broadcast)
  · obtain ⟨hlast, hprior, -⟩ := lastParameters_step hs.responses hl h
    rw [hlast, hprior, hs.broadcast]

/-- The wait task that is armed, if any, is not yet due. -/
def NotDue (s : Scheduler) : Prop :=
  ∀ w ∈ s.waitTask, w.finished = false → ∀ time ∈ w.nextEventTime,
    s.clock.timestamp < time.timestamp

/-- **The scheduler keeps the device in step with the model.** -/
theorem inSync_of_exec {clock : DateTime} {loaded : Sep2Model} {ls : List TaskLabel}
    (h : Exec (step lfdi) (fun s _ => TimesFit s.model) (start clock loaded) ls t)
    (hprocessed : 0 < t.processed) (hphase : t.phase = .receiving) (hqueue : t.inputCh = [])
    (hdue : t.NotDue) :
    lastParameters t.outputCh = calcParameters t.model lfdi t.clock.timestamp ∧
      ∀ time, (calcNextScheduleTime t.model lfdi t.clock).1 = some time →
        ∃ w, t.waitTask = some w ∧ w.finished = false ∧ w.nextEventTime = some time := by
  have hsync : InSync lfdi t := h.invariant
    ⟨rfl, by simp [Responses, start], .of_start clock loaded, .of_start clock loaded,
      by simp [Wakes, start]⟩
    fun _ _ _ hs hfit hst => hs.step hfit hst
  obtain ⟨now, hnow⟩ := Option.ne_none_iff_exists'.1 (hsync.calculated.read hprocessed)
  obtain ⟨hreckoned, htime, -⟩ := hsync.calculated.receiving hphase now hnow
  have hahead : ∀ time, (calcNextScheduleTime t.model lfdi now).1 = some time →
      ∃ w, t.waitTask = some w ∧ w.finished = false ∧ w.nextEventTime = some time := by
    intro time hnext
    rw [← htime] at hnext
    cases hw : t.waitTask with
    | none => exact absurd ((hsync.armed.none hw).symm.trans hnext) (by simp)
    | some w =>
      have hwtime := (hsync.armed.time w hw).trans hnext
      exact ⟨w, rfl, hsync.wakes.not_finished hphase hqueue hw hwtime, hwtime⟩
  -- The last reading is as good as one taken now.
  have hnotDue : ∀ time, (calcNextScheduleTime t.model lfdi now).1 = some time →
      t.clock.timestamp < time.timestamp := by
    intro time htime
    obtain ⟨w, hw, hfin, hwtime⟩ := hahead time htime
    exact hdue w hw hfin time hwtime
  obtain ⟨hparameters, hnext⟩ := quiet hreckoned.past hnotDue
  refine ⟨?_, fun time htime => hahead time (hnext ▸ htime)⟩
  rw [hsync.broadcast, hreckoned.parameters, hparameters]

/-! ## A device with one control -/

/-- A control for the seconds from 10 until 20 that disconnects the device. -/
def disconnect : DERControl :=
  { mrid := 4, href := some "/derc/0", interval := ⟨10, 10⟩
    responseRequired := some ⟨true, true⟩, replyTo := some "/rsp"
    derControlBase := { opModConnect := some false } }

def deviceList : Sep2ResourceEvent :=
  .endDeviceList
    { href := some "/edev", endDevice := [
      { href := some "/edev/0", lfdi := some 1, functionSetAssignmentsListLink := some ⟨"/fsa"⟩ }] }

def assignmentsList : Sep2ResourceEvent :=
  .functionSetAssignmentsList
    { href := some "/fsa", functionSetAssignments := [
      { mrid := 2, href := some "/fsa/0", derProgramListLink := some ⟨"/derp"⟩ }] }

def programList : Sep2ResourceEvent :=
  .derProgramList
    { href := some "/derp", derProgram := [
      { mrid := 3, href := some "/derp/0", derControlListLink := some ⟨"/derc"⟩ }] }

def controlList (controls : List DERControl) : Sep2ResourceEvent :=
  .derControlList { href := some "/derc", derControl := controls }

/-- The loop takes a command and goes round once. -/
def serve (command : Command) : List TaskLabel :=
  match command with
  | .resourceUpdated _ =>
    [.send command, .receive (fun _ => (0, 0)) [], .persist true, .schedule, .rearm]
  | _ => [.send command, .receive (fun _ => (0, 0)) [], .schedule, .rearm]

/-- The server's resources arrive, the controls last. -/
def discovery (controls : List DERControl) : List TaskLabel :=
  [deviceList, assignmentsList, programList, controlList controls].flatMap fun u =>
    serve (.resourceUpdated u)

instance : Decidable (TimesFit m) := by unfold TimesFit; infer_instance

instance : Decidable s.NotDue := by unfold NotDue; infer_instance

def second (n : Nat) (h : n ≤ 100 := by decide) : DateTime :=
  ⟨n, by unfold minUtc maxUtc; omega⟩

/-- The model that has taken in the resources and the control. -/
def knownModel : Sep2Model where
  endDeviceList := some ⟨"/edev", [1], none⟩
  endDevices := (∅ : HashMap _ _).insert 1
    { href := some "/edev/0", lfdi := some 1, functionSetAssignmentsListLink := some ⟨"/fsa"⟩ }
  functionSetAssignmentsLists := (∅ : HashMap _ _).insert "/fsa" ⟨"/fsa", [2], none⟩
  functionSetAssignments := (∅ : HashMap _ _).insert 2
    { mrid := 2, href := some "/fsa/0", derProgramListLink := some ⟨"/derp"⟩ }
  programLists := (∅ : HashMap _ _).insert "/derp" ⟨"/derp", [3], none⟩
  programs := (∅ : HashMap _ _).insert 3
    { mrid := 3, href := some "/derp/0", derControlListLink := some ⟨"/derc"⟩ }
  controlLists := (∅ : HashMap _ _).insert "/derc" ⟨"/derc", [4], none⟩
  controls := (∅ : HashMap _ _).insert 4 ⟨disconnect, 10, 10⟩

example : (run (step 1) (start (second 5) {}) (discovery [disconnect])).map Scheduler.model =
    some knownModel := by
  decide

/-- The wait task broadcasts its one event and wakes the loop, which goes round. -/
def wakeUp : List TaskLabel :=
  [.wait, .wait, .receive (fun _ => (0, 0)) [], .schedule, .rearm]

theorem inSync_of_exec_started : ∃ t,
    Exec (step 1) (fun s _ => TimesFit s.model) (start (second 5) {})
      (discovery [disconnect] ++ .tick (second 10) :: wakeUp) t ∧
    lastParameters t.outputCh = calcParameters t.model 1 t.clock.timestamp ∧
      ∀ time, (calcNextScheduleTime t.model 1 t.clock).1 = some time →
        ∃ w, t.waitTask = some w ∧ w.finished = false ∧ w.nextEventTime = some time := by
  have hruns : (runIf (step 1) (fun s _ => TimesFit s.model) (start (second 5) {})
      (discovery [disconnect] ++ .tick (second 10) :: wakeUp)).any (fun t =>
        0 < t.processed ∧ t.phase = .receiving ∧ t.inputCh = [] ∧ t.NotDue) = true := by
    decide
  obtain ⟨t, ht, hidle⟩ := (Option.any_eq_true _ _).1 hruns
  obtain ⟨hprocessed, hphase, hqueue, hdue⟩ := of_decide_eq_true hidle
  have hexec := exec_iff_runIf.2 ht
  exact ⟨t, hexec, inSync_of_exec hexec hprocessed hphase hqueue hdue⟩

end Scheduler

end Sep2Bridge
