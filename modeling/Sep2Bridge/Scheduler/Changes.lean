import Sep2Bridge.Lib.Changes
import Sep2Bridge.Scheduler.InSync

/-!
# What the loop publishes

Each time it goes round, the loop calculates the post rates and the parameters anew and broadcasts
what is not as it was. It remembers both to tell.

**Theorem (`published_changes`).** The parameters broadcast in a run are those calculated when it
published, without repetitions, and the first are not the default. The same goes for the post rates.

**Theorem (`postRates_current`).** Between commands, the post rates last broadcast are those of the
model.
-/

namespace Sep2Bridge

open Lib

namespace Event

def parameters? : Event → Option ControlAttributes
  | parametersChanged attributes => some attributes
  | _ => none

def postRates? : Event → Option PostRates
  | postRatesChanged rates => some rates
  | _ => none

end Event

/-- The label at which the loop publishes. -/
def TaskLabel.publishes : TaskLabel → Bool
  | schedule => true
  | _ => false

namespace Scheduler

variable {lfdi : HexBinary160} {s t : Scheduler}

/-! ## What a step broadcasts -/

/-- `cur_post_rates`. -/
def curPostRates (lfdi : HexBinary160) (s : Scheduler) : PostRates where
  der := s.model.derListPollRate lfdi
  mirrorUsagePoint := s.model.mirrorUsagePointPostRate lfdi

/-- `cur_parameters`. -/
def curParameters (lfdi : HexBinary160) (s : Scheduler) : ControlAttributes :=
  calcParameters s.model lfdi s.clock.timestamp

/-- Publishing broadcasts the post rates and then the parameters, if they are new. -/
theorem schedule_eq_some (h : s.schedule lfdi = some t) : s.phase = .scheduling ∧
    t = { s with
      outputCh := s.outputCh ++
        (if s.curPostRates lfdi = s.priorPostRates then []
          else [.postRatesChanged (s.curPostRates lfdi)]) ++
        (if s.curParameters lfdi = s.priorParameters then []
          else [.parametersChanged (s.curParameters lfdi)])
      priorPostRates := s.curPostRates lfdi
      priorParameters := s.curParameters lfdi
      phase := .rearming s.clock
      lastReading := some s.clock } := by
  unfold schedule at h
  cases hphase : s.phase with
  | scheduling =>
    rw [hphase] at h
    exact ⟨rfl, (Option.some.inj h).symm⟩
  | _ =>
    rw [hphase] at h
    cases h

/-- Taking a command, with all that it does. -/
theorem receive_eq_some {seeds : Nat → Nat × Nat} {order : List (MRIDType × DERCurve)}
    (h : s.receive seeds order = some t) : s.phase = .receiving ∧ ∃ command rest,
      s.inputCh = command :: rest ∧
      ((command = .nextSchedule ∧ t = { s with inputCh := rest, phase := .scheduling }) ∨
        (command = .refreshActiveResources ∧ t = { s with
          inputCh := rest
          outputCh := s.outputCh ++ s.model.refreshKnownLinks
          phase := .scheduling }) ∨
        ∃ resource model events, command = .resourceUpdated resource ∧
          s.model.applyUpdate
            ⟨fun i => ⟨(seeds i).1, (seeds i).2, s.clock.timestamp⟩, order⟩ resource =
              some (model, events) ∧
          t = { s with
            inputCh := rest
            outputCh := s.outputCh ++ events
            model := model
            phase := .persisting }) := by
  simp only [receive] at h
  split at h
  · next hphase hqueue =>
    cases h
    exact ⟨hphase, _, _, hqueue, .inl ⟨rfl, rfl⟩⟩
  · next hphase hqueue =>
    cases h
    exact ⟨hphase, _, _, hqueue, .inr (.inl ⟨rfl, rfl⟩)⟩
  · next hphase hqueue =>
    obtain ⟨⟨model, events⟩, hupdate, rfl⟩ := Option.map_eq_some_iff.1 h
    exact ⟨hphase, _, _, hqueue, .inr (.inr ⟨_, model, events, rfl, hupdate, rfl⟩)⟩
  · cases h

end Scheduler

/-- Neither parameters nor post rates. -/
def Event.IsFeed (e : Event) : Prop := e.parameters? = none ∧ e.postRates? = none

theorem Event.IsResponse.isFeed {e : Event} (h : e.IsResponse) : e.IsFeed := by
  cases e <;> first | exact ⟨rfl, rfl⟩ | cases h

theorem isFeed_resourceLinkEvents {prior post : ResourceLinks} {e : Event}
    (h : e ∈ Sep2Model.resourceLinkEvents prior post) : e.IsFeed := by
  simp only [Sep2Model.resourceLinkEvents, List.mem_append, List.mem_map] at h
  rcases h with ⟨_, -, rfl⟩ | ⟨_, -, rfl⟩ <;> exact ⟨rfl, rfl⟩

theorem isFeed_applyUpdate {env : Surroundings} {m m' : Sep2Model} {u : Sep2ResourceEvent}
    {es : List Event} (h : m.applyUpdate env u = some (m', es)) : ∀ e ∈ es, e.IsFeed := by
  obtain ⟨merged, responses, hset, -, rfl⟩ := Sep2Model.applyUpdate_eq_some.1 h
  intro e he
  rcases List.mem_append.1 he with he | he
  · exact isFeed_resourceLinkEvents he
  · exact (Sep2Model.setResource_isResponse hset e he).isFeed

namespace Scheduler

variable {lfdi : HexBinary160} {s t : Scheduler}

/-- What a step other than publishing broadcasts. -/
theorem outputCh_of_not_publishes {l : TaskLabel} (hs : s.Responses) (hl : l.publishes = false)
    (h : s.step lfdi l = some t) : ∃ events, t.outputCh = s.outputCh ++ events ∧
      (∀ e ∈ events, e.IsFeed) ∧ t.priorParameters = s.priorParameters ∧
      t.priorPostRates = s.priorPostRates := by
  have hnil : ∀ e ∈ ([] : List Event), e.IsFeed := fun e he => absurd he List.not_mem_nil
  cases l with
  | tick now =>
    obtain ⟨-, rfl⟩ := tick_eq_some.1 h
    exact ⟨[], (List.append_nil _).symm, hnil, rfl, rfl⟩
  | send command =>
    cases h
    exact ⟨[], (List.append_nil _).symm, hnil, rfl, rfl⟩
  | receive seeds order =>
    obtain ⟨-, command, rest, -, ⟨-, rfl⟩ | ⟨-, rfl⟩ |
      ⟨resource, model, events, -, hupdate, rfl⟩⟩ := receive_eq_some h
    · exact ⟨[], (List.append_nil _).symm, hnil, rfl, rfl⟩
    · exact ⟨_, rfl, fun e he => isFeed_resourceLinkEvents he, rfl, rfl⟩
    · exact ⟨events, rfl, isFeed_applyUpdate hupdate, rfl, rfl⟩
  | persist succeeds =>
    obtain ⟨-, _, rfl⟩ := persist_cases h
    exact ⟨[], (List.append_nil _).symm, hnil, rfl, rfl⟩
  | schedule => cases hl
  | rearm =>
    obtain ⟨now, -, ⟨-, -, rfl⟩ | ⟨-, rfl⟩⟩ := rearm_cases h <;>
      exact ⟨[], (List.append_nil _).symm, hnil, rfl, rfl⟩
  | wait =>
    obtain ⟨w, hw, -, ⟨-, rfl⟩ | ⟨-, -, -, ⟨e, rest, hpending, rfl⟩ | ⟨-, rfl⟩⟩⟩ := wait_cases h
    · exact ⟨[], (List.append_nil _).symm, hnil, rfl, rfl⟩
    · have he : e.IsResponse := hs w hw e (by rw [hpending]; exact List.mem_cons_self)
      exact ⟨[e], rfl, List.forall_mem_singleton.2 he.isFeed, rfl, rfl⟩
    · exact ⟨[], (List.append_nil _).symm, hnil, rfl, rfl⟩

/-- Every step only adds to what was broadcast. -/
theorem outputCh_step {l : TaskLabel} (h : s.step lfdi l = some t) :
    ∃ events, t.outputCh = s.outputCh ++ events := by
  cases l with
  | tick now =>
    obtain ⟨-, rfl⟩ := tick_eq_some.1 h
    exact ⟨[], (List.append_nil _).symm⟩
  | send command =>
    cases h
    exact ⟨[], (List.append_nil _).symm⟩
  | receive seeds order =>
    obtain ⟨_, events, _, -, -, rfl⟩ := receive_cases h
    exact ⟨events, rfl⟩
  | persist succeeds =>
    obtain ⟨-, _, rfl⟩ := persist_cases h
    exact ⟨[], (List.append_nil _).symm⟩
  | schedule =>
    obtain ⟨-, rfl⟩ := schedule_eq_some h
    exact ⟨_, List.append_assoc _ _ _⟩
  | rearm =>
    obtain ⟨now, -, ⟨-, -, rfl⟩ | ⟨-, rfl⟩⟩ := rearm_cases h <;>
      exact ⟨[], (List.append_nil _).symm⟩
  | wait =>
    obtain ⟨w, -, -, ⟨-, rfl⟩ | ⟨-, -, -, ⟨e, _, -, rfl⟩ | ⟨-, rfl⟩⟩⟩ := wait_cases h
    · exact ⟨[], (List.append_nil _).symm⟩
    · exact ⟨[e], rfl⟩
    · exact ⟨[], (List.append_nil _).symm⟩

/-! ## What a run publishes -/

theorem publishes_parameters : PublishesChanges (step lfdi) TaskLabel.publishes Responses
    (fun s => s.outputCh.filterMap Event.parameters?) priorParameters (curParameters lfdi) where
  keeps hs h := hs.step h
  published {s t l} _ hl h := by
    cases l with
    | schedule =>
      obtain ⟨-, rfl⟩ := schedule_eq_some h
      refine ⟨?_, rfl⟩
      simp only [List.filterMap_append, List.append_assoc]
      split_ifs <;> rfl
    | _ => cases hl
  other {s t l} hs hl h := by
    obtain ⟨events, hevents, hfeed, hprior, -⟩ := outputCh_of_not_publishes hs hl h
    have hnone : events.filterMap Event.parameters? = [] :=
      List.filterMap_eq_nil_iff.2 fun e he => (hfeed e he).1
    exact ⟨by rw [hevents, List.filterMap_append, hnone, List.append_nil], hprior⟩

theorem publishes_postRates : PublishesChanges (step lfdi) TaskLabel.publishes Responses
    (fun s => s.outputCh.filterMap Event.postRates?) priorPostRates (curPostRates lfdi) where
  keeps hs h := hs.step h
  published {s t l} _ hl h := by
    cases l with
    | schedule =>
      obtain ⟨-, rfl⟩ := schedule_eq_some h
      refine ⟨?_, rfl⟩
      simp only [List.filterMap_append, List.append_assoc]
      split_ifs <;> rfl
    | _ => cases hl
  other {s t l} hs hl h := by
    obtain ⟨events, hevents, hfeed, -, hprior⟩ := outputCh_of_not_publishes hs hl h
    have hnone : events.filterMap Event.postRates? = [] :=
      List.filterMap_eq_nil_iff.2 fun e he => (hfeed e he).2
    exact ⟨by rw [hevents, List.filterMap_append, hnone, List.append_nil], hprior⟩

theorem responses_start (clock : DateTime) (loaded : Sep2Model) :
    (start clock loaded).Responses := by
  intro w hw
  cases hw

/-- **Only changes are published**, and each of them. -/
theorem published_changes {clock : DateTime} {loaded : Sep2Model} {ls : List TaskLabel}
    (h : run (step lfdi) (start clock loaded) ls = some t) :
    let published := publishing (step lfdi) TaskLabel.publishes (start clock loaded) ls
    {} :: t.outputCh.filterMap Event.parameters? =
        (published.map (curParameters lfdi)).destutter' (· ≠ ·) {} ∧
      {} :: t.outputCh.filterMap Event.postRates? =
        (published.map (curPostRates lfdi)).destutter' (· ≠ ·) {} := by
  obtain ⟨parameters, hparameters, hchanges, -⟩ :=
    publishes_parameters.history_of_run h (responses_start clock loaded)
  obtain ⟨rates, hrates, hchanges', -⟩ :=
    publishes_postRates.history_of_run h (responses_start clock loaded)
  rw [hparameters, hrates]
  exact ⟨hchanges, hchanges'⟩

/-- The loop goes round twice during the control, and once after it. -/
def threeRounds : List TaskLabel :=
  serve .refreshActiveResources ++ serve .nextSchedule ++ .tick (second 20) :: serve .nextSchedule

theorem published_changes_ended : ∃ t,
    run (step 1) (start (second 15) knownModel) threeRounds = some t ∧
    (t.outputCh.filterMap Event.parameters?).length = 2 ∧
    let published :=
      publishing (step 1) TaskLabel.publishes (start (second 15) knownModel) threeRounds
    {} :: t.outputCh.filterMap Event.parameters? =
        (published.map (curParameters 1)).destutter' (· ≠ ·) {} ∧
      {} :: t.outputCh.filterMap Event.postRates? =
        (published.map (curPostRates 1)).destutter' (· ≠ ·) {} := by
  have hrun : (run (step 1) (start (second 15) knownModel) threeRounds).any (fun t =>
      decide ((t.outputCh.filterMap Event.parameters?).length = 2)) = true := by
    decide +kernel
  obtain ⟨t, ht, hlength⟩ := (Option.any_eq_true _ _).1 hrun
  exact ⟨t, ht, of_decide_eq_true hlength, published_changes ht⟩

/-! ## The post rates between commands -/

/-- From publishing until the next command, the post rates remembered are those of the model. -/
structure Rated (lfdi : HexBinary160) (s : Scheduler) : Prop where
  rearming : ∀ now, s.phase = .rearming now → s.priorPostRates = s.curPostRates lfdi
  receiving : s.phase = .receiving → 0 < s.processed → s.priorPostRates = s.curPostRates lfdi

theorem Rated.frame (hs : Rated lfdi s) (hphase : t.phase = s.phase) (hmodel : t.model = s.model)
    (hrates : t.priorPostRates = s.priorPostRates) (hprocessed : t.processed = s.processed) :
    Rated lfdi t := by
  have hcur : t.curPostRates lfdi = s.curPostRates lfdi := by
    unfold curPostRates
    rw [hmodel]
  refine ⟨fun now hnow => ?_, fun hreceiving hpos => ?_⟩
  · rw [hrates, hcur]
    exact hs.rearming now (hphase ▸ hnow)
  · rw [hrates, hcur]
    exact hs.receiving (hphase ▸ hreceiving) (hprocessed ▸ hpos)

theorem Rated.step {l : TaskLabel} (hs : Rated lfdi s) (h : s.step lfdi l = some t) :
    Rated lfdi t := by
  cases l with
  | tick now =>
    obtain ⟨-, rfl⟩ := tick_eq_some.1 h
    exact hs.frame rfl rfl rfl rfl
  | send command =>
    cases h
    exact hs.frame rfl rfl rfl rfl
  | receive seeds order =>
    obtain ⟨_, _, _, -, rfl | rfl, rfl⟩ := receive_cases h <;>
      exact ⟨fun _ h => (by cases h), fun h => by cases h⟩
  | persist succeeds =>
    obtain ⟨-, _, rfl⟩ := persist_cases h
    exact ⟨fun _ h => (by cases h), fun h => by cases h⟩
  | schedule =>
    obtain ⟨-, rfl⟩ := schedule_eq_some h
    exact ⟨fun _ _ => rfl, fun h => by cases h⟩
  | rearm =>
    obtain ⟨now, hphase, ⟨-, -, rfl⟩ | ⟨-, rfl⟩⟩ := rearm_cases h
    · exact ⟨fun _ h => (by cases h), fun _ _ => hs.rearming now hphase⟩
    · exact ⟨fun _ h => (by cases h), fun _ _ => hs.rearming now hphase⟩
  | wait =>
    obtain ⟨w, -, -, ⟨-, rfl⟩ | ⟨-, -, -, ⟨_, _, -, rfl⟩ | ⟨-, rfl⟩⟩⟩ := wait_cases h <;>
      exact hs.frame rfl rfl rfl rfl

/-- **Between commands** the post rates last broadcast are those of the model. -/
theorem postRates_current {clock : DateTime} {loaded : Sep2Model} {ls : List TaskLabel}
    (h : run (step lfdi) (start clock loaded) ls = some t) (hphase : t.phase = .receiving)
    (hprocessed : 0 < t.processed) :
    (t.outputCh.filterMap Event.postRates?).getLastD {} = t.curPostRates lfdi := by
  have hrated : Rated lfdi t := by
    refine (exec_true_iff.2 h).invariant ?_ fun _ _ _ hs _ hstep => hs.step hstep
    exact ⟨fun _ h => (by cases h), fun _ h => absurd h (Nat.lt_irrefl 0)⟩
  obtain ⟨rates, hrates, -, hlast⟩ :=
    publishes_postRates.history_of_run h (responses_start clock loaded)
  rw [← hrated.receiving hphase hprocessed, hlast, hrates]
  exact (List.getLast_eq_getLastD _).symm

end Scheduler

end Sep2Bridge
