import Sep2Bridge.Bridge.Channels
import Sep2Bridge.Connection.Commands

/-!
# The links that are polled

The scheduler announces the links of its model as it starts, and then each change of them. The
connection task polls what it is told to.

An update may come before the scheduler has announced what it knew. What the connection task has
been told of a link is then nothing, or what the model has of it (`Listened`). Once all is
announced, it is always the latter.

**Theorem (`polls_follow_model`).** When the way to the connection task is settled, it polls exactly
the links of the model, each once, as the kind and at the rate that the model has.

**Theorem (`postRates_follow_model`).** So for the post rates.

A link must not change its kind while it is there, since the poll would go on as it began, and a
merge must be sweep safe, since what the sweep drops is not announced.
-/

namespace Sep2Bridge

open Lib Connection

/-! ## The links that are announced -/

/-- The change of a link that an event announces. -/
abbrev linkChange? : Event → Option (String × Option ResourceLink) :=
  forwarded? deviceReports 0

/-- What the connection task sticks to, when it has been told of these events. -/
def heldAfter (events : List Event) : String → Option ResourceLink :=
  followAll sticks (fun _ => none) (events.filterMap linkChange?)

/-- A link that stays is of the same kind, if that can be polled. -/
def KindsKept (prior post : ResourceLinks) : Prop :=
  ∀ e ∈ prior.toList, (pollOf e.2.kind).isSome = true →
    ∀ link ∈ post[e.1]?, link.kind = e.2.kind

instance (prior post : ResourceLinks) : Decidable (KindsKept prior post) := by
  unfold KindsKept; infer_instance

theorem heldAfter_append (events events' : List Event) :
    heldAfter (events ++ events') =
      followAll sticks (heldAfter events) (events'.filterMap linkChange?) := by
  unfold heldAfter
  rw [List.filterMap_append, followAll_append]

theorem linkChange?_of_isResponse {e : Event} (h : e.IsResponse) : linkChange? e = none := by
  cases e <;> first | rfl | cases h

theorem heldAfter_silent {events events' : List Event}
    (h : ∀ e ∈ events', linkChange? e = none) :
    heldAfter (events ++ events') = heldAfter events := by
  rw [heldAfter_append, List.filterMap_eq_nil_iff.2 h]
  rfl

/-- What is held once a difference is announced. -/
theorem heldAfter_difference (events : List Event) (prior post : ResourceLinks) (href : String) :
    heldAfter (events ++ Sep2Model.resourceLinkEvents prior post) href =
      if prior[href]? = post[href]? then heldAfter events href
      else sticks (heldAfter events href) post[href]? := by
  rw [heldAfter_append, forwarded_resourceLinkEvents, followAll_changes sticks_sticks]

/-- A link that is held follows one that keeps its kind. -/
theorem KindsKept.sticks {prior post : ResourceLinks} (h : KindsKept prior post) (href : String) :
    sticks (Connection.sticks none prior[href]?) post[href]? =
      Connection.sticks none post[href]? := by
  cases hprior : prior[href]? with
  | none => rfl
  | some a =>
    by_cases hkind : (pollOf a.kind).isSome = true
    · have ha : (href, a) ∈ prior.toList :=
        Std.ExtTreeMap.mem_toList_iff_getElem?_eq_some.2 hprior
      cases hpost : post[href]? with
      | none => rfl
      | some b =>
        obtain ⟨kind, pollRate⟩ := b
        obtain rfl : kind = a.kind := h (href, a) ha hkind _ hpost
        simp [Connection.sticks, hkind]
    · simp [Connection.sticks, hkind]

/-! ## What a step of the scheduler announces -/

namespace Scheduler

variable {lfdi : HexBinary160} {s t : Scheduler}

/-- The update that the loop takes in next is sweep safe, and no link changes its kind. -/
def KeepsLinks (s : Scheduler) : TaskLabel → Prop
  | .receive seeds _ => ∀ resource ∈ s.inputCh.head?.bind Command.resource?,
      ∀ merged ∈ s.model.setResource
          (fun i => ⟨(seeds i).1, (seeds i).2, s.clock.timestamp⟩) resource,
        merged.1.SweepSafe ∧ KindsKept s.model.resourceLinks merged.1.resourceLinks
  | _ => True

/-- A step that announces no link. A command to announce all that is not taken in remains. -/
structure Silent (s t : Scheduler) : Prop where
  outputCh : ∃ events, t.outputCh = s.outputCh ++ events ∧ ∀ e ∈ events, linkChange? e = none
  model : t.model = s.model
  refresh : .refreshActiveResources ∈ s.inputCh → .refreshActiveResources ∈ t.inputCh

theorem Silent.of_outputCh (houtput : t.outputCh = s.outputCh) (hmodel : t.model = s.model)
    (hinput : s.inputCh ⊆ t.inputCh) : Silent s t where
  outputCh := ⟨[], houtput.trans (List.append_nil _).symm, fun _ he => absurd he List.not_mem_nil⟩
  model := hmodel
  refresh h := hinput h

theorem Silent.heldAfter (h : Silent s t) : heldAfter t.outputCh = heldAfter s.outputCh := by
  obtain ⟨events, hevents, hsilent⟩ := h.outputCh
  rw [hevents, heldAfter_silent hsilent]

/-- What a step announces. -/
inductive Announces (s t : Scheduler) : Prop
  | silent : Silent s t → Announces s t
  | all {rest : List Command} : s.inputCh = .refreshActiveResources :: rest →
      t.outputCh = s.outputCh ++ Sep2Model.resourceLinkEvents ∅ t.model.resourceLinks →
      t.model = s.model → Announces s t
  | difference {resource : Sep2ResourceEvent} {rest : List Command} {responses : List Event} :
      s.inputCh = .resourceUpdated resource :: rest → t.inputCh = rest →
      t.outputCh = s.outputCh ++
        (Sep2Model.resourceLinkEvents s.model.resourceLinks t.model.resourceLinks ++ responses) →
      (∀ e ∈ responses, e.IsResponse) →
      KindsKept s.model.resourceLinks t.model.resourceLinks → Announces s t

theorem announces_receive {seeds : Nat → Nat × Nat} {order : List (MRIDType × DERCurve)}
    (hkeeps : s.KeepsLinks (.receive seeds order)) (h : s.receive seeds order = some t) :
    Announces s t := by
  obtain ⟨-, command, rest, hinput, ⟨rfl, rfl⟩ | ⟨rfl, rfl⟩ |
    ⟨resource, model, events, rfl, hupdate, rfl⟩⟩ := receive_eq_some h
  · refine .silent ⟨⟨[], (List.append_nil _).symm, fun _ he => absurd he List.not_mem_nil⟩, rfl, ?_⟩
    intro hmem
    rw [hinput] at hmem
    exact (List.mem_cons.1 hmem).resolve_left fun h => by cases h
  · exact .all hinput rfl rfl
  · obtain ⟨merged, responses, hset, rfl, rfl⟩ := Sep2Model.applyUpdate_eq_some.1 hupdate
    have hhead : resource ∈ s.inputCh.head?.bind Command.resource? := by
      rw [hinput]
      rfl
    obtain ⟨hsafe, hkinds⟩ := hkeeps resource hhead _ hset
    have hlinks : (merged.sweep merged.resourceLinks order).resourceLinks = merged.resourceLinks :=
      Sep2Model.resourceLinks_sweep hsafe
    refine .difference hinput rfl ?_ (Sep2Model.setResource_isResponse hset) ?_
    · dsimp only
      rw [hlinks]
    · dsimp only
      rw [hlinks]
      exact hkinds

theorem announces_step {l : TaskLabel} (hresponses : s.Responses) (hkeeps : s.KeepsLinks l)
    (h : s.step lfdi l = some t) : Announces s t := by
  cases l with
  | tick now =>
    obtain ⟨-, rfl⟩ := tick_eq_some.1 h
    exact .silent (.of_outputCh rfl rfl fun _ => id)
  | send command =>
    cases h
    exact .silent (.of_outputCh rfl rfl (List.subset_append_left _ _))
  | receive seeds order => exact announces_receive hkeeps h
  | persist succeeds =>
    obtain ⟨-, _, rfl⟩ := persist_cases h
    exact .silent (.of_outputCh rfl rfl fun _ => id)
  | schedule =>
    obtain ⟨-, rfl⟩ := schedule_eq_some h
    refine .silent ⟨⟨_, List.append_assoc _ _ _, fun e he => ?_⟩, rfl, id⟩
    obtain he | he := List.mem_append.1 he
    · split_ifs at he
      · cases he
      · cases List.mem_singleton.1 he
        rfl
    · split_ifs at he
      · cases he
      · cases List.mem_singleton.1 he
        rfl
  | rearm =>
    obtain ⟨now, -, ⟨-, -, rfl⟩ | ⟨-, rfl⟩⟩ := rearm_cases h <;>
      exact .silent (.of_outputCh rfl rfl fun _ => id)
  | wait =>
    obtain ⟨w, hw, -, ⟨-, rfl⟩ | ⟨-, -, -, ⟨e, rest, hpending, rfl⟩ | ⟨-, rfl⟩⟩⟩ := wait_cases h
    · exact .silent (.of_outputCh rfl rfl fun _ => id)
    · have he : e.IsResponse := hresponses w hw e (by rw [hpending]; exact List.mem_cons_self)
      have hsilent : ∀ e' ∈ [e], linkChange? e' = none :=
        List.forall_mem_singleton.2 (linkChange?_of_isResponse he)
      exact .silent ⟨⟨[e], rfl, hsilent⟩, rfl, id⟩
    · exact .silent (.of_outputCh rfl rfl (List.subset_append_left _ _))

/-- Of each link, the connection task is told nothing yet, or what the model has. -/
def Listened (s : Scheduler) : Prop :=
  ∀ href, heldAfter s.outputCh href = none ∨
    heldAfter s.outputCh href = sticks none s.model.resourceLinks[href]?

/-- Of each link, the connection task is told what the model has. -/
def ToldAll (s : Scheduler) : Prop :=
  ∀ href, heldAfter s.outputCh href = sticks none s.model.resourceLinks[href]?

theorem Listened.step (hs : s.Listened) (h : Announces s t) : t.Listened := by
  intro href
  cases h with
  | silent hsilent =>
    rw [hsilent.heldAfter, hsilent.model]
    exact hs href
  | all hinput houtput hmodel =>
    rw [houtput, hmodel, heldAfter_difference]
    split_ifs with hsame
    · exact hs href
    · obtain hnone | hsome := hs href
      · exact .inr (by rw [hnone])
      · exact .inr (by rw [hsome, sticks_sticks])
  | difference hinput _ houtput hresponses hkinds =>
    rw [houtput, ← List.append_assoc,
      heldAfter_silent fun e he => linkChange?_of_isResponse (hresponses e he),
      heldAfter_difference]
    split_ifs with hsame
    · rw [← hsame]
      exact hs href
    · obtain hnone | hsome := hs href
      · exact .inr (by rw [hnone])
      · exact .inr (by rw [hsome, hkinds.sticks])

/-- **Once all is announced**, the connection task stays told. -/
theorem ToldAll.step (hs : s.Listened) (hall : .refreshActiveResources ∉ s.inputCh → s.ToldAll)
    (h : Announces s t) (ht : .refreshActiveResources ∉ t.inputCh) : t.ToldAll := by
  intro href
  cases h with
  | silent hsilent =>
    rw [hsilent.heldAfter, hsilent.model]
    exact hall (fun hmem => ht (hsilent.refresh hmem)) href
  | all hinput houtput hmodel =>
    rw [houtput, heldAfter_difference, hmodel]
    have hempty : (∅ : ResourceLinks)[href]? = none := Std.ExtTreeMap.getElem?_empty
    split_ifs with hsame
    · -- the model has no such link, and then none was announced
      have hnone : s.model.resourceLinks[href]? = none := hsame.symm.trans hempty
      rw [hnone]
      obtain h | h := hs href
      · exact h
      · rw [hnone] at h
        exact h
    · obtain hnone | hsome := hs href
      · rw [hnone]
      · rw [hsome, sticks_sticks]
  | difference hinput hrest houtput hresponses hkinds =>
    have hs : s.ToldAll := by
      refine hall fun hmem => ht ?_
      rw [hinput] at hmem
      rw [hrest]
      exact (List.mem_cons.1 hmem).resolve_left fun h => by cases h
    rw [houtput, ← List.append_assoc,
      heldAfter_silent fun e he => linkChange?_of_isResponse (hresponses e he),
      heldAfter_difference]
    split_ifs with hsame
    · rw [← hsame]
      exact hs href
    · rw [hs href, hkinds.sticks]

end Scheduler

/-- Of a link that is not held yet, what is held is what would be polled. -/
theorem bind_sticks (args : Args) (href : String) (link : Option ResourceLink) :
    (sticks none link).bind (pollFor args href) = link.bind (pollFor args href) := by
  cases link with
  | none => rfl
  | some link =>
    by_cases hkind : (pollOf link.kind).isSome = true
    · simp [sticks, hkind]
    · simp [sticks, pollFor, Option.not_isSome_iff_eq_none.1 hkind]

namespace Bridge

variable {M : Type} {setup : Setup} {s t : Bridge M} {l : BridgeLabel M}
  {ok : Bridge M → BridgeLabel M → Prop} {labels : List (BridgeLabel M)} {clock : DateTime}
  {loaded : Sep2Model} {now : Nat} {registers : Modbus.Registers}

/-! ## On the way to the connection task -/

/-- Nothing is under way from the scheduler to the connection task. -/
structure SubscriptionsSettled (s : Bridge M) : Prop where
  published : s.published = []
  channel : s.subscriptions.channel = []
  held : s.subscriptions.held = []
  connectionInput : s.connectionInput = []

/-- What is read off the commands that the connection task has received is what is read off all
that the scheduler has broadcast. -/
theorem SubscriptionsSettled.received {γ : Type} {image : Event → Option γ}
    {f : Connection.Command deviceReports → Option γ} (hsettled : s.SubscriptionsSettled)
    (hs : s.Flows setup) (hf : ∀ now e, (subscriptionRelay now e).filterMap f = (image e).toList)
    (hother : ∀ command, command.fromScheduler = false → f command = none)
    (himage : ∀ e, isLoopEvent e = false → image e = none) :
    (commandsIn s.log).filterMap f = s.scheduler.outputCh.filterMap image := by
  have hconserved := hs.subscriptions.conserved_shared hf hother
  rw [hsettled.channel, hsettled.held, told, hsettled.connectionInput] at hconserved
  rw [← hs.filterMap_events himage, hsettled.published, List.append_nil, hconserved]
  simp

/-! ## The polls -/

/-- The updates that the loop takes in are sweep safe and keep the kinds of the links. -/
def KeepsLinks (s : Bridge M) : BridgeLabel M → Prop
  | .loop label => s.scheduler.KeepsLinks label
  | _ => True

/-- Of each link, the connection task is told nothing yet, or what the model has; the latter, once
the scheduler has taken in the command to announce all. -/
structure Announcing (s : Bridge M) : Prop where
  listened : s.scheduler.Listened
  toldAll : s.main = .awaiting → .refreshActiveResources ∉ s.scheduler.inputCh →
    s.scheduler.ToldAll

theorem Announcing.scheduler (hs : s.Announcing) (h : s.scheduler.Announces t.scheduler)
    (hmain : t.main = s.main) : t.Announcing where
  listened := hs.listened.step h
  toldAll hawaiting := .step hs.listened (hs.toldAll (hmain ▸ hawaiting)) h

/-- **Step lemma.** -/
theorem Announcing.next (hs : s.Announcing) (hresponses : s.scheduler.Responses)
    (hkeeps : s.KeepsLinks l) (h : s.Next setup l t) : t.Announcing := by
  have hstep (label : TaskLabel) {u : Scheduler} (hlabel : s.scheduler.KeepsLinks label)
      (h : s.scheduler.step setup.lfdi label = some u) : s.scheduler.Announces u :=
    Scheduler.announces_step hresponses hlabel h
  cases h with
  | waking => exact ⟨hs.listened, fun h => by cases h⟩
  | refreshing =>
    have hsend := hstep (.send .refreshActiveResources) trivial rfl
    refine ⟨hs.listened.step hsend, fun _ hinput => absurd ?_ hinput⟩
    exact List.mem_append_right _ List.mem_cons_self
  | @forwardResource command _ =>
    exact hs.scheduler (hstep (.send command) trivial rfl) rfl
  | loop _ _ hscheduler => exact hs.scheduler (hstep _ hkeeps hscheduler) rfl
  | @tick now _ htick => exact hs.scheduler (hstep (.tick now) trivial htick) rfl
  | responds hwait => exact hs.scheduler (hstep .wait trivial hwait) rfl
  | finishes hwait => exact hs.scheduler (hstep .wait trivial hwait) rfl
  | _ => exact ⟨hs.listened, hs.toldAll⟩

theorem announcing_of_exec
    (h : Exec (step setup) KeepsLinks (start clock loaded now registers) labels t) :
    t.Announcing := by
  have hstart : (start clock loaded now registers : Bridge M).Announcing :=
    ⟨fun _ => .inl rfl, fun h => by cases h⟩
  refine (h.invariant (I := fun s => s.Announcing ∧ s.scheduler.Responses)
    ⟨hstart, Scheduler.responses_start clock loaded⟩ fun s l t hs hkeeps hstep => ?_).1
  have hnext := next_of_step hstep
  exact ⟨hs.1.next hs.2 hkeeps hnext, responses_next hs.2 hnext⟩

theorem filterMap_change (log : List (Moment deviceReports)) :
    (commandsIn log).filterMap change? = log.filterMap receivedChange? := by
  unfold commandsIn
  rw [List.filterMap_map, List.filterMap_filterMap]
  rfl

/-- **The polls follow the model** of the scheduler, once all that it has announced is received. -/
theorem polls_follow_model
    (h : Exec (step setup) KeepsLinks (start clock loaded now registers) labels t)
    (hmain : t.main = .awaiting) (hrefreshed : .refreshActiveResources ∉ t.scheduler.inputCh)
    (hsettled : t.SubscriptionsSettled) (hfresh : (t.log.filterMap started?).Nodup) :
    PollsFor setup.args t.log t.scheduler.model.resourceLinks := by
  have hreceived : t.log.filterMap receivedChange? =
      t.scheduler.outputCh.filterMap linkChange? := by
    rw [← filterMap_change]
    refine hsettled.received (flows_of_exec h) (fun now e => ?_) (fun command hcommand => ?_)
      fun e he => ?_
    · cases e <;> rfl
    · cases command <;> first | rfl | cases hcommand
    · cases e <;> first | rfl | cases he
  intro href
  rw [polls_of_log (iterates_of_exec h) hfresh, heldBy, hreceived,
    ← bind_sticks setup.args href t.scheduler.model.resourceLinks[href]?,
    ← (announcing_of_exec h).toldAll hmain hrefreshed href]
  rfl

/-! ## The post rates -/

/-- What the scheduler of the bridge goes through is a run of the scheduler. -/
theorem scheduler_run (h : Exec (step setup) ok (start clock loaded now registers) labels t) :
    ∃ ls, run (Scheduler.step setup.lfdi) (.start clock loaded) ls = some t.scheduler := by
  obtain ⟨ls, hls⟩ := h.project (Scheduler.step setup.lfdi) (fun _ _ => True) Bridge.scheduler
    fun s l t _ hstep => by
      obtain hsame | ⟨label, hlabel⟩ := scheduler_next (next_of_step hstep)
      · exact .inl hsame
      · exact .inr ⟨label, trivial, hlabel⟩
  exact ⟨ls, exec_true_iff.1 hls⟩

/-- **The post rates follow the model** of the scheduler between its commands. -/
theorem postRates_follow_model
    (h : run (step setup) (start clock loaded now registers) labels = some t)
    (hprocessed : 0 < t.scheduler.processed) (hphase : t.scheduler.phase = .receiving)
    (hsettled : t.SubscriptionsSettled) :
    t.connection.postRateDer = toDuration (t.scheduler.model.derListPollRate setup.lfdi) ∧
      t.connection.postRateMup =
        toDuration (t.scheduler.model.mirrorUsagePointPostRate setup.lfdi) := by
  have hexec := exec_true_iff.2 h
  have hreceived : (commandsIn t.log).filterMap Connection.Command.postRates? =
      t.scheduler.outputCh.filterMap Event.postRates? := by
    refine hsettled.received (flows_of_exec hexec) (fun now e => ?_) (fun command hcommand => ?_)
      fun e he => ?_
    · cases e <;> rfl
    · cases command <;> first | rfl | cases hcommand
    · cases e <;> first | rfl | cases he
  obtain ⟨ls, hls⟩ := scheduler_run hexec
  have hrates := postRates_of_iterates (iterates_of_exec hexec)
  rw [hreceived, Scheduler.postRates_current hls hphase hprocessed] at hrates
  exact hrates

/-! ## A list of DERs -/

/-- Our device, with a link to its list of DERs. -/
def aDevice : Sep2Model where
  endDeviceList := some ⟨"/edev", [1], none⟩
  endDevices := (∅ : HashMap _ _).insert 1
    { href := some "/edev/0", lfdi := some 1, derListLink := some ⟨"/der"⟩ }

/-- The scheduler announces the links, and then that the list of DERs has a poll rate. Both reach
the connection task. -/
def aPollRate : List (BridgeLabel Unit) :=
  [.main, .main, .loop (.receive (fun _ => (0, 0)) [])] ++ List.replicate 3 .broadcastEvent ++
    [.loop .schedule, .loop .rearm, .poll (.derList ⟨some "/der", some 60, []⟩), .takeResource,
      .forwardResource, .loop (.receive (fun _ => (0, 0)) []), .broadcastEvent,
      .loop (.persist true), .loop .schedule, .broadcastEvent, .loop .rearm] ++
    (List.replicate 5 [.takeEvent 0, .forwardCommand]).flatten ++ List.replicate 6 (.turn unserved)

instance (s : Scheduler) : (label : TaskLabel) → Decidable (s.KeepsLinks label)
  | .receive .. => inferInstanceAs (Decidable (∀ resource ∈ _, ∀ merged ∈ _, _))
  | .tick _ | .send _ | .persist _ | .schedule | .rearm | .wait => isTrue trivial

instance (s : Bridge M) : (label : BridgeLabel M) → Decidable (s.KeepsLinks label)
  | .loop label => inferInstanceAs (Decidable (s.scheduler.KeepsLinks label))
  | .main | .turn _ | .broadcastResource | .takeResource | .forwardResource | .broadcastEvent
  | .takeEvent _ | .forwardCommand | .takeControl | .forwardParameters | .iterate _
  | .broadcastPolled | .takePolled _ | .forwardReport | .tick _ | .wait | .poll _ | .wake _ =>
    isTrue trivial

abbrev aDeviceStart : Bridge Unit := start (Scheduler.second 5) aDevice 0 .initial

theorem polls_follow_model_rated : ∃ t,
    Exec (step aSetup) KeepsLinks aDeviceStart aPollRate t ∧
      (polling t.log).of "/der" = [⟨"/der", .derList, "/der?l=30", 60⟩] ∧
      PollsFor aSetup.args t.log t.scheduler.model.resourceLinks := by
  have hrun : (runIf (step aSetup) KeepsLinks aDeviceStart aPollRate).any (fun t =>
      decide (((polling t.log).of "/der" = [⟨"/der", .derList, "/der?l=30", 60⟩] ∧
        t.main = .awaiting ∧ .refreshActiveResources ∉ t.scheduler.inputCh) ∧
        (t.published = [] ∧ t.subscriptions.channel = [] ∧ t.subscriptions.held = [] ∧
          t.connectionInput.isEmpty = true) ∧ (t.log.filterMap started?).Nodup)) = true := by
    decide +kernel
  obtain ⟨t, hrun, ht⟩ := (Option.any_eq_true _ _).1 hrun
  obtain ⟨⟨hpoll, hmain, hinput⟩, ⟨hpublished, hchannel, hheld, hempty⟩, hfresh⟩ :=
    of_decide_eq_true ht
  have hexec := exec_iff_runIf.2 hrun
  have hsettled : t.SubscriptionsSettled :=
    ⟨hpublished, hchannel, hheld, List.isEmpty_iff.1 hempty⟩
  exact ⟨t, hexec, hpoll, polls_follow_model hexec hmain hinput hsettled hfresh⟩

theorem postRates_follow_model_rated : ∃ t, run (step aSetup) aDeviceStart aPollRate = some t ∧
    t.scheduler.model.derListPollRate aSetup.lfdi = some 60 ∧
    t.connection.postRateDer = toDuration (t.scheduler.model.derListPollRate aSetup.lfdi) ∧
      t.connection.postRateMup =
        toDuration (t.scheduler.model.mirrorUsagePointPostRate aSetup.lfdi) := by
  have hrun : (run (step aSetup) aDeviceStart aPollRate).any (fun t =>
      decide ((t.scheduler.model.derListPollRate aSetup.lfdi = some 60 ∧
        0 < t.scheduler.processed ∧ t.scheduler.phase = .receiving) ∧ t.published = [] ∧
        t.subscriptions.channel = [] ∧ t.subscriptions.held = [] ∧
        t.connectionInput.isEmpty = true)) = true := by
    decide +kernel
  obtain ⟨t, hrun, ht⟩ := (Option.any_eq_true _ _).1 hrun
  obtain ⟨⟨hrate, hprocessed, hphase⟩, hpublished, hchannel, hheld, hempty⟩ :=
    of_decide_eq_true ht
  have hsettled : t.SubscriptionsSettled :=
    ⟨hpublished, hchannel, hheld, List.isEmpty_iff.1 hempty⟩
  exact ⟨t, hrun, hrate, postRates_follow_model hrun hprocessed hphase hsettled⟩

end Bridge

end Sep2Bridge
