import Sep2Bridge.Scheduler.LinkFeed
import Sep2Bridge.Scheduler.NextSchedule

/-!
# A control received after its start

The start of a control is told at its boundary, by the prediction, or on its arrival, when the
boundary has passed.

**On arrival** the start is told only of a control that the server calls active
(`mem_setDerControls_iff`), but what is applied goes by the realised interval: a control that the
server still calls scheduled, and whose realised interval has begun, is put in force untold
(`scheduled_never_started`).

**At the boundary** the start is among what the prediction draws from, unless the end wraps around
and the control counts as over.

Main result: `started_iff`.
-/

namespace Sep2Bridge

open Lib

/-- The event tells that the control has started or is completed. -/
def Event.IsBoundaryOf (k : MRIDType) : Event → Prop
  | .derControlStatusChanged subject .eventStarted _ => subject = k
  | .derControlStatusChanged subject .eventCompleted _ => subject = k
  | _ => False

instance (k : MRIDType) (e : Event) : Decidable (e.IsBoundaryOf k) := by
  unfold Event.IsBoundaryOf
  split <;> infer_instance

namespace Sep2Model

variable {m m' : Sep2Model} {es : List Event} {k : MRIDType}

/-! ## What a merge keeps -/

/-- A stored control keeps its realised interval. -/
theorem setDerControl_keeps {draw : Draw} {c : DERControl} {stored : ScheduledControl}
    (hk : m.controls.get? k = some stored) (h : m.setDerControl draw c = some (m', es)) :
    ∃ c', m'.controls.get? k = some { stored with derControl := c' } ∧
      (stored.derControl.mrid = k → c'.mrid = k) := by
  obtain ⟨control, hcontrol, rfl, hcases⟩ := setDerControl_cases h
  by_cases hc : k = c.mrid
  · subst hc
    obtain ⟨prior, hprior, rfl, -⟩ | ⟨hvacant, -, -⟩ := hcases
    · cases Option.some.inj (hk.symm.trans hprior)
      exact ⟨c, HashMap.get?_insert_self _ _ _, fun _ => rfl⟩
    · rw [hvacant] at hk
      cases hk
  · exact ⟨stored.derControl, (HashMap.get?_insert_ne _ _ hc).trans hk, id⟩

theorem setDerControls_keeps {draws : Nat → Draw} {cs : List DERControl}
    {stored : ScheduledControl} (hk : m.controls.get? k = some stored)
    (h : setDerControls draws m cs = some (m', es)) :
    ∃ c', m'.controls.get? k = some { stored with derControl := c' } ∧
      (stored.derControl.mrid = k → c'.mrid = k) := by
  induction cs generalizing draws m es stored with
  | nil =>
    cases h
    exact ⟨stored.derControl, hk, id⟩
  | cons c cs ih =>
    obtain ⟨m₁, es₁, es₂, hfirst, hrest, rfl⟩ := setDerControls_cons h
    obtain ⟨c₁, hk₁, hmrid₁⟩ := setDerControl_keeps hk hfirst
    obtain ⟨c', hk', hmrid⟩ := ih hk₁ hrest
    exact ⟨c', hk', fun h => hmrid (hmrid₁ h)⟩

/-! ## What a merge tells of a boundary -/

theorem mem_statusChangeEvent {prior : EventStatusType} {c : DERControl} {e : Event}
    (h : statusChangeEvent prior c = some e) : ¬ e.IsBoundaryOf k := by
  simp only [statusChangeEvent] at h
  split_ifs at h
  split at h <;> first | cases h | skip
  all_goals
    obtain ⟨r, -, rfl⟩ := Option.map_eq_some_iff.1 h
    exact id

/-- On arrival a control is told to have started, or nothing of its boundaries. -/
theorem started_of_mem_firstEvents {now : Int} {control : ScheduledControl} {e : Event}
    (he : e ∈ firstEvents now control) (hk : e.IsBoundaryOf k) :
    ∃ r, e = .derControlStatusChanged k .eventStarted r := by
  simp only [firstEvents, List.mem_append, Option.mem_toList, Option.map_eq_some_iff] at he
  rcases he with ⟨r, -, rfl⟩ | he
  · exact hk.elim
  · split_ifs at he
    · obtain ⟨r, -, rfl⟩ := Option.map_eq_some_iff.1 (Option.mem_toList.1 he)
      cases hk
      exact ⟨r, rfl⟩
    · cases he

/-- On arrival the start is told of a control that the server calls active and that is in force. -/
theorem mem_firstEvents_iff {now : Int} {control : ScheduledControl} :
    (∃ r, .derControlStatusChanged k .eventStarted r ∈ firstEvents now control) ↔
      control.derControl.mrid = k ∧ control.derControl.currentStatus = .active ∧
        (control.startTime ≤ now ∧ now < control.endTime) ∧
        (replyToIfRequired control.derControl ResponseRequired.specificResponse).isSome := by
  constructor
  · intro ⟨r, he⟩
    rcases List.mem_append.1 he with he | he
    · obtain ⟨_, -, he⟩ := Option.map_eq_some_iff.1 (Option.mem_toList.1 he)
      cases he
    · split_ifs at he with hstarted
      · obtain ⟨r', hr', he⟩ := Option.map_eq_some_iff.1 (Option.mem_toList.1 he)
        cases he
        exact ⟨rfl, hstarted.1, hstarted.2, Option.isSome_iff_exists.2 ⟨r, hr'⟩⟩
      · cases he
  · intro ⟨hmrid, hactive, hforce, hreply⟩
    obtain ⟨r, hr⟩ := Option.isSome_iff_exists.1 hreply
    refine ⟨r, ?_⟩
    rw [firstEvents, if_pos ⟨hactive, hforce⟩, hr, ← hmrid]
    exact List.mem_append_right _ List.mem_cons_self

theorem setDerControl_boundary {draw : Draw} {c : DERControl} {e : Event}
    (h : m.setDerControl draw c = some (m', es)) (he : e ∈ es) (hk : e.IsBoundaryOf k) :
    m.controls.get? k = none ∧ ∃ stored, m'.controls.get? k = some stored ∧
      stored.startTime ≤ draw.now := by
  obtain ⟨control, hcontrol, rfl, hcases⟩ := setDerControl_cases h
  obtain ⟨prior, -, -, rfl⟩ | ⟨hvacant, -, rfl⟩ := hcases
  · exact absurd hk (mem_statusChangeEvent (Option.mem_toList.1 he))
  · obtain ⟨r, rfl⟩ := started_of_mem_firstEvents he hk
    obtain ⟨hmrid, -, hforce, -⟩ := mem_firstEvents_iff.1 ⟨r, he⟩
    rw [hcontrol] at hmrid
    subst hmrid
    exact ⟨hvacant, control, HashMap.get?_insert_self _ _ _, hforce.1⟩

/-- A merge announces the start of a control only when it stores it, after its start. -/
theorem setDerControls_boundary {draws : Nat → Draw} {cs : List DERControl} {now : Int} {e : Event}
    (hnow : ∀ i, (draws i).now = now) (h : setDerControls draws m cs = some (m', es)) (he : e ∈ es)
    (hk : e.IsBoundaryOf k) :
    m.controls.get? k = none ∧ ∃ stored, m'.controls.get? k = some stored ∧
      stored.startTime ≤ now := by
  induction cs generalizing draws m es with
  | nil =>
    cases h
    cases he
  | cons c cs ih =>
    obtain ⟨m₁, es₁, es₂, hfirst, hrest, rfl⟩ := setDerControls_cons h
    rcases List.mem_append.1 he with he | he
    · obtain ⟨hvacant, stored, hstored, hstart⟩ := setDerControl_boundary hfirst he hk
      obtain ⟨c', hstored', -⟩ := setDerControls_keeps hstored hrest
      exact ⟨hvacant, _, hstored', hnow 0 ▸ hstart⟩
    · obtain ⟨hvacant, hstored⟩ := ih (fun i => hnow (i + 1)) hrest he
      refine ⟨?_, hstored⟩
      by_contra hne
      obtain ⟨stored, hstored⟩ := Option.ne_none_iff_exists'.1 hne
      obtain ⟨c', hstored₁, -⟩ := setDerControl_keeps hstored hfirst
      rw [hvacant] at hstored₁
      cases hstored₁

theorem setResource_boundary {draws : Nat → Draw} {u : Sep2ResourceEvent} {now : Int} {e : Event}
    (hnow : ∀ i, (draws i).now = now) (h : m.setResource draws u = some (m', es)) (he : e ∈ es)
    (hk : e.IsBoundaryOf k) :
    m.controls.get? k = none ∧ ∃ stored, m'.controls.get? k = some stored ∧
      stored.startTime ≤ now := by
  cases u with
  | derControlList dercl =>
    obtain ⟨-, -, rfl⟩ | ⟨-, -, m₀, hm₀, h⟩ := setDerControlList_cases h
    · cases he
    · rw [← hm₀]
      exact setDerControls_boundary hnow h he hk
  | _ =>
    cases h
    cases he

end Sep2Model

/-- The events of an update that tell of a boundary are those of its merge. -/
theorem boundary_of_mem_resourceLinkEvents {prior post : ResourceLinks} {k : MRIDType} {e : Event}
    (he : e ∈ Sep2Model.resourceLinkEvents prior post) : ¬ e.IsBoundaryOf k := by
  simp only [Sep2Model.resourceLinkEvents, List.mem_append, List.mem_map] at he
  rcases he with ⟨_, -, rfl⟩ | ⟨_, -, rfl⟩ <;> exact id

/-- An update announces the start of a control only where it was not stored before; if it is
stored afterwards, it has started. -/
theorem applyUpdate_boundary {env : Surroundings} {m m' : Sep2Model} {u : Sep2ResourceEvent}
    {es : List Event} {k : MRIDType} {now : Int} {e : Event}
    (hnow : ∀ i, (env.draws i).now = now) (h : m.applyUpdate env u = some (m', es)) (he : e ∈ es)
    (hk : e.IsBoundaryOf k) :
    m.controls.get? k = none ∧ ∀ stored, m'.controls.get? k = some stored →
      stored.startTime ≤ now := by
  obtain ⟨merged, responses, hset, rfl, rfl⟩ := Sep2Model.applyUpdate_eq_some.1 h
  rcases List.mem_append.1 he with he | he
  · exact absurd hk (boundary_of_mem_resourceLinkEvents he)
  · obtain ⟨hvacant, stored, hstored, hstart⟩ := Sep2Model.setResource_boundary hnow hset he hk
    refine ⟨hvacant, fun stored' hstored' => ?_⟩
    cases Option.some.inj (hstored.symm.trans (HashMap.get?_retain_eq_some.1 hstored').1)
    exact hstart

/-! ## A control that is new -/

/-- The control an update introduces for an mRID: the first of the list, as it is realised. -/
def introduced (k : MRIDType) : (Nat → Draw) → List DERControl → Option ScheduledControl
  | _, [] => none
  | draws, c :: cs =>
    if c.mrid = k then Sep2Model.realise (draws 0) c
    else introduced k (fun i => draws (i + 1)) cs

namespace Sep2Model

variable {m m' : Sep2Model} {es : List Event} {k : MRIDType}

/-- A new control is stored with the interval it was realised with. -/
theorem introduced_of_setDerControls {draws : Nat → Draw} {cs : List DERControl}
    {stored : ScheduledControl} (hvacant : m.controls.get? k = none)
    (h : setDerControls draws m cs = some (m', es)) (hk : m'.controls.get? k = some stored) :
    ∃ first, introduced k draws cs = some first ∧ stored.derControl.mrid = k ∧
      stored.startTime = first.startTime ∧ stored.duration = first.duration := by
  induction cs generalizing draws m es with
  | nil =>
    cases h
    rw [hvacant] at hk
    cases hk
  | cons c cs ih =>
    obtain ⟨m₁, es₁, es₂, hfirst, hrest, rfl⟩ := setDerControls_cons h
    obtain ⟨control, hcontrol, rfl, hcases⟩ := setDerControl_cases hfirst
    by_cases hc : c.mrid = k
    · subst hc
      obtain ⟨prior, hprior, -⟩ | ⟨-, hrealise, -⟩ := hcases
      · rw [hvacant] at hprior
        cases hprior
      · obtain ⟨c', hstored, hmrid⟩ :=
          setDerControls_keeps (HashMap.get?_insert_self _ _ _) hrest
        cases Option.some.inj (hk.symm.trans hstored)
        exact ⟨control, (if_pos rfl).trans hrealise, hmrid (by rw [hcontrol]), rfl, rfl⟩
    · obtain ⟨first, hintroduced, hinterval⟩ :=
        ih ((HashMap.get?_insert_ne _ _ (Ne.symm hc)).trans hvacant) hrest
      exact ⟨first, (if_neg hc).trans hintroduced, hinterval⟩

/-- On arrival the start is told of the first of a list only, and of it as `mem_firstEvents_iff`
says. -/
theorem mem_setDerControls_iff {draws : Nat → Draw} {cs : List DERControl} {now : Int}
    {first : ScheduledControl} (hvacant : m.controls.get? k = none)
    (hnow : ∀ i, (draws i).now = now) (h : setDerControls draws m cs = some (m', es))
    (hintroduced : introduced k draws cs = some first) :
    (∃ r, .derControlStatusChanged k .eventStarted r ∈ es) ↔
      first.derControl.currentStatus = .active ∧
        (first.startTime ≤ now ∧ now < first.endTime) ∧
        (replyToIfRequired first.derControl ResponseRequired.specificResponse).isSome := by
  induction cs generalizing draws m es with
  | nil => cases hintroduced
  | cons c cs ih =>
    obtain ⟨m₁, es₁, es₂, hfirst, hrest, rfl⟩ := setDerControls_cons h
    have hrestnow : ∀ i, (draws (i + 1)).now = now := fun i => hnow (i + 1)
    obtain ⟨control, hcontrol, rfl, hcases⟩ := setDerControl_cases hfirst
    by_cases hc : c.mrid = k
    · -- The control is stored here, and what follows finds it stored.
      subst hc
      obtain ⟨prior, hprior, -⟩ | ⟨-, hrealise, rfl⟩ := hcases
      · rw [hvacant] at hprior
        cases hprior
      · have hsame : control = first :=
          Option.some.inj (hrealise.symm.trans ((if_pos rfl).symm.trans hintroduced))
        subst hsame
        rw [← hnow 0]
        constructor
        · intro ⟨r, he⟩
          rcases List.mem_append.1 he with he | he
          · exact (mem_firstEvents_iff.1 ⟨r, he⟩).2
          · have hstored := (setDerControls_boundary hrestnow hrest he rfl).1
            rw [HashMap.get?_insert_self] at hstored
            cases hstored
        · intro htold
          obtain ⟨r, he⟩ := mem_firstEvents_iff.2 ⟨by rw [hcontrol], htold⟩
          exact ⟨r, List.mem_append_left _ he⟩
    · have hothers := ih ((HashMap.get?_insert_ne _ _ (Ne.symm hc)).trans hvacant) hrestnow hrest
        ((if_neg hc).symm.trans hintroduced)
      rw [← hothers]
      constructor
      · intro ⟨r, he⟩
        rcases List.mem_append.1 he with he | he
        · obtain ⟨-, stored, hstored, -⟩ := setDerControl_boundary hfirst he rfl
          rw [HashMap.get?_insert_ne _ _ (Ne.symm hc), hvacant] at hstored
          cases hstored
        · exact ⟨r, he⟩
      · intro ⟨r, he⟩
        exact ⟨r, List.mem_append_right _ he⟩

end Sep2Model

/-- The control is stored by the update, which did not find it, and reached from the device. -/
structure Introduces (m m' : Sep2Model) (lfdi : HexBinary160) (k : MRIDType)
    (control : ScheduledControl) : Prop where
  vacant : m.controls.get? k = none
  stored : m'.controls.get? k = some control
  reached : m'.HasLiveControl lfdi control

/-- The start is told: by the update if the control is in force, and by the prediction if it is
still to come. -/
def StartTold (m' : Sep2Model) (lfdi : HexBinary160) (now : Int) (k : MRIDType)
    (control : ScheduledControl) (es : List Event) : Prop :=
  (control.startTime ≤ now ∧ now < control.endTime →
    ∃ r, .derControlStatusChanged k .eventStarted r ∈ es) ∧
  (now < control.startTime → .scheduled control ∈ m'.allControlsForDevice lfdi now ∧
    ∃ r, (control.startTime, some (.derControlStatusChanged k .eventStarted r)) ∈
      upcoming now (deviceBoundaries m' lfdi now))

/-- What is in force is called active, on the first arrival, and asks for the response; what is to
come does not end before it starts. -/
def ScheduledControl.StartsInOrder (first : ScheduledControl) (now : Int) : Prop :=
  (first.startTime ≤ now ∧ now < first.endTime →
    first.derControl.currentStatus = .active ∧
      (replyToIfRequired first.derControl ResponseRequired.specificResponse).isSome) ∧
  (now < first.startTime → now < first.endTime)

section Started

variable {m m' : Sep2Model} {lfdi : HexBinary160} {now : Int} {k : MRIDType} {es : List Event}
  {control first : ScheduledControl}

/-- **A start is told if and only if the control starts in order.** -/
theorem started_iff {env : Surroundings} {dercl : DERControlList} {r : String}
    (hnow : ∀ i, (env.draws i).now = now)
    (happly : m.applyUpdate env (.derControlList dercl) = some (m', es))
    (hnew : Introduces m m' lfdi k control)
    (hreply : replyToIfRequired control.derControl ResponseRequired.specificResponse = some r) :
    StartTold m' lfdi now k control es ↔
      ∃ first, introduced k env.draws dercl.derControl = some first ∧ first.StartsInOrder now := by
  obtain ⟨merged, responses, hset, rfl, rfl⟩ := Sep2Model.applyUpdate_eq_some.1 happly
  have hstored : merged.controls.get? k = some control :=
    (HashMap.get?_retain_eq_some.1 hnew.stored).1
  have hboth : ∃ first, introduced k env.draws dercl.derControl = some first ∧
      control.derControl.mrid = k ∧
      (control.startTime = first.startTime ∧ control.duration = first.duration) ∧
      ((∃ r, .derControlStatusChanged k .eventStarted r ∈ responses) ↔
        first.derControl.currentStatus = .active ∧
          (first.startTime ≤ now ∧ now < first.endTime) ∧
          (replyToIfRequired first.derControl ResponseRequired.specificResponse).isSome) := by
    obtain ⟨-, rfl, -⟩ | ⟨-, -, m₀, hm₀, hset⟩ := Sep2Model.setDerControlList_cases hset
    · rw [hnew.vacant] at hstored
      cases hstored
    · have hvacant : m₀.controls.get? k = none := hm₀ ▸ hnew.vacant
      obtain ⟨first, hfirst, hmrid, hinterval⟩ :=
        Sep2Model.introduced_of_setDerControls hvacant hset hstored
      exact ⟨first, hfirst, hmrid, hinterval,
        Sep2Model.mem_setDerControls_iff hvacant hnow hset hfirst⟩
  obtain ⟨first, hfirst, hmrid, ⟨hstart, hduration⟩, htold⟩ := hboth
  have hend : control.endTime = first.endTime := by
    rw [ScheduledControl.endTime, hstart, hduration]
    rfl
  have hevents : (∃ r, .derControlStatusChanged k .eventStarted r ∈
      Sep2Model.resourceLinkEvents m.resourceLinks merged.resourceLinks ++ responses) ↔
      ∃ r, .derControlStatusChanged k .eventStarted r ∈ responses := by
    refine exists_congr fun r => ?_
    rw [List.mem_append, or_iff_right]
    exact fun he => boundary_of_mem_resourceLinkEvents he (k := k) rfl
  unfold StartTold
  rw [scheduled_mem_allControlsForDevice, and_iff_right hnew.reached, hevents, htold, hstart, hend]
  constructor
  · intro ⟨hforce, hcome⟩
    refine ⟨first, hfirst, fun h => ?_, fun h => (hcome h).1⟩
    obtain ⟨hactive, -, hasks⟩ := hforce h
    exact ⟨hactive, hasks⟩
  · intro ⟨first', hfirst', hforce, hcome⟩
    cases Option.some.inj (hfirst.symm.trans hfirst')
    refine ⟨fun h => ⟨(hforce h).1, h, (hforce h).2⟩, fun h => ⟨hcome h, r, ?_⟩⟩
    have hmem : .scheduled control ∈ (merged.sweep merged.resourceLinks
        env.curveOrder).allControlsForDevice lfdi now :=
      scheduled_mem_allControlsForDevice.2 ⟨hnew.reached, hend ▸ hcome h⟩
    have hboundary : (first.startTime, some (Event.derControlStatusChanged k .eventStarted r)) ∈
        (ControlRef.scheduled control).boundaries := by
      rw [ControlRef.boundaries, boundaryResponse, hreply, hmrid, hstart]
      exact List.mem_cons_self
    exact mem_upcoming.2 ⟨mem_deviceBoundaries hmem hboundary, h⟩

end Started

/-! ## A control that the server calls scheduled -/

/-- Device 1, with one assignment and one program. -/
def oneProgram : Sep2Model where
  endDeviceList := some ⟨"e", [1], none⟩
  endDevices := (∅ : HashMap _ _).insert 1
    { href := some "d", lfdi := some 1, functionSetAssignmentsListLink := some ⟨"f"⟩ }
  functionSetAssignmentsLists := (∅ : HashMap _ _).insert "f" ⟨"f", [1], none⟩
  functionSetAssignments := (∅ : HashMap _ _).insert 1
    { mrid := 1, href := some "g", derProgramListLink := some ⟨"p"⟩ }
  programLists := (∅ : HashMap _ _).insert "p" ⟨"p", [2], none⟩
  programs := (∅ : HashMap _ _).insert 2
    { mrid := 2, href := some "q", derControlListLink := some ⟨"c"⟩ }

/-- A list of one control, for the ten seconds from 10 on, with this status. -/
def controlFromTen (status : EventStatusType) : DERControlList where
  href := some "c"
  derControl := [
    { mrid := 3, href := some "x", currentStatus := status, interval := ⟨10, 10⟩,
      responseRequired := some ⟨true, true⟩, replyTo := some "r" }]

/-- An update at this time, with no randomisation. -/
def surroundingsAt (now : Int) : Surroundings := ⟨fun _ => ⟨0, 0, now⟩, []⟩

/-- What an update with this control leaves, and the control as stored. -/
def receiveControl (now : Int) (status : EventStatusType) :
    Option (Sep2Model × List Event × ScheduledControl) := do
  let (m', es) ← oneProgram.applyUpdate (surroundingsAt now)
    (.derControlList (controlFromTen status))
  let control ← m'.controls.get? 3
  return (m', es, control)

theorem receiveControl_eq_some {now : Int} {status : EventStatusType} {m' : Sep2Model}
    {es : List Event} {control : ScheduledControl}
    (h : receiveControl now status = some (m', es, control)) :
    oneProgram.applyUpdate (surroundingsAt now) (.derControlList (controlFromTen status)) =
        some (m', es) ∧
      m'.controls.get? 3 = some control := by
  simp only [receiveControl, Option.bind_eq_bind, Option.bind_eq_some_iff, Prod.exists] at h
  obtain ⟨m₁, es₁, happly, control₁, hstored, h⟩ := h
  cases h
  exact ⟨happly, hstored⟩

theorem started_iff_active : ∃ m' es control,
    oneProgram.applyUpdate (surroundingsAt 15) (.derControlList (controlFromTen .active)) =
        some (m', es) ∧
      StartTold m' 1 15 3 control es := by
  have hruns : ((receiveControl 15 .active).any fun r =>
      .scheduled r.2.2 ∈ r.1.allControlsForDevice 1 15 ∧
        replyToIfRequired r.2.2.derControl ResponseRequired.specificResponse =
          some "r") = true := by
    decide +kernel
  obtain ⟨⟨m', es, control⟩, hreceive, hresult⟩ := (Option.any_eq_true _ _).1 hruns
  obtain ⟨hmem, hreply⟩ := of_decide_eq_true hresult
  obtain ⟨happly, hstored⟩ := receiveControl_eq_some hreceive
  have hnew : Introduces oneProgram m' 1 3 control := ⟨rfl, hstored, hasLiveControl_of_mem hmem⟩
  have horder : ∃ first,
      introduced 3 (surroundingsAt 15).draws (controlFromTen .active).derControl = some first ∧
        first.StartsInOrder 15 :=
    ⟨_, rfl, fun _ => ⟨rfl, rfl⟩, by decide⟩
  exact ⟨m', es, control, happly, (started_iff (fun _ => rfl) happly hnew hreply).2 horder⟩

/-- The control is in force when it arrives, and its start is neither told nor scheduled. -/
theorem scheduled_never_started : ∃ m' es control,
    oneProgram.applyUpdate (surroundingsAt 15) (.derControlList (controlFromTen .scheduled)) =
        some (m', es) ∧
      Introduces oneProgram m' 1 3 control ∧ control.derControl.currentStatus = .scheduled ∧
      replyToIfRequired control.derControl ResponseRequired.specificResponse = some "r" ∧
      (control.startTime ≤ 15 ∧ 15 < control.endTime) ∧
      (∀ r, .derControlStatusChanged 3 .eventStarted r ∉ es) ∧
      ∀ e, (control.startTime, e) ∉ upcoming 15 (deviceBoundaries m' 1 15) := by
  have hruns : ((receiveControl 15 .scheduled).any fun r =>
      .scheduled r.2.2 ∈ r.1.allControlsForDevice 1 15 ∧
        r.2.2.derControl.currentStatus = .scheduled ∧
        replyToIfRequired r.2.2.derControl ResponseRequired.specificResponse = some "r" ∧
        (r.2.2.startTime ≤ 15 ∧ 15 < r.2.2.endTime) ∧
        ∀ e ∈ r.2.1, ¬ e.IsBoundaryOf 3) = true := by
    decide +kernel
  obtain ⟨⟨m', es, control⟩, hreceive, hresult⟩ := (Option.any_eq_true _ _).1 hruns
  obtain ⟨hmem, hstatus, hreply, hforce, hnone⟩ := of_decide_eq_true hresult
  obtain ⟨happly, hstored⟩ := receiveControl_eq_some hreceive
  refine ⟨m', es, control, happly, ⟨rfl, hstored, hasLiveControl_of_mem hmem⟩, hstatus, hreply,
    hforce, fun r he => hnone _ he rfl, fun e he => ?_⟩
  exact absurd (mem_upcoming.1 he).2 (not_lt.2 hforce.1)

end Sep2Bridge
