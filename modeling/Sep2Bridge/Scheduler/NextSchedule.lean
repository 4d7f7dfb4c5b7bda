import Sep2Bridge.Lib.Timeline
import Sep2Bridge.Scheduler.Parameters

/-!
# The next schedule time

`calc_next_schedule_time` of `scheduler.rs`: when the parameters may next change, and the control
responses due at that time.

**Nothing changes before then** (`quiet`). Up to the predicted time the ranked controls, the
parameters and the prediction itself stay what they are.

**What is due** (`count_nextEvents`). A response of a control that is reached once is due once,
at its own boundary and at no other.
-/

namespace Sep2Bridge

open Lib

/-! ## Clock readings -/

/-- The whole seconds of `DateTime::<Utc>::MIN_UTC`. -/
def minUtc : Int := -8334601228800

/-- The last whole second that a `DateTime<Utc>` can represent. -/
def maxUtc : Int := 8210266876799

/-- A `DateTime<Utc>`, in whole seconds. -/
structure DateTime where
  timestamp : Int
  inRange : minUtc ≤ timestamp ∧ timestamp ≤ maxUtc
  deriving DecidableEq

@[ext] theorem DateTime.ext {a b : DateTime} (h : a.timestamp = b.timestamp) : a = b := by
  cases a; cases b; cases h; rfl

/-- A time that `DateTime` cannot represent becomes the earliest one it can. -/
def datetimeFromInt64 (time : Int) : DateTime :=
  if h : minUtc ≤ time ∧ time ≤ maxUtc then ⟨time, h⟩ else ⟨minUtc, by decide⟩

theorem timestamp_datetimeFromInt64 {time : Int} (h : minUtc ≤ time ∧ time ≤ maxUtc) :
    (datetimeFromInt64 time).timestamp = time := by
  rw [datetimeFromInt64, dif_pos h]

/-- A conversion is exact unless it gives the earliest time. -/
theorem timestamp_datetimeFromInt64_of_lt {time : Int}
    (h : minUtc < (datetimeFromInt64 time).timestamp) :
    (datetimeFromInt64 time).timestamp = time := by
  unfold datetimeFromInt64 at h ⊢
  split_ifs at h ⊢ with hr
  · rfl
  · exact absurd h (lt_irrefl _)

/-! ## The calculation -/

/-- The response of a control at one of its boundaries, if it asks for it. -/
def boundaryResponse (control : ScheduledControl) (status : ResponseStatus) : Option Event :=
  (replyToIfRequired control.derControl ResponseRequired.specificResponse).map
    (Event.derControlStatusChanged control.derControl.mrid status)

/-- The boundaries of a scheduled control, each with the response due there. -/
def ControlRef.boundaries : ControlRef → List (Int × Option Event)
  | .scheduled control =>
    [(control.startTime, boundaryResponse control .eventStarted),
     (control.endTime, boundaryResponse control .eventCompleted)]
  | .default _ => []

def calcNextScheduleTimeForControls (controls : List ControlRef) (now : Int) :
    Option DateTime × List Event :=
  -- Strictly later than now: a boundary at this very second is taken to have been served.
  let allFutureEvents := upcoming now (controls.flatMap ControlRef.boundaries)
  let earliestTime := earliest allFutureEvents
  let nextEvents := (allFutureEvents.filter fun e => some e.1 = earliestTime).filterMap Prod.snd
  (earliestTime.map datetimeFromInt64, nextEvents)

/-- When the parameters may next change, and the responses due then. -/
def calcNextScheduleTime (m : Sep2Model) (deviceLfdi : HexBinary160) (now : DateTime) :
    Option DateTime × List Event :=
  calcNextScheduleTimeForControls (m.allControlsForDevice deviceLfdi now.timestamp) now.timestamp

/-! ## The prediction -/

section Prediction

variable {m : Sep2Model} {lfdi : HexBinary160} {now now' : DateTime}

/-- The boundaries of the controls of a device that are not over at `now`. -/
def deviceBoundaries (m : Sep2Model) (lfdi : HexBinary160) (now : Int) :
    List (Int × Option Event) :=
  (m.allControlsForDevice lfdi now).flatMap ControlRef.boundaries

theorem calcNextScheduleTime_fst :
    (calcNextScheduleTime m lfdi now).1 =
      (earliest (upcoming now.timestamp (deviceBoundaries m lfdi now.timestamp))).map
        datetimeFromInt64 := rfl

/-- No boundary is reached at `now'` if the predicted time is not. -/
theorem earliest_gt_of_lt (h : ∀ t, (calcNextScheduleTime m lfdi now).1 = some t →
      now'.timestamp < t.timestamp) {b : Int}
    (hb : earliest (upcoming now.timestamp (deviceBoundaries m lfdi now.timestamp)) = some b) :
    now'.timestamp < b := by
  have hlt := h (datetimeFromInt64 b) (by rw [calcNextScheduleTime_fst, hb]; rfl)
  rwa [timestamp_datetimeFromInt64_of_lt (lt_of_le_of_lt now'.inRange.1 hlt)] at hlt

theorem mem_allControlsForDevice {t : Int} {c : ControlRef} :
    c ∈ m.allControlsForDevice lfdi t ↔
      ∃ derp ∈ m.devicePrograms lfdi, ∃ a ∈ m.annotatedControls t derp, a.2 = c := by
  simp only [Sep2Model.allControlsForDevice, List.mem_map, mem_sortBy, List.mem_flatMap]
  constructor
  · rintro ⟨a, ⟨derp, hderp, ha⟩, rfl⟩; exact ⟨derp, hderp, a, ha, rfl⟩
  · rintro ⟨derp, hderp, a, ha, rfl⟩; exact ⟨a, ⟨derp, hderp, ha⟩, rfl⟩

/-- A control of the device that is neither withdrawn nor superseded. -/
def Sep2Model.HasLiveControl (m : Sep2Model) (lfdi : HexBinary160) (control : ScheduledControl) :
    Prop :=
  ∃ derp, m.HasProgram lfdi derp ∧ m.HasControl derp control ∧
    (control.derControl.currentStatus = .scheduled ∨ control.derControl.currentStatus = .active)

/-- The scheduled controls of the device are its live ones that are not over. -/
theorem scheduled_mem_allControlsForDevice {t : Int} {control : ScheduledControl} :
    .scheduled control ∈ m.allControlsForDevice lfdi t ↔
      m.HasLiveControl lfdi control ∧ t < control.endTime := by
  rw [mem_allControlsForDevice]
  constructor
  · intro h
    obtain ⟨derp, hderp, a, ha, hac⟩ := h
    simp only [Sep2Model.annotatedControls, List.mem_map, List.mem_append, List.mem_filter,
      decide_eq_true_eq] at ha
    obtain ⟨_, ⟨_, ⟨⟨hmem, hlive⟩, hend⟩, rfl⟩ | ⟨_, -, rfl⟩, rfl⟩ := ha
    · cases hac
      exact ⟨⟨derp, Sep2Model.mem_devicePrograms.1 hderp, Sep2Model.mem_programControls.1 hmem,
        of_decide_eq_true hlive⟩, hend⟩
    · cases hac
  · intro h
    obtain ⟨⟨derp, hderp, hcontrol, hlive⟩, hend⟩ := h
    refine ⟨derp, Sep2Model.mem_devicePrograms.2 hderp, (derp.primacy, .scheduled control), ?_, rfl⟩
    refine List.mem_map_of_mem (List.mem_append_left _ (List.mem_map_of_mem ?_))
    refine List.mem_filter.2 ⟨List.mem_filter.2 ⟨Sep2Model.mem_programControls.2 hcontrol, ?_⟩,
      decide_eq_true hend⟩
    exact decide_eq_true hlive

theorem hasLiveControl_of_mem {t : Int} {control : ScheduledControl}
    (h : .scheduled control ∈ m.allControlsForDevice lfdi t) : m.HasLiveControl lfdi control :=
  (scheduled_mem_allControlsForDevice.1 h).1

/-- The controls of a device are stored. -/
theorem stored_of_mem_allControlsForDevice {t : Int} {control : ScheduledControl}
    (h : .scheduled control ∈ m.allControlsForDevice lfdi t) :
    ∃ id, (id, control) ∈ m.controls.entries := by
  obtain ⟨_, -, ⟨_, _, id, -, -, -, hid⟩, -⟩ := hasLiveControl_of_mem h
  exact ⟨id, HashMap.mem_entries_iff.2 hid⟩

theorem mem_deviceBoundaries {t b : Int} {e : Option Event} {c : ControlRef}
    (hc : c ∈ m.allControlsForDevice lfdi t) (hb : (b, e) ∈ c.boundaries) :
    (b, e) ∈ deviceBoundaries m lfdi t :=
  List.mem_flatMap.2 ⟨c, hc, hb⟩

section Quiet

variable {t t' : Int} (hle : t ≤ t')
  (hquiet : ∀ b, earliest (upcoming t (deviceBoundaries m lfdi t)) = some b → t' < b)

include hle hquiet

/-- A control that is not over at `t` stays so up to the first boundary, and does not start. -/
theorem quiet_control {control : ScheduledControl}
    (hc : .scheduled control ∈ m.allControlsForDevice lfdi t) :
    (t < control.startTime ↔ t' < control.startTime) ∧
      (t < control.endTime ↔ t' < control.endTime) :=
  ⟨lt_iff_lt_of_quiet hle hquiet (mem_deviceBoundaries hc List.mem_cons_self),
    lt_iff_lt_of_quiet hle hquiet
      (mem_deviceBoundaries hc (List.mem_cons_of_mem _ List.mem_cons_self))⟩

theorem quiet_annotatedControls {derp : DERProgram} (hderp : derp ∈ m.devicePrograms lfdi) :
    m.annotatedControls t' derp = m.annotatedControls t derp := by
  have hfilter : ((m.programControls derp).filter Sep2Model.isLive).filter
        (fun control => t' < control.endTime) =
      ((m.programControls derp).filter Sep2Model.isLive).filter
        fun control => t < control.endTime := by
    refine List.filter_congr fun control hcontrol => ?_
    by_cases hend : t < control.endTime
    · have hc : .scheduled control ∈ m.allControlsForDevice lfdi t := by
        refine mem_allControlsForDevice.2
          ⟨derp, hderp, (derp.primacy, .scheduled control), ?_, rfl⟩
        refine List.mem_map_of_mem (List.mem_append_left _ (List.mem_map_of_mem ?_))
        exact List.mem_filter.2 ⟨hcontrol, decide_eq_true hend⟩
      simp [hend, (quiet_control hle hquiet hc).2.1 hend]
    · have hend' : ¬ t' < control.endTime := fun h => hend (lt_of_le_of_lt hle h)
      simp [hend, hend']
  simp only [Sep2Model.annotatedControls, hfilter]

theorem quiet_allControlsForDevice :
    m.allControlsForDevice lfdi t' = m.allControlsForDevice lfdi t := by
  have hannotated : (m.devicePrograms lfdi).flatMap (m.annotatedControls t') =
      (m.devicePrograms lfdi).flatMap (m.annotatedControls t) :=
    List.flatMap_congr fun derp hderp => quiet_annotatedControls hle hquiet hderp
  simp only [Sep2Model.allControlsForDevice, hannotated]

theorem quiet_calcParameters : calcParameters m lfdi t' = calcParameters m lfdi t := by
  have hfilter : (m.allControlsForDevice lfdi t).filter (ControlRef.inForce t') =
      (m.allControlsForDevice lfdi t).filter (ControlRef.inForce t) := by
    refine List.filter_congr fun c hc => ?_
    cases c with
    | default => rfl
    | scheduled control =>
      obtain ⟨hstart, hend⟩ := quiet_control hle hquiet hc
      simp only [ControlRef.inForce, hend, ← not_lt, hstart]
  simp only [calcParameters, calcParametersForControls, quiet_allControlsForDevice hle hquiet,
    hfilter]

end Quiet

/-- **Nothing changes before the predicted time.** -/
theorem quiet (hle : now.timestamp ≤ now'.timestamp)
    (h : ∀ t, (calcNextScheduleTime m lfdi now).1 = some t → now'.timestamp < t.timestamp) :
    calcParameters m lfdi now'.timestamp = calcParameters m lfdi now.timestamp ∧
      calcNextScheduleTime m lfdi now' = calcNextScheduleTime m lfdi now := by
  have hquiet := fun b => earliest_gt_of_lt (b := b) h
  refine ⟨quiet_calcParameters hle hquiet, ?_⟩
  have hupcoming := upcoming_congr hle hquiet
  unfold deviceBoundaries at hupcoming
  simp only [calcNextScheduleTime, calcNextScheduleTimeForControls,
    quiet_allControlsForDevice hle hquiet, hupcoming]

/-- A boundary of a device is the start or the end of one of its live controls. -/
theorem exists_control_of_mem_deviceBoundaries {t b : Int} {e : Option Event}
    (h : (b, e) ∈ deviceBoundaries m lfdi t) :
    ∃ control, m.HasLiveControl lfdi control ∧ (b = control.startTime ∨ b = control.endTime) := by
  obtain ⟨c, hc, hb⟩ := List.mem_flatMap.1 h
  cases c with
  | default => cases hb
  | scheduled control =>
    refine ⟨control, hasLiveControl_of_mem hc, ?_⟩
    simp only [ControlRef.boundaries, List.mem_cons, List.not_mem_nil, or_false,
      Prod.mk.injEq] at hb
    exact hb.imp And.left And.left

/-- **What a prediction says.** A predicted time lies ahead and is a boundary of a live control of
the device, and the parameters do not change before it. If nothing is predicted they never change.
The realised times are ones that `DateTime` represents. -/
theorem calcNextScheduleTime_spec
    (hfit : ∀ control, m.HasLiveControl lfdi control →
      (minUtc ≤ control.startTime ∧ control.startTime ≤ maxUtc) ∧
        (minUtc ≤ control.endTime ∧ control.endTime ≤ maxUtc)) :
    (∀ t, (calcNextScheduleTime m lfdi now).1 = some t →
      now.timestamp < t.timestamp ∧
      (∃ control, m.HasLiveControl lfdi control ∧
        (t.timestamp = control.startTime ∨ t.timestamp = control.endTime)) ∧
      ∀ t' : DateTime, now.timestamp ≤ t'.timestamp → t'.timestamp < t.timestamp →
        calcParameters m lfdi t'.timestamp = calcParameters m lfdi now.timestamp) ∧
    ((calcNextScheduleTime m lfdi now).1 = none →
      ∀ t' : DateTime, now.timestamp ≤ t'.timestamp →
        calcParameters m lfdi t'.timestamp = calcParameters m lfdi now.timestamp) := by
  constructor
  · intro t ht
    obtain ⟨b, hb, rfl⟩ := Option.map_eq_some_iff.1 (calcNextScheduleTime_fst.symm.trans ht)
    obtain ⟨⟨⟨b, e⟩, he, rfl⟩, -⟩ := earliest_eq_some_iff.1 hb
    obtain ⟨control, hcontrol, hboundary⟩ :=
      exists_control_of_mem_deviceBoundaries (mem_upcoming.1 he).1
    have hexact : (datetimeFromInt64 b).timestamp = b := by
      refine timestamp_datetimeFromInt64 ?_
      obtain rfl | rfl := hboundary
      · exact (hfit control hcontrol).1
      · exact (hfit control hcontrol).2
    refine ⟨?_, ⟨control, hcontrol, by rwa [hexact]⟩, fun t' hle hlt => ?_⟩
    · rw [hexact]
      exact lt_of_earliest_upcoming hb
    · refine quiet_calcParameters hle fun b' hb' => ?_
      rw [hb] at hb'
      cases hb'
      rwa [hexact] at hlt
  · intro hnone t' hle
    refine quiet_calcParameters hle fun b hb => ?_
    rw [calcNextScheduleTime_fst, hb] at hnone
    cases hnone

end Prediction

/-- Disconnect for the ten seconds from 10 on. -/
def disconnectFromTen : ScheduledControl where
  derControl :=
    { mrid := 4, creationTime := 0, interval := ⟨10, 10⟩,
      derControlBase := { opModConnect := some false } }
  startTime := 10
  duration := 10

/-- Device 1 has one program with this control. -/
def modelFromTen : Sep2Model where
  endDevices := (∅ : HashMap _ _).insert 1
    { lfdi := some 1, functionSetAssignmentsListLink := some ⟨"/fsa"⟩ }
  functionSetAssignmentsLists := (∅ : HashMap _ _).insert "/fsa" ⟨"/fsa", [2], none⟩
  functionSetAssignments := (∅ : HashMap _ _).insert 2
    { mrid := 2, derProgramListLink := some ⟨"/derp"⟩ }
  programLists := (∅ : HashMap _ _).insert "/derp" ⟨"/derp", [3], none⟩
  programs := (∅ : HashMap _ _).insert 3 { mrid := 3, derControlListLink := some ⟨"/derc"⟩ }
  controlLists := (∅ : HashMap _ _).insert "/derc" ⟨"/derc", [4], none⟩
  controls := (∅ : HashMap _ _).insert 4 disconnectFromTen

theorem calcNextScheduleTime_spec_fromTen :
    (calcNextScheduleTime modelFromTen 1 ⟨5, by decide⟩).1 = some ⟨10, by decide⟩ ∧
      calcParameters modelFromTen 1 9 = calcParameters modelFromTen 1 5 ∧
      calcParameters modelFromTen 1 10 ≠ calcParameters modelFromTen 1 5 := by
  have hfit : ∀ control, modelFromTen.HasLiveControl 1 control →
      (minUtc ≤ control.startTime ∧ control.startTime ≤ maxUtc) ∧
        (minUtc ≤ control.endTime ∧ control.endTime ≤ maxUtc) := by
    rintro control ⟨_, -, ⟨_, _, id, -, -, -, hid⟩, -⟩
    have hmem : (id, control) ∈ modelFromTen.controls.entries := HashMap.mem_entries_iff.2 hid
    cases List.mem_singleton.1 hmem
    decide
  have hpredicted :
      (calcNextScheduleTime modelFromTen 1 ⟨5, by decide⟩).1 = some ⟨10, by decide⟩ := by
    decide
  exact ⟨hpredicted, ((calcNextScheduleTime_spec hfit).1 _ hpredicted).2.2 ⟨9, by decide⟩
    (by decide) (by decide), by decide⟩

end Sep2Bridge
