import Sep2Bridge.Scheduler.InSync
import Sep2Bridge.Scheduler.Started

/-!
# The responses at the boundaries of a control

When a control starts and when it ends, the server is to be told, once. The response is broadcast
by the wait task, which the loop may replace.

**What is planned** (`count_nextEvents`). A prediction carries the response of a boundary exactly
when that boundary is the first one ahead.

**Two races.** Once the clock has reached a boundary, the wait task is due; but the loop may go
round first, for a command of its own. If it reads the clock at the boundary, it predicts later
boundaries only and replaces the wait task, and the response is lost (`start_is_never_told`). If it
had read the clock just before, and then finds another boundary at the same time, it plans the
response again. `Timely` rules both out, and a clock that has passed the boundary before any wait
task was armed for it.

Main result: `responses_exactly_once`.
-/

namespace Sep2Bridge

open Lib

/-! ## A control to follow -/

/-- What a control is followed by: its realised interval, and where its responses go. -/
structure Tracked where
  mrid : MRIDType
  startTime : Int
  duration : UInt32
  replyTo : String
  nonempty : 0 < duration.toNat
  fits : minUtc < startTime ∧ startTime + duration.toNat ≤ maxUtc

namespace Tracked

variable (c : Tracked)

def endTime : Int := c.startTime + c.duration.toNat

def started : Event := .derControlStatusChanged c.mrid .eventStarted c.replyTo

def completed : Event := .derControlStatusChanged c.mrid .eventCompleted c.replyTo

/-- The two boundaries, each with its response. -/
inductive Boundary : Int → Event → Prop
  | start : Boundary c.startTime c.started
  | finish : Boundary c.endTime c.completed

end Tracked

/-- The control is stored with its interval and its reply address, neither cancelled nor superseded,
and the device reaches it once. -/
def Keeps (lfdi : HexBinary160) (c : Tracked) (m : Sep2Model) : Prop :=
  ∃ stored ∈ m.controls.get? c.mrid,
    stored.startTime = c.startTime ∧ stored.duration = c.duration ∧
    Sep2Model.isLive stored = true ∧
    replyToIfRequired stored.derControl ResponseRequired.specificResponse = some c.replyTo ∧
    ((m.devicePrograms lfdi).flatMap m.programControls).filter
      (fun d => d.derControl.mrid = c.mrid) = [stored]

section Planning

variable {lfdi : HexBinary160} {c : Tracked} {m : Sep2Model} {now : DateTime} {b : Int} {e : Event}

theorem Tracked.Boundary.fits (h : c.Boundary b e) : minUtc < b ∧ b ≤ maxUtc := by
  have hfits := c.fits
  cases h with
  | start => exact ⟨hfits.1, by omega⟩
  | finish => exact ⟨by unfold Tracked.endTime; omega, hfits.2⟩

theorem Tracked.Boundary.isBoundaryOf (h : c.Boundary b e) : e.IsBoundaryOf c.mrid := by
  cases h <;> rfl

theorem endTime_of_fits {stored : ScheduledControl} (hstart : stored.startTime = c.startTime)
    (hduration : stored.duration = c.duration) : stored.endTime = c.endTime := by
  have := c.fits
  simp only [ScheduledControl.endTime, Tracked.endTime, hstart, hduration, wrapI64]
  unfold minUtc maxUtc at this
  exact Int.bmod_eq_of_le (by omega) (by omega)

/-- The ranked control is the scheduled control of the mRID. -/
def ControlRef.isControl (k : MRIDType) : ControlRef → Bool
  | .scheduled control => control.derControl.mrid = k
  | .default _ => false

/-- Where a control is reached once, it is ranked once while it lasts. -/
theorem filter_allControlsForDevice {t : Int} {stored : ScheduledControl}
    (hlive : Sep2Model.isLive stored = true)
    (honce : ((m.devicePrograms lfdi).flatMap m.programControls).filter
      (fun d => d.derControl.mrid = c.mrid) = [stored]) :
    (m.allControlsForDevice lfdi t).filter (ControlRef.isControl c.mrid) =
      if t < stored.endTime then [.scheduled stored] else [] := by
  have hannotated : ∀ derp, ((m.annotatedControls t derp).map Prod.snd).filter
        (ControlRef.isControl c.mrid) =
      ((((m.programControls derp).filter fun d => d.derControl.mrid = c.mrid).filter
        Sep2Model.isLive).filter fun d => t < d.endTime).map .scheduled := by
    intro derp
    have hdefault : ∀ d : Option DefaultDERControl,
        (d.toList.map ControlRef.default).filter (ControlRef.isControl c.mrid) = [] := by
      rintro (_ | d) <;> rfl
    simp only [Sep2Model.annotatedControls, List.map_map, Function.comp_def, List.map_id',
      List.filter_append, hdefault, List.append_nil, List.filter_map]
    congr 1
    simp only [ControlRef.isControl, List.filter_filter]
    refine List.filter_congr fun d _ => ?_
    simp only [Bool.and_comm, Bool.and_left_comm]
  have hall : (((m.devicePrograms lfdi).flatMap (m.annotatedControls t)).map Prod.snd).filter
      (ControlRef.isControl c.mrid) = if t < stored.endTime then [.scheduled stored] else [] := by
    rw [List.map_flatMap, List.filter_flatMap]
    simp only [hannotated, ← List.map_flatMap, ← List.filter_flatMap, honce]
    split_ifs with hend <;> simp [hlive, hend]
  have hperm : ((m.allControlsForDevice lfdi t).filter (ControlRef.isControl c.mrid)).Perm
      (if t < stored.endTime then [.scheduled stored] else []) :=
    hall ▸ ((sortBy_perm _ _).map Prod.snd).filter _
  split_ifs at hperm ⊢
  · exact List.perm_singleton.1 hperm
  · exact List.perm_nil.1 hperm

/-- The responses of one control that are due at `first`. -/
def dueAt (now : Int) (first : Option Int) (c : ControlRef) : List Event :=
  ((upcoming now c.boundaries).filter fun e => some e.1 = first).filterMap Prod.snd

theorem nextEvents_eq_flatMap :
    (calcNextScheduleTime m lfdi now).2 =
      (m.allControlsForDevice lfdi now.timestamp).flatMap (dueAt now.timestamp
        (earliest (upcoming now.timestamp (deviceBoundaries m lfdi now.timestamp)))) := by
  simp only [calcNextScheduleTime, calcNextScheduleTimeForControls, upcoming, deviceBoundaries,
    List.filter_flatMap, List.filterMap_flatMap]
  rfl

theorem mem_dueAt {t : Int} {first : Option Int} {d : ScheduledControl}
    (h : e ∈ dueAt t first (.scheduled d)) :
    (boundaryResponse d .eventStarted = some e ∧ first = some d.startTime) ∨
      (boundaryResponse d .eventCompleted = some e ∧ first = some d.endTime) := by
  obtain ⟨⟨b, e'⟩, hmem, rfl⟩ := List.mem_filterMap.1 h
  obtain ⟨hmem, hfirst⟩ := List.mem_filter.1 hmem
  have hfirst : first = some b := by simpa using (of_decide_eq_true hfirst).symm
  have hmem := (mem_upcoming.1 hmem).1
  simp only [ControlRef.boundaries, List.mem_cons, Prod.mk.injEq, List.not_mem_nil, or_false]
    at hmem
  rcases hmem with ⟨rfl, he⟩ | ⟨rfl, he⟩
  · exact .inl ⟨he.symm, hfirst⟩
  · exact .inr ⟨he.symm, hfirst⟩

/-- The boundary is the time predicted at `now`. -/
def Predicts (m : Sep2Model) (lfdi : HexBinary160) (now : DateTime) (b : Int) : Prop :=
  (calcNextScheduleTime m lfdi now).1.map DateTime.timestamp = some b

theorem predicts_iff (hb : minUtc < b ∧ b ≤ maxUtc) : Predicts m lfdi now b ↔
    earliest (upcoming now.timestamp (deviceBoundaries m lfdi now.timestamp)) = some b := by
  rw [Predicts, calcNextScheduleTime_fst, Option.map_map]
  constructor
  · intro h
    obtain ⟨t, ht, htb⟩ := Option.map_eq_some_iff.1 h
    have htb : (datetimeFromInt64 t).timestamp = b := htb
    rw [← htb, timestamp_datetimeFromInt64_of_lt (htb ▸ hb.1), ht]
  · intro h
    rw [h, Option.map_some, Function.comp_apply, timestamp_datetimeFromInt64 ⟨hb.1.le, hb.2⟩]

theorem lt_of_predicts (hb : minUtc < b ∧ b ≤ maxUtc) (h : Predicts m lfdi now b) :
    now.timestamp < b :=
  lt_of_earliest_upcoming ((predicts_iff hb).1 h)

theorem count_nextEvents_of_earliest (hkeeps : Keeps lfdi c m) (hb : c.Boundary b e) :
    (calcNextScheduleTime m lfdi now).2.count e =
      if earliest (upcoming now.timestamp (deviceBoundaries m lfdi now.timestamp)) = some b
      then 1 else 0 := by
  obtain ⟨stored, -, hstart, hduration, hlive, hreply, honce⟩ := hkeeps
  have hend := endTime_of_fits hstart hduration
  have hmrid : stored.derControl.mrid = c.mrid := by
    have hmem : stored ∈ ((m.devicePrograms lfdi).flatMap m.programControls).filter
        (fun d => d.derControl.mrid = c.mrid) := by rw [honce]; exact List.mem_singleton_self _
    simpa using List.of_mem_filter hmem
  have hother : ∀ first, ∀ d ∈ m.allControlsForDevice lfdi now.timestamp,
      d.isControl c.mrid = false → e ∉ dueAt now.timestamp first d := by
    intro first d _ hd he
    cases d with
    | default => cases he
    | scheduled d =>
      have hbound := hb.isBoundaryOf
      rcases mem_dueAt he with ⟨he, -⟩ | ⟨he, -⟩ <;>
        obtain ⟨r, -, rfl⟩ := Option.map_eq_some_iff.1 he <;>
        simp [ControlRef.isControl, show d.derControl.mrid = c.mrid from hbound] at hd
  rw [nextEvents_eq_flatMap, count_flatMap_of_filter (hother _),
    filter_allControlsForDevice hlive honce, hend]
  generalize hfirst :
    earliest (upcoming now.timestamp (deviceBoundaries m lfdi now.timestamp)) = first
  have hahead : first = some b → now.timestamp < b := by
    rintro rfl
    exact lt_of_earliest_upcoming hfirst
  have hle : b ≤ c.endTime := by
    cases hb with
    | start => unfold Tracked.endTime; omega
    | finish => exact le_rfl
  have hresponse : ∀ status, boundaryResponse stored status =
      some (.derControlStatusChanged c.mrid status c.replyTo) := by
    intro status
    rw [boundaryResponse, hreply, hmrid]
    rfl
  split_ifs with hlast hdue hdue
  · have hnow := hahead hdue
    subst hdue
    cases hb with
    | start =>
      have hne : c.startTime ≠ c.endTime := by
        have := c.nonempty
        unfold Tracked.endTime
        omega
      simp [dueAt, upcoming, ControlRef.boundaries, hresponse, hstart, hend, hnow, hlast,
        hne.symm, Tracked.started]
    | finish =>
      have hne : c.startTime ≠ c.endTime := by
        have := c.nonempty
        unfold Tracked.endTime
        omega
      by_cases hs : now.timestamp < c.startTime <;>
        simp [dueAt, upcoming, ControlRef.boundaries, hresponse, hstart, hend, hs, hlast, hne,
          Tracked.completed]
  · refine List.count_eq_zero.2 fun he => hdue ?_
    simp only [List.flatMap_cons, List.flatMap_nil, List.append_nil] at he
    rcases mem_dueAt he with ⟨he, hfirst⟩ | ⟨he, hfirst⟩ <;> rw [hresponse] at he <;>
      cases hb <;> cases he
    · rw [hfirst, hstart]
    · rw [hfirst, hend]
  · exact absurd (lt_of_lt_of_le (hahead hdue) hle) hlast
  · simp

/-- What is planned concerns stored controls. -/
theorem stored_of_mem_nextEvents {k : MRIDType} (h : e ∈ (calcNextScheduleTime m lfdi now).2)
    (hk : e.IsBoundaryOf k) : ∃ entry ∈ m.controls.entries, entry.2.derControl.mrid = k := by
  rw [nextEvents_eq_flatMap] at h
  obtain ⟨d, hd, he⟩ := List.mem_flatMap.1 h
  cases d with
  | default => cases he
  | scheduled d =>
    obtain ⟨id, hid⟩ := stored_of_mem_allControlsForDevice hd
    refine ⟨(id, d), hid, ?_⟩
    rcases mem_dueAt he with ⟨he, -⟩ | ⟨he, -⟩ <;>
      obtain ⟨r, -, rfl⟩ := Option.map_eq_some_iff.1 he <;> exact hk

open Classical in
/-- **A response is planned exactly when its boundary is the first ahead.** -/
theorem count_nextEvents (hkeeps : Keeps lfdi c m) (hb : c.Boundary b e) :
    (calcNextScheduleTime m lfdi now).2.count e = if Predicts m lfdi now b then 1 else 0 := by
  rw [count_nextEvents_of_earliest hkeeps hb]
  simp only [predicts_iff hb.fits]

end Planning

/-! ## One boundary, step by step -/

namespace Scheduler

variable {lfdi : HexBinary160} {c : Tracked} {first s t : Scheduler} {b : Int} {e : Event}

/-- The wait task was armed for `b`. -/
def ArmedAt (s : Scheduler) (b : Int) : Prop :=
  ∃ w ∈ s.waitTask, w.nextEventTime.map DateTime.timestamp = some b

/-- The wait task was planned to broadcast `e`. -/
def Carries (s : Scheduler) (e : Event) : Prop :=
  ∃ w ∈ s.waitTask, e ∈ w.nextEvents

/-- How often the wait task has yet to broadcast `e`. -/
def pendingCount (s : Scheduler) (e : Event) : Nat :=
  (s.waitTask.map fun w => w.pending.count e).getD 0

/-- The response was broadcast after `first`. -/
def Sent (first s : Scheduler) (e : Event) : Prop :=
  first.outputCh.count e < s.outputCh.count e

/-- Where one boundary with its response stands, for a control followed since `first`. -/
structure Follows (first : Scheduler) (b : Int) (e : Event) (s : Scheduler) : Prop where
  armedAt : 0 < s.pendingCount e → s.ArmedAt b
  carried : s.Carries e → first.outputCh.count e < s.outputCh.count e + s.pendingCount e
  planned : first.processed < s.processed → s.ArmedAt b → s.Carries e
  grows : first.outputCh.count e ≤ s.outputCh.count e
  once : s.outputCh.count e + s.pendingCount e ≤ first.outputCh.count e + 1
  early : s.clock.timestamp < b → s.outputCh.count e = first.outputCh.count e
  passed : ∀ r ∈ s.lastReading, b ≤ r.timestamp →
    first.outputCh.count e < s.outputCh.count e + s.pendingCount e ∧
      ((∀ now, s.phase ≠ .rearming now) → s.pendingCount e = 0)

/-- Steps that leave the wait task alone and do not broadcast the response. -/
theorem Follows.frame (hs : Follows first b e s) (hwait : t.waitTask = s.waitTask)
    (hcount : t.outputCh.count e = s.outputCh.count e)
    (hclock : s.clock.timestamp ≤ t.clock.timestamp) (hreading : t.lastReading = s.lastReading)
    (hprocessed : t.processed = s.processed)
    (hphase : (∀ now, t.phase ≠ .rearming now) → ∀ now, s.phase ≠ .rearming now) :
    Follows first b e t := by
  have hpending : t.pendingCount e = s.pendingCount e := by simp only [pendingCount, hwait]
  have harmed : t.ArmedAt b ↔ s.ArmedAt b := by simp only [ArmedAt, hwait]
  have hcarries : t.Carries e ↔ s.Carries e := by simp only [Carries, hwait]
  constructor
  · rw [hpending, harmed]; exact hs.armedAt
  · rw [hpending, hcarries, hcount]; exact hs.carried
  · rw [hprocessed, harmed, hcarries]; exact hs.planned
  · rw [hcount]; exact hs.grows
  · rw [hcount, hpending]; exact hs.once
  · rw [hcount]; exact fun h => hs.early (lt_of_le_of_lt hclock h)
  · rw [hreading, hcount, hpending]
    exact fun r hr hbr => ⟨(hs.passed r hr hbr).1, fun h => (hs.passed r hr hbr).2 (hphase h)⟩

/-- Taking a command does not announce the start or the end of a control that is stored already, or
that is stored ahead of its start. -/
theorem receive_boundary {seeds : Nat → Nat × Nat} {order : List (MRIDType × DERCurve)}
    {k : MRIDType} (h : s.receive seeds order = some t)
    (hstored : s.model.controls.get? k ≠ none ∨
      ∃ stored ∈ t.model.controls.get? k, s.clock.timestamp < stored.startTime)
    (he : e.IsBoundaryOf k) : t.outputCh.count e = s.outputCh.count e := by
  have hlink : e ∉ s.model.refreshKnownLinks := by
    intro hmem
    simp only [Sep2Model.refreshKnownLinks, Sep2Model.resourceLinkEvents, List.mem_append,
      List.mem_map] at hmem
    rcases hmem with ⟨_, -, rfl⟩ | ⟨_, -, rfl⟩ <;> exact he.elim
  simp only [receive] at h
  split at h
  · cases h; rfl
  · cases h
    simp [List.count_eq_zero.2 hlink]
  · obtain ⟨⟨model, events⟩, hupdate, rfl⟩ := Option.map_eq_some_iff.1 h
    have hevents : e ∉ events := fun hmem => by
      obtain ⟨hvacant, hstarted⟩ := applyUpdate_boundary (fun _ => rfl) hupdate hmem he
      rcases hstored with hstored | ⟨stored, hstored, hahead⟩
      · exact hstored hvacant
      · exact absurd (hstarted stored hstored) (not_le.2 hahead)
    simp [List.count_eq_zero.2 hevents]
  · cases h

/-- The loop reads the clock at or after `b` for the first time. Some round since `first` armed the
wait task for `b`, or the response has been sent. -/
def TimelyReading (first : Scheduler) (b : Int) (e : Event) (s : Scheduler) : Prop :=
  b ≤ s.clock.timestamp → (∀ r ∈ s.lastReading, r.timestamp < b) →
    (first.processed < s.processed ∧ s.ArmedAt b) ∨ Sent first s e

/-- The loop plans anew from the reading `now`. A response whose boundary it has passed is no longer
waiting to be sent, and one whose boundary it predicts has not been sent. -/
def TimelyPlan (lfdi : HexBinary160) (first : Scheduler) (b : Int) (e : Event) (s : Scheduler)
    (now : DateTime) : Prop :=
  ¬ ((calcNextScheduleTime s.model lfdi now).1 = s.priorNextSchedulerTime ∧
      (calcNextScheduleTime s.model lfdi now).2 = s.priorNextEvents) →
    (b ≤ now.timestamp → s.pendingCount e = 0) ∧
      (Predicts s.model lfdi now b → ¬ Sent first s e)

theorem schedule_boundary {k : MRIDType} (h : s.schedule lfdi = some t)
    (he : e.IsBoundaryOf k) : t.outputCh.count e = s.outputCh.count e := by
  obtain ⟨-, rates, events, hrates, rfl⟩ := schedule_cases h
  have hevents : e ∉ events := by
    intro hmem
    rw [hrates e hmem] at he
    exact he
  have hchanged : ∀ attributes, e ≠ .parametersChanged attributes := by
    rintro attributes rfl
    exact he
  simp only [List.count_append, List.count_eq_zero.2 hevents]
  split_ifs
  · rfl
  · simp [(hchanged _).symm]

theorem Follows.schedule (hs : Follows first b e s) (htimely : TimelyReading first b e s)
    (hk : e.IsBoundaryOf c.mrid) (h : s.schedule lfdi = some t) : Follows first b e t := by
  have hcount := schedule_boundary h hk
  obtain ⟨-, rates, events, -, rfl⟩ := schedule_cases h
  constructor
  · exact hs.armedAt
  · exact fun h => by rw [hcount]; exact hs.carried h
  · exact hs.planned
  · rw [hcount]; exact hs.grows
  · rw [hcount]; exact hs.once
  · exact fun h => by rw [hcount]; exact hs.early h
  · rintro _ ⟨⟩ hb
    refine ⟨?_, fun h => absurd rfl (h s.clock)⟩
    rw [hcount]
    by_cases hpassed : ∃ r ∈ s.lastReading, b ≤ r.timestamp
    · obtain ⟨r, hr, hbr⟩ := hpassed
      exact (hs.passed r hr hbr).1
    · rcases htimely hb (fun r hr => not_le.1 fun h => hpassed ⟨r, hr, h⟩) with
        ⟨hprocessed, harmed⟩ | hsent
      · exact hs.carried (hs.planned hprocessed harmed)
      · exact Nat.lt_add_right _ hsent

theorem Follows.rearm (hs : Follows first b e s) (harmed : s.Armed) (hcalc : Calculated lfdi s)
    (hkeeps : Keeps lfdi c s.model) (hb : c.Boundary b e)
    (htimely : ∀ now, s.phase = .rearming now → TimelyPlan lfdi first b e s now)
    (h : s.rearm lfdi = some t) : Follows first b e t := by
  obtain ⟨now, hphase, hcases⟩ := rearm_cases h
  have hreading := (hcalc.rearming now hphase).1
  have hcount : (calcNextScheduleTime s.model lfdi now).2.count e = _ := count_nextEvents hkeeps hb
  have hahead : Predicts s.model lfdi now b → now.timestamp < b := lt_of_predicts hb.fits
  rcases hcases with ⟨htime, hevents, rfl⟩ | ⟨hnew, rfl⟩
  · -- The wait task stays. It is armed for the prediction, so not for a boundary that has passed.
    have hpredicts : s.ArmedAt b → Predicts s.model lfdi now b := by
      rintro ⟨w, hw, hwb⟩
      rw [Predicts, htime, ← harmed.time w hw, hwb]
    have hcarries : s.ArmedAt b → s.Carries e := by
      intro hat
      have hpos : 0 < (calcNextScheduleTime s.model lfdi now).2.count e := by
        rw [hcount, if_pos (hpredicts hat)]
        exact Nat.one_pos
      obtain ⟨w, hw, -⟩ := hat
      exact ⟨w, hw, by rw [harmed.events w hw, ← hevents]; exact List.count_pos_iff.1 hpos⟩
    refine ⟨hs.armedAt, hs.carried, fun _ => hcarries, hs.grows, hs.once, hs.early, ?_⟩
    intro r hr hbr
    cases Option.some.inj (hreading.symm.trans hr)
    refine ⟨(hs.passed now hreading hbr).1, fun _ => Nat.eq_zero_of_not_pos fun hpos => ?_⟩
    exact absurd (hahead (hpredicts (hs.armedAt hpos))) (not_lt.2 hbr)
  · obtain ⟨hdone, hunsent⟩ := htimely now hphase hnew
    constructor
    · intro hpos
      have hpos : 0 < (calcNextScheduleTime s.model lfdi now).2.count e := hpos
      rw [hcount] at hpos
      split_ifs at hpos with hpredicts
      · exact ⟨_, rfl, hpredicts⟩
      · exact absurd hpos (lt_irrefl 0)
    · rintro ⟨w, hw, he⟩
      cases hw
      exact Nat.lt_of_le_of_lt hs.grows (Nat.lt_add_of_pos_right (List.count_pos_iff.2 he))
    · rintro - ⟨w, hw, hwb⟩
      cases hw
      have hpredicts : Predicts s.model lfdi now b := hwb
      refine ⟨_, rfl, List.count_pos_iff.1 ?_⟩
      rw [hcount, if_pos hpredicts]
      exact Nat.one_pos
    · exact hs.grows
    · show s.outputCh.count e + (calcNextScheduleTime s.model lfdi now).2.count e ≤ _
      rw [hcount]
      split_ifs with hpredicts
      · exact Nat.succ_le_succ (not_lt.1 (hunsent hpredicts))
      · exact le_trans (Nat.le_add_right _ _) hs.once
    · exact hs.early
    · intro r hr hbr
      cases Option.some.inj (hreading.symm.trans hr)
      have hzero : (calcNextScheduleTime s.model lfdi now).2.count e = 0 := by
        rw [hcount, if_neg fun hpredicts => absurd (hahead hpredicts) (not_lt.2 hbr)]
      have hsent := (hs.passed now hreading hbr).1
      rw [hdone hbr] at hsent
      exact ⟨Nat.lt_add_right _ hsent, fun _ => hzero⟩

theorem Follows.wait (hs : Follows first b e s) (h : s.wait = some t) : Follows first b e t := by
  obtain ⟨w, hw, -, hcases⟩ := wait_cases h
  have hpendingCount : s.pendingCount e = w.pending.count e := by simp [pendingCount, hw]
  have harmedAt : s.ArmedAt b ↔ w.nextEventTime.map DateTime.timestamp = some b := by
    simp [ArmedAt, hw]
  have hcarries : s.Carries e ↔ e ∈ w.nextEvents := by simp [Carries, hw]
  obtain ⟨hat, hcarried, hplanned, hgrows, honce, hearly, hpassed⟩ := hs
  rw [hpendingCount] at hat hcarried honce hpassed
  rw [harmedAt] at hat hplanned
  rw [hcarries] at hcarried hplanned
  -- Ending the wait task changes nothing that is followed.
  have hend : ∀ inputCh, Follows first b e
      { s with inputCh := inputCh, waitTask := some { w with finished := true } } := fun inputCh =>
    ⟨fun hpos => ⟨_, rfl, hat hpos⟩, fun ⟨_, hw', he⟩ => by cases hw'; exact hcarried he,
      fun hprocessed ⟨_, hw', hwb⟩ => by cases hw'; exact ⟨_, rfl, hplanned hprocessed hwb⟩,
      hgrows, honce, hearly, hpassed⟩
  rcases hcases with ⟨-, rfl⟩ | ⟨time, htime, hdue, ⟨e', rest, hpending, rfl⟩ | ⟨-, rfl⟩⟩
  · exact hend s.inputCh
  · have hsum : (s.outputCh ++ [e']).count e + rest.count e =
        s.outputCh.count e + w.pending.count e := by
      simp only [hpending, List.count_append, List.count_cons, List.count_nil]
      omega
    have hle : rest.count e ≤ w.pending.count e := by
      rw [hpending]
      exact List.count_le_count_cons
    constructor
    · exact fun hpos => ⟨_, rfl, hat (lt_of_lt_of_le hpos hle)⟩
    · rintro ⟨_, hw', he⟩
      cases hw'
      exact (hcarried he).trans_eq hsum.symm
    · rintro hprocessed ⟨_, hw', hwb⟩
      cases hw'
      exact ⟨_, rfl, hplanned hprocessed hwb⟩
    · exact hgrows.trans (by rw [List.count_append]; exact Nat.le_add_right _ _)
    · exact hsum.trans_le honce
    · intro hclock
      -- The response itself is only broadcast once its boundary is reached.
      by_cases he : e' = e
      · have hpos : 0 < w.pending.count e := by
          rw [hpending, he, List.count_cons_self]
          exact Nat.succ_pos _
        have hb := hat hpos
        rw [htime, Option.map_some, Option.some.injEq] at hb
        exact absurd (hb ▸ hdue) (not_le.2 hclock)
      · rw [List.count_append, List.count_singleton, if_neg (by simpa using he), Nat.add_zero]
        exact hearly hclock
    · intro r hr hbr
      refine ⟨(hpassed r hr hbr).1.trans_eq hsum.symm, fun hphase => ?_⟩
      exact Nat.le_zero.1 (hle.trans_eq ((hpassed r hr hbr).2 hphase))
  · exact hend _

/-! ## Runs -/

end Scheduler

/-- The two boundaries, to be computed. -/
def Tracked.boundaries (c : Tracked) : List (Int × Event) :=
  [(c.startTime, c.started), (c.endTime, c.completed)]

theorem Tracked.mem_boundaries {c : Tracked} {p : Int × Event} :
    p ∈ c.boundaries ↔ c.Boundary p.1 p.2 := by
  obtain ⟨b, e⟩ := p
  simp only [boundaries, List.mem_cons, Prod.mk.injEq, List.not_mem_nil, or_false]
  constructor
  · rintro (⟨rfl, rfl⟩ | ⟨rfl, rfl⟩)
    exacts [.start, .finish]
  · rintro (_ | _) <;> simp

namespace Scheduler

variable {lfdi : HexBinary160} {c : Tracked} {first s t : Scheduler} {b : Int} {e : Event}

/-- The readings and the plans are timely for both boundaries of the control. -/
def Timely (lfdi : HexBinary160) (c : Tracked) (first s : Scheduler) : TaskLabel → Prop
  | .schedule => ∀ p ∈ c.boundaries, TimelyReading first p.1 p.2 s
  | .rearm => ∀ p ∈ c.boundaries, ∀ now, s.phase = .rearming now →
      TimelyPlan lfdi first p.1 p.2 s now
  | _ => True

theorem Follows.step {l : TaskLabel} (hs : Follows first b e s) (harmed : s.Armed)
    (hcalc : Calculated lfdi s) (hkeeps : Keeps lfdi c s.model) (hb : c.Boundary b e)
    (htimely : Timely lfdi c first s l) (h : s.step lfdi l = some t) : Follows first b e t := by
  cases l with
  | tick now =>
    obtain ⟨hle, rfl⟩ := tick_eq_some.1 h
    exact hs.frame rfl rfl hle rfl rfl id
  | send command => cases h; exact hs.frame rfl rfl le_rfl rfl rfl id
  | receive seeds order =>
    have hstored : s.model.controls.get? c.mrid ≠ none := by
      obtain ⟨stored, hstored, -⟩ := hkeeps
      simp [Option.mem_def.1 hstored]
    have hcount := receive_boundary h (.inl hstored) hb.isBoundaryOf
    have hphase : ∀ now, s.phase ≠ .rearming now := by
      rintro now hnow
      simp [Scheduler.step, Scheduler.receive, hnow] at h
    obtain ⟨_, _, _, -, -, rfl⟩ := receive_cases h
    exact hs.frame rfl hcount le_rfl rfl rfl fun _ => hphase
  | persist succeeds =>
    obtain ⟨hphase, _, rfl⟩ := persist_cases h
    exact hs.frame rfl rfl le_rfl rfl rfl fun _ => by simp [hphase]
  | schedule => exact hs.schedule (htimely (b, e) (Tracked.mem_boundaries.2 hb)) hb.isBoundaryOf h
  | rearm =>
    exact hs.rearm harmed hcalc hkeeps hb (htimely (b, e) (Tracked.mem_boundaries.2 hb)) h
  | wait => exact hs.wait h

/-- A control is first stored: it is there when the loop starts, or an update brings it that was not
known before. `before` is what had been broadcast until then. -/
inductive Introduced (lfdi : HexBinary160) (c : Tracked) : List Event → Scheduler → Prop
  | loaded (clock : DateTime) (loaded : Sep2Model) : Introduced lfdi c [] (start clock loaded)
  | received {clock : DateTime} {loaded : Sep2Model} {ls : List TaskLabel} {s t : Scheduler}
      {seeds : Nat → Nat × Nat} {order : List (MRIDType × DERCurve)} :
      run (step lfdi) (start clock loaded) ls = some s →
      (∀ entry ∈ s.model.controls.entries, entry.2.derControl.mrid ≠ c.mrid) →
      s.receive seeds order = some t → Introduced lfdi c s.outputCh t

theorem Introduced.follows {before : List Event} (hnew : Introduced lfdi c before first)
    (hkeeps : Keeps lfdi c first.model) (hahead : first.clock.timestamp < c.startTime)
    (hb : c.Boundary b e) :
    first.Armed ∧ Calculated lfdi first ∧ Follows first b e first ∧
      first.outputCh.count e = before.count e := by
  have hbound : c.startTime ≤ b := by
    cases hb with
    | start => exact le_rfl
    | finish => unfold Tracked.endTime; omega
  -- A wait task that knows nothing of the control.
  have hfollows : ∀ {s : Scheduler}, ¬ s.Carries e → s.Armed → s.clock.timestamp < c.startTime →
      (∀ r ∈ s.lastReading, r.timestamp ≤ s.clock.timestamp) → Follows s b e s := by
    intro s hcarries harmed hahead hpast
    have hzero : s.pendingCount e = 0 := by
      cases hw : s.waitTask with
      | none => simp [pendingCount, hw]
      | some w =>
        simp only [pendingCount, hw, Option.map_some, Option.getD_some]
        exact List.count_eq_zero.2 fun he => hcarries ⟨w, hw, (harmed.pending w hw).subset he⟩
    refine ⟨fun h => absurd hzero h.ne', fun h => absurd h hcarries,
      fun h => absurd h (lt_irrefl _), le_rfl, by omega, fun _ => rfl, fun r hr hbr => ?_⟩
    have := hpast r hr
    omega
  cases hnew with
  | loaded clock loaded =>
    refine ⟨Armed.of_start clock loaded, Calculated.of_start clock loaded, ?_, rfl⟩
    exact hfollows (by simp [Carries, start]) (Armed.of_start clock loaded) hahead
      (by simp [start])
  | @received clock loaded ls s t seeds order hrun hunknown hreceive =>
    obtain ⟨harmed, hcalc⟩ := (exec_true_iff.2 hrun).invariant
      (I := fun s => s.Armed ∧ Calculated lfdi s)
      ⟨Armed.of_start clock loaded, Calculated.of_start clock loaded⟩
      fun _ _ _ hs _ hst => ⟨hs.1.step hst, hs.2.step hst⟩
    have hstep : s.step lfdi (.receive seeds order) = some first := hreceive
    have hphase : s.phase = .receiving := by
      cases hp : s.phase <;> simp_all [Scheduler.receive]
    have hcarries : ¬ s.Carries e := by
      rintro ⟨w, hw, he⟩
      have hprocessed : 0 < s.processed := Nat.pos_of_ne_zero fun hzero => by
        simp [harmed.fresh hzero] at hw
      obtain ⟨now, hnow⟩ := Option.ne_none_iff_exists'.1 (hcalc.read hprocessed)
      rw [harmed.events w hw, (hcalc.receiving hphase now hnow).2.2] at he
      obtain ⟨entry, hentry, hmrid⟩ := stored_of_mem_nextEvents he hb.isBoundaryOf
      exact hunknown entry hentry hmrid
    have hpast : ∀ r ∈ s.lastReading, r.timestamp ≤ s.clock.timestamp :=
      fun r hr => (hcalc.receiving hphase r hr).1.past
    have hclock : first.clock = s.clock := by
      obtain ⟨_, _, _, -, -, rfl⟩ := receive_cases hreceive
      rfl
    have hcount : first.outputCh.count e = s.outputCh.count e := by
      obtain ⟨stored, hstored, hstart, -⟩ := hkeeps
      refine receive_boundary hreceive (.inr ⟨stored, hstored, ?_⟩) hb.isBoundaryOf
      rw [hstart, ← hclock]
      exact hahead
    refine ⟨harmed.step hstep, hcalc.step hstep, ?_, hcount⟩
    obtain ⟨_, _, _, -, -, rfl⟩ := receive_cases hreceive
    exact hfollows hcarries (harmed.step hstep) hahead hpast

/-- **Each response is sent exactly once.** -/
theorem responses_exactly_once {before : List Event} {ls : List TaskLabel}
    (hnew : Introduced lfdi c before first) (hkeeps : Keeps lfdi c first.model)
    (hahead : first.clock.timestamp < c.startTime)
    (h : Exec (step lfdi) (fun s l => Keeps lfdi c s.model ∧ Timely lfdi c first s l) first ls t) :
    ∀ e ∈ [c.started, c.completed], t.outputCh.count e ≤ before.count e + 1 ∧
      (t.phase = .receiving → ∀ now ∈ t.lastReading, c.endTime ≤ now.timestamp →
        t.outputCh.count e = before.count e + 1) := by
  have hfinal : ∀ {b e}, c.Boundary b e → t.outputCh.count e ≤ before.count e + 1 ∧
      (t.phase = .receiving → ∀ now ∈ t.lastReading, c.endTime ≤ now.timestamp →
        t.outputCh.count e = before.count e + 1) := by
    intro b e hb
    obtain ⟨harmed, hcalc, hfollows, hcount⟩ := hnew.follows hkeeps hahead hb
    obtain ⟨-, -, hfollows⟩ := h.invariant
      (I := fun s => s.Armed ∧ Calculated lfdi s ∧ Follows first b e s)
      ⟨harmed, hcalc, hfollows⟩ fun _ _ _ hs hok hst =>
        ⟨hs.1.step hst, hs.2.1.step hst, hs.2.2.step hs.1 hs.2.1 hok.1 hb hok.2 hst⟩
    have honce := hfollows.once
    rw [hcount] at honce
    refine ⟨le_trans (Nat.le_add_right _ _) honce, fun hphase now hnow hover => ?_⟩
    have hbound : b ≤ c.endTime := by
      cases hb with
      | start => unfold Tracked.endTime; omega
      | finish => exact le_rfl
    obtain ⟨hsent, hnone⟩ := hfollows.passed now hnow (hbound.trans hover)
    have hzero := hnone (by simp [hphase])
    rw [hcount] at hsent
    omega
  intro e he
  simp only [List.mem_cons, List.not_mem_nil, or_false] at he
  rcases he with rfl | rfl
  exacts [hfinal .start, hfinal .finish]

/-! ## A command served in the second a control starts -/

/-- The control of `knownModel`. -/
def disconnectTracked : Tracked :=
  { mrid := 4, startTime := 10, duration := 10, replyTo := "/rsp"
    nonempty := by decide, fits := by decide }

instance (m : Sep2Model) : Decidable (Keeps lfdi c m) := by unfold Keeps; infer_instance

instance : Decidable (s.ArmedAt b) := by unfold ArmedAt; infer_instance

instance : Decidable (TimelyReading first b e s) := by
  unfold TimelyReading Sent; infer_instance

instance (now : DateTime) : Decidable (TimelyPlan lfdi first b e s now) := by
  unfold TimelyPlan Predicts Sent; infer_instance

instance : (l : TaskLabel) → Decidable (Timely lfdi c first s l)
  | .schedule => inferInstanceAs (Decidable (∀ p ∈ c.boundaries, TimelyReading first p.1 p.2 s))
  | .rearm =>
    match hphase : s.phase with
    | .rearming now => decidable_of_iff
        (∀ p ∈ c.boundaries, TimelyPlan lfdi first p.1 p.2 s now) <| by
          simp only [Timely, hphase, Phase.rearming.injEq, forall_eq']
    | .receiving | .persisting | .scheduling => .isTrue fun _ _ _ h => by simp [hphase] at h
  | .tick _ | .send _ | .receive _ _ | .persist _ | .wait => .isTrue trivial

theorem responses_exactly_once_undisturbed : ∃ t,
    Exec (step 1) (fun s l => Keeps 1 disconnectTracked s.model ∧
        Timely 1 disconnectTracked (start (second 5) knownModel) s l)
      (start (second 5) knownModel)
      (serve .refreshActiveResources ++ .tick (second 10) :: wakeUp ++
        .tick (second 20) :: wakeUp) t ∧
    ∀ e ∈ [disconnectTracked.started, disconnectTracked.completed],
      t.outputCh.count e ≤ 0 + 1 ∧
      (t.phase = .receiving → ∀ now ∈ t.lastReading, disconnectTracked.endTime ≤ now.timestamp →
        t.outputCh.count e = 0 + 1) := by
  have hruns : (runIf (step 1) (fun s l => Keeps 1 disconnectTracked s.model ∧
        Timely 1 disconnectTracked (start (second 5) knownModel) s l)
      (start (second 5) knownModel)
      (serve .refreshActiveResources ++ .tick (second 10) :: wakeUp ++
        .tick (second 20) :: wakeUp)).isSome = true := by
    decide
  obtain ⟨t, ht⟩ := Option.isSome_iff_exists.1 hruns
  have hexec := exec_iff_runIf.2 ht
  exact ⟨t, hexec, responses_exactly_once (.loaded (second 5) knownModel) (by decide) (by decide)
    hexec⟩

/-- **A start is never told.** The clock reaches the start; before the wait task fires, the loop
serves an update that has nothing to do with the control. It plans the end and replaces the wait
task. -/
theorem start_is_never_told : ∃ t,
    Exec (step 1) (fun s _ => Keeps 1 disconnectTracked s.model)
      (start (second 5) knownModel)
      (serve .refreshActiveResources ++ .tick (second 10) ::
        serve (.resourceUpdated (.time { pollRate := some 60 })) ++
        .tick (second 20) :: wakeUp) t ∧
    t.phase = .receiving ∧ t.lastReading = some (second 20) ∧
    t.outputCh.count disconnectTracked.started = 0 := by
  have hruns : (runIf (step 1) (fun s _ => Keeps 1 disconnectTracked s.model)
      (start (second 5) knownModel)
      (serve .refreshActiveResources ++ .tick (second 10) ::
        serve (.resourceUpdated (.time { pollRate := some 60 })) ++
        .tick (second 20) :: wakeUp)).any (fun t => t.phase = .receiving ∧
          t.lastReading = some (second 20) ∧
          t.outputCh.count disconnectTracked.started = 0) = true := by
    decide
  obtain ⟨t, ht, htold⟩ := (Option.any_eq_true _ _).1 hruns
  exact ⟨t, exec_iff_runIf.2 ht, of_decide_eq_true htold⟩

end Scheduler

end Sep2Bridge
