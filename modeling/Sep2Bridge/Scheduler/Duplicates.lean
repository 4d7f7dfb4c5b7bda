import Sep2Bridge.Scheduler.NextSchedule

/-!
# Responses that are due twice

The controls of a device are collected along all paths to them, and nothing removes duplicates: a
program that two assignments share, or a control list that two programs share, gives its controls
twice. For the parameters this makes no difference. But the responses due at the next boundary are
collected from the same list.

**What is due** (`nextEvents_perm`). At the first boundary ahead, the responses of every control
that is reached, once for each path.

Main result: `nextEvents_distinct_iff`.
-/

namespace Sep2Bridge

open Lib

/-- Both events tell the server the same of one control. -/
def Event.SameResponse : Event → Event → Prop
  | .derControlStatusChanged subject status _, .derControlStatusChanged subject' status' _ =>
    subject = subject' ∧ status = status'
  | _, _ => False

/-- The controls of a device that are neither withdrawn nor over, once for each path to them. -/
def Sep2Model.reachedControls (m : Sep2Model) (lfdi : HexBinary160) (now : Int) :
    List ScheduledControl :=
  (m.devicePrograms lfdi).flatMap fun derp =>
    ((m.programControls derp).filter isLive).filter fun control => now < control.endTime

/-- The first boundary ahead of some controls. -/
structure NextBoundary (controls : List ScheduledControl) (now t : Int) : Prop where
  ahead : now < t
  boundary : ∃ c ∈ controls, t = c.startTime ∨ t = c.endTime
  first : ∀ c ∈ controls, (now < c.startTime → t ≤ c.startTime) ∧ (now < c.endTime → t ≤ c.endTime)

namespace ScheduledControl

/-- The control asks to be told of its boundaries. -/
def Asks (c : ScheduledControl) : Prop :=
  (replyToIfRequired c.derControl ResponseRequired.specificResponse).isSome

/-- The controls of one mRID start at `t`, or end at `t`, and both ask to be told. -/
def Collides (t : Int) (c d : ScheduledControl) : Prop :=
  c.derControl.mrid = d.derControl.mrid ∧ c.Asks ∧ d.Asks ∧
    (c.startTime = t ∧ d.startTime = t ∨ c.endTime = t ∧ d.endTime = t)

/-- The responses of a control that are due at `t`. -/
def dueAt (t : Int) (c : ScheduledControl) : List Event :=
  ((ControlRef.scheduled c).boundaries.filter fun e => e.1 = t).filterMap Prod.snd

end ScheduledControl

section Duplicates

variable {m : Sep2Model} {lfdi : HexBinary160} {now : DateTime} {t : Int}

/-! ## What one control gives -/

theorem mem_boundaryResponse {c : ScheduledControl} {status : ResponseStatus} {e : Event} :
    boundaryResponse c status = some e ↔ ∃ r,
      replyToIfRequired c.derControl ResponseRequired.specificResponse = some r ∧
        e = .derControlStatusChanged c.derControl.mrid status r := by
  rw [boundaryResponse, Option.map_eq_some_iff]
  simp only [eq_comm]

theorem ScheduledControl.mem_dueAt {c : ScheduledControl} {e : Event} :
    e ∈ c.dueAt t ↔ ∃ r, replyToIfRequired c.derControl ResponseRequired.specificResponse = some r ∧
      (c.startTime = t ∧ e = .derControlStatusChanged c.derControl.mrid .eventStarted r ∨
        c.endTime = t ∧ e = .derControlStatusChanged c.derControl.mrid .eventCompleted r) := by
  simp only [ScheduledControl.dueAt, ControlRef.boundaries, List.mem_filterMap, List.mem_filter,
    List.mem_cons, List.not_mem_nil, or_false, decide_eq_true_eq]
  constructor
  · rintro ⟨_, ⟨rfl | rfl, ht⟩, he⟩
    · obtain ⟨r, hr, rfl⟩ := mem_boundaryResponse.1 he
      exact ⟨r, hr, .inl ⟨ht, rfl⟩⟩
    · obtain ⟨r, hr, rfl⟩ := mem_boundaryResponse.1 he
      exact ⟨r, hr, .inr ⟨ht, rfl⟩⟩
  · rintro ⟨r, hr, ⟨ht, he⟩ | ⟨ht, he⟩⟩
    · exact ⟨_, ⟨.inl rfl, ht⟩, mem_boundaryResponse.2 ⟨r, hr, he⟩⟩
    · exact ⟨_, ⟨.inr rfl, ht⟩, mem_boundaryResponse.2 ⟨r, hr, he⟩⟩

/-- One control does not repeat itself. -/
theorem dueAt_pairwise (c : ScheduledControl) :
    (c.dueAt t).Pairwise fun e e' => ¬ e.SameResponse e' := by
  have hboundaries : (ControlRef.scheduled c).boundaries.Pairwise fun b b' =>
      ∀ e ∈ b.2, ∀ e' ∈ b'.2, ¬ e.SameResponse e' := by
    refine List.pairwise_pair.2 fun e he e' he' => ?_
    obtain ⟨r, -, rfl⟩ := mem_boundaryResponse.1 he
    obtain ⟨r', -, rfl⟩ := mem_boundaryResponse.1 he'
    exact fun h => nomatch h.2
  refine List.pairwise_filterMap.2 ((hboundaries.filter _).imp fun h => ?_)
  exact h

/-- Two controls repeat each other if they collide. -/
theorem collides_iff {c d : ScheduledControl} :
    (∀ e ∈ c.dueAt t, ∀ e' ∈ d.dueAt t, ¬ e.SameResponse e') ↔ ¬ c.Collides t d := by
  constructor
  · rintro h ⟨hmrid, hc, hd, hboth⟩
    obtain ⟨r, hr⟩ := Option.isSome_iff_exists.1 hc
    obtain ⟨r', hr'⟩ := Option.isSome_iff_exists.1 hd
    obtain ⟨hstart, hstart'⟩ | ⟨hend, hend'⟩ := hboth
    · exact h _ (ScheduledControl.mem_dueAt.2 ⟨r, hr, .inl ⟨hstart, rfl⟩⟩) _
        (ScheduledControl.mem_dueAt.2 ⟨r', hr', .inl ⟨hstart', rfl⟩⟩) ⟨hmrid, rfl⟩
    · exact h _ (ScheduledControl.mem_dueAt.2 ⟨r, hr, .inr ⟨hend, rfl⟩⟩) _
        (ScheduledControl.mem_dueAt.2 ⟨r', hr', .inr ⟨hend', rfl⟩⟩) ⟨hmrid, rfl⟩
  · intro h e he e' he' hsame
    obtain ⟨r, hr, hdue⟩ := ScheduledControl.mem_dueAt.1 he
    obtain ⟨r', hr', hdue'⟩ := ScheduledControl.mem_dueAt.1 he'
    have hc : c.Asks := Option.isSome_iff_exists.2 ⟨r, hr⟩
    have hd : d.Asks := Option.isSome_iff_exists.2 ⟨r', hr'⟩
    obtain ⟨ht, rfl⟩ | ⟨ht, rfl⟩ := hdue <;> obtain ⟨ht', rfl⟩ | ⟨ht', rfl⟩ := hdue'
    · exact h ⟨hsame.1, hc, hd, .inl ⟨ht, ht'⟩⟩
    · cases hsame.2
    · cases hsame.2
    · exact h ⟨hsame.1, hc, hd, .inr ⟨ht, ht'⟩⟩

/-! ## What all of them give -/

/-- Ranking changes the order of the boundaries only. -/
theorem deviceBoundaries_perm (m : Sep2Model) (lfdi : HexBinary160) (t : Int) :
    (deviceBoundaries m lfdi t).Perm
      ((m.reachedControls lfdi t).flatMap fun c => (ControlRef.scheduled c).boundaries) := by
  have hannotated : ∀ derp,
      ((m.annotatedControls t derp).map Prod.snd).flatMap ControlRef.boundaries =
        (((m.programControls derp).filter Sep2Model.isLive).filter fun c => t < c.endTime).flatMap
          fun c => (ControlRef.scheduled c).boundaries := by
    intro derp
    have hdefault : ∀ d : Option DefaultDERControl,
        (d.toList.map ControlRef.default).flatMap ControlRef.boundaries = [] := by
      rintro (_ | d) <;> rfl
    simp only [Sep2Model.annotatedControls, List.map_map, Function.comp_def, List.map_id',
      List.flatMap_append, hdefault, List.append_nil, List.flatMap_map]
  have hall : (((m.devicePrograms lfdi).flatMap (m.annotatedControls t)).map Prod.snd).flatMap
        ControlRef.boundaries =
      (m.reachedControls lfdi t).flatMap fun c => (ControlRef.scheduled c).boundaries := by
    rw [Sep2Model.reachedControls, List.flatMap_assoc, List.map_flatMap, List.flatMap_assoc]
    exact List.flatMap_congr fun derp _ => hannotated derp
  rw [← hall]
  exact ((sortBy_perm _ _).map Prod.snd).flatMap_right _

theorem mem_deviceBoundaries_iff {b : Int} :
    (∃ e, (b, e) ∈ deviceBoundaries m lfdi t) ↔
      ∃ c ∈ m.reachedControls lfdi t, b = c.startTime ∨ b = c.endTime := by
  simp only [(deviceBoundaries_perm m lfdi t).mem_iff, List.mem_flatMap, ControlRef.boundaries,
    List.mem_cons, List.not_mem_nil, or_false, Prod.mk.injEq]
  constructor
  · rintro ⟨e, c, hc, ⟨hb, -⟩ | ⟨hb, -⟩⟩
    · exact ⟨c, hc, .inl hb⟩
    · exact ⟨c, hc, .inr hb⟩
  · rintro ⟨c, hc, hb | hb⟩
    · exact ⟨_, c, hc, .inl ⟨hb, rfl⟩⟩
    · exact ⟨_, c, hc, .inr ⟨hb, rfl⟩⟩

/-- The prediction looks for the first boundary ahead. -/
theorem earliest_iff_nextBoundary {now : Int} :
    earliest (upcoming now (deviceBoundaries m lfdi now)) = some t ↔
      NextBoundary (m.reachedControls lfdi now) now t := by
  rw [earliest_eq_some_iff]
  constructor
  · rintro ⟨⟨⟨b, e⟩, he, rfl⟩, hleast⟩
    obtain ⟨hmem, hahead⟩ := mem_upcoming.1 he
    refine ⟨hahead, mem_deviceBoundaries_iff.1 ⟨e, hmem⟩, fun c hc => ⟨fun h => ?_, fun h => ?_⟩⟩
    · obtain ⟨e', he'⟩ := mem_deviceBoundaries_iff.2 ⟨c, hc, .inl rfl⟩
      exact hleast _ (mem_upcoming.2 ⟨he', h⟩)
    · obtain ⟨e', he'⟩ := mem_deviceBoundaries_iff.2 ⟨c, hc, .inr rfl⟩
      exact hleast _ (mem_upcoming.2 ⟨he', h⟩)
  · intro h
    obtain ⟨e, he⟩ := mem_deviceBoundaries_iff.2 h.boundary
    refine ⟨⟨_, mem_upcoming.2 ⟨he, h.ahead⟩, rfl⟩, fun ⟨b, e'⟩ he' => ?_⟩
    obtain ⟨hmem, hahead⟩ := mem_upcoming.1 he'
    obtain ⟨c, hc, rfl | rfl⟩ := mem_deviceBoundaries_iff.1 ⟨e', hmem⟩
    · exact (h.first c hc).1 hahead
    · exact (h.first c hc).2 hahead

/-- **What is due next**, for each path once. -/
theorem nextEvents_perm (h : NextBoundary (m.reachedControls lfdi now.timestamp) now.timestamp t) :
    (calcNextScheduleTime m lfdi now).2.Perm
      ((m.reachedControls lfdi now.timestamp).flatMap (ScheduledControl.dueAt t)) := by
  have hdue : (calcNextScheduleTime m lfdi now).2 =
      ((deviceBoundaries m lfdi now.timestamp).filter fun e => e.1 = t).filterMap Prod.snd := by
    have hearliest := earliest_iff_nextBoundary.2 h
    unfold deviceBoundaries at hearliest ⊢
    simp only [calcNextScheduleTime, calcNextScheduleTimeForControls, hearliest,
      Option.some.injEq]
    simp only [upcoming, List.filter_filter]
    congr 1
    refine List.filter_congr fun e _ => ?_
    by_cases he : e.1 = t <;> simp [he, h.ahead]
  rw [hdue]
  have hcontrols : (m.reachedControls lfdi now.timestamp).flatMap (ScheduledControl.dueAt t) =
      (((m.reachedControls lfdi now.timestamp).flatMap fun c =>
        (ControlRef.scheduled c).boundaries).filter fun e => e.1 = t).filterMap Prod.snd := by
    rw [List.filter_flatMap, List.filterMap_flatMap]
    rfl
  rw [hcontrols]
  exact ((deviceBoundaries_perm m lfdi now.timestamp).filter _).filterMap _

/-- **No response is due twice, if and only if no two of the reached controls collide** at the
first boundary ahead: the same control, on two paths, or two controls of one mRID. -/
theorem nextEvents_distinct_iff (m : Sep2Model) (lfdi : HexBinary160) (now : DateTime) :
    ((calcNextScheduleTime m lfdi now).2.Pairwise fun e e' => ¬ e.SameResponse e') ↔
      ∀ t, NextBoundary (m.reachedControls lfdi now.timestamp) now.timestamp t →
        (m.reachedControls lfdi now.timestamp).Pairwise fun c d => ¬ c.Collides t d := by
  have hsymm : ∀ {e e' : Event}, ¬ e.SameResponse e' → ¬ e'.SameResponse e := by
    intro e e' h hsame
    cases e <;> cases e' <;> first | exact hsame | exact h ⟨hsame.1.symm, hsame.2.symm⟩
  have hiff : ∀ t, NextBoundary (m.reachedControls lfdi now.timestamp) now.timestamp t →
      (((calcNextScheduleTime m lfdi now).2.Pairwise fun e e' => ¬ e.SameResponse e') ↔
        (m.reachedControls lfdi now.timestamp).Pairwise fun c d => ¬ c.Collides t d) := by
    intro t ht
    rw [(nextEvents_perm ht).pairwise_iff hsymm, List.pairwise_flatMap]
    simp only [collides_iff]
    exact and_iff_right fun c _ => dueAt_pairwise c
  constructor
  · intro h t ht
    exact (hiff t ht).1 h
  · intro h
    cases hearliest : earliest (upcoming now.timestamp
        (deviceBoundaries m lfdi now.timestamp)) with
    | some t =>
      have ht := earliest_iff_nextBoundary.1 hearliest
      exact (hiff t ht).2 (h t ht)
    | none =>
      have hnil : (calcNextScheduleTime m lfdi now).2 = [] := by
        have hupcoming := earliest_eq_none_iff.1 hearliest
        unfold deviceBoundaries at hupcoming
        simp only [calcNextScheduleTime, calcNextScheduleTimeForControls, hupcoming]
        rfl
      rw [hnil]
      exact .nil

end Duplicates

/-! ## A program that two assignments share -/

/-- Two assignments of device 1 link one program list, with one control on it. -/
def sharedProgram : Sep2Model where
  endDevices := (∅ : HashMap _ _).insert 1
    { lfdi := some 1, functionSetAssignmentsListLink := some ⟨"/fsa"⟩ }
  functionSetAssignmentsLists := (∅ : HashMap _ _).insert "/fsa" ⟨"/fsa", [1, 2], none⟩
  functionSetAssignments := ((∅ : HashMap _ _).insert 1
    { mrid := 1, derProgramListLink := some ⟨"/derp"⟩ }).insert 2
    { mrid := 2, derProgramListLink := some ⟨"/derp"⟩ }
  programLists := (∅ : HashMap _ _).insert "/derp" ⟨"/derp", [3], none⟩
  programs := (∅ : HashMap _ _).insert 3 { mrid := 3, derControlListLink := some ⟨"/derc"⟩ }
  controlLists := (∅ : HashMap _ _).insert "/derc" ⟨"/derc", [4], none⟩
  controls := (∅ : HashMap _ _).insert 4
    { derControl :=
        { mrid := 4, interval := ⟨10, 10⟩, responseRequired := some ⟨true, true⟩,
          replyTo := some "/rsp" }
      startTime := 10
      duration := 10 }

theorem start_due_twice :
    ¬ (calcNextScheduleTime sharedProgram 1 ⟨5, by decide⟩).2.Pairwise
      fun e e' => ¬ e.SameResponse e' := by
  have hevents : (calcNextScheduleTime sharedProgram 1 ⟨5, by decide⟩).2 =
      [.derControlStatusChanged 4 .eventStarted "/rsp",
        .derControlStatusChanged 4 .eventStarted "/rsp"] := by
    decide
  rw [hevents, List.pairwise_pair]
  exact fun h => h ⟨rfl, rfl⟩

end Sep2Bridge
