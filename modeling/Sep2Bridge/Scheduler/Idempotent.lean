import Sep2Bridge.Scheduler.Reach

/-!
# An update applied again

Every poll applies resources that the model already holds. If all of them carry an href, an update
that is applied twice changes nothing the second time, and nothing is announced.

**The argument.** The sweep of the first application drops nothing that the links are collected
from, so the links stay the same (`links_sweep`). What is swept by these links is not touched by a
second sweep (`sweep_eq_self`). And the merge finds each item of the update as it came, since the
items of a list that is linked are linked too (`absorbs`).
-/

namespace Sep2Bridge

open Lib

/-! ## Updates -/

/-- Every resource of the update carries an href, and the mRIDs of a list are distinct. -/
def Sep2ResourceEvent.WellFormed : Sep2ResourceEvent → Prop
  | .deviceCapability _ | .time _ => True
  | .endDeviceList edl => edl.href.isSome ∧ ∀ edev ∈ edl.endDevice, edev.href.isSome
  | .functionSetAssignmentsList fsal => fsal.href.isSome ∧
      (∀ fsa ∈ fsal.functionSetAssignments, fsa.href.isSome) ∧
      (fsal.functionSetAssignments.map FunctionSetAssignments.mrid).Nodup
  | .derProgramList derpl => derpl.href.isSome ∧ (∀ derp ∈ derpl.derProgram, derp.href.isSome) ∧
      (derpl.derProgram.map DERProgram.mrid).Nodup
  | .defaultDerControl dderc => dderc.href.isSome
  | .derControlList dercl => dercl.href.isSome ∧ (∀ c ∈ dercl.derControl, c.href.isSome) ∧
      (dercl.derControl.map DERControl.mrid).Nodup
  | .derCurveList curves => curves.href.isSome ∧ (∀ c ∈ curves.derCurve, c.href.isSome) ∧
      (curves.derCurve.map DERCurve.mrid).Nodup
  | .derList derl => derl.href.isSome
  | .mirrorUsagePointList mupl => mupl.href.isSome

namespace Sep2Model

/-- The href is linked as that of a resource of the kind. -/
def LinksAs (m : Sep2Model) (href : Option String) (kind : ResourceKind) : Prop :=
  ∃ k ∈ href, ∃ pollRate, m.resourceLinks[k]? = some ⟨kind, pollRate⟩

/-- The resource is linked. Three of them are stored whether they are linked or not. -/
def Links (m : Sep2Model) : Sep2ResourceEvent → Prop
  | .deviceCapability _ | .time _ | .endDeviceList _ => True
  | .functionSetAssignmentsList fsal => m.LinksAs fsal.href .functionSetAssignmentsList
  | .derProgramList derpl => m.LinksAs derpl.href .derProgramList
  | .defaultDerControl dderc => m.LinksAs dderc.href .defaultDerControl
  | .derControlList dercl => m.LinksAs dercl.href .derControlList
  | .derCurveList curves => m.LinksAs curves.href .derCurveList
  | .derList derl => m.LinksAs derl.href .derList
  | .mirrorUsagePointList mupl => m.LinksAs mupl.href .mirrorUsagePointList

variable {m m' : Sep2Model} {links links' : ResourceLinks} {order : List (MRIDType × DERCurve)}

/-! ## Everything carries an href -/

/-- The devices, the assignments and the programs that are stored carry hrefs. -/
structure HasHrefs (m : Sep2Model) : Prop where
  devices : ∀ k edev, m.endDevices.get? k = some edev → edev.href.isSome
  assignments : ∀ k fsa, m.functionSetAssignments.get? k = some fsa → fsa.href.isSome
  programs : ∀ k derp, m.programs.get? k = some derp → derp.href.isSome

theorem isSome_of_insertItems {V K : Type} [DecidableEq K] {key : V → Option K}
    {href : V → Option String} {table : HashMap K V} {items : List V}
    (htable : ∀ k v, table.get? k = some v → (href v).isSome)
    (hitems : ∀ v ∈ items, (href v).isSome) :
    ∀ k v, (table.insertItems key items).get? k = some v → (href v).isSome := by
  intro k v hget
  rcases HashMap.mem_or_get?_of_insertItems hget with ⟨hmem, -⟩ | ⟨-, hold⟩
  · exact hitems v hmem
  · exact htable k v hold

theorem HasHrefs.setResource {draws : Nat → Draw} {u : Sep2ResourceEvent} {es : List Event}
    (hm : m.HasHrefs) (hu : u.WellFormed) (h : m.setResource draws u = some (m', es)) :
    m'.HasHrefs := by
  cases u with
  | endDeviceList edl =>
    obtain ⟨href, hhref⟩ := Option.isSome_iff_exists.1 hu.1
    cases h
    rw [setEndDeviceList_eq hhref]
    exact ⟨isSome_of_insertItems hm.devices hu.2, hm.assignments, hm.programs⟩
  | functionSetAssignmentsList fsal =>
    obtain ⟨href, hhref⟩ := Option.isSome_iff_exists.1 hu.1
    cases h
    rw [setFunctionSetAssignmentsList_eq hhref]
    exact ⟨hm.devices, isSome_of_insertItems hm.assignments hu.2.1, hm.programs⟩
  | derProgramList derpl =>
    obtain ⟨href, hhref⟩ := Option.isSome_iff_exists.1 hu.1
    cases h
    rw [setDerProgramList_eq hhref]
    exact ⟨hm.devices, hm.assignments, isSome_of_insertItems hm.programs hu.2.1⟩
  | derControlList dercl =>
    obtain ⟨href, hhref⟩ := Option.isSome_iff_exists.1 hu.1
    simp only [Sep2Model.setResource, setDerControlList, hhref] at h
    rw [setDerControls_eq h]
    exact ⟨hm.devices, hm.assignments, hm.programs⟩
  | derCurveList curves =>
    obtain ⟨href, hhref⟩ := Option.isSome_iff_exists.1 hu.1
    cases h
    rw [setDerCurveList_eq hhref]
    exact ⟨hm.devices, hm.assignments, hm.programs⟩
  | defaultDerControl dderc =>
    obtain ⟨href, hhref⟩ := Option.isSome_iff_exists.1 hu
    cases h
    simp only [setDefaultDerControl, hhref]
    exact ⟨hm.devices, hm.assignments, hm.programs⟩
  | derList derl =>
    obtain ⟨href, hhref⟩ := Option.isSome_iff_exists.1 hu
    cases h
    simp only [setDerList, hhref]
    exact ⟨hm.devices, hm.assignments, hm.programs⟩
  | _ =>
    cases h
    exact ⟨hm.devices, hm.assignments, hm.programs⟩

theorem HasHrefs.sweep (hm : m.HasHrefs) : (m.sweep links order).HasHrefs where
  devices k edev h := hm.devices k edev (HashMap.get?_retain_eq_some.1 h).1
  assignments k fsa h := hm.assignments k fsa (HashMap.get?_retain_eq_some.1 h).1
  programs k derp h := hm.programs k derp (HashMap.get?_retain_eq_some.1 h).1

theorem HasHrefs.devicesAnchored (hm : m.HasHrefs) : m.DevicesAnchored := by
  intro edl _ edev hedev
  obtain ⟨_, -, lfdi, -, hdevice⟩ := mem_listItems.1 hedev
  have hedev := hm.devices lfdi edev hdevice
  refine ⟨fun hnone => ?_, fun link _ fsa hfsa => ?_⟩
  · rw [hnone] at hedev
    cases hedev
  · obtain ⟨_, -, mrid, -, hget⟩ := mem_listItems.1 hfsa
    have hfsa := hm.assignments mrid fsa hget
    refine ⟨fun hnone => ?_, fun link _ derp hderp => ?_⟩
    · rw [hnone] at hfsa
      cases hfsa
    · obtain ⟨_, -, mrid, -, hget⟩ := mem_listItems.1 hderp
      have hderp := hm.programs mrid derp hget
      intro hnone
      rw [hnone] at hderp
      cases hderp

/-! ## The second sweep -/

/-- Everything that is stored is linked. -/
structure Swept (m : Sep2Model) (links : ResourceLinks) : Prop where
  functionSetAssignmentsLists :
    ∀ k l, m.functionSetAssignmentsLists.get? k = some l → links.contains k = true
  programLists : ∀ k l, m.programLists.get? k = some l → links.contains k = true
  controlLists : ∀ k l, m.controlLists.get? k = some l → links.contains k = true
  curveLists : ∀ k l, m.curveLists.get? k = some l → links.contains k = true
  derLists : ∀ k l, m.derLists.get? k = some l → links.contains k = true
  mirrorUsagePointList : ∀ mupl, m.mirrorUsagePointList = some mupl →
    isTracked links mupl.href = true
  endDevices : ∀ k v, m.endDevices.get? k = some v → isTracked links v.href = true
  functionSetAssignments :
    ∀ k v, m.functionSetAssignments.get? k = some v → isTracked links v.href = true
  programs : ∀ k v, m.programs.get? k = some v → isTracked links v.href = true
  controls : ∀ k v, m.controls.get? k = some v → isTracked links v.derControl.href = true
  curves : ∀ k v, m.curves.get? k = some v → isTracked links v.href = true
  defaultControls : ∀ k v, m.defaultControls.get? k = some v → isTracked links v.href = true

theorem swept_sweep : (m.sweep links order).Swept links where
  functionSetAssignmentsLists _ _ h := (HashMap.get?_retain_eq_some.1 h).2
  programLists _ _ h := (HashMap.get?_retain_eq_some.1 h).2
  controlLists _ _ h := (HashMap.get?_retain_eq_some.1 h).2
  curveLists _ _ h := (HashMap.get?_retain_eq_some.1 h).2
  derLists _ _ h := (HashMap.get?_retain_eq_some.1 h).2
  mirrorUsagePointList _ h := (Option.filter_eq_some_iff.1 h).2
  endDevices _ _ h := (HashMap.get?_retain_eq_some.1 h).2
  functionSetAssignments _ _ h := (HashMap.get?_retain_eq_some.1 h).2
  programs _ _ h := (HashMap.get?_retain_eq_some.1 h).2
  controls _ _ h := (HashMap.get?_retain_eq_some.1 h).2
  curves _ _ h := (HashMap.get?_retain_eq_some.1 ((HashMap.get?_reorder _ _ _).symm.trans h)).2
  defaultControls _ _ h := (HashMap.get?_retain_eq_some.1 h).2

/-- A sweep of what is swept changes at most the order of the curves. -/
theorem sweep_eq_self (h : m.Swept links) :
    m.sweep links order = { m with curves := m.curves.reorder order } := by
  have hmupl : (m.mirrorUsagePointList.filter fun mupl => isTracked links mupl.href) =
      m.mirrorUsagePointList := by
    cases hm : m.mirrorUsagePointList with
    | none => rfl
    | some mupl => simp [h.mirrorUsagePointList mupl hm]
  simp only [sweep, dropUntrackedResources, hmupl,
    HashMap.retain_eq_self h.functionSetAssignmentsLists, HashMap.retain_eq_self h.programLists,
    HashMap.retain_eq_self h.controlLists, HashMap.retain_eq_self h.curveLists,
    HashMap.retain_eq_self h.derLists, HashMap.retain_eq_self h.endDevices,
    HashMap.retain_eq_self h.functionSetAssignments, HashMap.retain_eq_self h.programs,
    HashMap.retain_eq_self h.controls, HashMap.retain_eq_self h.curves,
    HashMap.retain_eq_self h.defaultControls]

/-! ## The links after the sweep -/

/-- The model without a mirror usage point list that the sweep would drop. -/
def tracked (m : Sep2Model) : Sep2Model :=
  { m with mirrorUsagePointList := m.mirrorUsagePointList.filter fun mupl =>
            isTracked m.resourceLinks mupl.href }

theorem mem_resourceLinks_tracked {k : String} :
    k ∈ m.tracked.resourceLinks ↔ k ∈ m.resourceLinks := by
  have hdcap : m.tracked.dcapLinks.map Prod.fst = m.dcapLinks.map Prod.fst := by
    simp only [tracked, dcapLinks, List.map_flatMap, List.map_append, List.map_map]
    rfl
  rw [mem_resourceLinks, mem_resourceLinks, hdcap]
  rfl

theorem isTracked_tracked : isTracked m.tracked.resourceLinks = isTracked m.resourceLinks := by
  funext href
  rw [Bool.eq_iff_iff, isTracked_iff, isTracked_iff]
  simp only [mem_resourceLinks_tracked]

theorem contains_tracked (k : String) :
    m.tracked.resourceLinks.contains k = m.resourceLinks.contains k := by
  rw [Bool.eq_iff_iff, Std.ExtTreeMap.contains_iff_mem, Std.ExtTreeMap.contains_iff_mem]
  exact mem_resourceLinks_tracked

theorem sweep_tracked :
    m.tracked.sweep m.tracked.resourceLinks order = m.sweep m.resourceLinks order := by
  simp only [sweep, dropUntrackedResources, isTracked_tracked, contains_tracked]
  simp [tracked, Option.filter_filter]

theorem HasHrefs.sweepSafe_tracked (hm : m.HasHrefs) : m.tracked.SweepSafe where
  devices := HasHrefs.devicesAnchored (m := m.tracked) ⟨hm.devices, hm.assignments, hm.programs⟩
  mirror := by
    intro dcap _ _ mupl hmupl _
    rw [isTracked_tracked]
    exact (Option.filter_eq_some_iff.1 hmupl).2

/-- The links of the swept model are those it was swept by, up to one poll rate. -/
theorem links_sweep (hm : m.HasHrefs) :
    (m.sweep m.resourceLinks order).resourceLinks = m.tracked.resourceLinks := by
  rw [← sweep_tracked]
  exact resourceLinks_sweep hm.sweepSafe_tracked

/-! ## The second merge -/

theorem LinksAs.isTracked {href : Option String} {kind : ResourceKind} (h : m.LinksAs href kind) :
    isTracked m.resourceLinks href = true := by
  obtain ⟨k, hk, pollRate, hget⟩ := h
  refine isTracked_iff.2 ⟨k, ?_, hk⟩
  rw [Std.ExtTreeMap.mem_iff_isSome_getElem?, hget]
  rfl

theorem LinksAs.contains {k : String} {kind : ResourceKind} (h : m.LinksAs (some k) kind) :
    m.resourceLinks.contains k = true := h.isTracked

theorem LinksAs.of_tracked {k : String} {kind : ResourceKind}
    (h : m.tracked.LinksAs (some k) kind) : m.resourceLinks.contains k = true :=
  (contains_tracked k).symm.trans h.contains

theorem LinksAs.reached {k : String} {kind : ResourceKind} (h : m.LinksAs (some k) kind) :
    m.Reached k kind := by
  obtain ⟨_, hk, pollRate, hget⟩ := h
  cases hk
  exact reached_of_getElem? hget

/-- The items of a list that was put in stand on it. -/
theorem mem_listItems_insertItems {K V : Type} [DecidableEq K] {id : V → K} {table : HashMap K V}
    {lists : HashMap String (IDList K)} {items : List V} {v : V} (hv : v ∈ items) {k : K}
    (hkey : some (id v) = some k)
    (hget : (table.insertItems (fun v => some (id v)) items).get? k = some v) (href : String)
    (pollRate : Option UInt32) :
    v ∈ listItems ((lists.insert href ⟨href, items.map id, pollRate⟩).get? href)
      (table.insertItems (fun v => some (id v)) items) := by
  rw [HashMap.get?_insert_self]
  refine mem_listItems.2 ⟨_, rfl, k, ?_, hget⟩
  rw [← Option.some.inj hkey]
  exact List.mem_map_of_mem hv

theorem absorbs_endDeviceList {edl : EndDeviceList}
    (hu : (Sep2ResourceEvent.endDeviceList edl).WellFormed)
    (hm : m' = (m.setEndDeviceList edl).sweep (m.setEndDeviceList edl).resourceLinks order) :
    m'.setEndDeviceList edl = m' := by
  obtain ⟨href, hhref⟩ := Option.isSome_iff_exists.1 hu.1
  have hdevices : m'.endDevices.insertItems EndDevice.lfdi edl.endDevice = m'.endDevices := by
    rw [hm, sweep_endDevices, setEndDeviceList_eq hhref]
    refine HashMap.insertItems_retain_eq_self fun edev hedev lfdi hlfdi hget => ?_
    obtain ⟨k, hk⟩ := Option.isSome_iff_exists.1 (hu.2 edev hedev)
    have hitem : lfdi ∈ edl.endDevice.filterMap EndDevice.lfdi :=
      List.mem_filterMap.2 ⟨edev, hedev, hlfdi⟩
    let list : LFDIList := ⟨href, edl.endDevice.filterMap EndDevice.lfdi, edl.pollRate⟩
    have hlisted : edev ∈ listItems (some list)
        (m.endDevices.insertItems EndDevice.lfdi edl.endDevice) :=
      mem_listItems.2 ⟨list, rfl, lfdi, hitem, hget⟩
    exact isTracked_iff.2
      ⟨k, mem_resourceLinks.2 (.inr ⟨list, rfl, .inr ⟨edev, hlisted, .inl hk⟩⟩), hk⟩
  rw [setEndDeviceList_eq hhref, hdevices, hm, setEndDeviceList_eq hhref]
  rfl

theorem absorbs_functionSetAssignmentsList {fsal : FunctionSetAssignmentsList}
    (hu : (Sep2ResourceEvent.functionSetAssignmentsList fsal).WellFormed)
    (hm : m' = (m.setFunctionSetAssignmentsList fsal).sweep
      (m.setFunctionSetAssignmentsList fsal).resourceLinks order)
    (hlinks : (m.setFunctionSetAssignmentsList fsal).tracked.LinksAs fsal.href
      .functionSetAssignmentsList) : m'.setFunctionSetAssignmentsList fsal = m' := by
  obtain ⟨href, hhref⟩ := Option.isSome_iff_exists.1 hu.1
  rw [hhref] at hlinks
  rw [setFunctionSetAssignmentsList_eq hhref] at hm hlinks
  have hlist : m'.functionSetAssignmentsLists.insert href
      ⟨href, fsal.functionSetAssignments.map FunctionSetAssignments.mrid, fsal.pollRate⟩ =
      m'.functionSetAssignmentsLists := by
    rw [hm, sweep_functionSetAssignmentsLists]
    exact HashMap.insert_retain_eq_self hlinks.of_tracked
  have hitems : m'.functionSetAssignments.insertItems (fun fsa => some fsa.mrid)
      fsal.functionSetAssignments = m'.functionSetAssignments := by
    rw [hm, sweep_functionSetAssignments]
    refine HashMap.insertItems_retain_eq_self fun fsa hfsa k hk hget => ?_
    obtain ⟨kfsa, hkfsa⟩ := Option.isSome_iff_exists.1 (hu.2.1 fsa hfsa)
    refine isTracked_iff.2 ⟨kfsa, mem_resourceLinks_tracked.1 ?_, hkfsa⟩
    refine mem_resourceLinks_of_assignments (hlinks.reached.assignments rfl)
      (mem_listLinks.2 (.inr ⟨fsa, ?_, .inl hkfsa⟩))
    exact mem_listItems_insertItems hfsa hk hget _ _
  rw [setFunctionSetAssignmentsList_eq hhref, hlist, hitems]

theorem absorbs_derProgramList {derpl : DERProgramList}
    (hu : (Sep2ResourceEvent.derProgramList derpl).WellFormed)
    (hm : m' = (m.setDerProgramList derpl).sweep
      (m.setDerProgramList derpl).resourceLinks order)
    (hlinks : (m.setDerProgramList derpl).tracked.LinksAs derpl.href .derProgramList) :
    m'.setDerProgramList derpl = m' := by
  obtain ⟨href, hhref⟩ := Option.isSome_iff_exists.1 hu.1
  rw [hhref] at hlinks
  rw [setDerProgramList_eq hhref] at hm hlinks
  have hlist : m'.programLists.insert href
      ⟨href, derpl.derProgram.map DERProgram.mrid, derpl.pollRate⟩ = m'.programLists := by
    rw [hm, sweep_programLists]
    exact HashMap.insert_retain_eq_self hlinks.of_tracked
  have hitems : m'.programs.insertItems (fun derp => some derp.mrid) derpl.derProgram =
      m'.programs := by
    rw [hm, sweep_programs]
    refine HashMap.insertItems_retain_eq_self fun derp hderp k hk hget => ?_
    obtain ⟨kderp, hkderp⟩ := Option.isSome_iff_exists.1 (hu.2.1 derp hderp)
    refine isTracked_iff.2 ⟨kderp, mem_resourceLinks_tracked.1 ?_, hkderp⟩
    refine mem_resourceLinks_of_programs (hlinks.reached.programs rfl)
      (mem_listLinks.2 (.inr ⟨derp, ?_, .inl hkderp⟩))
    exact mem_listItems_insertItems hderp hk hget _ _
  rw [setDerProgramList_eq hhref, hlist, hitems]

theorem absorbs_derCurveList {cl : DERCurveList}
    (hu : (Sep2ResourceEvent.derCurveList cl).WellFormed)
    (hm : m' = (m.setDerCurveList cl).sweep (m.setDerCurveList cl).resourceLinks order)
    (hlinks : (m.setDerCurveList cl).tracked.LinksAs cl.href .derCurveList) :
    m'.setDerCurveList cl = m' := by
  obtain ⟨href, hhref⟩ := Option.isSome_iff_exists.1 hu.1
  rw [hhref] at hlinks
  rw [setDerCurveList_eq hhref] at hm hlinks
  have hlist : m'.curveLists.insert href ⟨href, cl.derCurve.map DERCurve.mrid, none⟩ =
      m'.curveLists := by
    rw [hm, sweep_curveLists]
    exact HashMap.insert_retain_eq_self hlinks.of_tracked
  have hitems : m'.curves.insertItems (fun curve => some curve.mrid) cl.derCurve = m'.curves := by
    have hsame : ∀ curve ∈ cl.derCurve, ∀ k, some curve.mrid = some k →
        m'.curves.get? k =
          (m.curves.insertItems (fun curve => some curve.mrid) cl.derCurve).get? k := by
      intro curve hcurve k hk
      obtain ⟨found, hfound, hkfound, hget⟩ := @HashMap.get?_insertItems_of_mem _ _ _
        (fun curve : DERCurve => some curve.mrid) _ _ _ hcurve hk
      obtain ⟨kcurve, hkcurve⟩ := Option.isSome_iff_exists.1 (hu.2.1 found hfound)
      obtain ⟨derp, hderp, l, hl, rfl⟩ := hlinks.reached.curves rfl
      rw [hm, hget, sweep_curves, HashMap.get?_reorder]
      refine HashMap.get?_retain_eq_some.2 ⟨hget _, ?_⟩
      refine isTracked_iff.2 ⟨kcurve, mem_resourceLinks_tracked.1 ?_, hkcurve⟩
      refine mem_resourceLinks_of_curveList hderp hl (.inr ⟨found, ?_, hkcurve⟩)
      exact mem_listItems_insertItems hfound hkfound (hget m.curves) _ _
    exact HashMap.insertItems_eq_self hsame
  rw [setDerCurveList_eq hhref, hlist, hitems]

theorem absorbs_derControlList {dercl : DERControlList} {draws draws' : Nat → Draw}
    {merged : Sep2Model} {es : List Event}
    (hu : (Sep2ResourceEvent.derControlList dercl).WellFormed)
    (hset : m.setDerControlList draws dercl = some (merged, es))
    (hm : m' = merged.sweep merged.resourceLinks order)
    (hlinks : merged.tracked.LinksAs dercl.href .derControlList) :
    m'.setDerControlList draws' dercl = some (m', []) := by
  obtain ⟨href, hhref⟩ := Option.isSome_iff_exists.1 hu.1
  rw [hhref] at hlinks
  simp only [setDerControlList, hhref] at hset ⊢
  have hlists : merged.controlLists = m.controlLists.insert href
      ⟨href, dercl.derControl.map DERControl.mrid, none⟩ := by
    rw [setDerControls_eq hset]
  have hlist : m'.controlLists.insert href ⟨href, dercl.derControl.map DERControl.mrid, none⟩ =
      m'.controlLists := by
    rw [hm, sweep_controlLists, hlists]
    exact HashMap.insert_retain_eq_self hlinks.of_tracked
  have hitems : ∀ c ∈ dercl.derControl, ∃ control,
      m'.controls.get? c.mrid = some control ∧ control.derControl = c := by
    intro c hc
    obtain ⟨control, hget, hcontrol⟩ := get?_setDerControls hu.2.2 hset c hc
    obtain ⟨kc, hkc⟩ := Option.isSome_iff_exists.1 (hu.2.1 c hc)
    refine ⟨control, ?_, hcontrol⟩
    rw [hm]
    refine HashMap.get?_retain_eq_some.2 ⟨hget, isTracked_iff.2 ⟨kc, ?_, by rw [hcontrol, hkc]⟩⟩
    obtain ⟨derp, hderp, l, hl, rfl⟩ := hlinks.reached.controls rfl
    refine mem_resourceLinks_tracked.1 (mem_resourceLinks_of_controlList hderp hl
      (.inr ⟨control, ?_, by rw [hcontrol, hkc]⟩))
    show control ∈ listItems (merged.controlLists.get? l.href) merged.controls
    rw [hlists, HashMap.get?_insert_self]
    exact mem_listItems.2 ⟨_, rfl, c.mrid, List.mem_map_of_mem hc, hget⟩
  rw [hlist]
  exact setDerControls_eq_self hitems

/-- **The second merge changes nothing**, and needs no response. -/
theorem absorbs {draws draws' : Nat → Draw} {merged : Sep2Model} {u : Sep2ResourceEvent}
    {es : List Event} (hu : u.WellFormed) (hset : m.setResource draws u = some (merged, es))
    (hm : m' = merged.sweep merged.resourceLinks order) (hlinks : merged.tracked.Links u) :
    m'.setResource draws' u = some (m', []) := by
  cases u with
  | deviceCapability dcap =>
    cases hset
    rw [hm]
    rfl
  | time time =>
    cases hset
    rw [hm]
    rfl
  | endDeviceList edl =>
    cases hset
    exact congrArg (fun m => some (m, [])) (absorbs_endDeviceList hu hm)
  | functionSetAssignmentsList fsal =>
    cases hset
    exact congrArg (fun m => some (m, [])) (absorbs_functionSetAssignmentsList hu hm hlinks)
  | derProgramList derpl =>
    cases hset
    exact congrArg (fun m => some (m, [])) (absorbs_derProgramList hu hm hlinks)
  | derCurveList cl =>
    cases hset
    exact congrArg (fun m => some (m, [])) (absorbs_derCurveList hu hm hlinks)
  | derControlList dercl => exact absorbs_derControlList hu hset hm hlinks
  | defaultDerControl dderc =>
    obtain ⟨href, hhref⟩ := Option.isSome_iff_exists.1 hu
    cases hset
    have htracked : isTracked (m.setDefaultDerControl dderc).resourceLinks dderc.href = true :=
      isTracked_tracked ▸ LinksAs.isTracked hlinks
    have hinsert : m'.defaultControls.insert href dderc = m'.defaultControls := by
      simp only [setDefaultDerControl, hhref] at hm htracked
      rw [hm, sweep_defaultControls]
      exact HashMap.insert_retain_eq_self (hhref ▸ htracked)
    simp only [setResource, setDefaultDerControl, hhref, hinsert]
  | derList derl =>
    obtain ⟨href, hhref⟩ := Option.isSome_iff_exists.1 hu
    cases hset
    have htracked : isTracked (m.setDerList derl).resourceLinks derl.href = true :=
      isTracked_tracked ▸ LinksAs.isTracked hlinks
    have hinsert : m'.derLists.insert href derl = m'.derLists := by
      simp only [setDerList, hhref] at hm htracked
      rw [hm, sweep_derLists]
      refine HashMap.insert_retain_eq_self ?_
      exact htracked
    simp only [setResource, setDerList, hhref, hinsert]
  | mirrorUsagePointList mupl =>
    cases hset
    have htracked : isTracked (m.setMirrorUsagePointList mupl).resourceLinks mupl.href = true :=
      isTracked_tracked ▸ LinksAs.isTracked hlinks
    have hmupl : m'.mirrorUsagePointList = some mupl := by
      rw [hm, sweep_mirrorUsagePointList]
      exact Option.filter_eq_some_iff.2 ⟨rfl, htracked⟩
    simp only [setResource, setMirrorUsagePointList, ← hmupl]

/-! ## Runs -/

/-- One update, with what it takes from outside. -/
def step (m : Sep2Model) (l : Surroundings × Sep2ResourceEvent) : Option Sep2Model :=
  (m.applyUpdate l.1 l.2).map Prod.fst

theorem resourceLinkEvents_self (links : ResourceLinks) : resourceLinkEvents links links = [] := by
  have hremoved : (links.toList.filter fun e => !links.contains e.1) = [] := by
    refine List.filter_eq_nil_iff.2 fun e he => ?_
    have hget := Std.ExtTreeMap.mem_toList_iff_getElem?_eq_some.1 he
    rw [← Std.ExtTreeMap.isSome_getElem?_eq_contains, hget]
    simp
  have hchanged : (links.toList.filter fun e => decide (links[e.1]? ≠ some e.2)) = [] := by
    refine List.filter_eq_nil_iff.2 fun e he => ?_
    have hget := Std.ExtTreeMap.mem_toList_iff_getElem?_eq_some.1 he
    simp [hget]
  rw [resourceLinkEvents, hremoved, hchanged]
  rfl

theorem hasHrefs_of_exec {ls : List (Surroundings × Sep2ResourceEvent)}
    (h : Exec step (fun _ l => l.2.WellFormed) {} ls m) : m.HasHrefs := by
  refine h.invariant ⟨nofun, nofun, nofun⟩ fun s l t hs hu hstep => ?_
  obtain ⟨⟨model, events⟩, hupdate, rfl⟩ := Option.map_eq_some_iff.1 hstep
  obtain ⟨merged, responses, hset, rfl, -⟩ := applyUpdate_eq_some.1 hupdate
  exact (hs.setResource hu hset).sweep

/-- **An update that is applied again announces nothing and changes nothing**, but for the order of
the curve table, which is not the model's. -/
theorem applyUpdate_again {ls : List (Surroundings × Sep2ResourceEvent)} {env : Surroundings}
    {u : Sep2ResourceEvent} {es : List Event}
    (hrun : Exec step (fun _ l => l.2.WellFormed) {} ls m) (hu : u.WellFormed)
    (happly : m.applyUpdate env u = some (m', es)) (hlinks : m'.Links u) (env' : Surroundings) :
    m'.applyUpdate env' u =
      some ({ m' with curves := m'.curves.reorder env'.curveOrder }, []) := by
  obtain ⟨merged, responses, hset, hm, -⟩ := applyUpdate_eq_some.1 happly
  have hmerged : merged.HasHrefs := (hasHrefs_of_exec hrun).setResource hu hset
  have hkeep : m'.resourceLinks = merged.tracked.resourceLinks := by
    rw [hm]
    exact links_sweep hmerged
  have htracked : merged.tracked.Links u := by
    unfold Links LinksAs at hlinks ⊢
    rw [hkeep] at hlinks
    exact hlinks
  have hswept : m'.Swept m'.resourceLinks := by
    have hsafe : m' = merged.tracked.sweep merged.tracked.resourceLinks env.curveOrder := by
      rw [sweep_tracked, hm]
    rw [hkeep, hsafe]
    exact swept_sweep
  refine applyUpdate_eq_some.2 ⟨m', [], absorbs hu hset hm htracked, ?_, ?_⟩
  · exact (sweep_eq_self hswept).symm
  · rw [resourceLinkEvents_self, List.append_nil]

end Sep2Model

/-! ## A control that is polled again -/

instance (u : Sep2ResourceEvent) : Decidable u.WellFormed := by
  cases u <;> unfold Sep2ResourceEvent.WellFormed <;> infer_instance

/-- One device, with one assignment and one program. -/
def programUpdates : List (Surroundings × Sep2ResourceEvent) := [
  plainUpdate (.endDeviceList
    { href := some "/edev"
      endDevice := [{ href := some "/edev/1", lfdi := some 1,
                      functionSetAssignmentsListLink := some ⟨"/fsa"⟩ }] }),
  plainUpdate (.functionSetAssignmentsList
    { href := some "/fsa"
      functionSetAssignments := [{ mrid := 1, href := some "/fsa/1",
                                   derProgramListLink := some ⟨"/derp"⟩ }] }),
  plainUpdate (.derProgramList
    { href := some "/derp"
      derProgram := [{ mrid := 2, href := some "/derp/1",
                       derControlListLink := some ⟨"/derc"⟩ }] })]

def newControl : Surroundings × Sep2ResourceEvent :=
  plainUpdate (.derControlList
    { href := some "/derc"
      derControl := [{ mrid := 3, href := some "/derc/1", interval := ⟨10, 10⟩,
                       responseRequired := some ⟨true, true⟩, replyTo := some "/rsp" }] })

theorem applyUpdate_again_newControl : ∃ m m' es,
    run Sep2Model.step {} programUpdates = some m ∧
      m.applyUpdate newControl.1 newControl.2 = some (m', es) ∧ es.length = 2 ∧
      m'.applyUpdate newControl.1 newControl.2 =
        some ({ m' with curves := m'.curves.reorder [] }, []) := by
  have hruns : ((runIf Sep2Model.step (fun _ l => l.2.WellFormed) {} programUpdates).any fun m =>
      (m.applyUpdate newControl.1 newControl.2).any fun r =>
        r.2.length = 2 ∧ r.1.resourceLinks["/derc"]? = some ⟨.derControlList, none⟩) = true := by
    decide +kernel
  obtain ⟨m, hm, hupdate⟩ := (Option.any_eq_true _ _).1 hruns
  obtain ⟨⟨m', es⟩, happly, hresult⟩ := (Option.any_eq_true _ _).1 hupdate
  obtain ⟨hlength, hlink⟩ := of_decide_eq_true hresult
  have hexec := exec_iff_runIf.2 hm
  have hrun := exec_true_iff.1 (hexec.weaken fun _ _ _ => trivial)
  have hagain := Sep2Model.applyUpdate_again hexec (by decide) happly
    ⟨"/derc", rfl, none, hlink⟩ newControl.1
  exact ⟨m, m', es, hrun, happly, hlength, hagain⟩

end Sep2Bridge
