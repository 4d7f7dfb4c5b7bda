import Sep2Bridge.Lib.MapDiff
import Sep2Bridge.Scheduler.Sep2Model

/-!
# The parameters in force

`calc_parameters` of `scheduler.rs`: the attributes that apply to a device at an instant. The
controls are ranked, those not in force are left out, and the rest are laid over each other.

**Sources** (`Source`). A default control, or a scheduled control in force, that is reached from
the device through assignments and programs. The definition follows the links and knows nothing
of sorting or folding.

**Rank** (`Outranks`). By primacy, then scheduled before default, then the later creation time.
The comparison of the source is this strict weak order, as far as "less" goes.

Main result: `calcParameters_spec`. Each attribute has the value of a source that no source
defining it outranks.
-/

namespace Sep2Bridge

open Lib

/-! ## The calculation -/

/-- A default always applies; a scheduled control applies from its start until before its end. -/
def ControlRef.inForce (now : Int) : ControlRef → Bool
  | .default _ => true
  | .scheduled control => control.startTime ≤ now ∧ now < control.endTime

def ControlRef.toAttributes : ControlRef → DefaultDERControl
  | .default control => control
  | .scheduled control => { derControlBase := control.derControl.derControlBase }

def calcParametersForControls (controls : List ControlRef) (curveLookup : String → Option DERCurve)
    (now : Int) : ControlAttributes :=
  let parameters :=
    ((controls.filter (ControlRef.inForce now)).map ControlRef.toAttributes).foldl
      overlayControls {}
  let curves := (allCurveHrefs parameters.derControlBase).filterMap fun href =>
    (curveLookup href).map fun curve => (href, curve)
  { inner := parameters
    curves := curves.foldl (fun map entry => map.insert entry.1 entry.2) ∅ }

/-- The attributes that apply to the device at `now`. -/
def calcParameters (m : Sep2Model) (deviceLfdi : HexBinary160) (now : Int) : ControlAttributes :=
  calcParametersForControls (m.allControlsForDevice deviceLfdi now) m.getCurveByHref now

/-! ## Sources -/

/-- The program is reached from the device: its assignments list, an assignment on it, that
assignment's program list, a program on it. -/
def Sep2Model.HasProgram (m : Sep2Model) (lfdi : HexBinary160) (derp : DERProgram) : Prop :=
  ∃ edev fsalLink fsal fsaId fsa derplLink derpl derpId,
    m.endDevices.get? lfdi = some edev ∧ edev.functionSetAssignmentsListLink = some fsalLink ∧
    m.functionSetAssignmentsLists.get? fsalLink.href = some fsal ∧ fsaId ∈ fsal.items ∧
    m.functionSetAssignments.get? fsaId = some fsa ∧ fsa.derProgramListLink = some derplLink ∧
    m.programLists.get? derplLink.href = some derpl ∧ derpId ∈ derpl.items ∧
    m.programs.get? derpId = some derp

/-- The control is on the control list of the program. -/
def Sep2Model.HasControl (m : Sep2Model) (derp : DERProgram) (control : ScheduledControl) : Prop :=
  ∃ link dercl id, derp.derControlListLink = some link ∧
    m.controlLists.get? link.href = some dercl ∧ id ∈ dercl.items ∧
    m.controls.get? id = some control

def Sep2Model.HasDefault (m : Sep2Model) (derp : DERProgram) (control : DefaultDERControl) :
    Prop :=
  ∃ link, derp.defaultDerControlLink = some link ∧
    m.defaultControls.get? link.href = some control

/-- What can define the attributes of a device at `now`, with the primacy of its program. -/
inductive Source (m : Sep2Model) (lfdi : HexBinary160) (now : Int) :
    PrimacyType × ControlRef → Prop
  | scheduled {derp : DERProgram} {control : ScheduledControl} :
      m.HasProgram lfdi derp → m.HasControl derp control →
      (control.derControl.currentStatus = .scheduled ∨
        control.derControl.currentStatus = .active) →
      control.startTime ≤ now → now < control.endTime →
      Source m lfdi now (derp.primacy, .scheduled control)
  | default {derp : DERProgram} {control : DefaultDERControl} :
      m.HasProgram lfdi derp → m.HasDefault derp control →
      Source m lfdi now (derp.primacy, .default control)

/-- The value a source gives an attribute. A scheduled control has base attributes only. -/
def ControlRef.attribute : ControlRef → (a : Attribute) → Option a.Value
  | .default control, a => control.get a
  | .scheduled control, a =>
    if a.IsBase then
      ({ derControlBase := control.derControl.derControlBase } : DefaultDERControl).get a
    else none

/-- The first source is strictly stronger. -/
def Outranks (s t : PrimacyType × ControlRef) : Prop :=
  s.1 < t.1 ∨ s.1 = t.1 ∧
    match s.2, t.2 with
    | .scheduled _, .default _ => True
    | .scheduled c, .scheduled d => d.derControl.creationTime < c.derControl.creationTime
    | .default _, _ => False

/-! ## Following the links -/

namespace Sep2Model

variable {m : Sep2Model} {lfdi : HexBinary160} {now : Int}

theorem mem_devicePrograms {derp : DERProgram} :
    derp ∈ m.devicePrograms lfdi ↔ m.HasProgram lfdi derp := by
  constructor
  · intro h
    simp only [devicePrograms, getEndDevice] at h
    split at h
    · simp at h
    · next fsalLink hlink =>
      obtain ⟨edev, hedev, hlink⟩ := Option.bind_eq_some_iff.1 hlink
      split at h
      · simp at h
      · next fsal hfsal =>
        simp only [List.mem_flatMap, List.mem_filterMap, Option.bind_eq_some_iff] at h
        obtain ⟨derpl, ⟨fsa, ⟨fsaId, hfsaId, hfsa⟩, derplLink, hderplLink, hderpl⟩,
          derpId, hderpId, hderp⟩ := h
        exact ⟨edev, fsalLink, fsal, fsaId, fsa, derplLink, derpl, derpId, hedev, hlink, hfsal,
          hfsaId, hfsa, hderplLink, hderpl, hderpId, hderp⟩
  · rintro ⟨edev, fsalLink, fsal, fsaId, fsa, derplLink, derpl, derpId, hedev, hlink, hfsal,
      hfsaId, hfsa, hderplLink, hderpl, hderpId, hderp⟩
    simp only [devicePrograms, getEndDevice, hedev, Option.bind_some, hlink, hfsal,
      List.mem_flatMap, List.mem_filterMap, Option.bind_eq_some_iff]
    exact ⟨derpl, ⟨fsa, ⟨fsaId, hfsaId, hfsa⟩, derplLink, hderplLink, hderpl⟩,
      derpId, hderpId, hderp⟩

theorem mem_programControls {derp : DERProgram} {control : ScheduledControl} :
    control ∈ m.programControls derp ↔ m.HasControl derp control := by
  constructor
  · intro h
    simp only [programControls] at h
    split at h
    · simp at h
    · next dercl hdercl =>
      obtain ⟨link, hlink, hdercl⟩ := Option.bind_eq_some_iff.1 hdercl
      obtain ⟨id, hid, hcontrol⟩ := List.mem_filterMap.1 h
      exact ⟨link, dercl, id, hlink, hdercl, hid, hcontrol⟩
  · rintro ⟨link, dercl, id, hlink, hdercl, hid, hcontrol⟩
    simp only [programControls, hlink, Option.bind_some, hdercl]
    exact List.mem_filterMap.2 ⟨id, hid, hcontrol⟩

theorem mem_default {derp : DERProgram} {control : DefaultDERControl} :
    (derp.defaultDerControlLink.bind fun link => m.defaultControls.get? link.href) = some control ↔
      m.HasDefault derp control :=
  Option.bind_eq_some_iff

/-- The annotated controls in force are the sources. -/
theorem source_iff {s : PrimacyType × ControlRef} :
    Source m lfdi now s ↔
      s ∈ (m.devicePrograms lfdi).flatMap (m.annotatedControls now) ∧
        s.2.inForce now = true := by
  simp only [List.mem_flatMap, mem_devicePrograms, annotatedControls, List.mem_map,
    List.mem_append, List.mem_filter, mem_programControls, isLive, decide_eq_true_eq,
    Option.mem_toList, mem_default]
  constructor
  · rintro (⟨hderp, hcontrol, hlive, hstart, hend⟩ | ⟨hderp, hcontrol⟩)
    · exact ⟨⟨_, hderp, _, .inl ⟨_, ⟨⟨hcontrol, hlive⟩, hend⟩, rfl⟩, rfl⟩,
        by simp [ControlRef.inForce, hstart, hend]⟩
    · exact ⟨⟨_, hderp, _, .inr ⟨_, hcontrol, rfl⟩, rfl⟩, rfl⟩
  · rintro ⟨⟨derp, hderp, -, ⟨control, ⟨⟨hcontrol, hlive⟩, -⟩, rfl⟩ | ⟨control, hcontrol, rfl⟩,
      rfl⟩, hforce⟩
    · simp only [ControlRef.inForce, decide_eq_true_eq] at hforce
      exact .scheduled hderp hcontrol hlive hforce.1 hforce.2
    · exact .default hderp hcontrol

/-! ## The ranking -/

theorem compareControls_eq_lt_iff {s t : PrimacyType × ControlRef} :
    compareControls s t = .lt ↔ Outranks s t := by
  obtain ⟨p, s⟩ := s
  obtain ⟨q, t⟩ := t
  simp only [compareControls, Outranks, Ordering.then_eq_lt, Nat.compare_eq_lt, Nat.compare_eq_eq]
  refine or_congr_right (and_congr_right fun _ => ?_)
  cases s <;> cases t <;> simp [Ordering.swap_eq_lt, compare_gt_iff_gt]

theorem ranks_compareControls : Ranks compareControls where
  asymm s t := by
    obtain ⟨p, s⟩ := s
    obtain ⟨q, t⟩ := t
    simp only [ne_eq, compareControls_eq_lt_iff, Outranks]
    cases s <;> cases t <;> grind
  negTrans s t u := by
    obtain ⟨p, s⟩ := s
    obtain ⟨q, t⟩ := t
    obtain ⟨r, u⟩ := u
    simp only [ne_eq, compareControls_eq_lt_iff, Outranks]
    cases s <;> cases t <;> cases u <;> grind

end Sep2Model

/-! ## The merge -/

section Merge

variable (m : Sep2Model) (lfdi : HexBinary160) (now : Int)

theorem attribute_eq_get (c : ControlRef) (a : Attribute) :
    c.attribute a = c.toAttributes.get a := by
  cases c with
  | default => rfl
  | scheduled control =>
    simp only [ControlRef.attribute, ControlRef.toAttributes]
    split_ifs with h
    · rfl
    · exact (get_ofBase _ a (by simpa using h)).symm

/-- The sources, the strongest first. -/
def rankedSources : List (PrimacyType × ControlRef) :=
  (sortBy Sep2Model.compareControls
    ((m.devicePrograms lfdi).flatMap (m.annotatedControls now))).filter fun s => s.2.inForce now

theorem mem_rankedSources {s : PrimacyType × ControlRef} :
    s ∈ rankedSources m lfdi now ↔ Source m lfdi now s := by
  rw [rankedSources, List.mem_filter, mem_sortBy, Sep2Model.source_iff]

theorem rankedSources_pairwise :
    (rankedSources m lfdi now).Pairwise fun s t => ¬ Outranks t s := by
  refine ((sortBy_pairwise Sep2Model.ranks_compareControls _).filter _).imp fun {s t} h => ?_
  rwa [← Sep2Model.compareControls_eq_lt_iff]

/-- Each attribute is that of the first ranked source to define it. -/
theorem get_calcParameters (a : Attribute) :
    (calcParameters m lfdi now).inner.get a =
      (rankedSources m lfdi now).findSome? fun s => s.2.attribute a := by
  have hfold := get_foldl_overlay (f := fun c : DefaultDERControl => c.get a)
    (fun first overlay => get_overlayControls first overlay a) {}
  simp only [calcParameters, calcParametersForControls, Sep2Model.allControlsForDevice, hfold,
    get_default, Option.none_or, rankedSources, List.filter_map, List.map_map, List.findSome?_map]
  congr 1
  funext s
  exact (attribute_eq_get s.2 a).symm

/-- A curve some stored curve's href names is found by that href. -/
theorem Sep2Model.getCurveByHref_isSome {m : Sep2Model} {id : MRIDType} {curve : DERCurve}
    {href : String} (hstored : m.curves.get? id = some curve) (hhref : curve.href = some href) :
    ∃ found, m.getCurveByHref href = some found ∧ found.href = some href := by
  have hsome : (m.getCurveByHref href).isSome = true := by
    rw [getCurveByHref, List.find?_isSome]
    exact ⟨curve, HashMap.mem_values_iff.2 ⟨id, hstored⟩, by simp [hhref]⟩
  obtain ⟨found, hfound⟩ := Option.isSome_iff_exists.1 hsome
  exact ⟨found, hfound, by simpa using List.find?_some hfound⟩

/-- An href whose lookup succeeds is in the curves of the result. -/
theorem curves_calcParameters {href : String} {curve : DERCurve}
    (hhref : href ∈ allCurveHrefs (calcParameters m lfdi now).inner.derControlBase)
    (hcurve : m.getCurveByHref href = some curve) :
    (calcParameters m lfdi now).curves[href]? = some curve := by
  refine getElem?_insertAll (List.mem_filterMap.2 ⟨href, hhref, by rw [hcurve]; rfl⟩) fun w hw => ?_
  obtain ⟨href', -, hw⟩ := List.mem_filterMap.1 hw
  obtain ⟨curve', hcurve', hw⟩ := Option.map_eq_some_iff.1 hw
  obtain ⟨rfl, rfl⟩ := Prod.mk.inj hw
  exact Option.some.inj (hcurve'.symm.trans hcurve)

/-- **The parameters are those of the strongest sources.** -/
theorem calcParameters_spec :
    (∀ a v, (calcParameters m lfdi now).inner.get a = some v →
      ∃ s, Source m lfdi now s ∧ s.2.attribute a = some v ∧
        ∀ t, Source m lfdi now t → (t.2.attribute a).isSome = true → ¬ Outranks t s) ∧
    (∀ a, (calcParameters m lfdi now).inner.get a = none ↔
      ∀ s, Source m lfdi now s → s.2.attribute a = none) ∧
    (∀ a link id curve, (calcParameters m lfdi now).inner.curveLink a = some link →
      m.curves.get? id = some curve → curve.href = some link.href →
      ∃ found, (calcParameters m lfdi now).curves[link.href]? = some found ∧
        found.href = some link.href) := by
  refine ⟨fun a v hv => ?_, fun a => ?_, fun a link id curve hlink hstored hhref => ?_⟩
  · rw [get_calcParameters] at hv
    have hirr : ∀ s, ¬ Outranks s s := fun s hs => by
      have hlt := Sep2Model.compareControls_eq_lt_iff.2 hs
      exact Sep2Model.ranks_compareControls.asymm s s hlt hlt
    obtain ⟨s, hs, hdef, hmax⟩ := findSome?_ranked hirr (rankedSources_pairwise m lfdi now) hv
    refine ⟨s, (mem_rankedSources m lfdi now).1 hs, hdef, fun t ht htdef => ?_⟩
    exact hmax t ((mem_rankedSources m lfdi now).2 ht) htdef
  · rw [get_calcParameters, List.findSome?_eq_none_iff]
    simp only [mem_rankedSources]
  · obtain ⟨found, hfound, hfoundHref⟩ := Sep2Model.getCurveByHref_isSome hstored hhref
    exact ⟨found, curves_calcParameters m lfdi now (curveLink_mem_allCurveHrefs hlink) hfound,
      hfoundHref⟩

end Merge

end Sep2Bridge
