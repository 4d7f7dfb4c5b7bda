import Sep2Bridge.Scheduler.LinkFeed

/-!
# What the links reach

The links are collected along paths from the list of devices. A path is followed here in both
directions: what lies below a list that is reached is linked, and a list that is linked as such is
reached.

* `ReachesAssignments`, `ReachesPrograms`, `ReachesProgram` — the paths.
* `mem_resourceLinks_of_programs` and the lemmas beside it — from a path to the links.
* `reached_of_getElem?` — from a link of a kind to a path.
-/

namespace Sep2Bridge.Sep2Model

open Lib

/-- A listed device links the list of assignments. -/
def ReachesAssignments (m : Sep2Model) (href : String) : Prop :=
  ∃ edev ∈ listItems m.endDeviceList m.endDevices,
    ∃ link ∈ edev.functionSetAssignmentsListLink, link.href = href

/-- An assignment on a list that is reached links the list of programs. -/
def ReachesPrograms (m : Sep2Model) (href : String) : Prop :=
  ∃ fsalHref, m.ReachesAssignments fsalHref ∧
    ∃ fsa ∈ listItems (m.functionSetAssignmentsLists.get? fsalHref) m.functionSetAssignments,
      ∃ link ∈ fsa.derProgramListLink, link.href = href

/-- The program stands on a list that is reached. -/
def ReachesProgram (m : Sep2Model) (derp : DERProgram) : Prop :=
  ∃ href, m.ReachesPrograms href ∧ derp ∈ listItems (m.programLists.get? href) m.programs

variable {m : Sep2Model} {href k : String} {link : ResourceLink}

/-! ## From a path to the links -/

theorem mem_resourceLinks_of_assignments (h : m.ReachesAssignments href)
    (hk : k ∈ m.functionSetAssignmentsListLinks href) : k ∈ m.resourceLinks := by
  obtain ⟨edev, hedev, link, hlink, rfl⟩ := h
  have hdevice : k ∈ m.endDeviceLinks edev := by
    simp only [endDeviceLinks, mem_collectLinks, List.map_append, List.map_flatMap,
      List.mem_append, List.mem_flatMap, mem_links_iff]
    exact .inl ⟨link, Option.mem_toList.2 hlink, hk⟩
  obtain ⟨edl, hedl, lfdi, hlfdi, hget⟩ := mem_listItems.1 hedev
  have hitem : edev ∈ listItems (some edl) m.endDevices :=
    mem_listItems.2 ⟨edl, rfl, lfdi, hlfdi, hget⟩
  exact mem_resourceLinks.2 (.inr ⟨edl, hedl, .inr ⟨edev, hitem, .inr hdevice⟩⟩)

theorem mem_resourceLinks_of_programs (h : m.ReachesPrograms href)
    (hk : k ∈ m.derProgramListLinks href) : k ∈ m.resourceLinks := by
  obtain ⟨fsalHref, hfsal, fsa, hfsa, link, hlink, rfl⟩ := h
  have hbelow : k ∈ m.functionSetAssignmentsLinks fsa := by
    simp only [functionSetAssignmentsLinks, mem_collectLinks, List.map_flatMap, List.mem_flatMap,
      mem_links_iff]
    exact ⟨link, Option.mem_toList.2 hlink, hk⟩
  exact mem_resourceLinks_of_assignments hfsal (mem_listLinks.2 (.inr ⟨fsa, hfsa, .inr hbelow⟩))

theorem mem_resourceLinks_of_program {derp : DERProgram} (h : m.ReachesProgram derp)
    (hk : ∀ pollRate, k ∈ m.derProgramLinks pollRate derp) : k ∈ m.resourceLinks := by
  obtain ⟨href, hderpl, hderp⟩ := h
  exact mem_resourceLinks_of_programs hderpl (mem_listLinks.2 (.inr ⟨derp, hderp, .inr (hk _)⟩))

/-- A linked control list and its stored controls. -/
theorem mem_resourceLinks_of_controlList {derp : DERProgram} {l : Link} (h : m.ReachesProgram derp)
    (hl : l ∈ derp.derControlListLink)
    (hk : k = l.href ∨ ∃ control ∈ listItems (m.controlLists.get? l.href) m.controls,
      control.derControl.href = some k) : k ∈ m.resourceLinks := by
  refine mem_resourceLinks_of_program h fun pollRate => ?_
  simp only [derProgramLinks, mem_collectLinks, List.map_append, List.map_flatMap,
    List.mem_append, List.mem_flatMap, mem_links_iff, mem_listLinks]
  refine .inl (.inr ⟨l, Option.mem_toList.2 hl, hk.imp_right ?_⟩)
  rintro ⟨control, hcontrol, hhref⟩
  exact ⟨control, hcontrol, .inl hhref⟩

/-- A linked curve list and its stored curves. -/
theorem mem_resourceLinks_of_curveList {derp : DERProgram} {l : Link} (h : m.ReachesProgram derp)
    (hl : l ∈ derp.derCurveListLink)
    (hk : k = l.href ∨ ∃ curve ∈ listItems (m.curveLists.get? l.href) m.curves,
      curve.href = some k) : k ∈ m.resourceLinks := by
  refine mem_resourceLinks_of_program h fun pollRate => ?_
  simp only [derProgramLinks, mem_collectLinks, List.map_append, List.map_flatMap,
    List.mem_append, List.mem_flatMap, mem_links_iff, mem_listLinks]
  refine .inr ⟨l, Option.mem_toList.2 hl, hk.imp_right ?_⟩
  rintro ⟨curve, hcurve, hhref⟩
  exact ⟨curve, hcurve, .inl hhref⟩

/-! ## From a link to a path -/

theorem mem_of_getElem?_insertAll {links : ResourceLinks} {es : List (String × ResourceLink)}
    (h : (insertAll links es)[k]? = some link) : (k, link) ∈ es ∨ links[k]? = some link := by
  induction es generalizing links with
  | nil => exact .inr h
  | cons e es ih =>
    rw [insertAll_cons] at h
    rcases ih h with hmem | hget
    · exact .inl (List.mem_cons_of_mem _ hmem)
    · rw [Std.ExtTreeMap.getElem?_insert] at hget
      split_ifs at hget with hk
      · rw [← Std.LawfulEqCmp.compare_eq_iff_eq.1 hk, ← Option.some.inj hget]
        exact .inl List.mem_cons_self
      · exact .inr hget

theorem mem_of_getElem?_collectLinks {es : List (String × ResourceLink)}
    (h : (collectLinks es)[k]? = some link) : (k, link) ∈ es := by
  rcases mem_of_getElem?_insertAll (show (insertAll ∅ es)[k]? = some link from h) with hmem | hget
  · exact hmem
  · simp at hget

theorem of_getElem?_listLinks {T : Type} {kind itemKind : ResourceKind} {pollRate : Option UInt32}
    {itemHref : T → Option String} {items : List T} {itemLinks : T → ResourceLinks}
    (h : (listLinks href kind itemKind pollRate itemHref items itemLinks)[k]? = some link) :
    (k = href ∧ link.kind = kind) ∨
      ∃ item ∈ items, link.kind = itemKind ∨ (itemLinks item)[k]? = some link := by
  have hmem := mem_of_getElem?_collectLinks h
  simp only [List.mem_cons, Prod.mk.injEq, List.mem_flatMap, List.mem_append, List.mem_map,
    Option.mem_toList, Std.ExtTreeMap.mem_toList_iff_getElem?_eq_some] at hmem
  rcases hmem with ⟨hk, rfl⟩ | ⟨item, hitem, ⟨_, _, _, rfl⟩ | hbelow⟩
  · exact .inl ⟨hk, rfl⟩
  · exact .inr ⟨item, hitem, .inl rfl⟩
  · exact .inr ⟨item, hitem, .inr hbelow⟩

/-- What is linked as a list is reached as one. -/
structure Reached (m : Sep2Model) (k : String) (kind : ResourceKind) : Prop where
  assignments : kind = .functionSetAssignmentsList → m.ReachesAssignments k
  programs : kind = .derProgramList → m.ReachesPrograms k
  controls : kind = .derControlList →
    ∃ derp, m.ReachesProgram derp ∧ ∃ l ∈ derp.derControlListLink, l.href = k
  curves : kind = .derCurveList →
    ∃ derp, m.ReachesProgram derp ∧ ∃ l ∈ derp.derCurveListLink, l.href = k

/-- The other kinds need no path. -/
theorem Reached.of_kind {kind : ResourceKind} (h : kind ≠ .functionSetAssignmentsList ∧
    kind ≠ .derProgramList ∧ kind ≠ .derControlList ∧ kind ≠ .derCurveList) : m.Reached k kind :=
  ⟨fun hk => absurd hk h.1, fun hk => absurd hk h.2.1, fun hk => absurd hk h.2.2.1,
    fun hk => absurd hk h.2.2.2⟩

theorem reached_of_getElem?_derProgramLinks {derp : DERProgram} {pollRate : Option UInt32}
    (hderp : m.ReachesProgram derp) (h : (m.derProgramLinks pollRate derp)[k]? = some link) :
    m.Reached k link.kind := by
  have hmem := mem_of_getElem?_collectLinks h
  simp only [List.mem_append, List.mem_map, List.mem_flatMap, Option.mem_toList, Prod.mk.injEq,
    Std.ExtTreeMap.mem_toList_iff_getElem?_eq_some] at hmem
  rcases hmem with (⟨_, _, _, rfl⟩ | ⟨l, hl, hget⟩) | ⟨l, hl, hget⟩
  · exact .of_kind (by simp)
  · rcases of_getElem?_listLinks hget with ⟨hk, hkind⟩ | ⟨_, _, hkind | hget⟩
    · rw [hkind]
      exact ⟨by simp, by simp, fun _ => ⟨derp, hderp, l, hl, hk.symm⟩, by simp⟩
    · rw [hkind]
      exact .of_kind (by simp)
    · simp at hget
  · rcases of_getElem?_listLinks hget with ⟨hk, hkind⟩ | ⟨_, _, hkind | hget⟩
    · rw [hkind]
      exact ⟨by simp, by simp, by simp, fun _ => ⟨derp, hderp, l, hl, hk.symm⟩⟩
    · rw [hkind]
      exact .of_kind (by simp)
    · simp at hget

theorem reached_of_getElem?_derProgramListLinks (hhref : m.ReachesPrograms href)
    (h : (m.derProgramListLinks href)[k]? = some link) : m.Reached k link.kind := by
  rcases of_getElem?_listLinks h with ⟨rfl, hkind⟩ | ⟨derp, hderp, hkind | hget⟩
  · rw [hkind]
    exact ⟨by simp, fun _ => hhref, by simp, by simp⟩
  · rw [hkind]
    exact .of_kind (by simp)
  · exact reached_of_getElem?_derProgramLinks ⟨href, hhref, hderp⟩ hget

theorem reached_of_getElem?_functionSetAssignmentsListLinks (hhref : m.ReachesAssignments href)
    (h : (m.functionSetAssignmentsListLinks href)[k]? = some link) : m.Reached k link.kind := by
  rcases of_getElem?_listLinks h with ⟨rfl, hkind⟩ | ⟨fsa, hfsa, hkind | hget⟩
  · rw [hkind]
    exact ⟨fun _ => hhref, by simp, by simp, by simp⟩
  · rw [hkind]
    exact .of_kind (by simp)
  · have hmem := mem_of_getElem?_collectLinks hget
    simp only [List.mem_flatMap, Option.mem_toList, Std.ExtTreeMap.mem_toList_iff_getElem?_eq_some]
      at hmem
    obtain ⟨l, hl, hget⟩ := hmem
    exact reached_of_getElem?_derProgramListLinks ⟨href, hhref, fsa, hfsa, l, hl, rfl⟩ hget

/-- **A list that is linked as such is reached.** -/
theorem reached_of_getElem? (h : m.resourceLinks[k]? = some link) : m.Reached k link.kind := by
  have hmem := mem_of_getElem?_collectLinks h
  simp only [List.mem_append, List.mem_flatMap, Option.mem_toList,
    Std.ExtTreeMap.mem_toList_iff_getElem?_eq_some] at hmem
  rcases hmem with hdcap | ⟨edl, hedl, hget⟩
  · simp only [dcapLinks, List.mem_flatMap, List.mem_append, List.mem_map, Prod.mk.injEq] at hdcap
    rcases hdcap with ⟨_, _, (⟨_, _, _, rfl⟩ | ⟨_, _, _, rfl⟩) | ⟨_, _, _, rfl⟩⟩ <;>
      exact .of_kind (by simp)
  · rcases of_getElem?_listLinks hget with ⟨-, hkind⟩ | ⟨edev, hedev, hkind | hget⟩
    · rw [hkind]
      exact .of_kind (by simp)
    · rw [hkind]
      exact .of_kind (by simp)
    · have hmem := mem_of_getElem?_collectLinks hget
      simp only [List.mem_append, List.mem_flatMap, List.mem_map, Option.mem_toList,
        Prod.mk.injEq, Std.ExtTreeMap.mem_toList_iff_getElem?_eq_some] at hmem
      rcases hmem with ⟨l, hl, hget⟩ | ⟨_, _, _, rfl⟩
      · refine reached_of_getElem?_functionSetAssignmentsListLinks ⟨edev, ?_, l, hl, rfl⟩ hget
        obtain ⟨edl', hedl', lfdi, hlfdi, hdevice⟩ := mem_listItems.1 hedev
        cases hedl'
        exact mem_listItems.2 ⟨edl, hedl, lfdi, hlfdi, hdevice⟩
      · exact .of_kind (by simp)

/-! ## After a sweep -/

section Sweep

variable {links : ResourceLinks} {order : List (MRIDType × DERCurve)}

/-- What stands on a list after a sweep stood on it before. -/
theorem mem_listItems_of_retain {K V : Type} [DecidableEq K] {list list' : Option (IDList K)}
    {items : HashMap K V} {p : K → V → Bool} {v : V} (hlist : ∀ l ∈ list', l ∈ list)
    (h : v ∈ listItems list' (items.retain p)) : v ∈ listItems list items := by
  obtain ⟨l, hl, k, hk, hget⟩ := mem_listItems.1 h
  exact mem_listItems.2 ⟨l, hlist l hl, k, hk, (HashMap.get?_retain_eq_some.1 hget).1⟩

theorem ReachesAssignments.of_sweep (h : (m.sweep links order).ReachesAssignments href) :
    m.ReachesAssignments href := by
  obtain ⟨edev, hedev, hlink⟩ := h
  exact ⟨edev, mem_listItems_of_retain (fun _ hl => hl) hedev, hlink⟩

theorem ReachesPrograms.of_sweep (h : (m.sweep links order).ReachesPrograms href) :
    m.ReachesPrograms href := by
  obtain ⟨fsalHref, hfsal, fsa, hfsa, hlink⟩ := h
  refine ⟨fsalHref, hfsal.of_sweep, fsa, mem_listItems_of_retain (fun l hl => ?_) hfsa, hlink⟩
  exact (HashMap.get?_retain_eq_some.1 hl).1

theorem ReachesProgram.of_sweep {derp : DERProgram}
    (h : (m.sweep links order).ReachesProgram derp) : m.ReachesProgram derp := by
  obtain ⟨href, hderpl, hderp⟩ := h
  refine ⟨href, hderpl.of_sweep, mem_listItems_of_retain (fun l hl => ?_) hderp⟩
  exact (HashMap.get?_retain_eq_some.1 hl).1

end Sweep

end Sep2Bridge.Sep2Model
