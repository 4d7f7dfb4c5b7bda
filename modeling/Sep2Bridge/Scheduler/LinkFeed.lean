import Sep2Bridge.Lib.MapDiff
import Sep2Bridge.Lib.Run
import Sep2Bridge.Scheduler.Merge

/-!
# The feed of link events

The model announces the links to follow as a stream of events. A listener that adds and removes
what it is told to holds a set of links; it should be the set the model needs.

**The feed is a difference** (`follow_resourceLinkEvents`). The events of an update lead from
the links before the merge to the links after it.

**The sweep comes after the difference.** What it drops must not carry links. It drops an entity
that has no href of its own, and the links below that entity go with it; it drops a mirror usage
point list whose own href is not linked, and the poll rate stored on it goes too. `SweepSafe`
rules both out, and then the sweep changes no link (`resourceLinks_sweep`).

Main results: `follow_emitted`, for every run whose merges are sweep safe, and `follow_diverges`,
a run with an unsafe merge.
-/

namespace Sep2Bridge

open Lib

/-! ## The listener -/

/-- The links held by a listener after some events. -/
def follow (held : ResourceLinks) (events : List Event) : ResourceLinks :=
  events.foldl (fun held event =>
    match event with
    | .linkAddedOrUpdated href kind pollRate => held.insert href ⟨kind, pollRate⟩
    | .linkRemoved href _ => held.erase href
    | _ => held) held

theorem follow_append (held : ResourceLinks) (es es' : List Event) :
    follow held (es ++ es') = follow (follow held es) es' :=
  List.foldl_append

theorem follow_removed (held : ResourceLinks) (es : List (String × ResourceLink)) :
    follow held (es.map fun e => .linkRemoved e.1 e.2.kind) = eraseAll held es := by
  simp only [follow, eraseAll, List.foldl_map]

theorem follow_addedOrUpdated (held : ResourceLinks) (es : List (String × ResourceLink)) :
    follow held (es.map fun e => .linkAddedOrUpdated e.1 e.2.kind e.2.pollRate) =
      insertAll held es := by
  simp only [follow, insertAll, List.foldl_map]

/-- **The feed is a difference.** -/
theorem follow_resourceLinkEvents (prior post : ResourceLinks) :
    follow prior (Sep2Model.resourceLinkEvents prior post) = post := by
  rw [Sep2Model.resourceLinkEvents, follow_append, follow_removed, follow_addedOrUpdated]
  exact patch_diff prior post

/-! ## Control responses are not links -/

/-- The event answers a control. -/
def Event.IsResponse : Event → Prop
  | .derControlStatusChanged .. => True
  | _ => False

theorem follow_responses {held : ResourceLinks} {es : List Event}
    (h : ∀ e ∈ es, e.IsResponse) : follow held es = held := by
  induction es generalizing held with
  | nil => rfl
  | cons e es ih =>
    have he := h e List.mem_cons_self
    cases e with
    | derControlStatusChanged => exact ih fun e he => h e (List.mem_cons_of_mem _ he)
    | _ => exact he.elim

namespace Sep2Model

theorem statusChangeEvent_isResponse {prior : EventStatusType} {c : DERControl} {e : Event}
    (h : statusChangeEvent prior c = some e) : e.IsResponse := by
  simp only [statusChangeEvent] at h
  split_ifs at h
  split at h <;> first | cases h | skip
  all_goals
    obtain ⟨r, -, rfl⟩ := Option.map_eq_some_iff.1 h
    trivial

theorem firstEvents_isResponse {now : Int} {c : ScheduledControl} {e : Event}
    (h : e ∈ firstEvents now c) : e.IsResponse := by
  simp only [firstEvents, List.mem_append, Option.mem_toList, Option.map_eq_some_iff] at h
  rcases h with ⟨r, -, rfl⟩ | h
  · trivial
  · split_ifs at h
    · simp only [Option.mem_toList, Option.map_eq_some_iff] at h
      obtain ⟨r, -, rfl⟩ := h
      trivial
    · simp at h

theorem setDerControl_isResponse {draw : Draw} {m m' : Sep2Model} {c : DERControl}
    {es : List Event} (h : m.setDerControl draw c = some (m', es)) : ∀ e ∈ es, e.IsResponse := by
  intro e he
  obtain ⟨control, -, -, ⟨stored, -, -, rfl⟩ | ⟨-, -, rfl⟩⟩ := setDerControl_cases h
  · exact statusChangeEvent_isResponse (Option.mem_toList.1 he)
  · exact firstEvents_isResponse he

theorem setDerControls_isResponse {draws : Nat → Draw} {m m' : Sep2Model} {cs : List DERControl}
    {es : List Event} (h : setDerControls draws m cs = some (m', es)) :
    ∀ e ∈ es, e.IsResponse := by
  induction cs generalizing draws m es with
  | nil =>
    cases h
    simp
  | cons c cs ih =>
    obtain ⟨m₁, es₁, es₂, hfirst, hrest, rfl⟩ := setDerControls_cons h
    intro e he
    rcases List.mem_append.1 he with he | he
    · exact setDerControl_isResponse hfirst e he
    · exact ih hrest e he

/-- A merge emits nothing but control responses. -/
theorem setResource_isResponse {draws : Nat → Draw} {m m' : Sep2Model} {u : Sep2ResourceEvent}
    {es : List Event} (h : m.setResource draws u = some (m', es)) : ∀ e ∈ es, e.IsResponse := by
  cases u with
  | derControlList dercl =>
    obtain ⟨-, -, rfl⟩ | ⟨href, -, m₀, -, h⟩ := setDerControlList_cases h
    · simp
    · exact setDerControls_isResponse h
  | _ =>
    obtain ⟨-, rfl⟩ := Prod.mk.inj (Option.some.inj h)
    simp

/-! ## Which hrefs are linked -/

theorem mem_collectLinks {es : List (String × ResourceLink)} {href : String} :
    href ∈ collectLinks es ↔ href ∈ es.map Prod.fst := by
  rw [show collectLinks es = insertAll ∅ es from rfl, mem_insertAll]
  simp

theorem mem_links_iff {links : ResourceLinks} {href : String} :
    href ∈ links.toList.map Prod.fst ↔ href ∈ links := by
  simp only [List.mem_map, Prod.exists, exists_and_right, exists_eq_right,
    Std.ExtTreeMap.mem_toList_iff_getElem?_eq_some]
  rw [Std.ExtTreeMap.mem_iff_isSome_getElem?, Option.isSome_iff_exists]

section ListLinks

variable {T : Type} {href : String} {kind itemKind : ResourceKind} {pollRate : Option UInt32}
  {itemHref : T → Option String} {items : List T} {itemLinks itemLinks' : T → ResourceLinks}

/-- The hrefs of a list: its own, its items' own, and those below the items. -/
theorem mem_listLinks {k : String} :
    k ∈ listLinks href kind itemKind pollRate itemHref items itemLinks ↔
      k = href ∨ ∃ item ∈ items, itemHref item = some k ∨ k ∈ itemLinks item := by
  simp only [listLinks, mem_collectLinks, List.map_cons, List.mem_cons, List.map_flatMap,
    List.mem_flatMap, List.map_append, List.mem_append, mem_links_iff, List.map_map]
  refine or_congr_right (exists_congr fun item => and_congr_right fun _ => or_congr_left ?_)
  cases itemHref item <;> simp [eq_comm]

/-- An item that has no href and no links below it can be left out. -/
theorem listLinks_filter {p : T → Bool}
    (hkept : ∀ item ∈ items, p item = true → itemLinks' item = itemLinks item)
    (hgone : ∀ item ∈ items, p item = false → itemHref item = none ∧ itemLinks item = ∅) :
    listLinks href kind itemKind pollRate itemHref (items.filter p) itemLinks' =
      listLinks href kind itemKind pollRate itemHref items itemLinks := by
  simp only [listLinks]
  congr 2
  induction items with
  | nil => rfl
  | cons item items ih =>
    have ih := ih (fun i hi => hkept i (List.mem_cons_of_mem _ hi))
      (fun i hi => hgone i (List.mem_cons_of_mem _ hi))
    cases hp : p item with
    | true =>
      rw [List.filter_cons_of_pos hp, List.flatMap_cons, List.flatMap_cons, ih,
        hkept item List.mem_cons_self hp]
    | false =>
      obtain ⟨hhref, hlinks⟩ := hgone item List.mem_cons_self hp
      rw [List.filter_cons_of_neg (by simp [hp]), List.flatMap_cons, ih, hhref, hlinks]
      simp

end ListLinks

section ListItems

variable {K V : Type} [DecidableEq K]

theorem mem_listItems {list : Option (IDList K)} {items : HashMap K V} {v : V} :
    v ∈ listItems list items ↔ ∃ l ∈ list, ∃ k ∈ l.items, items.get? k = some v := by
  simp only [listItems, List.mem_filterMap, List.mem_flatMap, Option.mem_toList]
  constructor
  · rintro ⟨k, ⟨l, hl, hk⟩, hv⟩
    exact ⟨l, hl, k, hk, hv⟩
  · rintro ⟨l, hl, k, hk, hv⟩
    exact ⟨k, ⟨l, hl, hk⟩, hv⟩

/-- Sweeping a table sweeps the items of every list. -/
theorem listItems_retain (list : Option (IDList K)) (items : HashMap K V) (p : V → Bool) :
    listItems list (items.retain fun _ v => p v) = (listItems list items).filter p := by
  simp only [listItems, List.filter_filterMap]
  congr 1
  funext k
  rw [HashMap.get?_retain]

theorem listItems_reorder [DecidableEq V] (list : Option (IDList K)) (items : HashMap K V)
    (es : List (K × V)) : listItems list (items.reorder es) = listItems list items := by
  simp only [listItems]
  congr 1
  funext k
  exact items.get?_reorder es k

end ListItems

theorem mem_resourceLinks {m : Sep2Model} {href : String} :
    href ∈ m.resourceLinks ↔ href ∈ m.dcapLinks.map Prod.fst ∨ ∃ edl ∈ m.endDeviceList,
      href = edl.href ∨ ∃ edev ∈ listItems (some edl) m.endDevices,
        edev.href = some href ∨ href ∈ m.endDeviceLinks edev := by
  rw [resourceLinks, mem_collectLinks, List.map_append, List.mem_append, List.map_flatMap,
    List.mem_flatMap]
  simp only [Option.mem_toList, mem_links_iff, mem_listLinks, Option.mem_def]

/-! ## What the sweep may drop -/

/-- A program on the list that has no href of its own links nothing. -/
def ProgramsAnchored (m : Sep2Model) (href : String) : Prop :=
  ∀ derp ∈ listItems (m.programLists.get? href) m.programs, derp.href = none →
    derp.defaultDerControlLink = none ∧ derp.derControlListLink = none ∧
      derp.derCurveListLink = none

/-- So for the assignments on the list, and for the programs below them. -/
def AssignmentsAnchored (m : Sep2Model) (href : String) : Prop :=
  ∀ fsa ∈ listItems (m.functionSetAssignmentsLists.get? href) m.functionSetAssignments,
    (fsa.href = none → fsa.derProgramListLink = none) ∧
      ∀ link ∈ fsa.derProgramListLink, m.ProgramsAnchored link.href

/-- So for the listed devices, and for the assignments below them. -/
def DevicesAnchored (m : Sep2Model) : Prop :=
  ∀ edl ∈ m.endDeviceList, ∀ edev ∈ listItems (some edl) m.endDevices,
    (edev.href = none → edev.functionSetAssignmentsListLink = none ∧ edev.derListLink = none) ∧
      ∀ link ∈ edev.functionSetAssignmentsListLink, m.AssignmentsAnchored link.href

/-- When the `DeviceCapability` links a mirror usage point list and the stored one has a poll
rate, the stored one's own href is linked. -/
def MirrorTracked (m : Sep2Model) : Prop :=
  ∀ dcap ∈ m.dcap, dcap.mirrorUsagePointListLink.isSome = true →
    ∀ mupl ∈ m.mirrorUsagePointList, mupl.pollRate.isSome = true →
      isTracked m.resourceLinks mupl.href = true

/-- The sweep drops nothing that `resourceLinks` reads. -/
structure SweepSafe (m : Sep2Model) : Prop where
  devices : m.DevicesAnchored
  mirror : m.MirrorTracked

/-! ## The sweep changes no link -/

/-- The model an update leaves, from the merged model and the links it needs. -/
def sweep (m : Sep2Model) (links : ResourceLinks) (curveOrder : List (MRIDType × DERCurve)) :
    Sep2Model :=
  { m.dropUntrackedResources links with
    curves := (m.dropUntrackedResources links).curves.reorder curveOrder }

section SweepFields

variable {m : Sep2Model} {links : ResourceLinks} {order : List (MRIDType × DERCurve)}

theorem sweep_functionSetAssignmentsLists : (m.sweep links order).functionSetAssignmentsLists =
    m.functionSetAssignmentsLists.retain fun key _ => links.contains key := rfl

theorem sweep_programLists : (m.sweep links order).programLists =
    m.programLists.retain fun key _ => links.contains key := rfl

theorem sweep_controlLists : (m.sweep links order).controlLists =
    m.controlLists.retain fun key _ => links.contains key := rfl

theorem sweep_curveLists : (m.sweep links order).curveLists =
    m.curveLists.retain fun key _ => links.contains key := rfl

theorem sweep_derLists : (m.sweep links order).derLists =
    m.derLists.retain fun key _ => links.contains key := rfl

theorem sweep_mirrorUsagePointList : (m.sweep links order).mirrorUsagePointList =
    m.mirrorUsagePointList.filter fun mupl => isTracked links mupl.href := rfl

theorem sweep_endDevices : (m.sweep links order).endDevices =
    m.endDevices.retain fun _ val => isTracked links val.href := rfl

theorem sweep_functionSetAssignments : (m.sweep links order).functionSetAssignments =
    m.functionSetAssignments.retain fun _ val => isTracked links val.href := rfl

theorem sweep_programs : (m.sweep links order).programs =
    m.programs.retain fun _ val => isTracked links val.href := rfl

theorem sweep_curves : (m.sweep links order).curves =
    (m.curves.retain fun _ val => isTracked links val.href).reorder order := rfl

theorem sweep_defaultControls : (m.sweep links order).defaultControls =
    m.defaultControls.retain fun _ val => isTracked links val.href := rfl

end SweepFields

theorem applyUpdate_eq_some {env : Surroundings} {m m' : Sep2Model} {u : Sep2ResourceEvent}
    {es : List Event} :
    m.applyUpdate env u = some (m', es) ↔ ∃ merged responses,
      m.setResource env.draws u = some (merged, responses) ∧
      m' = merged.sweep merged.resourceLinks env.curveOrder ∧
      es = resourceLinkEvents m.resourceLinks merged.resourceLinks ++ responses := by
  simp only [applyUpdate, Option.bind_eq_bind, Option.bind_eq_some_iff, Prod.exists]
  constructor
  · rintro ⟨merged, responses, hset, h⟩
    obtain ⟨rfl, rfl⟩ := Prod.mk.inj (Option.some.inj h)
    exact ⟨merged, responses, hset, rfl, rfl⟩
  · rintro ⟨merged, responses, hset, rfl, rfl⟩
    exact ⟨merged, responses, hset, rfl⟩

section Sweep

variable {m : Sep2Model} {links : ResourceLinks} {order : List (MRIDType × DERCurve)}
  {href : String} {pollRate : Option UInt32}

theorem isTracked_iff {href : Option String} :
    isTracked links href = true ↔ ∃ k ∈ links, href = some k := by
  cases href <;> simp [isTracked, Std.ExtTreeMap.contains_iff_mem]

theorem get?_retain_linked {V : Type} {lists : HashMap String V} (h : href ∈ links) :
    (lists.retain fun key _ => links.contains key).get? href = lists.get? href := by
  rw [HashMap.get?_retain, Std.ExtTreeMap.contains_iff_mem.2 h]
  cases lists.get? href <;> rfl

/-- One level of the tree. Where all its links are tracked, sweeping the items changes nothing,
as long as an item without an href has no links below it. -/
theorem listLinks_retain {K T : Type} [DecidableEq K] {list : Option (IDList K)}
    {items : HashMap K T} {kind itemKind : ResourceKind} {itemHref : T → Option String}
    {itemLinks itemLinks' : T → ResourceLinks}
    (hlinked : ∀ k ∈ listLinks href kind itemKind pollRate itemHref (listItems list items)
      itemLinks, k ∈ links)
    (hanchored : ∀ item ∈ listItems list items, itemHref item = none → itemLinks item = ∅)
    (hbelow : ∀ item ∈ listItems list items, (∀ k ∈ itemLinks item, k ∈ links) →
      itemLinks' item = itemLinks item) :
    listLinks href kind itemKind pollRate itemHref
        (listItems list (items.retain fun _ v => isTracked links (itemHref v))) itemLinks' =
      listLinks href kind itemKind pollRate itemHref (listItems list items) itemLinks := by
  rw [listItems_retain]
  apply listLinks_filter
  · intro item hitem _
    exact hbelow item hitem fun k hk => hlinked k (mem_listLinks.2 (.inr ⟨item, hitem, .inr hk⟩))
  · intro item hitem hgone
    have hhref : itemHref item = none := by
      cases h : itemHref item with
      | none => rfl
      | some k =>
        have hk := hlinked k (mem_listLinks.2 (.inr ⟨item, hitem, .inl h⟩))
        rw [isTracked_iff.2 ⟨k, hk, h⟩] at hgone
        cases hgone
    exact ⟨hhref, hanchored item hitem hhref⟩

theorem head_mem_listLinks {T : Type} {kind itemKind : ResourceKind}
    {itemHref : T → Option String} {items : List T} {itemLinks : T → ResourceLinks} :
    href ∈ listLinks href kind itemKind pollRate itemHref items itemLinks :=
  mem_listLinks.2 (.inl rfl)

theorem derProgramLinks_sweep {derp : DERProgram}
    (h : ∀ k ∈ m.derProgramLinks pollRate derp, k ∈ links) :
    (m.sweep links order).derProgramLinks pollRate derp = m.derProgramLinks pollRate derp := by
  simp only [derProgramLinks, mem_collectLinks, List.map_append, List.map_flatMap, List.mem_append,
    List.mem_flatMap, mem_links_iff] at h ⊢
  have hcontrols : ∀ link ∈ derp.derControlListLink.toList,
      listLinks link.href .derControlList .derControl pollRate (·.derControl.href)
        (listItems ((m.sweep links order).controlLists.get? link.href)
          (m.sweep links order).controls) (fun _ => ∅) =
      listLinks link.href .derControlList .derControl pollRate (·.derControl.href)
        (listItems (m.controlLists.get? link.href) m.controls) fun _ => ∅ := by
    intro link hlink
    have hlinked := fun k hk => h k (.inl (.inr ⟨link, hlink, hk⟩))
    rw [show (m.sweep links order).controlLists.get? link.href = m.controlLists.get? link.href from
      get?_retain_linked (hlinked _ head_mem_listLinks)]
    exact listLinks_retain hlinked (fun _ _ _ => rfl) fun _ _ _ => rfl
  have hcurves : ∀ link ∈ derp.derCurveListLink.toList,
      listLinks link.href .derCurveList .derCurve pollRate DERCurve.href
        (listItems ((m.sweep links order).curveLists.get? link.href)
          (m.sweep links order).curves) (fun _ => ∅) =
      listLinks link.href .derCurveList .derCurve pollRate DERCurve.href
        (listItems (m.curveLists.get? link.href) m.curves) fun _ => ∅ := by
    intro link hlink
    have hlinked := fun k hk => h k (.inr ⟨link, hlink, hk⟩)
    rw [show (m.sweep links order).curveLists.get? link.href = m.curveLists.get? link.href from
      get?_retain_linked (hlinked _ head_mem_listLinks)]
    rw [show (m.sweep links order).curves =
      (m.curves.retain fun _ v => isTracked links v.href).reorder order from rfl, listItems_reorder]
    exact listLinks_retain hlinked (fun _ _ _ => rfl) fun _ _ _ => rfl
  refine congrArg collectLinks (congrArg₂ (· ++ ·) (congrArg (_ ++ ·) ?_) ?_)
  · exact List.flatMap_congr fun link hlink => congrArg _ (hcontrols link hlink)
  · exact List.flatMap_congr fun link hlink => congrArg _ (hcurves link hlink)

theorem derProgramListLinks_sweep (hanchored : m.ProgramsAnchored href)
    (h : ∀ k ∈ m.derProgramListLinks href, k ∈ links) :
    (m.sweep links order).derProgramListLinks href = m.derProgramListLinks href := by
  have hlist : (m.sweep links order).programLists.get? href = m.programLists.get? href :=
    get?_retain_linked (h _ head_mem_listLinks)
  simp only [derProgramListLinks, hlist] at h ⊢
  refine listLinks_retain h (fun derp hderp hnone => ?_) fun derp _ hbelow =>
    derProgramLinks_sweep hbelow
  obtain ⟨hdefault, hcontrols, hcurves⟩ := hanchored derp hderp hnone
  simp [derProgramLinks, hdefault, hcontrols, hcurves, collectLinks]

theorem functionSetAssignmentsLinks_sweep {fsa : FunctionSetAssignments}
    (hanchored : ∀ link ∈ fsa.derProgramListLink, m.ProgramsAnchored link.href)
    (h : ∀ k ∈ m.functionSetAssignmentsLinks fsa, k ∈ links) :
    (m.sweep links order).functionSetAssignmentsLinks fsa = m.functionSetAssignmentsLinks fsa := by
  simp only [functionSetAssignmentsLinks, mem_collectLinks, List.map_flatMap, List.mem_flatMap,
    mem_links_iff] at h ⊢
  refine congrArg collectLinks (List.flatMap_congr fun link hlink => congrArg _ ?_)
  exact derProgramListLinks_sweep (hanchored link (by simpa using hlink)) fun k hk =>
    h k ⟨link, hlink, hk⟩

theorem functionSetAssignmentsListLinks_sweep (hanchored : m.AssignmentsAnchored href)
    (h : ∀ k ∈ m.functionSetAssignmentsListLinks href, k ∈ links) :
    (m.sweep links order).functionSetAssignmentsListLinks href =
      m.functionSetAssignmentsListLinks href := by
  have hlist : (m.sweep links order).functionSetAssignmentsLists.get? href =
      m.functionSetAssignmentsLists.get? href := get?_retain_linked (h _ head_mem_listLinks)
  simp only [functionSetAssignmentsListLinks, hlist] at h ⊢
  refine listLinks_retain h (fun fsa hfsa hnone => ?_) fun fsa hfsa hbelow =>
    functionSetAssignmentsLinks_sweep (hanchored fsa hfsa).2 hbelow
  simp [functionSetAssignmentsLinks, (hanchored fsa hfsa).1 hnone, collectLinks]

theorem endDeviceLinks_sweep {edev : EndDevice}
    (hanchored : ∀ link ∈ edev.functionSetAssignmentsListLink, m.AssignmentsAnchored link.href)
    (h : ∀ k ∈ m.endDeviceLinks edev, k ∈ links) :
    (m.sweep links order).endDeviceLinks edev = m.endDeviceLinks edev := by
  simp only [endDeviceLinks, mem_collectLinks, List.map_append, List.map_flatMap, List.mem_append,
    List.mem_flatMap, mem_links_iff, List.map_map] at h ⊢
  refine congrArg collectLinks (congrArg₂ (· ++ ·) ?_ ?_)
  · refine List.flatMap_congr fun link hlink => congrArg _ ?_
    exact functionSetAssignmentsListLinks_sweep (hanchored link (by simpa using hlink)) fun k hk =>
      h k (.inl ⟨link, hlink, hk⟩)
  · refine List.map_congr_left fun link hlink => ?_
    rw [show (m.sweep links order).derLists.get? link.href = m.derLists.get? link.href from
      get?_retain_linked (h _ (.inr (List.mem_map_of_mem hlink)))]

/-- The sweep takes no poll rate away from a link of the `DeviceCapability`. -/
theorem dcapLinks_sweep (h : m.MirrorTracked) :
    (m.sweep m.resourceLinks order).dcapLinks = m.dcapLinks := by
  simp only [dcapLinks]
  refine List.flatMap_congr fun dcap hdcap => congrArg₂ (· ++ ·) rfl ?_
  refine List.map_congr_left fun link hlink => ?_
  have hmirror :=
    h dcap (Option.mem_toList.1 hdcap) (Option.isSome_of_mem (Option.mem_toList.1 hlink))
  show (link.href, (⟨.mirrorUsagePointList, (m.mirrorUsagePointList.filter fun mupl =>
    isTracked m.resourceLinks mupl.href).bind MirrorUsagePointList.pollRate⟩ : ResourceLink)) = _
  cases hmupl : m.mirrorUsagePointList with
  | none => rfl
  | some mupl =>
    cases hrate : mupl.pollRate with
    | none => cases ht : isTracked m.resourceLinks mupl.href <;> simp [ht, hrate]
    | some rate => rw [Option.filter_some, if_pos (hmirror mupl hmupl (by simp [hrate]))]

/-- **The sweep changes no link.** -/
theorem resourceLinks_sweep (h : m.SweepSafe) :
    (m.sweep m.resourceLinks order).resourceLinks = m.resourceLinks := by
  have hlinked : ∀ edl ∈ m.endDeviceList, ∀ k ∈ listLinks edl.href .endDeviceList .endDevice
      edl.pollRate EndDevice.href (listItems (some edl) m.endDevices) m.endDeviceLinks,
      k ∈ m.resourceLinks := by
    intro edl hedl k hk
    exact mem_resourceLinks.2 (.inr ⟨edl, hedl, mem_listLinks.1 hk⟩)
  rw [resourceLinks, dcapLinks_sweep h.mirror]
  conv_rhs => rw [resourceLinks]
  refine congrArg collectLinks (congrArg (_ ++ ·) ?_)
  refine List.flatMap_congr fun edl hedl => congrArg _ ?_
  have hedl : edl ∈ m.endDeviceList := Option.mem_toList.1 hedl
  refine listLinks_retain (hlinked edl hedl) (fun edev hedev hnone => ?_) fun edev hedev hbelow =>
    endDeviceLinks_sweep (h.devices edl hedl edev hedev).2 hbelow
  obtain ⟨hfsal, hderl⟩ := (h.devices edl hedl edev hedev).1 hnone
  simp [endDeviceLinks, hfsal, hderl, collectLinks]

end Sweep

end Sep2Model

/-! ## Runs -/

/-- The model, and all that it has announced. -/
structure Announced where
  model : Sep2Model := {}
  emitted : List Event := []
  deriving DecidableEq

/-- One update, with what it takes from outside. -/
def feedStep (s : Announced) (l : Surroundings × Sep2ResourceEvent) : Option Announced :=
  (s.model.applyUpdate l.1 l.2).map fun r => ⟨r.1, s.emitted ++ r.2⟩

/-- The model with the update merged in is sweep safe. -/
def MergesSafely (s : Announced) (l : Surroundings × Sep2ResourceEvent) : Prop :=
  ∀ merged ∈ s.model.setResource l.1.draws l.2, merged.1.SweepSafe

theorem follow_feedStep {s t : Announced} {l : Surroundings × Sep2ResourceEvent}
    (hs : follow ∅ s.emitted = s.model.resourceLinks) (hsafe : MergesSafely s l)
    (h : feedStep s l = some t) : follow ∅ t.emitted = t.model.resourceLinks := by
  obtain ⟨⟨model, events⟩, hupdate, rfl⟩ := Option.map_eq_some_iff.1 h
  obtain ⟨merged, responses, hset, rfl, rfl⟩ := Sep2Model.applyUpdate_eq_some.1 hupdate
  show follow ∅ (s.emitted ++ (Sep2Model.resourceLinkEvents _ _ ++ responses)) = _
  rw [follow_append, hs, follow_append, follow_resourceLinkEvents,
    follow_responses (Sep2Model.setResource_isResponse hset)]
  exact (Sep2Model.resourceLinks_sweep (hsafe _ hset)).symm

/-- **The listener holds the links the model needs.** -/
theorem follow_emitted {ls : List (Surroundings × Sep2ResourceEvent)} {t : Announced}
    (h : Exec feedStep MergesSafely {} ls t) : follow ∅ t.emitted = t.model.resourceLinks :=
  h.invariant (I := fun s => follow ∅ s.emitted = s.model.resourceLinks) (by decide)
    fun _ _ _ hs hsafe hst => follow_feedStep hs hsafe hst

/-! ## A list known by another href -/

instance (m : Sep2Model) (href : String) : Decidable (m.ProgramsAnchored href) := by
  unfold Sep2Model.ProgramsAnchored; infer_instance

instance (m : Sep2Model) (href : String) : Decidable (m.AssignmentsAnchored href) := by
  unfold Sep2Model.AssignmentsAnchored; infer_instance

instance (m : Sep2Model) : Decidable m.DevicesAnchored := by
  unfold Sep2Model.DevicesAnchored; infer_instance

instance (m : Sep2Model) : Decidable m.MirrorTracked := by
  unfold Sep2Model.MirrorTracked; infer_instance

instance (m : Sep2Model) : Decidable m.SweepSafe :=
  decidable_of_iff (m.DevicesAnchored ∧ m.MirrorTracked) ⟨fun h => ⟨h.1, h.2⟩, fun h => ⟨h.1, h.2⟩⟩

instance (s : Announced) (l : Surroundings × Sep2ResourceEvent) : Decidable (MergesSafely s l) := by
  unfold MergesSafely; infer_instance

/-- An update, where nothing is drawn and the curve table is empty. -/
def plainUpdate (u : Sep2ResourceEvent) : Surroundings × Sep2ResourceEvent :=
  (⟨fun _ => ⟨0, 0, 0⟩, []⟩, u)

def mirrorDcap (href : String) : Sep2ResourceEvent :=
  .deviceCapability { mirrorUsagePointListLink := some ⟨href⟩ }

def mirrorList (href : String) : Sep2ResourceEvent :=
  .mirrorUsagePointList ⟨some href, some 60, []⟩

theorem follow_emitted_mirror : ∃ t,
    Exec feedStep MergesSafely {}
      [plainUpdate (mirrorDcap "/mup"), plainUpdate (mirrorList "/mup")] t ∧
      follow ∅ t.emitted = t.model.resourceLinks := by
  have hruns : (runIf feedStep MergesSafely {}
    [plainUpdate (mirrorDcap "/mup"), plainUpdate (mirrorList "/mup")]).isSome = true := by decide
  obtain ⟨t, ht⟩ := Option.isSome_iff_exists.1 hruns
  have hexec := exec_iff_runIf.2 ht
  exact ⟨t, hexec, follow_emitted hexec⟩

/-- The server moves the list. The stored list still has its old href, so the sweep drops it, and
with it the poll rate that was announced for the new link. -/
theorem follow_diverges : ∃ t,
    run feedStep {} [plainUpdate (mirrorDcap "/mup1"), plainUpdate (mirrorList "/mup1"),
      plainUpdate (mirrorDcap "/mup2")] = some t ∧
      follow ∅ t.emitted ≠ t.model.resourceLinks := by
  refine ⟨_, rfl, ?_⟩
  decide

end Sep2Bridge
