import Mathlib.Data.List.Find
import Sep2Bridge.Scheduler.Reach

/-!
# Curves found by their href

Curves are stored by mRID, collected by href and looked up by href. Beside the model a feed of
updates records what the server has sent: its current curve lists, and the curve last received
under each href.

**The condition** (`KeepsApart`). A list of curves gives none of them an href under which another
mRID is stored that the list does not name, and no mRID two hrefs.

**The invariant** (`Tracks`). No two stored curves share an href, and each listed curve is stored
under its mRID with what was last received under its href.

In a run whose lists meet the condition, a lookup by href finds the curve last received under it,
in whatever order the table is iterated (`curves_found`).
-/

namespace Sep2Bridge

open Lib

namespace Sep2Model

/-! ## The curve lists that are linked -/

/-- The hrefs of the curve lists that the programs of the listed devices link. -/
def curveListHrefs (m : Sep2Model) : List String :=
  (listItems m.endDeviceList m.endDevices).flatMap fun edev =>
    edev.functionSetAssignmentsListLink.toList.flatMap fun link =>
      (listItems (m.functionSetAssignmentsLists.get? link.href)
        m.functionSetAssignments).flatMap fun fsa =>
          fsa.derProgramListLink.toList.flatMap fun link =>
            (listItems (m.programLists.get? link.href) m.programs).flatMap fun derp =>
              derp.derCurveListLink.toList.map fun link => link.href

variable {m : Sep2Model} {href : String}

/-- How a curve list is reached. -/
theorem mem_curveListHrefs : href ∈ m.curveListHrefs ↔
    ∃ derp, m.ReachesProgram derp ∧ ∃ link ∈ derp.derCurveListLink, link.href = href := by
  simp only [curveListHrefs, List.mem_flatMap, List.mem_map, Option.mem_toList]
  constructor
  · rintro ⟨edev, hedev, fsalLink, hfsalLink, fsa, hfsa, derplLink, hderplLink, derp, hderp, hlink⟩
    have hfsal : m.ReachesAssignments fsalLink.href := ⟨edev, hedev, fsalLink, hfsalLink, rfl⟩
    have hderpl : m.ReachesPrograms derplLink.href :=
      ⟨fsalLink.href, hfsal, fsa, hfsa, derplLink, hderplLink, rfl⟩
    exact ⟨derp, ⟨derplLink.href, hderpl, hderp⟩, hlink⟩
  · rintro ⟨derp, ⟨_, ⟨_, hfsal, fsa, hfsa, derplLink, hderplLink, rfl⟩, hderp⟩, hlink⟩
    obtain ⟨edev, hedev, fsalLink, hfsalLink, rfl⟩ := hfsal
    exact ⟨edev, hedev, fsalLink, hfsalLink, fsa, hfsa, derplLink, hderplLink, derp, hderp, hlink⟩

/-- A linked curve list and its stored curves are among the links. -/
theorem mem_resourceLinks_of_curveListHref {k : String} (h : href ∈ m.curveListHrefs)
    (hk : k = href ∨ ∃ curve ∈ listItems (m.curveLists.get? href) m.curves,
      curve.href = some k) : k ∈ m.resourceLinks := by
  obtain ⟨derp, hderp, link, hlink, rfl⟩ := mem_curveListHrefs.1 h
  exact mem_resourceLinks_of_curveList hderp hlink hk

theorem curveListHrefs_sweep {links : ResourceLinks} {order : List (MRIDType × DERCurve)}
    (h : href ∈ (m.sweep links order).curveListHrefs) : href ∈ m.curveListHrefs := by
  obtain ⟨derp, hderp, hlink⟩ := mem_curveListHrefs.1 h
  exact mem_curveListHrefs.2 ⟨derp, hderp.of_sweep, hlink⟩

end Sep2Model

/-! ## Runs -/

/-- The model, and what the server has sent about curves. -/
structure CurveFeed where
  model : Sep2Model := {}
  /-- The current curve lists: those last received under their hrefs, and linked ever since. -/
  lists : HashMap String (List DERCurve) := ∅
  /-- The curve last received under each href. -/
  received : HashMap String DERCurve := ∅

namespace CurveFeed

variable {s t : CurveFeed} {l : Surroundings × Sep2ResourceEvent} {list : String}
  {curves : List DERCurve}

/-- The curve list that an update applies, and its href. One without an href is not applied. -/
def applied : Sep2ResourceEvent → Option (String × List DERCurve)
  | .derCurveList cl => cl.href.map fun href => (href, cl.derCurve)
  | _ => none

/-- Record a curve list. -/
def receive (s : CurveFeed) (update : Option (String × List DERCurve)) : CurveFeed :=
  match update with
  | none => s
  | some (list, curves) => { s with
      lists := s.lists.insert list curves
      received := s.received.insertItems DERCurve.href curves }

/-- One update, with what it takes from outside. -/
def step (s : CurveFeed) (l : Surroundings × Sep2ResourceEvent) : Option CurveFeed :=
  (s.model.applyUpdate l.1 l.2).map fun r =>
    { model := r.1
      lists := (s.receive (applied l.2)).lists.retain fun list _ => list ∈ r.1.curveListHrefs
      received := (s.receive (applied l.2)).received }

/-- The curve stands on a current list. -/
def Listed (s : CurveFeed) (curve : DERCurve) : Prop :=
  ∃ list curves, s.lists.get? list = some curves ∧ curve ∈ curves

/-- No two curves of the current lists share an href. -/
def DistinctHrefs (s : CurveFeed) : Prop :=
  ∀ c c', s.Listed c → s.Listed c' → c.href = c'.href → c.href.isSome → c.mrid = c'.mrid

/-- A lookup by href does not depend on the order of the table, and finds what was last received
under the href of a listed curve. -/
structure CurvesFound (s : CurveFeed) : Prop where
  order : ∀ href es,
    Sep2Model.getCurveByHref { s.model with curves := s.model.curves.reorder es } href =
      s.model.getCurveByHref href
  listed : ∀ c, s.Listed c → ∀ href, c.href = some href → ∃ curve,
    s.received.get? href = some curve ∧ s.model.getCurveByHref href = some curve

/-- A list gives a curve no href under which another mRID is stored that it does not name, and no
mRID two hrefs. -/
structure KeepsApart (s : CurveFeed) (list : String) (curves : List DERCurve) : Prop where
  /-- No href goes from a stored curve to another mRID. -/
  stored : ∀ c ∈ curves, ∀ e ∈ s.model.curves.entries, (∀ d ∈ curves, d.mrid ≠ e.1) →
    c.href.isSome → e.2.href ≠ c.href
  /-- On the list itself an href stands for one mRID, and an mRID for one href. -/
  distinct : ∀ c ∈ curves, ∀ d ∈ curves, c.mrid = d.mrid ∨ (c.href.isSome ∧ c.href = d.href) →
    c.mrid = d.mrid ∧ c.href = d.href
  /-- No mRID of another current list gets another href. -/
  listed : ∀ c ∈ curves, ∀ e ∈ s.lists.entries, e.1 ≠ list → ∀ d ∈ e.2, d.mrid = c.mrid →
    d.href = c.href

/-- An update gives each curve list that it applies apart hrefs. -/
def Allowed (s : CurveFeed) (l : Surroundings × Sep2ResourceEvent) : Prop :=
  ∀ update ∈ applied l.2, s.KeepsApart update.1 update.2

/-! ## The invariant -/

/-- The stored curves against what the server has sent. -/
structure Tracks (s : CurveFeed) : Prop where
  items : ∀ list curves, s.lists.get? list = some curves →
    ∃ l, s.model.curveLists.get? list = some l ∧ l.items = curves.map DERCurve.mrid
  unique : ∀ mrid mrid' c c', s.model.curves.get? mrid = some c →
    s.model.curves.get? mrid' = some c' → c.href.isSome → c.href = c'.href → mrid = mrid'
  listed : ∀ c, s.Listed c → ∀ href, c.href = some href → ∃ d,
    s.model.curves.get? c.mrid = some d ∧ d.href = some href ∧ s.received.get? href = some d

/-- Without a list that is applied, no curve is touched. -/
theorem curves_of_not_applied {draws : Nat → Draw} {u : Sep2ResourceEvent} {m m' : Sep2Model}
    {es : List Event} (h : m.setResource draws u = some (m', es)) (happlied : applied u = none) :
    m'.curves = m.curves ∧ m'.curveLists = m.curveLists := by
  by_cases hlist : ∃ cl, u = .derCurveList cl
  · obtain ⟨cl, rfl⟩ := hlist
    have hhref : cl.href = none := by
      simpa [applied] using happlied
    cases h
    simp [Sep2Model.setDerCurveList, hhref]
  · exact (Sep2Model.setResource_frame h).2 fun cl hcl => hlist ⟨cl, hcl⟩

theorem curves_of_applied {draws : Nat → Draw} {u : Sep2ResourceEvent} {m m' : Sep2Model}
    {es : List Event} (h : m.setResource draws u = some (m', es))
    (happlied : applied u = some (list, curves)) :
    m'.curves = m.curves.insertItems (fun curve => some curve.mrid) curves ∧
      m'.curveLists = m.curveLists.insert list ⟨list, curves.map DERCurve.mrid, none⟩ := by
  unfold applied at happlied
  split at happlied
  · obtain ⟨href, hhref, heq⟩ := Option.map_eq_some_iff.1 happlied
    cases heq
    cases h
    rw [Sep2Model.setDerCurveList_eq hhref]
    exact ⟨rfl, rfl⟩
  · cases happlied

/-- A curve of the list is stored, after the merge, as what was last received under its href. -/
theorem stored_of_mem {m : Sep2Model} (h : s.KeepsApart list curves) {c : DERCurve}
    (hc : c ∈ curves) {href : String} (hhref : c.href = some href)
    (hcurves : m.curves = s.model.curves.insertItems (fun curve => some curve.mrid) curves) :
    ∃ d, m.curves.get? c.mrid = some d ∧ d.href = some href ∧
      (s.received.insertItems DERCurve.href curves).get? href = some d := by
  -- the last of its mRID is the last of its href
  have hsame : (curves.reverse.find? fun d => some d.mrid = some c.mrid) =
      curves.reverse.find? fun d => d.href = some href := by
    refine List.find?_congr fun d hd => ?_
    have hd := List.mem_reverse.1 hd
    rw [decide_eq_decide, Option.some_inj]
    constructor
    · intro hmrid
      rw [← hhref, ((h.distinct d hd c hc) (.inl hmrid)).2]
    · intro hhref'
      have hboth := h.distinct d hd c hc (.inr ⟨by simp [hhref'], hhref'.trans hhref.symm⟩)
      exact hboth.1
  have hsome : (curves.reverse.find? fun d => d.href = some href).isSome :=
    List.find?_isSome.2 ⟨c, List.mem_reverse.2 hc, decide_eq_true hhref⟩
  obtain ⟨d, hd⟩ := Option.isSome_iff_exists.1 hsome
  refine ⟨d, ?_, ?_, ?_⟩
  · rw [hcurves, HashMap.get?_insertItems, hsame, hd, Option.some_or]
  · have hfound := List.find?_some hd
    exact of_decide_eq_true hfound
  · rw [HashMap.get?_insertItems, hd, Option.some_or]

/-- The merge of a curve list keeps what is known. -/
theorem Tracks.merge_applied {m : Sep2Model} (hs : s.Tracks) (h : s.KeepsApart list curves)
    (hcurves : m.curves = s.model.curves.insertItems (fun curve => some curve.mrid) curves)
    (hlists : m.curveLists =
      s.model.curveLists.insert list ⟨list, curves.map DERCurve.mrid, none⟩) :
    Tracks { s.receive (some (list, curves)) with model := m } where
  items := by
    intro list' curves' hget
    by_cases hlist : list' = list
    · subst hlist
      have hcur : curves = curves' := by
        simpa [receive, HashMap.get?_insert_self] using hget
      subst hcur
      exact ⟨_, by rw [hlists, HashMap.get?_insert_self], rfl⟩
    · have hold : s.lists.get? list' = some curves' := by
        simpa [receive, HashMap.get?_insert_ne _ _ hlist] using hget
      obtain ⟨l, hl, hitems⟩ := hs.items list' curves' hold
      exact ⟨l, by rw [hlists, HashMap.get?_insert_ne _ _ hlist, hl], hitems⟩
  unique := by
    intro mrid mrid' c c' hc hc' hsome hhref
    rw [hcurves] at hc hc'
    obtain ⟨hmem, hkey⟩ | ⟨hnot, hc⟩ := HashMap.mem_or_get?_of_insertItems hc <;>
      obtain ⟨hmem', hkey'⟩ | ⟨hnot', hc'⟩ := HashMap.mem_or_get?_of_insertItems hc'
    · have hmrid := (h.distinct c hmem c' hmem' (.inr ⟨hsome, hhref⟩)).1
      rw [← Option.some.inj hkey, ← Option.some.inj hkey', hmrid]
    · have hentry := HashMap.mem_entries_iff.2 hc'
      have hnot' : ∀ d ∈ curves, d.mrid ≠ mrid' := fun d hd hd' => hnot' d hd (congrArg some hd')
      exact absurd hhref.symm (h.stored c hmem _ hentry hnot' hsome)
    · have hentry := HashMap.mem_entries_iff.2 hc
      have hnot : ∀ d ∈ curves, d.mrid ≠ mrid := fun d hd hd' => hnot d hd (congrArg some hd')
      exact absurd hhref (h.stored c' hmem' _ hentry hnot (hhref ▸ hsome))
    · exact hs.unique mrid mrid' c c' hc hc' hsome hhref
  listed := by
    intro c hlisted href hhref
    obtain ⟨list', curves', hget, hmem⟩ := hlisted
    by_cases hlist : list' = list
    · subst hlist
      have hcur : curves = curves' := by
        simpa [receive, HashMap.get?_insert_self] using hget
      subst hcur
      exact stored_of_mem h hmem hhref hcurves
    · have hold : s.lists.get? list' = some curves' := by
        simpa [receive, HashMap.get?_insert_ne _ _ hlist] using hget
      by_cases hnamed : ∃ d ∈ curves, d.mrid = c.mrid
      · -- the list sends the curve again, with the same href
        obtain ⟨d, hd, hmrid⟩ := hnamed
        have hentry := HashMap.mem_entries_iff.2 hold
        have hsame := h.listed d hd _ hentry hlist c hmem hmrid.symm
        rw [← hmrid]
        exact stored_of_mem h hd (hsame.symm.trans hhref) hcurves
      · obtain ⟨d, hd, hdhref, hreceived⟩ := hs.listed c ⟨list', curves', hold, hmem⟩ href hhref
        have hnot : ∀ d ∈ curves, d.mrid ≠ c.mrid := fun d hd hmrid => hnamed ⟨d, hd, hmrid⟩
        refine ⟨d, ?_, hdhref, ?_⟩
        · rw [hcurves, HashMap.get?_insertItems_of_forall_ne, hd]
          intro d hd hmrid
          exact hnot d hd (Option.some.inj hmrid)
        · show (s.received.insertItems DERCurve.href curves).get? href = some d
          rw [HashMap.get?_insertItems_of_forall_ne, hreceived]
          intro e he hehref
          have hentry := HashMap.mem_entries_iff.2 hd
          exact h.stored e he _ hentry hnot (by simp [hehref]) (hdhref.trans hehref.symm)

/-- The merge of anything else does. -/
theorem Tracks.merge_other {m : Sep2Model} (hs : s.Tracks) (hcurves : m.curves = s.model.curves)
    (hlists : m.curveLists = s.model.curveLists) : Tracks { s with model := m } where
  items := by
    rw [hlists]
    exact hs.items
  unique := by
    rw [hcurves]
    exact hs.unique
  listed := by
    rw [hcurves]
    exact hs.listed

/-- The sweep keeps every listed curve, since its list is linked. -/
theorem Tracks.sweep {m : Sep2Model} {order : List (MRIDType × DERCurve)} (hs : s.Tracks)
    (hm : m = s.model.sweep s.model.resourceLinks order) :
    Tracks { s with
      model := m
      lists := s.lists.retain fun list _ => list ∈ m.curveListHrefs } := by
  have hcurves : ∀ mrid c, m.curves.get? mrid = some c ↔ s.model.curves.get? mrid = some c ∧
      ∃ k ∈ s.model.resourceLinks, c.href = some k := by
    intro mrid c
    have hreorder : m.curves.get? mrid = (s.model.curves.retain fun _ curve =>
        Sep2Model.isTracked s.model.resourceLinks curve.href).get? mrid := by
      rw [hm]
      exact HashMap.get?_reorder _ _ _
    rw [hreorder, HashMap.get?_retain_eq_some, Sep2Model.isTracked_iff]
  have hlinked : ∀ list ∈ m.curveListHrefs, list ∈ s.model.curveListHrefs := by
    intro list hlist
    rw [hm] at hlist
    exact Sep2Model.curveListHrefs_sweep hlist
  constructor
  · intro list curves hget
    obtain ⟨hold, hlist⟩ := HashMap.get?_retain_eq_some.1 hget
    obtain ⟨l, hl, hitems⟩ := hs.items list curves hold
    have hhref := hlinked list (of_decide_eq_true hlist)
    have hmem := Sep2Model.mem_resourceLinks_of_curveListHref hhref (.inl rfl)
    refine ⟨l, ?_, hitems⟩
    rw [hm]
    exact (Sep2Model.get?_retain_linked hmem).trans hl
  · intro mrid mrid' c c' hc hc' hsome hhref
    exact hs.unique mrid mrid' c c' ((hcurves _ _).1 hc).1 ((hcurves _ _).1 hc').1 hsome hhref
  · intro c hlisted href hhref
    obtain ⟨list, curves, hget, hmem⟩ := hlisted
    obtain ⟨hold, hlist⟩ := HashMap.get?_retain_eq_some.1 hget
    obtain ⟨d, hd, hdhref, hreceived⟩ := hs.listed c ⟨list, curves, hold, hmem⟩ href hhref
    obtain ⟨l, hl, hitems⟩ := hs.items list curves hold
    refine ⟨d, (hcurves _ _).2 ⟨hd, href, ?_, hdhref⟩, hdhref, hreceived⟩
    refine Sep2Model.mem_resourceLinks_of_curveListHref (hlinked list (of_decide_eq_true hlist))
      (.inr ⟨d, ?_, hdhref⟩)
    exact Sep2Model.mem_listItems.2 ⟨l, hl, c.mrid, by
      rw [hitems]
      exact List.mem_map_of_mem hmem, hd⟩

theorem tracks_step (hs : s.Tracks) (hallowed : s.Allowed l) (h : s.step l = some t) :
    t.Tracks := by
  obtain ⟨⟨model, events⟩, hupdate, rfl⟩ := Option.map_eq_some_iff.1 h
  obtain ⟨merged, responses, hset, hmodel, -⟩ := Sep2Model.applyUpdate_eq_some.1 hupdate
  cases happlied : applied l.2 with
  | none =>
    obtain ⟨hcurves, hlists⟩ := curves_of_not_applied hset happlied
    exact (hs.merge_other hcurves hlists).sweep hmodel
  | some update =>
    obtain ⟨list, curves⟩ := update
    obtain ⟨hcurves, hlists⟩ := curves_of_applied hset happlied
    exact (hs.merge_applied (hallowed _ happlied) hcurves hlists).sweep hmodel

/-! ## The lookup -/

/-- Where no two stored curves share an href, the lookup finds the one that has it. -/
theorem getCurveByHref_eq {m : Sep2Model} (hunique : ∀ mrid mrid' c c',
      m.curves.get? mrid = some c → m.curves.get? mrid' = some c' → c.href.isSome →
      c.href = c'.href → mrid = mrid') {mrid : MRIDType} {c : DERCurve} {href : String}
    (hget : m.curves.get? mrid = some c) (hhref : c.href = some href) :
    m.getCurveByHref href = some c := by
  have hmem : c ∈ m.curves.values := HashMap.mem_values_iff.2 ⟨mrid, hget⟩
  unfold Sep2Model.getCurveByHref
  cases hfind : m.curves.values.find? fun curve => curve.href = some href with
  | none => exact absurd (decide_eq_true hhref) (List.find?_eq_none.1 hfind c hmem)
  | some d =>
    obtain ⟨mrid', hget'⟩ := HashMap.mem_values_iff.1 (List.mem_of_find?_eq_some hfind)
    have hd := List.find?_some hfind
    have hsame : c.href = d.href := hhref.trans (of_decide_eq_true hd).symm
    have hmrid := hunique mrid mrid' c d hget hget' (by simp [hhref]) hsame
    rw [hmrid, hget'] at hget
    exact hget

theorem Tracks.curvesFound (hs : s.Tracks) : s.CurvesFound where
  order := by
    intro href es
    cases hfind : s.model.getCurveByHref href with
    | some c =>
      obtain ⟨mrid, hget⟩ := HashMap.mem_values_iff.1 (List.mem_of_find?_eq_some hfind)
      have hhref := List.find?_some hfind
      have hreorder : (s.model.curves.reorder es).get? mrid = some c := by
        rw [HashMap.get?_reorder]
        exact hget
      refine getCurveByHref_eq ?_ hreorder (of_decide_eq_true hhref)
      simp only [HashMap.get?_reorder]
      exact hs.unique
    | none =>
      refine List.find?_eq_none.2 fun c hc => ?_
      obtain ⟨mrid, hget⟩ := HashMap.mem_values_iff.1 hc
      rw [HashMap.get?_reorder] at hget
      exact List.find?_eq_none.1 hfind c (HashMap.mem_values_iff.2 ⟨mrid, hget⟩)
  listed := by
    intro c hlisted href hhref
    obtain ⟨d, hget, hdhref, hreceived⟩ := hs.listed c hlisted href hhref
    exact ⟨d, hreceived, getCurveByHref_eq hs.unique hget hdhref⟩

/-- **A lookup by href finds the curve last received under it**, in every run whose curve lists
give no stored curve's href to another mRID. -/
theorem curves_found {ls : List (Surroundings × Sep2ResourceEvent)}
    (h : Exec step Allowed {} ls t) : t.CurvesFound := by
  have htracks : t.Tracks := by
    refine h.invariant ?_ fun s l t hs hallowed hstep => tracks_step hs hallowed hstep
    constructor
    · intro list curves hget
      cases hget
    · intro mrid mrid' c c' hget
      cases hget
    · intro c hlisted
      obtain ⟨list, curves, hget, -⟩ := hlisted
      cases hget
  exact htracks.curvesFound

/-! ## A curve that is replaced under its href -/

instance (s : CurveFeed) (list : String) (curves : List DERCurve) :
    Decidable (s.KeepsApart list curves) :=
  decidable_of_iff
    ((∀ c ∈ curves, ∀ e ∈ s.model.curves.entries, (∀ d ∈ curves, d.mrid ≠ e.1) →
        c.href.isSome → e.2.href ≠ c.href) ∧
      (∀ c ∈ curves, ∀ d ∈ curves, c.mrid = d.mrid ∨ (c.href.isSome ∧ c.href = d.href) →
        c.mrid = d.mrid ∧ c.href = d.href) ∧
      ∀ c ∈ curves, ∀ e ∈ s.lists.entries, e.1 ≠ list → ∀ d ∈ e.2, d.mrid = c.mrid →
        d.href = c.href)
    ⟨fun h => ⟨h.1, h.2.1, h.2.2⟩, fun h => ⟨h.1, h.2, h.3⟩⟩

instance (s : CurveFeed) (l : Surroundings × Sep2ResourceEvent) : Decidable (s.Allowed l) := by
  unfold Allowed; infer_instance

instance (s : CurveFeed) : Decidable s.DistinctHrefs :=
  decidable_of_iff
    (∀ e ∈ s.lists.entries, ∀ c ∈ e.2, ∀ e' ∈ s.lists.entries, ∀ c' ∈ e'.2,
      c.href = c'.href → c.href.isSome → c.mrid = c'.mrid)
    ⟨fun h c c' ⟨_, _, hlist, hc⟩ ⟨_, _, hlist', hc'⟩ =>
        h _ (HashMap.mem_entries_iff.2 hlist) c hc _ (HashMap.mem_entries_iff.2 hlist') c' hc',
      fun h _ he c hc _ he' c' hc' =>
        h c c' ⟨_, _, HashMap.mem_entries_iff.1 he, hc⟩ ⟨_, _, HashMap.mem_entries_iff.1 he', hc'⟩⟩

/-- After the update no two curves of the current lists share an href. -/
def Served (s : CurveFeed) (l : Surroundings × Sep2ResourceEvent) : Prop :=
  ∀ t ∈ s.step l, t.DistinctHrefs

instance (s : CurveFeed) (l : Surroundings × Sep2ResourceEvent) : Decidable (s.Served l) := by
  unfold Served; infer_instance

/-- One device, with one assignment and one program. -/
def oneProgram : List (Surroundings × Sep2ResourceEvent) := [
  plainUpdate (.endDeviceList
    { href := some "/edev"
      endDevice := [{ href := some "/edev/1", lfdi := some 1,
                      functionSetAssignmentsListLink := some ⟨"/fsa"⟩ }] }),
  plainUpdate (.functionSetAssignmentsList
    { href := some "/fsa"
      functionSetAssignments := [{ mrid := 1, href := some "/fsa/1",
                                   derProgramListLink := some ⟨"/derp"⟩ }] }),
  plainUpdate (.derProgramList
    { href := some "/derp"
      derProgram := [{ mrid := 2, href := some "/derp/1", derCurveListLink := some ⟨"/dc"⟩ }] })]

/-- The curve list of the program, with one curve. -/
def oneCurve (mrid : MRIDType) (href : String) : Surroundings × Sep2ResourceEvent :=
  plainUpdate (.derCurveList { href := some "/dc", derCurve := [{ mrid, href := some href }] })

theorem curves_found_oneCurve : ∃ t : CurveFeed,
    run step {} (oneProgram ++ [oneCurve 3 "/dc/1", oneCurve 4 "/dc/2"]) = some t ∧
      t.lists.get? "/dc" = some [{ mrid := 4, href := some "/dc/2" }] ∧ t.CurvesFound := by
  have hruns : ((runIf step Allowed {}
      (oneProgram ++ [oneCurve 3 "/dc/1", oneCurve 4 "/dc/2"])).any fun t =>
        t.lists.get? "/dc" = some [{ mrid := 4, href := some "/dc/2" }]) = true := by
    decide +kernel
  obtain ⟨t, ht, hlist⟩ := (Option.any_eq_true _ _).1 hruns
  have hexec := exec_iff_runIf.2 ht
  have hrun := exec_true_iff.1 (hexec.weaken fun _ _ _ => trivial)
  exact ⟨t, hrun, of_decide_eq_true hlist, curves_found hexec⟩

/-- The server replaces the curve by one with another mRID, and the old one is found. -/
theorem replaced_curve_found :
    ¬∀ (ls : List (Surroundings × Sep2ResourceEvent)) (t : CurveFeed),
      Exec step Served {} ls t → t.CurvesFound := by
  intro h
  have hruns : ((runIf step Served {}
      (oneProgram ++ [oneCurve 3 "/dc/1", oneCurve 4 "/dc/1"])).any fun t =>
        t.lists.get? "/dc" = some [{ mrid := 4, href := some "/dc/1" }] ∧
          t.received.get? "/dc/1" ≠ t.model.getCurveByHref "/dc/1") = true := by
    decide +kernel
  obtain ⟨t, ht, hstate⟩ := (Option.any_eq_true _ _).1 hruns
  obtain ⟨hlist, hne⟩ := of_decide_eq_true hstate
  obtain ⟨curve, hreceived, hfound⟩ := (h _ t (exec_iff_runIf.2 ht)).listed _
    ⟨_, _, hlist, List.mem_singleton_self _⟩ "/dc/1" rfl
  exact hne (hreceived.trans hfound.symm)

end CurveFeed

end Sep2Bridge
