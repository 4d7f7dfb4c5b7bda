import Sep2Bridge.Scheduler.Sep2Model

/-!
# What a merge leaves alone

An update changes the tables of its own resource and no others. For devices and curves, which are
stored under their LFDI and their mRID, this says what a table holds after a list was merged in.
-/

namespace Sep2Bridge.Sep2Model

open Lib

variable {m m' : Sep2Model}

/-! ## Devices -/

theorem setEndDevice_eq (m : Sep2Model) (edev : EndDevice) :
    m.setEndDevice edev =
      { m with endDevices := m.endDevices.insertItems EndDevice.lfdi [edev] } := by
  unfold setEndDevice HashMap.insertItems
  cases h : edev.lfdi <;> simp [h]

theorem foldl_setEndDevice (edevs : List EndDevice) (m : Sep2Model) :
    edevs.foldl setEndDevice m =
      { m with endDevices := m.endDevices.insertItems EndDevice.lfdi edevs } := by
  induction edevs generalizing m with
  | nil => rfl
  | cons edev edevs ih =>
    rw [List.foldl_cons, ih, setEndDevice_eq]
    rfl

theorem setEndDeviceList_eq {edl : EndDeviceList} {href : String} (h : edl.href = some href) :
    m.setEndDeviceList edl = { m with
      endDeviceList := some ⟨href, edl.endDevice.filterMap EndDevice.lfdi, edl.pollRate⟩
      endDevices := m.endDevices.insertItems EndDevice.lfdi edl.endDevice } := by
  simp only [setEndDeviceList, h, foldl_setEndDevice]

/-! ## Curves -/

theorem foldl_setDerCurve (curves : List DERCurve) (m : Sep2Model) :
    curves.foldl setDerCurve m =
      { m with curves := m.curves.insertItems (fun curve => some curve.mrid) curves } := by
  induction curves generalizing m with
  | nil => rfl
  | cons curve curves ih =>
    rw [List.foldl_cons, ih]
    rfl

theorem setDerCurveList_eq {cl : DERCurveList} {href : String} (h : cl.href = some href) :
    m.setDerCurveList cl = { m with
      curveLists := m.curveLists.insert href ⟨href, cl.derCurve.map DERCurve.mrid, none⟩
      curves := m.curves.insertItems (fun curve => some curve.mrid) cl.derCurve } := by
  simp only [setDerCurveList, h, foldl_setDerCurve]

/-! ## Assignments and programs -/

theorem foldl_setFunctionSetAssignments (fsas : List FunctionSetAssignments) (m : Sep2Model) :
    fsas.foldl setFunctionSetAssignments m = { m with
      functionSetAssignments :=
        m.functionSetAssignments.insertItems (fun fsa => some fsa.mrid) fsas } := by
  induction fsas generalizing m with
  | nil => rfl
  | cons fsa fsas ih =>
    rw [List.foldl_cons, ih]
    rfl

theorem setFunctionSetAssignmentsList_eq {fsal : FunctionSetAssignmentsList} {href : String}
    (h : fsal.href = some href) : m.setFunctionSetAssignmentsList fsal = { m with
      functionSetAssignmentsLists := m.functionSetAssignmentsLists.insert href
        ⟨href, fsal.functionSetAssignments.map FunctionSetAssignments.mrid, fsal.pollRate⟩
      functionSetAssignments := m.functionSetAssignments.insertItems (fun fsa => some fsa.mrid)
        fsal.functionSetAssignments } := by
  simp only [setFunctionSetAssignmentsList, h, foldl_setFunctionSetAssignments]

theorem foldl_setDerProgram (derps : List DERProgram) (m : Sep2Model) :
    derps.foldl setDerProgram m =
      { m with programs := m.programs.insertItems (fun derp => some derp.mrid) derps } := by
  induction derps generalizing m with
  | nil => rfl
  | cons derp derps ih =>
    rw [List.foldl_cons, ih]
    rfl

theorem setDerProgramList_eq {derpl : DERProgramList} {href : String} (h : derpl.href = some href) :
    m.setDerProgramList derpl = { m with
      programLists := m.programLists.insert href
        ⟨href, derpl.derProgram.map DERProgram.mrid, derpl.pollRate⟩
      programs := m.programs.insertItems (fun derp => some derp.mrid) derpl.derProgram } := by
  simp only [setDerProgramList, h, foldl_setDerProgram]

/-! ## Controls -/

theorem derControl_of_realise {draw : Draw} {c : DERControl} {control : ScheduledControl}
    (h : realise draw c = some control) : control.derControl = c := by
  obtain ⟨_, -, h⟩ := Option.bind_eq_some_iff.1 h
  obtain ⟨_, -, h⟩ := Option.bind_eq_some_iff.1 h
  cases h
  rfl

/-- What one control does: a stored one is updated in place, a new one is realised. -/
theorem setDerControl_cases {draw : Draw} {c : DERControl} {es : List Event}
    (h : m.setDerControl draw c = some (m', es)) :
    ∃ control : ScheduledControl, control.derControl = c ∧
      m' = { m with controls := m.controls.insert c.mrid control } ∧
      ((∃ stored, m.controls.get? c.mrid = some stored ∧
          control = { stored with derControl := c } ∧
          es = (statusChangeEvent stored.derControl.currentStatus c).toList) ∨
        (m.controls.get? c.mrid = none ∧ realise draw c = some control ∧
          es = firstEvents draw.now control)) := by
  unfold setDerControl at h
  split at h
  · next stored hstored =>
    obtain ⟨rfl, rfl⟩ := Prod.mk.inj (Option.some.inj h)
    exact ⟨_, rfl, rfl, .inl ⟨stored, hstored, rfl, rfl⟩⟩
  · next hvacant =>
    obtain ⟨control, hcontrol, h⟩ := Option.bind_eq_some_iff.1 h
    obtain ⟨rfl, rfl⟩ := Prod.mk.inj (Option.some.inj h)
    exact ⟨control, derControl_of_realise hcontrol, rfl, .inr ⟨hvacant, hcontrol, rfl⟩⟩

theorem setDerControls_cons {draws : Nat → Draw} {c : DERControl} {cs : List DERControl}
    {es : List Event} (h : setDerControls draws m (c :: cs) = some (m', es)) :
    ∃ m₁ es₁ es₂, m.setDerControl (draws 0) c = some (m₁, es₁) ∧
      setDerControls (fun i => draws (i + 1)) m₁ cs = some (m', es₂) ∧ es = es₁ ++ es₂ := by
  obtain ⟨⟨m₁, es₁⟩, hfirst, h⟩ := Option.bind_eq_some_iff.1 h
  obtain ⟨⟨m₂, es₂⟩, hrest, h⟩ := Option.bind_eq_some_iff.1 h
  obtain ⟨rfl, rfl⟩ := Prod.mk.inj (Option.some.inj h)
  exact ⟨m₁, es₁, es₂, hfirst, hrest, rfl⟩

/-- A control list is merged control by control, into a model with the same controls. -/
theorem setDerControlList_cases {draws : Nat → Draw} {dercl : DERControlList} {es : List Event}
    (h : m.setDerControlList draws dercl = some (m', es)) :
    (dercl.href = none ∧ m' = m ∧ es = []) ∨
      ∃ href, dercl.href = some href ∧ ∃ m₀ : Sep2Model, m₀.controls = m.controls ∧
        setDerControls draws m₀ dercl.derControl = some (m', es) := by
  simp only [setDerControlList] at h
  split at h
  · next hhref =>
    cases h
    exact .inl ⟨hhref, rfl, rfl⟩
  · next href hhref =>
    refine .inr ⟨href, hhref, _, ?_, h⟩
    rfl

theorem setDerControls_eq {draws : Nat → Draw} {cs : List DERControl} {es : List Event}
    (h : setDerControls draws m cs = some (m', es)) : m' = { m with controls := m'.controls } := by
  induction cs generalizing draws m es with
  | nil =>
    cases h
    rfl
  | cons c cs ih =>
    obtain ⟨m₁, es₁, es₂, hfirst, hrest, rfl⟩ := setDerControls_cons h
    obtain ⟨control, -, hm₁, -⟩ := setDerControl_cases hfirst
    rw [ih hrest, hm₁]

/-- A control that is not on the list is left alone. -/
theorem get?_setDerControls_of_forall_ne {draws : Nat → Draw} {cs : List DERControl}
    {es : List Event} {mrid : MRIDType} (hnot : ∀ c ∈ cs, c.mrid ≠ mrid)
    (h : setDerControls draws m cs = some (m', es)) :
    m'.controls.get? mrid = m.controls.get? mrid := by
  induction cs generalizing draws m es with
  | nil =>
    cases h
    rfl
  | cons c cs ih =>
    obtain ⟨m₁, es₁, es₂, hfirst, hrest, rfl⟩ := setDerControls_cons h
    obtain ⟨control, -, rfl, -⟩ := setDerControl_cases hfirst
    rw [ih (fun c hc => hnot c (List.mem_cons_of_mem _ hc)) hrest]
    exact HashMap.get?_insert_ne _ _ (Ne.symm (hnot c List.mem_cons_self))

/-- Each control of a list without repetition is stored as it came. -/
theorem get?_setDerControls {draws : Nat → Draw} {cs : List DERControl} {es : List Event}
    (hnodup : (cs.map DERControl.mrid).Nodup) (h : setDerControls draws m cs = some (m', es)) :
    ∀ c ∈ cs, ∃ control, m'.controls.get? c.mrid = some control ∧ control.derControl = c := by
  induction cs generalizing draws m es with
  | nil => exact fun c hc => absurd hc List.not_mem_nil
  | cons c cs ih =>
    rw [List.map_cons, List.nodup_cons] at hnodup
    obtain ⟨m₁, es₁, es₂, hfirst, hrest, rfl⟩ := setDerControls_cons h
    intro d hd
    rcases List.mem_cons.1 hd with rfl | hd
    · obtain ⟨control, hcontrol, rfl, -⟩ := setDerControl_cases hfirst
      refine ⟨control, ?_, hcontrol⟩
      rw [get?_setDerControls_of_forall_ne ?_ hrest]
      · exact HashMap.get?_insert_self _ _ _
      · exact fun c hc hmrid => hnodup.1 (List.mem_map.2 ⟨c, hc, hmrid⟩)
    · exact ih hnodup.2 hrest d hd

/-- Controls that are stored as they come change nothing and need no response. -/
theorem setDerControls_eq_self {draws : Nat → Draw} {cs : List DERControl}
    (h : ∀ c ∈ cs, ∃ control, m.controls.get? c.mrid = some control ∧ control.derControl = c) :
    setDerControls draws m cs = some (m, []) := by
  induction cs generalizing draws with
  | nil => rfl
  | cons c cs ih =>
    obtain ⟨control, hget, rfl⟩ := h c List.mem_cons_self
    have hfirst : m.setDerControl (draws 0) control.derControl = some (m, []) := by
      have hinsert := HashMap.insert_eq_self hget
      simp [setDerControl, hget, hinsert, statusChangeEvent]
    simp [setDerControls, hfirst, ih fun c hc => h c (List.mem_cons_of_mem _ hc)]

/-! ## Other resources -/

/-- Devices change with their list only, and curves with theirs. -/
theorem setResource_frame {draws : Nat → Draw} {u : Sep2ResourceEvent} {es : List Event}
    (h : m.setResource draws u = some (m', es)) :
    ((∀ edl, u ≠ .endDeviceList edl) →
      m'.endDevices = m.endDevices ∧ m'.endDeviceList = m.endDeviceList) ∧
    ((∀ cl, u ≠ .derCurveList cl) → m'.curves = m.curves ∧ m'.curveLists = m.curveLists) := by
  cases u with
  | endDeviceList edl =>
    refine ⟨fun hother => absurd rfl (hother edl), fun _ => ?_⟩
    cases h
    simp only [setEndDeviceList]
    split
    · exact ⟨rfl, rfl⟩
    · rw [foldl_setEndDevice]
      exact ⟨rfl, rfl⟩
  | derCurveList cl =>
    refine ⟨fun _ => ?_, fun hother => absurd rfl (hother cl)⟩
    cases h
    simp only [setDerCurveList]
    split
    · exact ⟨rfl, rfl⟩
    · rw [foldl_setDerCurve]
      exact ⟨rfl, rfl⟩
  | derControlList dercl =>
    simp only [setResource, setDerControlList] at h
    split at h
    · cases h
      exact ⟨fun _ => ⟨rfl, rfl⟩, fun _ => ⟨rfl, rfl⟩⟩
    · rw [setDerControls_eq h]
      exact ⟨fun _ => ⟨rfl, rfl⟩, fun _ => ⟨rfl, rfl⟩⟩
  | functionSetAssignmentsList fsal =>
    cases h
    simp only [setFunctionSetAssignmentsList]
    split
    · exact ⟨fun _ => ⟨rfl, rfl⟩, fun _ => ⟨rfl, rfl⟩⟩
    · rw [foldl_setFunctionSetAssignments]
      exact ⟨fun _ => ⟨rfl, rfl⟩, fun _ => ⟨rfl, rfl⟩⟩
  | derProgramList derpl =>
    cases h
    simp only [setDerProgramList]
    split
    · exact ⟨fun _ => ⟨rfl, rfl⟩, fun _ => ⟨rfl, rfl⟩⟩
    · rw [foldl_setDerProgram]
      exact ⟨fun _ => ⟨rfl, rfl⟩, fun _ => ⟨rfl, rfl⟩⟩
  | defaultDerControl dderc =>
    cases h
    simp only [setDefaultDerControl]
    split <;> exact ⟨fun _ => ⟨rfl, rfl⟩, fun _ => ⟨rfl, rfl⟩⟩
  | derList derl =>
    cases h
    simp only [setDerList]
    split <;> exact ⟨fun _ => ⟨rfl, rfl⟩, fun _ => ⟨rfl, rfl⟩⟩
  | _ =>
    cases h
    exact ⟨fun _ => ⟨rfl, rfl⟩, fun _ => ⟨rfl, rfl⟩⟩

end Sep2Bridge.Sep2Model
