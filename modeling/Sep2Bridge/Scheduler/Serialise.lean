import Sep2Bridge.Lib.Json
import Sep2Bridge.Scheduler.Sep2Model

/-!
# The persisted form of the model

How `Sep2Model` is written as JSON and read back: each SEP2 value as its XML text inside a string,
through the helpers `yaserde`, `yaserde_vec`, `yaserde_opt`, `yaserde_map_both`,
`yaserde_map_keys` and `yaserde_map_values`, and the structures as objects with a field for each
member.

The text forms of the values are those of sepserde, data here. If they give each value of a model
back, then so does the document the whole model (`deserialize_model`), up to the order in which
its maps are visited.
-/

namespace Sep2Bridge

open Lib

/-! ## Helpers -/

/-- sepserde: the text forms of the values that are persisted. -/
structure Sepserde where
  time : Text Time
  deviceCapability : Text DeviceCapability
  mirrorUsagePointList : Text MirrorUsagePointList
  derList : Text DERList
  endDevice : Text EndDevice
  functionSetAssignments : Text FunctionSetAssignments
  derProgram : Text DERProgram
  derControl : Text DERControl
  derCurve : Text DERCurve
  defaultDerControl : Text DefaultDERControl
  mridType : Text MRIDType
  hexBinary160 : Text HexBinary160
  int64 : Text Int
  uint32 : Text UInt32

/-- A string is its own key. -/
def plain : Text String := ⟨id, some⟩

def string : Serde String := .ofString plain

def yaserde {T : Type} (c : Text T) : Serde T := .ofString c

def yaserdeVec {T : Type} (c : Text T) : Serde (List T) := (Serde.ofString c).vec

def yaserdeOpt {T : Type} (c : Text T) : Serde (Option T) := (Serde.ofString c).opt

def yaserdeMapBoth {K V : Type} [DecidableEq K] (hasher : Serde.Hasher) (k : Text K) (v : Text V) :
    Serde (HashMap K V) :=
  .map hasher k (.ofString v)

def yaserdeMapKeys {K V : Type} [DecidableEq K] (hasher : Serde.Hasher) (k : Text K)
    (v : Serde V) : Serde (HashMap K V) :=
  .map hasher k v

def yaserdeMapValues {V : Type} (hasher : Serde.Hasher) (v : Text V) : Serde (HashMap String V) :=
  .map hasher plain (.ofString v)

/-- Read a field that must be there. -/
def readField {T : Type} (c : Serde T) (name : String) (j : Json) : Option T :=
  (j.field name).bind c.deserialize

/-! ## The structures -/

namespace Sepserde

variable (s : Sepserde) (hasher : Serde.Hasher)

def idList {T : Type} (c : Text T) : Serde (IDList T) where
  serialize list := .obj [
    ("href", string.serialize list.href),
    ("items", (yaserdeVec c).serialize list.items),
    ("poll_rate", (yaserdeOpt s.uint32).serialize list.pollRate)]
  deserialize j := do
    let href ← readField string "href" j
    let items ← readField (yaserdeVec c) "items" j
    let pollRate ← readField (yaserdeOpt s.uint32) "poll_rate" j
    return { href, items, pollRate }

def scheduledControl : Serde ScheduledControl where
  serialize control := .obj [
    ("der_control", (yaserde s.derControl).serialize control.derControl),
    ("start_time", (yaserde s.int64).serialize control.startTime),
    ("duration", (yaserde s.uint32).serialize control.duration)]
  deserialize j := do
    let derControl ← readField (yaserde s.derControl) "der_control" j
    let startTime ← readField (yaserde s.int64) "start_time" j
    let duration ← readField (yaserde s.uint32) "duration" j
    return { derControl, startTime, duration }

/-- The lists by href. -/
def mridLists : Serde (HashMap String MRIDList) := .map hasher plain (s.idList s.mridType)

def sep2ModelFields (m : Sep2Model) : List (String × Json) := [
  ("time", (yaserde s.time).serialize m.time),
  ("function_set_assignments_lists",
    (s.mridLists hasher).serialize m.functionSetAssignmentsLists),
  ("program_lists", (s.mridLists hasher).serialize m.programLists),
  ("control_lists", (s.mridLists hasher).serialize m.controlLists),
  ("curve_lists", (s.mridLists hasher).serialize m.curveLists),
  ("end_device_list", (s.idList s.hexBinary160).opt.serialize m.endDeviceList),
  ("dcap", (yaserdeOpt s.deviceCapability).serialize m.dcap),
  ("mirror_usage_point_list",
    (yaserdeOpt s.mirrorUsagePointList).serialize m.mirrorUsagePointList),
  ("der_lists", (yaserdeMapValues hasher s.derList).serialize m.derLists),
  ("end_devices", (yaserdeMapBoth hasher s.hexBinary160 s.endDevice).serialize m.endDevices),
  ("function_set_assignments",
    (yaserdeMapBoth hasher s.mridType s.functionSetAssignments).serialize
      m.functionSetAssignments),
  ("programs", (yaserdeMapBoth hasher s.mridType s.derProgram).serialize m.programs),
  ("controls", (yaserdeMapKeys hasher s.mridType s.scheduledControl).serialize m.controls),
  ("curves", (yaserdeMapBoth hasher s.mridType s.derCurve).serialize m.curves),
  ("default_controls",
    (yaserdeMapValues hasher s.defaultDerControl).serialize m.defaultControls)]

def sep2Model : Serde Sep2Model where
  serialize m := .obj (s.sep2ModelFields hasher m)
  deserialize j := do
    let time ← readField (yaserde s.time) "time" j
    let functionSetAssignmentsLists ←
      readField (s.mridLists hasher) "function_set_assignments_lists" j
    let programLists ← readField (s.mridLists hasher) "program_lists" j
    let controlLists ← readField (s.mridLists hasher) "control_lists" j
    let curveLists ← readField (s.mridLists hasher) "curve_lists" j
    -- an optional field without a helper may be missing
    let endDeviceList ←
      match j.field "end_device_list" with
      | none => some none
      | some j => (s.idList s.hexBinary160).opt.deserialize j
    let dcap ← readField (yaserdeOpt s.deviceCapability) "dcap" j
    let mirrorUsagePointList ←
      readField (yaserdeOpt s.mirrorUsagePointList) "mirror_usage_point_list" j
    let derLists ← readField (yaserdeMapValues hasher s.derList) "der_lists" j
    let endDevices ←
      readField (yaserdeMapBoth hasher s.hexBinary160 s.endDevice) "end_devices" j
    let functionSetAssignments ←
      readField (yaserdeMapBoth hasher s.mridType s.functionSetAssignments)
        "function_set_assignments" j
    let programs ← readField (yaserdeMapBoth hasher s.mridType s.derProgram) "programs" j
    let controls ← readField (yaserdeMapKeys hasher s.mridType s.scheduledControl) "controls" j
    let curves ← readField (yaserdeMapBoth hasher s.mridType s.derCurve) "curves" j
    let defaultControls ←
      readField (yaserdeMapValues hasher s.defaultDerControl) "default_controls" j
    return { time, functionSetAssignmentsLists, programLists, controlLists, curveLists,
             endDeviceList, dcap, mirrorUsagePointList, derLists, endDevices,
             functionSetAssignments, programs, controls, curves, defaultControls }

/-! ## What sepserde is relied on for -/

/-- The values of a list are given back. -/
structure KeepsList {T : Type} (c : Text T) (list : IDList T) : Prop where
  items : ∀ id ∈ list.items, c.Keeps id
  pollRate : ∀ rate ∈ list.pollRate, s.uint32.Keeps rate

/-- The values of a control with its realised interval are given back. -/
structure KeepsControl (control : ScheduledControl) : Prop where
  derControl : s.derControl.Keeps control.derControl
  startTime : s.int64.Keeps control.startTime
  duration : s.uint32.Keeps control.duration

/-- Each single value of the model is given back from its text. -/
structure Keeps (m : Sep2Model) : Prop where
  time : s.time.Keeps m.time
  functionSetAssignmentsLists :
    ∀ e ∈ m.functionSetAssignmentsLists.entries, s.KeepsList s.mridType e.2
  programLists : ∀ e ∈ m.programLists.entries, s.KeepsList s.mridType e.2
  controlLists : ∀ e ∈ m.controlLists.entries, s.KeepsList s.mridType e.2
  curveLists : ∀ e ∈ m.curveLists.entries, s.KeepsList s.mridType e.2
  endDeviceList : ∀ list ∈ m.endDeviceList, s.KeepsList s.hexBinary160 list
  dcap : ∀ dcap ∈ m.dcap, s.deviceCapability.Keeps dcap
  mirrorUsagePointList : ∀ list ∈ m.mirrorUsagePointList, s.mirrorUsagePointList.Keeps list
  derLists : ∀ e ∈ m.derLists.entries, s.derList.Keeps e.2
  endDevices : ∀ e ∈ m.endDevices.entries, s.hexBinary160.Keeps e.1 ∧ s.endDevice.Keeps e.2
  functionSetAssignments : ∀ e ∈ m.functionSetAssignments.entries,
    s.mridType.Keeps e.1 ∧ s.functionSetAssignments.Keeps e.2
  programs : ∀ e ∈ m.programs.entries, s.mridType.Keeps e.1 ∧ s.derProgram.Keeps e.2
  controls : ∀ e ∈ m.controls.entries, s.mridType.Keeps e.1 ∧ s.KeepsControl e.2
  curves : ∀ e ∈ m.curves.entries, s.mridType.Keeps e.1 ∧ s.derCurve.Keeps e.2
  defaultControls : ∀ e ∈ m.defaultControls.entries, s.defaultDerControl.Keeps e.2

end Sepserde

/-! ## The same model -/

/-- The same model up to the order in which its maps are visited, which is no part of a map. -/
structure Sep2Model.Same (m m' : Sep2Model) : Prop where
  time : m'.time = m.time
  functionSetAssignmentsLists :
    ∀ href, m'.functionSetAssignmentsLists.get? href = m.functionSetAssignmentsLists.get? href
  programLists : ∀ href, m'.programLists.get? href = m.programLists.get? href
  controlLists : ∀ href, m'.controlLists.get? href = m.controlLists.get? href
  curveLists : ∀ href, m'.curveLists.get? href = m.curveLists.get? href
  endDeviceList : m'.endDeviceList = m.endDeviceList
  dcap : m'.dcap = m.dcap
  mirrorUsagePointList : m'.mirrorUsagePointList = m.mirrorUsagePointList
  derLists : ∀ href, m'.derLists.get? href = m.derLists.get? href
  endDevices : ∀ lfdi, m'.endDevices.get? lfdi = m.endDevices.get? lfdi
  functionSetAssignments :
    ∀ mrid, m'.functionSetAssignments.get? mrid = m.functionSetAssignments.get? mrid
  programs : ∀ mrid, m'.programs.get? mrid = m.programs.get? mrid
  controls : ∀ mrid, m'.controls.get? mrid = m.controls.get? mrid
  curves : ∀ mrid, m'.curves.get? mrid = m.curves.get? mrid
  defaultControls : ∀ href, m'.defaultControls.get? href = m.defaultControls.get? href

theorem Sep2Model.Same.refl (m : Sep2Model) : m.Same m := by
  constructor <;> first | rfl | exact fun _ => rfl

/-- The model with its maps visited as they are after being read. -/
def Sep2Model.visit (hasher : Serde.Hasher) (m : Sep2Model) : Sep2Model :=
  { m with
    functionSetAssignmentsLists := hasher.visit m.functionSetAssignmentsLists
    programLists := hasher.visit m.programLists
    controlLists := hasher.visit m.controlLists
    curveLists := hasher.visit m.curveLists
    derLists := hasher.visit m.derLists
    endDevices := hasher.visit m.endDevices
    functionSetAssignments := hasher.visit m.functionSetAssignments
    programs := hasher.visit m.programs
    controls := hasher.visit m.controls
    curves := hasher.visit m.curves
    defaultControls := hasher.visit m.defaultControls }

theorem Sep2Model.same_visit (hasher : Serde.Hasher) (m : Sep2Model) : m.Same (m.visit hasher) := by
  constructor <;> first | rfl | exact fun _ => hasher.get?_visit _ _

/-! ## The round trip -/

section RoundTrip

variable {s : Sepserde} {hasher : Serde.Hasher}

/-- A field of an object with distinct names is found. -/
theorem field_obj {fields : List (String × Json)} (hnames : (fields.map Prod.fst).Nodup)
    {name : String} {j : Json} {i : Nat} (hfield : fields[i]? = some (name, j)) :
    (Json.obj fields).field name = some j :=
  (HashMap.lookup_eq_some_iff_mem hnames).2 (List.mem_of_getElem? hfield)

theorem readField_obj {T : Type} {c : Serde T} {value value' : T} {fields : List (String × Json)}
    (hnames : (fields.map Prod.fst).Nodup) {name : String} {i : Nat}
    (hfield : fields[i]? = some (name, c.serialize value)) (hc : c.Returns value value') :
    readField c name (.obj fields) = some value' := by
  rw [readField, field_obj hnames hfield]
  exact hc.1

theorem bind_of_eq {α β : Type} {x : Option α} {f : α → Option β} {a : α} {b : β}
    (hx : x = some a) (hf : f a = some b) : x >>= f = some b := by
  rw [hx]
  exact hf

theorem keeps_string (value : String) : string.Keeps value := Serde.keeps_ofString rfl

theorem keeps_yaserdeVec {T : Type} {c : Text T} {values : List T}
    (h : ∀ value ∈ values, c.Keeps value) : (yaserdeVec c).Keeps values :=
  Serde.keeps_vec fun value hvalue => Serde.keeps_ofString (h value hvalue)

theorem keeps_yaserdeOpt {T : Type} {c : Text T} {value : Option T}
    (h : ∀ v ∈ value, c.Keeps v) : (yaserdeOpt c).Keeps value :=
  Serde.keeps_opt (fun _ h => by cases h) fun v hv => Serde.keeps_ofString (h v hv)

theorem keeps_idList {T : Type} {c : Text T} {list : IDList T} (h : s.KeepsList c list) :
    (s.idList c).Keeps list := by
  have hhref := keeps_string list.href
  have hitems := keeps_yaserdeVec h.items
  have hrate := keeps_yaserdeOpt h.pollRate
  constructor
  · simp [Sepserde.idList, readField, Json.field, List.lookup_cons, hhref.1, hitems.1, hrate.1]
  · refine .obj (by simp) fun f hf => ?_
    simp only [List.mem_cons, List.not_mem_nil, or_false] at hf
    obtain rfl | rfl | rfl := hf
    · exact hhref.2
    · exact hitems.2
    · exact hrate.2

theorem keeps_scheduledControl {control : ScheduledControl} (h : s.KeepsControl control) :
    s.scheduledControl.Keeps control := by
  have hcontrol : (yaserde s.derControl).Keeps _ := Serde.keeps_ofString h.derControl
  have hstart : (yaserde s.int64).Keeps _ := Serde.keeps_ofString h.startTime
  have hduration : (yaserde s.uint32).Keeps _ := Serde.keeps_ofString h.duration
  constructor
  · simp [Sepserde.scheduledControl, readField, Json.field, List.lookup_cons, hcontrol.1,
      hstart.1, hduration.1]
  · refine .obj (by simp) fun f hf => ?_
    simp only [List.mem_cons, List.not_mem_nil, or_false] at hf
    obtain rfl | rfl | rfl := hf
    · exact hcontrol.2
    · exact hstart.2
    · exact hduration.2

theorem returns_mridLists (hasher : Serde.Hasher) {lists : HashMap String MRIDList}
    (h : ∀ e ∈ lists.entries, s.KeepsList s.mridType e.2) :
    (s.mridLists hasher).Returns lists (hasher.visit lists) :=
  Serde.returns_map (fun _ _ => rfl) fun e he => keeps_idList (h e he)

theorem returns_yaserdeMapBoth (hasher : Serde.Hasher) {K V : Type} [DecidableEq K]
    {k : Text K} {v : Text V} {m : HashMap K V} (h : ∀ e ∈ m.entries, k.Keeps e.1 ∧ v.Keeps e.2) :
    (yaserdeMapBoth hasher k v).Returns m (hasher.visit m) :=
  Serde.returns_map (fun e he => (h e he).1) fun e he => Serde.keeps_ofString (h e he).2

theorem returns_yaserdeMapValues (hasher : Serde.Hasher) {V : Type} {v : Text V}
    {m : HashMap String V} (h : ∀ e ∈ m.entries, v.Keeps e.2) :
    (yaserdeMapValues hasher v).Returns m (hasher.visit m) :=
  Serde.returns_map (fun _ _ => rfl) fun e he => Serde.keeps_ofString (h e he)

/-- A model whose values are given back is given back as a whole. -/
theorem returns_sep2Model {m : Sep2Model} (h : s.Keeps m) :
    (s.sep2Model hasher).Returns m (m.visit hasher) := by
  have htime : (yaserde s.time).Keeps _ := Serde.keeps_ofString h.time
  have hfsal := returns_mridLists hasher h.functionSetAssignmentsLists
  have hderpl := returns_mridLists hasher h.programLists
  have hdercl := returns_mridLists hasher h.controlLists
  have hcurvel := returns_mridLists hasher h.curveLists
  have hedevl : (s.idList s.hexBinary160).opt.Keeps _ :=
    Serde.keeps_opt (fun _ h => by cases h) fun list hlist =>
      keeps_idList (h.endDeviceList list hlist)
  have hdcap := keeps_yaserdeOpt h.dcap
  have hmupl := keeps_yaserdeOpt h.mirrorUsagePointList
  have hderl := returns_yaserdeMapValues hasher h.derLists
  have hedev := returns_yaserdeMapBoth hasher h.endDevices
  have hfsa := returns_yaserdeMapBoth hasher h.functionSetAssignments
  have hderp := returns_yaserdeMapBoth hasher h.programs
  have hderc : (yaserdeMapKeys hasher s.mridType s.scheduledControl).Returns _ _ :=
    Serde.returns_map (fun e he => (h.controls e he).1)
      fun e he => keeps_scheduledControl (h.controls e he).2
  have hcurve := returns_yaserdeMapBoth hasher h.curves
  have hdderc := returns_yaserdeMapValues hasher h.defaultControls
  have hnames : ((s.sep2ModelFields hasher m).map Prod.fst).Nodup := by
    simp only [Sepserde.sep2ModelFields, List.map_cons, List.map_nil]
    decide
  constructor
  · have htime' := readField_obj hnames (i := 0) rfl htime
    have hfsal' := readField_obj hnames (i := 1) rfl hfsal
    have hderpl' := readField_obj hnames (i := 2) rfl hderpl
    have hdercl' := readField_obj hnames (i := 3) rfl hdercl
    have hcurvel' := readField_obj hnames (i := 4) rfl hcurvel
    have hedevl' : (match (Json.obj (s.sep2ModelFields hasher m)).field "end_device_list" with
        | none => some none
        | some j => (s.idList s.hexBinary160).opt.deserialize j) = some m.endDeviceList := by
      rw [field_obj hnames (i := 5) rfl]
      exact hedevl.1
    have hdcap' := readField_obj hnames (i := 6) rfl hdcap
    have hmupl' := readField_obj hnames (i := 7) rfl hmupl
    have hderl' := readField_obj hnames (i := 8) rfl hderl
    have hedev' := readField_obj hnames (i := 9) rfl hedev
    have hfsa' := readField_obj hnames (i := 10) rfl hfsa
    have hderp' := readField_obj hnames (i := 11) rfl hderp
    have hderc' := readField_obj hnames (i := 12) rfl hderc
    have hcurve' := readField_obj hnames (i := 13) rfl hcurve
    have hdderc' := readField_obj hnames (i := 14) rfl hdderc
    refine bind_of_eq htime' <| bind_of_eq hfsal' <| bind_of_eq hderpl' <| bind_of_eq hdercl' <|
      bind_of_eq hcurvel' <| bind_of_eq hedevl' <| bind_of_eq hdcap' <| bind_of_eq hmupl' <|
      bind_of_eq hderl' <| bind_of_eq hedev' <| bind_of_eq hfsa' <| bind_of_eq hderp' <|
      bind_of_eq hderc' <| bind_of_eq hcurve' <| bind_of_eq hdderc' rfl
  · refine .obj hnames fun f hf => ?_
    simp only [Sepserde.sep2ModelFields, List.mem_cons, List.not_mem_nil, or_false] at hf
    obtain rfl | rfl | rfl | rfl | rfl | rfl | rfl | rfl | rfl | rfl | rfl | rfl | rfl | rfl |
      rfl := hf
    · exact htime.2
    · exact hfsal.2
    · exact hderpl.2
    · exact hdercl.2
    · exact hcurvel.2
    · exact hedevl.2
    · exact hdcap.2
    · exact hmupl.2
    · exact hderl.2
    · exact hedev.2
    · exact hfsa.2
    · exact hderp.2
    · exact hderc.2
    · exact hcurve.2
    · exact hdderc.2

end RoundTrip

end Sep2Bridge
