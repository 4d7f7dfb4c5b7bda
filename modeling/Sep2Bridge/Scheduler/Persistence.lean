import Mathlib.Logic.Function.Basic
import Sep2Bridge.Lib.Run
import Sep2Bridge.Scheduler.Serialise

/-!
# Persistence of the model

`persist_state` and `load_persisted_state` of `scheduler.rs`. A model is written to a temporary
file, which then replaces the persistence file by a rename.

A call of `persist_state` is a machine here: it may be refused at each of its steps, and the
process may stop before each of them, with any part of the text written. The invariant
(`Persists`) is that the persistence file holds the text of the last model whose rename took
effect, and that the temporary file of a call holds what has left the buffer.
-/

namespace Sep2Bridge

open Lib

/-! ## Documents -/

/-- serde_json: the text form of documents. -/
structure SerdeJson where
  toWriter : Json → List Char
  fromStr : List Char → Option Json

/-- A well-formed document is given back from its text. -/
def SerdeJson.Keeps (json : SerdeJson) (j : Json) : Prop :=
  j.DistinctKeys → json.fromStr (json.toWriter j) = some j

def stateVersion : Nat := 1

def u32 : Serde Nat where
  serialize := .num
  deserialize
    | .num n => if n < 2 ^ 32 then some n else none
    | _ => none

/-- The text forms that the persistence rests on. -/
structure Formats where
  values : Sepserde
  json : SerdeJson
  hasher : Serde.Hasher

namespace Formats

variable (formats : Formats)

/-- `PersistedState`. -/
def persistedState (model : Sep2Model) : Json := .obj [
  ("version", u32.serialize stateVersion),
  ("model", (formats.values.sep2Model formats.hasher).serialize model)]

/-- What is written for a model. -/
def text (model : Sep2Model) : List Char := formats.json.toWriter (formats.persistedState model)

end Formats

/-! ## Files -/

/-- A path, as its components. -/
abbrev Path := List String

namespace Path

def parent (path : Path) : Option Path := if path = [] then none else some path.dropLast

/-- A path that ends in `..` names no file. -/
def fileName (path : Path) : Option String := path.getLast?.filter (· ≠ "..")

/-- The temporary file for `path`, in the same directory. -/
def temp (path : Path) : Option Path := do
  let dir ← path.parent
  let basename ← path.fileName
  return dir ++ ["." ++ basename ++ ".tmp"]

/-- The temporary file is another one. -/
theorem temp_ne {path tempPath : Path} (h : path.temp = some tempPath) : tempPath ≠ path := by
  rintro rfl
  obtain ⟨dir, -, h⟩ := Option.bind_eq_some_iff.1 h
  obtain ⟨basename, hname, h⟩ := Option.bind_eq_some_iff.1 h
  have hname := (Option.filter_eq_some_iff.1 hname).1
  have hlast := congrArg List.getLast? (Option.some.inj h)
  rw [List.getLast?_append, List.getLast?_singleton, Option.some_or] at hlast
  have hlen := congrArg String.length (Option.some.inj (hlast.trans hname))
  simp only [String.length_append] at hlen
  have hdot : ("." : String).length = 1 := rfl
  omega

end Path

/-- The contents of the files that exist. -/
abbrev Files := Path → Option (List Char)

/-! ## Loading -/

inductive LoadError
  | unableToDetermineVersion
  | version (found : Nat)
  | unableToParse
  deriving DecidableEq

namespace Formats

variable (formats : Formats)

def loadPersistedStateInner (files : Files) (path : Option Path) : Except LoadError Sep2Model :=
  match path with
  | none => .ok {}
  | some path =>
    match files path with
    | none => .ok {}
    | some contents =>
      -- The version is read on its own first.
      match (formats.json.fromStr contents).bind (readField u32 "version") with
      | none => .error .unableToDetermineVersion
      | some version =>
        if version ≠ stateVersion then .error (.version version)
        else
          match (formats.json.fromStr contents).bind
              (readField (formats.values.sep2Model formats.hasher) "model") with
          | none => .error .unableToParse
          | some model => .ok model

/-- A file that cannot be loaded counts as none. -/
def loadPersistedState (files : Files) (path : Option Path) : Sep2Model :=
  match formats.loadPersistedStateInner files path with
  | .ok model => model
  | .error _ => {}

end Formats

/-! ## Persisting -/

/-- Where a call of `persist_state` stands. -/
inductive PersistCall
  | creating (model : Sep2Model)
  /-- What has not left the buffer yet. -/
  | writing (model : Sep2Model) (buffered : List Char)
  | flushed (model : Sep2Model)
  | synced (model : Sep2Model)

/-- The files and the running call, with the model of the last rename that took effect. -/
structure Persistence where
  files : Files := fun _ => none
  call : Option PersistCall := none
  renamed : Option Sep2Model := none

/-- One step of a call, and what comes of it. -/
inductive PersistLabel
  | call (model : Sep2Model)
  | create (succeeds : Bool)
  /-- Some characters leave the buffer. -/
  | write (n : Nat)
  /-- Writing or flushing fails. The buffer that is dropped may still write some characters. -/
  | writeFails (n : Nat)
  | flush
  | sync (succeeds : Bool)
  | rename (takesEffect : Bool)
  /-- The process stops, and starts again. -/
  | stop

namespace Formats

variable (formats : Formats) (path : Path)

/-- A file with more characters at its end. -/
def append (files : Files) (tempPath : Path) (cs : List Char) : Files :=
  Function.update files tempPath ((files tempPath).map fun contents => contents ++ cs)

/-- A step of `persist_state` for `path`. A path without a parent or a name fails the call. -/
def persistState (s : Persistence) (label : PersistLabel) : Option Persistence :=
  match path.temp with
  | none =>
    match label with
    | .call _ | .stop => some s
    | _ => none
  | some tempPath =>
    match label, s.call with
    | .call model, none => some { s with call := some (.creating model) }
    | .create true, some (.creating model) => some { s with
        files := Function.update s.files tempPath (some [])
        call := some (.writing model (formats.text model)) }
    | .create false, some (.creating _) => some { s with call := none }
    | .write n, some (.writing model buffered) => some { s with
        files := append s.files tempPath (buffered.take n)
        call := some (.writing model (buffered.drop n)) }
    | .writeFails n, some (.writing _ buffered) => some { s with
        files := append s.files tempPath (buffered.take n)
        call := none }
    | .flush, some (.writing model buffered) => some { s with
        files := append s.files tempPath buffered
        call := some (.flushed model) }
    | .sync true, some (.flushed model) => some { s with call := some (.synced model) }
    | .sync false, some (.flushed _) => some { s with call := none }
    | .rename true, some (.synced model) => some
        { files := Function.update (Function.update s.files path (s.files tempPath)) tempPath none
          call := none
          renamed := some model }
    | .rename false, some (.synced _) => some { s with call := none }
    | .stop, _ => some { s with call := none }
    | _, _ => none

end Formats

/-! ## The invariant -/

section Invariant

variable {formats : Formats} {path : Path} {s t : Persistence}

/-- Each value of the model, and its document as a whole, is given back from its text. -/
structure Formats.Keeps (formats : Formats) (model : Sep2Model) : Prop where
  values : formats.values.Keeps model
  json : formats.json.Keeps (formats.persistedState model)

/-- What a running call has put into the temporary file. -/
def PersistCall.Writes (formats : Formats) (files : Files) (tempPath : Path) : PersistCall → Prop
  | .creating model => formats.Keeps model
  | .writing model buffered => formats.Keeps model ∧
      ∃ written, files tempPath = some written ∧ written ++ buffered = formats.text model
  | .flushed model | .synced model =>
    formats.Keeps model ∧ files tempPath = some (formats.text model)

/-- The file holds the model of the last rename, and the temporary file what the call wrote. -/
structure Persists (formats : Formats) (path : Path) (s : Persistence) : Prop where
  file : s.files path = s.renamed.map formats.text
  renamed : ∀ model ∈ s.renamed, formats.Keeps model
  call : ∀ call ∈ s.call, ∃ tempPath, path.temp = some tempPath ∧
    call.Writes formats s.files tempPath

/-- A step that leaves the persistence file alone has only its own call to account for. -/
theorem Persists.step (h : Persists formats path s) (hfile : t.files path = s.files path)
    (hrenamed : t.renamed = s.renamed)
    (hcall : ∀ call ∈ t.call, ∃ tempPath, path.temp = some tempPath ∧
      call.Writes formats t.files tempPath) : Persists formats path t where
  file := by rw [hfile, hrenamed, h.file]
  renamed := by rw [hrenamed]; exact h.renamed
  call := hcall

/-- A call that is over has nothing to account for. -/
theorem Persists.over (h : Persists formats path s) (hfile : t.files path = s.files path)
    (hrenamed : t.renamed = s.renamed) (hcall : t.call = none) : Persists formats path t :=
  h.step hfile hrenamed fun call hmem => by rw [hcall] at hmem; cases hmem

theorem append_path {files : Files} {tempPath : Path} {cs : List Char}
    (htemp : path.temp = some tempPath) : Formats.append files tempPath cs path = files path :=
  Function.update_of_ne (Path.temp_ne htemp).symm _ _

theorem append_temp {files : Files} {tempPath : Path} {contents cs : List Char}
    (h : files tempPath = some contents) :
    Formats.append files tempPath cs tempPath = some (contents ++ cs) := by
  rw [Formats.append, Function.update_self, h, Option.map_some]

/-- At first there is no file, and no call. -/
theorem persists_initial : Persists formats path {} where
  file := rfl
  renamed := by
    intro model hmodel
    cases hmodel
  call := by
    intro call hcall
    cases hcall

/-- The model of a call is one that is given back. -/
def PersistLabel.Allowed (formats : Formats) : PersistLabel → Prop
  | .call model => formats.Keeps model
  | _ => True

theorem persists_step {label : PersistLabel} (h : Persists formats path s)
    (hlabel : label.Allowed formats) (hstep : formats.persistState path s label = some t) :
    Persists formats path t := by
  unfold Formats.persistState at hstep
  cases htemp : path.temp with
  | none =>
    simp only [htemp] at hstep
    split at hstep <;> cases hstep <;> exact h
  | some tempPath =>
    have hne := Path.temp_ne htemp
    have hstands : ∀ call ∈ s.call, call.Writes formats s.files tempPath := fun call hcall => by
      obtain ⟨tempPath', htemp', hwrites⟩ := h.call call hcall
      rw [htemp] at htemp'
      cases htemp'
      exact hwrites
    simp only [htemp] at hstep
    split at hstep
    · -- a call
      cases hstep
      refine h.step rfl rfl fun call hcall => ⟨tempPath, htemp, ?_⟩
      cases hcall
      exact hlabel
    · next hcall =>
      -- the temporary file is created
      cases hstep
      refine h.step (Function.update_of_ne hne.symm _ _) rfl fun call hmem =>
        ⟨tempPath, htemp, ?_⟩
      cases hmem
      exact ⟨hstands _ hcall, [], Function.update_self _ _ _, rfl⟩
    · cases hstep
      exact h.over rfl rfl rfl
    · next hcall =>
      -- some characters leave the buffer
      cases hstep
      obtain ⟨hkeeps, written, hwritten, htext⟩ := hstands _ hcall
      refine h.step (append_path htemp) rfl fun call hmem => ⟨tempPath, htemp, ?_⟩
      cases hmem
      refine ⟨hkeeps, _, append_temp hwritten, ?_⟩
      rw [List.append_assoc, List.take_append_drop, htext]
    · cases hstep
      exact h.over (append_path htemp) rfl rfl
    · next hcall =>
      -- all of the buffer has reached the file
      cases hstep
      obtain ⟨hkeeps, written, hwritten, htext⟩ := hstands _ hcall
      refine h.step (append_path htemp) rfl fun call hmem => ⟨tempPath, htemp, ?_⟩
      cases hmem
      exact ⟨hkeeps, htext ▸ append_temp hwritten⟩
    · next hcall =>
      cases hstep
      refine h.step rfl rfl fun call hmem => ⟨tempPath, htemp, ?_⟩
      cases hmem
      have hflushed := hstands _ hcall
      exact hflushed
    · cases hstep
      exact h.over rfl rfl rfl
    · next hcall =>
      -- the temporary file, with the text of the model, becomes the persistence file
      cases hstep
      obtain ⟨hkeeps, hwritten⟩ := hstands _ hcall
      constructor
      · show Function.update (Function.update s.files path (s.files tempPath)) tempPath none path =
          some (formats.text _)
        rw [Function.update_of_ne hne.symm, Function.update_self, hwritten]
      · intro model hmodel
        cases hmodel
        exact hkeeps
      · intro call hmem
        cases hmem
    · cases hstep
      exact h.over rfl rfl rfl
    · cases hstep
      exact h.over rfl rfl rfl
    · cases hstep

/-! ## What is loaded -/

/-- The document of a model is loaded as that model. -/
theorem loadPersistedState_text {files : Files} {model : Sep2Model} (hkeeps : formats.Keeps model)
    (hfile : files path = some (formats.text model)) :
    formats.loadPersistedState files (some path) = model.visit formats.hasher := by
  have hmodel : (formats.values.sep2Model formats.hasher).Returns model
      (model.visit formats.hasher) := returns_sep2Model hkeeps.values
  have hversion : u32.Keeps stateVersion := ⟨rfl, .num _⟩
  have hnames : (([("version", u32.serialize stateVersion),
      ("model", (formats.values.sep2Model formats.hasher).serialize model)] :
        List (String × Json)).map Prod.fst).Nodup := by
    simp only [List.map_cons, List.map_nil]
    decide
  have hkeys : (formats.persistedState model).DistinctKeys := by
    refine .obj hnames fun f hf => ?_
    simp only [List.mem_cons, List.not_mem_nil, or_false] at hf
    obtain rfl | rfl := hf
    · exact hversion.2
    · exact hmodel.2
  have hjson : formats.json.fromStr (formats.text model) = some (formats.persistedState model) :=
    hkeeps.json hkeys
  have hreadVersion : readField u32 "version" (formats.persistedState model) = some stateVersion :=
    readField_obj hnames (i := 0) rfl hversion
  have hreadModel : readField (formats.values.sep2Model formats.hasher) "model"
      (formats.persistedState model) = some (model.visit formats.hasher) :=
    readField_obj hnames (i := 1) rfl hmodel
  simp [Formats.loadPersistedState, Formats.loadPersistedStateInner, hfile, hjson, hreadVersion,
    hreadModel]

/-- What is loaded is the model of the last rename that took effect, or the default. -/
theorem Persists.load (h : Persists formats path s) :
    (s.renamed.getD {}).Same (formats.loadPersistedState s.files (some path)) := by
  cases hrenamed : s.renamed with
  | none =>
    have hfile : s.files path = none := by rw [h.file, hrenamed]; rfl
    have hload : formats.loadPersistedState s.files (some path) = {} := by
      simp [Formats.loadPersistedState, Formats.loadPersistedStateInner, hfile]
    rw [hload]
    exact .refl _
  | some model =>
    have hfile : s.files path = some (formats.text model) := by rw [h.file, hrenamed]; rfl
    rw [loadPersistedState_text (h.renamed model hrenamed) hfile]
    exact Sep2Model.same_visit formats.hasher model

/-- **A restart finds the last model whose rename took effect.** Whatever fails, and wherever the
process stops, what is loaded next is that model, or the default if there is none. Writing a model
and reading it gives it back. -/
theorem loads_last_renamed {labels : List PersistLabel}
    (h : Exec (formats.persistState path) (fun _ label => label.Allowed formats) {} labels t) :
    (t.renamed.getD {}).Same (formats.loadPersistedState t.files (some path)) ∧
      ∀ model, formats.values.Keeps model → ∃ model',
        (formats.values.sep2Model formats.hasher).deserialize
          ((formats.values.sep2Model formats.hasher).serialize model) = some model' ∧
        model.Same model' := by
  have hinv : Persists formats path t := by
    refine h.invariant persists_initial ?_
    intro s label t hs hlabel hstep
    exact persists_step hs hlabel hstep
  refine ⟨hinv.load, fun model hkeeps => ⟨model.visit formats.hasher, ?_, ?_⟩⟩
  · exact (returns_sep2Model hkeeps).deserialize_serialize
  · exact Sep2Model.same_visit formats.hasher model

end Invariant

/-! ## A concrete restart -/

/-- A text form given by a table. -/
def tableText {T : Type} [DecidableEq T] (table : List (T × String)) : Text T where
  print value := (table.lookup value).getD ""
  parse s := (table.find? fun entry => entry.2 = s).map Prod.fst

mutual

/-- JSON without blanks. -/
def compact : Json → List Char
  | .null => "null".toList
  | .num n => (Nat.repr n).toList
  | .str s => quoted s
  | .arr items => "[".toList ++ compactItems items ++ "]".toList
  | .obj fields => "\x7b".toList ++ compactFields fields ++ "\x7d".toList

def compactItems : List Json → List Char
  | [] => []
  | [j] => compact j
  | j :: js => compact j ++ ",".toList ++ compactItems js

def compactFields : List (String × Json) → List Char
  | [] => []
  | [(name, j)] => quoted name ++ ":".toList ++ compact j
  | (name, j) :: fields =>
    quoted name ++ ":".toList ++ compact j ++ ",".toList ++ compactFields fields

def quoted (s : String) : List Char :=
  "\"".toList ++
    s.toList.flatMap (fun c => if c = Char.ofNat 34 then "\\\"".toList else [c]) ++ "\"".toList

end

/-- sepserde, on the values of the two models below. -/
def sampleValues : Sepserde where
  time := tableText [({}, "<Time/>"), ({ pollRate := some 900 }, "<Time pollRate=\"900\"/>")]
  deviceCapability := tableText []
  mirrorUsagePointList := tableText []
  derList := tableText []
  endDevice := tableText [({ href := some "/edev/1", lfdi := some 0x3E4F },
    "<EndDevice href=\"/edev/1\"><lFDI>3E4F</lFDI></EndDevice>")]
  functionSetAssignments := tableText []
  derProgram := tableText []
  derControl := tableText []
  derCurve := tableText []
  defaultDerControl := tableText []
  mridType := tableText []
  hexBinary160 := tableText [(0x3E4F, "<HexBinary160>3E4F</HexBinary160>")]
  int64 := tableText []
  uint32 := tableText [(300, "<Uint32>300</Uint32>")]

def sampleHasher : Serde.Hasher := ⟨fun m => m, fun _ _ => rfl⟩

def sampleDocument (model : Sep2Model) : Json := .obj [
  ("version", .num 1), ("model", (sampleValues.sep2Model sampleHasher).serialize model)]

/-- A device is known. -/
def sampleModel : Sep2Model where
  time := { pollRate := some 900 }
  endDeviceList := some ⟨"/edev", [0x3E4F], some 300⟩
  endDevices := HashMap.ofEntries [(0x3E4F, { href := some "/edev/1", lfdi := some 0x3E4F })]

/-- The documents that are known, by their texts. -/
def SerdeJson.ofDocuments (documents : List Json) : SerdeJson where
  toWriter := compact
  fromStr text := documents.find? fun j => compact j = text

theorem SerdeJson.keeps_ofDocuments {documents : List Json} {j : Json} (hmem : j ∈ documents)
    (hinj : ∀ j' ∈ documents, compact j' = compact j → j' = j) :
    (SerdeJson.ofDocuments documents).Keeps j := by
  intro _
  show documents.find? (fun j' => compact j' = compact j) = some j
  cases hfind : documents.find? fun j' => compact j' = compact j with
  | none => exact absurd (decide_eq_true rfl) (List.find?_eq_none.1 hfind j hmem)
  | some j' =>
    have htext := List.find?_some hfind
    rw [hinj j' (List.mem_of_find?_eq_some hfind) (of_decide_eq_true htext)]

def sampleFormats : Formats where
  values := sampleValues
  json := .ofDocuments [sampleDocument {}, sampleDocument sampleModel]
  hasher := sampleHasher

theorem compact_sample_ne : compact (sampleDocument {}) ≠ compact (sampleDocument sampleModel) := by
  decide +kernel

theorem keeps_sample_default : sampleFormats.Keeps {} := by
  constructor
  · constructor
    case time => rfl
    all_goals
      intro e he
      cases he
  · refine SerdeJson.keeps_ofDocuments List.mem_cons_self fun j hj htext => ?_
    obtain rfl | hj := List.mem_cons.1 hj
    · rfl
    · rw [List.mem_singleton.1 hj] at htext
      exact absurd htext.symm compact_sample_ne

theorem keeps_sampleModel : sampleFormats.Keeps sampleModel := by
  constructor
  · constructor
    case time => rfl
    case endDeviceList =>
      intro list hlist
      cases hlist
      constructor
      · intro id hid
        obtain rfl := List.mem_singleton.1 hid
        rfl
      · intro rate hrate
        cases hrate
        rfl
    case endDevices =>
      intro e he
      obtain rfl := List.mem_singleton.1 he
      exact ⟨rfl, rfl⟩
    all_goals
      intro e he
      cases he
  · refine SerdeJson.keeps_ofDocuments (List.mem_cons_of_mem _ List.mem_cons_self)
      fun j hj htext => ?_
    obtain rfl | hj := List.mem_cons.1 hj
    · exact absurd htext compact_sample_ne
    · exact List.mem_singleton.1 hj

/-- A model is persisted, and the process stops while the next one is written. -/
def sampleLabels : List PersistLabel := [.call sampleModel, .create true, .write 20, .flush,
  .sync true, .rename true, .call {}, .create true, .write 20, .stop]

theorem loads_last_renamed_sampleModel :
    ∃ t, run (sampleFormats.persistState ["state.json"]) {} sampleLabels = some t ∧
      sampleModel.Same (sampleFormats.loadPersistedState t.files (some ["state.json"])) := by
  obtain ⟨t, ht⟩ : ∃ t, run (sampleFormats.persistState ["state.json"]) {} sampleLabels = some t :=
    ⟨_, rfl⟩
  have hrenamed : some t.renamed = some (some sampleModel) := by
    rw [← Option.map_some, ← ht]
    rfl
  have hallowed : ∀ label ∈ sampleLabels, label.Allowed sampleFormats := by
    intro label hlabel
    simp only [sampleLabels, List.mem_cons, List.not_mem_nil, or_false] at hlabel
    obtain rfl | rfl | rfl | rfl | rfl | rfl | rfl | rfl | rfl | rfl := hlabel
    all_goals first | exact keeps_sampleModel | exact keeps_sample_default | trivial
  have hload := (loads_last_renamed (exec_of_run ht fun label hlabel _ => hallowed label hlabel)).1
  rw [Option.some.inj hrenamed] at hload
  exact ⟨t, ht, hload⟩

end Sep2Bridge
