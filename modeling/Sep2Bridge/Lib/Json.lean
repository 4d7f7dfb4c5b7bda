import Mathlib.Data.List.Basic
import Sep2Bridge.Lib.HashMap
import Sep2Bridge.Lib.Traverse

/-!
# Documents of keyed values

JSON documents as trees, and what makes one well formed: no object has a key twice. A `Serde`
writes the values of a type as documents and reads them back.

* `Serde.ofString` — values that have a text form of their own.
* `Serde.vec`, `Serde.opt`, `Serde.map` — lists, options and maps of values.
* The lemmas on each say when a value is read back, and that its document is well formed. A map
  whose keys have distinct texts comes back as the same map, visited in some other order.
-/

namespace Lib

inductive Json
  | null
  | num (n : Nat)
  | str (s : String)
  | arr (items : List Json)
  | obj (fields : List (String × Json))

namespace Json

/-- No object of the document has a key twice. -/
inductive DistinctKeys : Json → Prop
  | null : DistinctKeys .null
  | num (n : Nat) : DistinctKeys (.num n)
  | str (s : String) : DistinctKeys (.str s)
  | arr {items : List Json} : (∀ j ∈ items, DistinctKeys j) → DistinctKeys (.arr items)
  | obj {fields : List (String × Json)} : (fields.map Prod.fst).Nodup →
      (∀ f ∈ fields, DistinctKeys f.2) → DistinctKeys (.obj fields)

/-- The value of a field of an object. -/
def field (name : String) : Json → Option Json
  | .obj fields => fields.lookup name
  | _ => none

end Json

/-- A way to write the values of a type as text and to read them. -/
structure Text (T : Type) where
  print : T → String
  parse : String → Option T

/-- The value survives being written and read. -/
def Text.Keeps {T : Type} (c : Text T) (value : T) : Prop := c.parse (c.print value) = some value

/-- A way to write the values of a type as documents and to read them. -/
structure Serde (T : Type) where
  serialize : T → Json
  deserialize : Json → Option T

namespace Serde

variable {T K V : Type}

/-- The document of `value` is well formed and is read as `value'`. -/
structure Returns (c : Serde T) (value value' : T) : Prop where
  deserialize_serialize : c.deserialize (c.serialize value) = some value'
  distinctKeys : (c.serialize value).DistinctKeys

/-- The value survives being written and read. -/
abbrev Keeps (c : Serde T) (value : T) : Prop := c.Returns value value

def ofString (c : Text T) : Serde T where
  serialize value := .str (c.print value)
  deserialize
    | .str s => c.parse s
    | _ => none

theorem keeps_ofString {c : Text T} {value : T} (h : c.Keeps value) : (ofString c).Keeps value :=
  ⟨h, .str _⟩

def vec (c : Serde T) : Serde (List T) where
  serialize values := .arr (values.map c.serialize)
  deserialize
    | .arr items => items.mapM c.deserialize
    | _ => none

theorem keeps_vec {c : Serde T} {values : List T} (h : ∀ value ∈ values, c.Keeps value) :
    c.vec.Keeps values where
  deserialize_serialize := mapM_map_eq_some fun value hvalue => (h value hvalue).1
  distinctKeys := .arr fun j hj => by
    obtain ⟨value, hvalue, rfl⟩ := List.mem_map.1 hj
    exact (h value hvalue).2

def opt (c : Serde T) : Serde (Option T) where
  serialize value := value.elim .null c.serialize
  deserialize
    | .null => some none
    | j => (c.deserialize j).map some

/-- Values whose documents are not `null` may be optional. -/
theorem keeps_opt {c : Serde T} {value : Option T} (hnull : ∀ v, c.serialize v ≠ .null)
    (h : ∀ v ∈ value, c.Keeps v) : c.opt.Keeps value := by
  cases value with
  | none => exact ⟨rfl, .null⟩
  | some v =>
    obtain ⟨hv, hkeys⟩ := h v rfl
    refine ⟨?_, hkeys⟩
    show c.opt.deserialize (c.serialize v) = some (some v)
    unfold opt
    cases hj : c.serialize v with
    | null => exact absurd hj (hnull v)
    | _ => simp only [← hj, hv, Option.map_some]

/-! ## Maps -/

/-- The order in which a map that was read is visited. -/
structure Hasher where
  visit : ∀ {K V : Type} [DecidableEq K], HashMap K V → HashMap K V
  get?_visit : ∀ {K V : Type} [DecidableEq K] (m : HashMap K V) (k : K),
    (visit m).get? k = m.get? k

/-- A map, as an object with the texts of its keys. -/
def map [DecidableEq K] (hasher : Hasher) (k : Text K) (v : Serde V) : Serde (HashMap K V) where
  serialize m := .obj (m.entries.map fun e => (k.print e.1, v.serialize e.2))
  deserialize
    | .obj fields => do
      let es ← fields.mapM fun f => do
        let key ← k.parse f.1
        let value ← v.deserialize f.2
        return (key, value)
      return hasher.visit (.ofEntries es)
    | _ => none

variable [DecidableEq K] {hasher : Hasher} {k : Text K} {v : Serde V} {m : HashMap K V}

theorem deserialize_serialize_map (hk : ∀ e ∈ m.entries, k.Keeps e.1)
    (hv : ∀ e ∈ m.entries, v.Keeps e.2) :
    (map hasher k v).deserialize ((map hasher k v).serialize m) = some (hasher.visit m) := by
  have hentries : (m.entries.map fun e => (k.print e.1, v.serialize e.2)).mapM (fun f => do
      let key ← k.parse f.1
      let value ← v.deserialize f.2
      return (key, value)) = some m.entries := by
    refine mapM_map_eq_some fun e he => ?_
    rw [show k.parse (k.print e.1) = some e.1 from hk e he, (hv e he).1]
    rfl
  calc (map hasher k v).deserialize ((map hasher k v).serialize m)
      = some (hasher.visit (.ofEntries m.entries)) :=
        congrArg (fun es => Option.bind es fun es => some (hasher.visit (.ofEntries es))) hentries
    _ = some (hasher.visit m) := by rw [HashMap.ofEntries_entries]

theorem distinctKeys_map (hk : ∀ e ∈ m.entries, k.Keeps e.1) (hv : ∀ e ∈ m.entries, v.Keeps e.2) :
    ((map hasher k v).serialize m).DistinctKeys := by
  refine .obj ?_ fun f hf => ?_
  · have hnodup := m.nodup
    rw [List.map_map, show (Prod.fst ∘ fun e : K × V => (k.print e.1, v.serialize e.2)) =
      k.print ∘ Prod.fst from rfl, ← List.map_map]
    -- distinct keys have distinct texts, since each is read back from its own
    refine List.Nodup.map_on (fun a ha b hb hab => ?_) hnodup
    obtain ⟨e, he, rfl⟩ := List.mem_map.1 ha
    obtain ⟨e', he', rfl⟩ := List.mem_map.1 hb
    have hsome := (hk e he).symm.trans ((congrArg k.parse hab).trans (hk e' he'))
    exact Option.some.inj hsome
  · obtain ⟨e, he, rfl⟩ := List.mem_map.1 hf
    exact (hv e he).2

/-- A map comes back with the same lookups. -/
theorem returns_map (hk : ∀ e ∈ m.entries, k.Keeps e.1) (hv : ∀ e ∈ m.entries, v.Keeps e.2) :
    (map hasher k v).Returns m (hasher.visit m) :=
  ⟨deserialize_serialize_map hk hv, distinctKeys_map hk hv⟩

end Serde

end Lib
