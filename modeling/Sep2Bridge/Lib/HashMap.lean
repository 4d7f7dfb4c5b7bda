import Mathlib.Data.List.Nodup

/-!
# Finite maps with an iteration order

A hash map, as a program sees it: at most one value for each key, and an order in which
the entries are visited. The order is data of the map, so that a result that depends on
it can be told from one that does not.

* `get?_insert`, `get?_retain` — what the operations do to a lookup.
* `mem_entries_iff` — the entries are exactly the successful lookups.
* `get?_insertItems` — the lookups after items are put in, each under a key of its own.
* `insertItems_eq_self`, `retain_eq_self` — operations that change nothing.
* `reorder` — the same map visited in another order.
-/

namespace Lib

/-- A finite map. `entries` lists it in iteration order, each key once. -/
structure HashMap (K V : Type*) where
  entries : List (K × V)
  nodup : (entries.map Prod.fst).Nodup

namespace HashMap

variable {K V : Type*}

@[ext] theorem ext {m m' : HashMap K V} (h : m.entries = m'.entries) : m = m' := by
  cases m; cases m'; cases h; rfl

instance [DecidableEq K] [DecidableEq V] : DecidableEq (HashMap K V) := fun m m' =>
  decidable_of_iff (m.entries = m'.entries) ⟨ext, congrArg entries⟩

def empty : HashMap K V := ⟨[], by simp⟩

instance : EmptyCollection (HashMap K V) := ⟨empty⟩

instance : Inhabited (HashMap K V) := ⟨∅⟩

@[simp] theorem entries_empty : (∅ : HashMap K V).entries = [] := rfl

/-- The keys, in iteration order. -/
def keys (m : HashMap K V) : List K := m.entries.map Prod.fst

/-- The values, in iteration order. -/
def values (m : HashMap K V) : List V := m.entries.map Prod.snd

/-- Drop every entry that `p` rejects. -/
def retain (m : HashMap K V) (p : K → V → Bool) : HashMap K V where
  entries := m.entries.filter fun e => p e.1 e.2
  nodup := m.nodup.sublist ((List.filter_sublist).map Prod.fst)

section Lookup

variable [DecidableEq K]

def get? (m : HashMap K V) (k : K) : Option V := m.entries.lookup k

/-- Replace the value of `k` where it stands, or put a new entry last. -/
def insertEntries (k : K) (v : V) : List (K × V) → List (K × V)
  | [] => [(k, v)]
  | e :: es => if e.1 = k then (k, v) :: es else e :: insertEntries k v es

theorem mem_keys_insertEntries {k k' : K} {v : V} {es : List (K × V)} :
    k' ∈ (insertEntries k v es).map Prod.fst ↔ k' = k ∨ k' ∈ es.map Prod.fst := by
  induction es with
  | nil => simp [insertEntries]
  | cons e es ih =>
    simp only [insertEntries]
    split_ifs with h
    · subst h; simp
    · simp only [List.map_cons, List.mem_cons, ih]; tauto

theorem nodup_insertEntries {k : K} {v : V} {es : List (K × V)} (h : (es.map Prod.fst).Nodup) :
    ((insertEntries k v es).map Prod.fst).Nodup := by
  induction es with
  | nil => simp [insertEntries]
  | cons e es ih =>
    simp only [List.map_cons, List.nodup_cons] at h
    simp only [insertEntries]
    split_ifs with hk
    · subst hk; simpa using h
    · simp only [List.map_cons, List.nodup_cons, mem_keys_insertEntries, not_or]
      exact ⟨⟨hk, h.1⟩, ih h.2⟩

def insert (m : HashMap K V) (k : K) (v : V) : HashMap K V :=
  ⟨insertEntries k v m.entries, nodup_insertEntries m.nodup⟩

/-- The same map with its entries visited in the order `es`; an `es` that does not list
exactly the map's entries is ignored. -/
def reorder [DecidableEq V] (m : HashMap K V) (es : List (K × V)) : HashMap K V :=
  if h : es.Perm m.entries then ⟨es, (h.map Prod.fst).nodup_iff.2 m.nodup⟩ else m

/-! ## Lookups -/

@[simp] theorem get?_empty (k : K) : (∅ : HashMap K V).get? k = none := rfl

theorem lookup_cons_ite (k a : K) (b : V) (es : List (K × V)) :
    ((a, b) :: es).lookup k = if k = a then some b else es.lookup k := by
  by_cases h : k = a
  · subst h; simp
  · simp [List.lookup_cons, beq_eq_false_iff_ne.2 h, h]

theorem lookup_eq_some_iff_mem {es : List (K × V)} (h : (es.map Prod.fst).Nodup) {k : K} {v : V} :
    es.lookup k = some v ↔ (k, v) ∈ es := by
  induction es with
  | nil => simp
  | cons e es ih =>
    obtain ⟨k', v'⟩ := e
    simp only [List.map_cons, List.nodup_cons, List.mem_map, not_exists, not_and] at h
    by_cases hk : k = k'
    · subst hk
      simp only [List.lookup_cons_self, Option.some.injEq, List.mem_cons, Prod.mk.injEq, true_and]
      exact ⟨fun hv => .inl hv.symm, fun hv => hv.elim Eq.symm fun hm => (h.1 _ hm rfl).elim⟩
    · simp [lookup_cons_ite, ih h.2, hk]

/-- The entries of a map are its successful lookups. -/
theorem mem_entries_iff {m : HashMap K V} {k : K} {v : V} :
    (k, v) ∈ m.entries ↔ m.get? k = some v :=
  (lookup_eq_some_iff_mem m.nodup).symm

theorem mem_values_iff {m : HashMap K V} {v : V} : v ∈ m.values ↔ ∃ k, m.get? k = some v := by
  simp only [values, List.mem_map, Prod.exists, mem_entries_iff, exists_eq_right]

theorem lookup_insertEntries (k k' : K) (v : V) (es : List (K × V)) :
    (insertEntries k v es).lookup k' = if k' = k then some v else es.lookup k' := by
  induction es with
  | nil => simp only [insertEntries, lookup_cons_ite]
  | cons e es ih =>
    obtain ⟨a, b⟩ := e
    simp only [insertEntries]
    by_cases hk : a = k
    · subst hk
      by_cases h : k' = a <;> simp [lookup_cons_ite, h]
    · by_cases h : k' = a
      · subst h; simp [hk]
      · simp [hk, lookup_cons_ite, h, ih]

theorem get?_insert (m : HashMap K V) (k k' : K) (v : V) :
    (m.insert k v).get? k' = if k' = k then some v else m.get? k' :=
  lookup_insertEntries k k' v m.entries

@[simp] theorem get?_insert_self (m : HashMap K V) (k : K) (v : V) :
    (m.insert k v).get? k = some v := by
  simp [get?_insert]

theorem get?_insert_ne (m : HashMap K V) {k k' : K} (v : V) (h : k' ≠ k) :
    (m.insert k v).get? k' = m.get? k' := by
  simp [get?_insert, h]

theorem get?_retain (m : HashMap K V) (p : K → V → Bool) (k : K) :
    (m.retain p).get? k = (m.get? k).filter (p k) := by
  apply Option.ext
  intro v
  rw [← mem_entries_iff, Option.filter_eq_some_iff, ← mem_entries_iff]
  simp [retain]

theorem get?_retain_eq_some {m : HashMap K V} {p : K → V → Bool} {k : K} {v : V} :
    (m.retain p).get? k = some v ↔ m.get? k = some v ∧ p k v = true := by
  rw [get?_retain, Option.filter_eq_some_iff]

@[simp] theorem get?_reorder [DecidableEq V] (m : HashMap K V) (es : List (K × V)) (k : K) :
    (m.reorder es).get? k = m.get? k := by
  unfold reorder
  split_ifs with h
  · apply Option.ext
    intro v
    rw [← mem_entries_iff, ← mem_entries_iff]
    exact h.mem_iff
  · rfl

/-! ## Items with a key of their own -/

/-- Put items into a map one by one, each under its own key; one without a key is left out. -/
def insertItems (key : V → Option K) (m : HashMap K V) (items : List V) : HashMap K V :=
  items.foldl (fun m v => match key v with | none => m | some k => m.insert k v) m

/-- Of the items with one key the last counts. -/
theorem get?_insertItems (key : V → Option K) (m : HashMap K V) (items : List V) (k : K) :
    (m.insertItems key items).get? k =
      (items.reverse.find? fun v => key v = some k).or (m.get? k) := by
  induction items generalizing m with
  | nil => rfl
  | cons v items ih =>
    have hcons : m.insertItems key (v :: items) =
        insertItems key (match key v with | none => m | some k => m.insert k v) items := rfl
    rw [hcons, ih, List.reverse_cons, List.find?_append, Option.or_assoc]
    congr 1
    cases hk : key v with
    | none => simp [hk]
    | some k' =>
      by_cases h : k = k'
      · subst h
        simp [hk]
      · simp [hk, get?_insert_ne _ _ h, Ne.symm h]

/-- A key that no item has is left as it was. -/
theorem get?_insertItems_of_forall_ne {key : V → Option K} {m : HashMap K V} {items : List V}
    {k : K} (h : ∀ v ∈ items, key v ≠ some k) : (m.insertItems key items).get? k = m.get? k := by
  have hnone : (items.reverse.find? fun v => key v = some k) = none := by
    rw [List.find?_eq_none]
    intro v hv hkey
    exact h v (List.mem_reverse.1 hv) (of_decide_eq_true hkey)
  rw [get?_insertItems, hnone, Option.none_or]

/-- A key that an item has is mapped to one of those, whatever was there before. -/
theorem get?_insertItems_of_mem {key : V → Option K} {items : List V} {k : K} {v : V}
    (hv : v ∈ items) (hkey : key v = some k) :
    ∃ w ∈ items, key w = some k ∧
      ∀ m : HashMap K V, (m.insertItems key items).get? k = some w := by
  have hsome : (items.reverse.find? fun v => key v = some k).isSome :=
    List.find?_isSome.2 ⟨v, List.mem_reverse.2 hv, decide_eq_true hkey⟩
  obtain ⟨w, hw⟩ := Option.isSome_iff_exists.1 hsome
  have hwkey := List.find?_some hw
  refine ⟨w, List.mem_reverse.1 (List.mem_of_find?_eq_some hw), of_decide_eq_true hwkey,
    fun m => ?_⟩
  rw [get?_insertItems, hw, Option.some_or]

/-- What is found is an item, or was there before and no item has its key. -/
theorem mem_or_get?_of_insertItems {key : V → Option K} {m : HashMap K V} {items : List V} {k : K}
    {v : V} (h : (m.insertItems key items).get? k = some v) :
    (v ∈ items ∧ key v = some k) ∨ ((∀ w ∈ items, key w ≠ some k) ∧ m.get? k = some v) := by
  by_cases hkey : ∀ w ∈ items, key w ≠ some k
  · rw [get?_insertItems_of_forall_ne hkey] at h
    exact .inr ⟨hkey, h⟩
  · push Not at hkey
    obtain ⟨w, hw, hwkey⟩ := hkey
    obtain ⟨w', hw', hwkey', hget⟩ := get?_insertItems_of_mem hw hwkey
    rw [hget] at h
    cases h
    exact .inl ⟨hw', hwkey'⟩

/-! ## Putting in what is there -/

theorem keys_insertEntries {k : K} {v : V} {es : List (K × V)} (h : k ∈ es.map Prod.fst) :
    (insertEntries k v es).map Prod.fst = es.map Prod.fst := by
  induction es with
  | nil => cases h
  | cons e es ih =>
    simp only [insertEntries]
    split_ifs with hk
    · rw [List.map_cons, List.map_cons, hk]
    · rw [List.map_cons, List.map_cons, ih]
      exact (List.mem_cons.1 h).resolve_left (Ne.symm hk)

theorem keys_insert_of_get? {m : HashMap K V} {k : K} {v w : V} (h : m.get? k = some w) :
    (m.insert k v).keys = m.keys :=
  keys_insertEntries (List.mem_map.2 ⟨(k, w), mem_entries_iff.2 h, rfl⟩)

/-- A map is its keys, in order, with their values. -/
theorem ext_get? {m m' : HashMap K V} (hkeys : m.keys = m'.keys)
    (hget : ∀ k, m.get? k = m'.get? k) : m = m' := by
  have hentries : ∀ n : HashMap K V, n.entries = n.keys.filterMap fun k =>
      (n.get? k).map fun v => (k, v) := by
    intro n
    rw [keys, List.filterMap_map]
    conv_lhs => rw [← List.filterMap_some (l := n.entries)]
    refine List.filterMap_congr fun e he => ?_
    rw [Function.comp_apply, mem_entries_iff.1 he]
    rfl
  apply ext
  rw [hentries m, hentries m', hkeys]
  refine List.filterMap_congr fun k _ => ?_
  rw [hget]

theorem insert_eq_self {m : HashMap K V} {k : K} {v : V} (h : m.get? k = some v) :
    m.insert k v = m := by
  refine ext_get? (keys_insert_of_get? h) fun k' => ?_
  by_cases hk : k' = k
  · rw [hk, get?_insert_self, h]
  · rw [get?_insert_ne _ _ hk]

theorem keys_insertItems {key : V → Option K} {m : HashMap K V} {items : List V}
    (h : ∀ v ∈ items, ∀ k, key v = some k → (m.get? k).isSome) :
    (m.insertItems key items).keys = m.keys := by
  induction items generalizing m with
  | nil => rfl
  | cons v items ih =>
    have hcons : m.insertItems key (v :: items) =
        insertItems key (match key v with | none => m | some k => m.insert k v) items := rfl
    rw [hcons]
    cases hk : key v with
    | none => exact ih fun w hw => h w (List.mem_cons_of_mem _ hw)
    | some k =>
      obtain ⟨w, hw⟩ := Option.isSome_iff_exists.1 (h v List.mem_cons_self k hk)
      have hkeys : ((m.insert k v).insertItems key items).keys = (m.insert k v).keys := by
        refine ih fun w hw k' hk' => ?_
        by_cases hkk : k' = k
        · simp [hkk]
        · rw [get?_insert_ne _ _ hkk]
          exact h w (List.mem_cons_of_mem _ hw) k' hk'
      rw [hkeys, keys_insert_of_get? hw]

/-- Items whose keys have the values that inserting them gives can be put in again. -/
theorem insertItems_eq_self {key : V → Option K} {m m₀ : HashMap K V} {items : List V}
    (h : ∀ v ∈ items, ∀ k, key v = some k → m.get? k = (m₀.insertItems key items).get? k) :
    m.insertItems key items = m := by
  refine ext_get? (keys_insertItems fun v hv k hk => ?_) fun k => ?_
  · obtain ⟨w, -, -, hget⟩ := get?_insertItems_of_mem hv hk
    simp [h v hv k hk, hget]
  · by_cases hkey : ∃ v ∈ items, key v = some k
    · obtain ⟨v, hv, hk⟩ := hkey
      obtain ⟨w, -, -, hget⟩ := get?_insertItems_of_mem hv hk
      rw [hget, h v hv k hk, hget]
    · push Not at hkey
      exact get?_insertItems_of_forall_ne hkey

/-- A sweep that keeps all entries changes nothing. -/
theorem retain_eq_self {m : HashMap K V} {p : K → V → Bool}
    (h : ∀ k v, m.get? k = some v → p k v = true) : m.retain p = m := by
  apply ext
  show m.entries.filter _ = m.entries
  rw [List.filter_eq_self]
  intro e he
  exact h e.1 e.2 (mem_entries_iff.1 he)

/-- A value that a sweep keeps can be put in again. -/
theorem insert_retain_eq_self {m : HashMap K V} {p : K → V → Bool} {k : K} {v : V}
    (h : p k v = true) : ((m.insert k v).retain p).insert k v = (m.insert k v).retain p :=
  insert_eq_self (get?_retain_eq_some.2 ⟨get?_insert_self _ _ _, h⟩)

/-- Items that a sweep keeps can be put in again. -/
theorem insertItems_retain_eq_self {key : V → Option K} {m : HashMap K V} {items : List V}
    {p : K → V → Bool} (h : ∀ v ∈ items, ∀ k, key v = some k →
      (m.insertItems key items).get? k = some v → p k v = true) :
    ((m.insertItems key items).retain p).insertItems key items =
      (m.insertItems key items).retain p := by
  have hsame : ∀ v ∈ items, ∀ k, key v = some k →
      ((m.insertItems key items).retain p).get? k = (m.insertItems key items).get? k := by
    intro v hv k hk
    obtain ⟨w, hw, hwkey, hget⟩ := get?_insertItems_of_mem hv hk
    rw [get?_retain, hget, Option.filter_some, if_pos (h w hw k hwkey (hget m))]
  exact insertItems_eq_self hsame

/-! ## Building a map from its entries -/

/-- The map after the entries are put into it one by one. -/
def ofEntries (es : List (K × V)) : HashMap K V := es.foldl (fun m e => m.insert e.1 e.2) ∅

theorem insertEntries_eq_append {k : K} {v : V} {es : List (K × V)} (h : k ∉ es.map Prod.fst) :
    insertEntries k v es = es ++ [(k, v)] := by
  induction es with
  | nil => rfl
  | cons e es ih =>
    rw [List.map_cons, List.mem_cons, not_or] at h
    rw [insertEntries, if_neg (Ne.symm h.1), ih h.2, List.cons_append]

theorem entries_foldl_insert {m : HashMap K V} {es : List (K × V)}
    (h : ((m.entries ++ es).map Prod.fst).Nodup) :
    (es.foldl (fun m e => m.insert e.1 e.2) m).entries = m.entries ++ es := by
  induction es generalizing m with
  | nil => rw [List.foldl_nil, List.append_nil]
  | cons e es ih =>
    obtain ⟨k, v⟩ := e
    have hk : k ∉ m.entries.map Prod.fst := by
      rw [List.map_append, List.map_cons, List.nodup_append] at h
      exact fun hk => h.2.2 k hk k List.mem_cons_self rfl
    have hentries : (m.insert k v).entries = m.entries ++ [(k, v)] := insertEntries_eq_append hk
    rw [List.foldl_cons, ih (by rw [hentries, List.append_assoc]; exact h), hentries,
      List.append_assoc]
    rfl

/-- A map is rebuilt from its entries. -/
theorem ofEntries_entries (m : HashMap K V) : ofEntries m.entries = m :=
  ext (entries_foldl_insert (m := ∅) m.nodup)

end Lookup

end HashMap

end Lib
