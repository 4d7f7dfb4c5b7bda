import Mathlib.Tactic.Linarith
import Mathlib.Tactic.Tauto

/-!
# Differences of maps

A map can be published as a stream of changes: the keys that are gone, then the entries that
are new or differ. Applying the changes to the old map gives the new one.

* `mem_insertAll`, `getElem?_insertAll` — a list of entries put into a map, in order.
* `patch_diff` — patching with the difference of two maps leads from one to the other.
* `followAll_changes` — what a listener with a rule of its own makes of a difference.
-/

namespace Lib

open Std

variable {K V : Type*} {cmp : K → K → Ordering}

section Trans

variable [TransCmp cmp]

/-- Put a list of entries into a map, in order. -/
def insertAll (m : ExtTreeMap K V cmp) (es : List (K × V)) : ExtTreeMap K V cmp :=
  es.foldl (fun m e => m.insert e.1 e.2) m

/-- Remove the keys of a list of entries from a map. -/
def eraseAll (m : ExtTreeMap K V cmp) (es : List (K × V)) : ExtTreeMap K V cmp :=
  es.foldl (fun m e => m.erase e.1) m

@[simp] theorem insertAll_nil (m : ExtTreeMap K V cmp) : insertAll m [] = m := rfl

theorem insertAll_cons (m : ExtTreeMap K V cmp) (e : K × V) (es : List (K × V)) :
    insertAll m (e :: es) = insertAll (m.insert e.1 e.2) es := rfl

end Trans

variable [TransCmp cmp] [LawfulEqCmp cmp]

theorem mem_insertAll {m : ExtTreeMap K V cmp} {es : List (K × V)} {k : K} :
    k ∈ insertAll m es ↔ k ∈ m ∨ k ∈ es.map Prod.fst := by
  induction es generalizing m with
  | nil => simp
  | cons e es ih =>
    rw [insertAll_cons, ih, ExtTreeMap.mem_insert, LawfulEqCmp.compare_eq_iff_eq, List.map_cons,
      List.mem_cons, eq_comm (a := k)]
    tauto

theorem getElem?_insertAll_of_notMem {m : ExtTreeMap K V cmp} {es : List (K × V)} {k : K}
    (h : k ∉ es.map Prod.fst) : (insertAll m es)[k]? = m[k]? := by
  induction es generalizing m with
  | nil => rfl
  | cons e es ih =>
    simp only [List.map_cons, List.mem_cons, not_or] at h
    rw [insertAll_cons, ih h.2, ExtTreeMap.getElem?_insert, if_neg]
    rw [LawfulEqCmp.compare_eq_iff_eq]
    exact fun hk => h.1 hk.symm

/-- A key whose entries all agree is mapped to their value. -/
theorem getElem?_insertAll {m : ExtTreeMap K V cmp} {es : List (K × V)} {k : K} {v : V}
    (hmem : (k, v) ∈ es) (hall : ∀ w, (k, w) ∈ es → w = v) : (insertAll m es)[k]? = some v := by
  induction es generalizing m with
  | nil => simp at hmem
  | cons e es ih =>
    obtain ⟨a, b⟩ := e
    rw [insertAll_cons]
    by_cases hk : (k, v) ∈ es
    · exact ih hk fun w hw => hall w (List.mem_cons_of_mem _ hw)
    · obtain ⟨rfl, rfl⟩ : k = a ∧ v = b := by
        simpa [hk] using hmem
      rw [getElem?_insertAll_of_notMem, ExtTreeMap.getElem?_insert_self]
      intro hk'
      obtain ⟨⟨_, w⟩, hw, rfl⟩ := List.mem_map.1 hk'
      exact hk (hall w (List.mem_cons_of_mem _ hw) ▸ hw)

theorem getElem?_eraseAll (m : ExtTreeMap K V cmp) (es : List (K × V)) (k : K) [DecidableEq K] :
    (eraseAll m es)[k]? = if k ∈ es.map Prod.fst then none else m[k]? := by
  induction es generalizing m with
  | nil => rfl
  | cons e es ih =>
    rw [show eraseAll m (e :: es) = eraseAll (m.erase e.1) es from rfl, ih,
      ExtTreeMap.getElem?_erase]
    simp only [LawfulEqCmp.compare_eq_iff_eq, List.map_cons, List.mem_cons]
    split_ifs <;> simp_all

/-! ## Diff and patch -/

/-- The entries of the old map whose key is gone. -/
def removedFrom (prior post : ExtTreeMap K V cmp) : List (K × V) :=
  prior.toList.filter fun e => !post.contains e.1

/-- The entries of the new map that the old one does not have. -/
def changedIn [DecidableEq V] (prior post : ExtTreeMap K V cmp) : List (K × V) :=
  post.toList.filter fun e => prior[e.1]? ≠ some e.2

def patch (m : ExtTreeMap K V cmp) (removed changed : List (K × V)) : ExtTreeMap K V cmp :=
  insertAll (eraseAll m removed) changed

theorem mem_removedFrom {prior post : ExtTreeMap K V cmp} {k : K} {v : V} :
    (k, v) ∈ removedFrom prior post ↔ prior[k]? = some v ∧ post[k]? = none := by
  simp [removedFrom, ExtTreeMap.mem_toList_iff_getElem?_eq_some,
    ← ExtTreeMap.isSome_getElem?_eq_contains]

theorem mem_changedIn [DecidableEq V] {prior post : ExtTreeMap K V cmp} {k : K} {v : V} :
    (k, v) ∈ changedIn prior post ↔ post[k]? = some v ∧ prior[k]? ≠ some v := by
  simp [changedIn, ExtTreeMap.mem_toList_iff_getElem?_eq_some]

/-- **Patching with a difference.** -/
theorem patch_diff [DecidableEq K] [DecidableEq V] (prior post : ExtTreeMap K V cmp) :
    patch prior (removedFrom prior post) (changedIn prior post) = post := by
  apply ExtTreeMap.ext_getElem?
  intro k
  by_cases hk : k ∈ (changedIn prior post).map Prod.fst
  · obtain ⟨⟨_, v⟩, hv, rfl⟩ := List.mem_map.1 hk
    have hpost := (mem_changedIn.1 hv).1
    rw [patch, getElem?_insertAll hv, hpost]
    intro w hw
    exact Option.some.inj ((mem_changedIn.1 hw).1.symm.trans hpost)
  · rw [patch, getElem?_insertAll_of_notMem hk, getElem?_eraseAll]
    have hsame : ∀ v, post[k]? = some v → prior[k]? = some v := fun v hv => by
      by_contra hne
      exact hk (List.mem_map.2 ⟨(k, v), mem_changedIn.2 ⟨hv, hne⟩, rfl⟩)
    have hrem : k ∈ (removedFrom prior post).map Prod.fst ↔
        (∃ v, prior[k]? = some v) ∧ post[k]? = none := by
      simp only [List.mem_map, Prod.exists, exists_and_right, exists_eq_right]
      simp only [mem_removedFrom, exists_and_right]
    cases hpost : post[k]? with
    | some v => rw [if_neg (by simp [hrem, hpost]), hsame v hpost]
    | none => cases hprior : prior[k]? <;> simp [hrem, hpost, hprior]

/-! ## Listeners -/

/-- The difference of two maps, each key with its new value. -/
def changes [DecidableEq V] (prior post : ExtTreeMap K V cmp) : List (K × Option V) :=
  (removedFrom prior post).map (fun e => (e.1, none)) ++
    (changedIn prior post).map (fun e => (e.1, some e.2))

theorem mem_changes [DecidableEq V] {prior post : ExtTreeMap K V cmp} {k : K} {v : Option V} :
    (k, v) ∈ changes prior post ↔ v = post[k]? ∧ prior[k]? ≠ post[k]? := by
  have hmem : (k, v) ∈ changes prior post ↔
      (v = none ∧ ∃ w, prior[k]? = some w ∧ post[k]? = none) ∨
        ∃ w, v = some w ∧ post[k]? = some w ∧ prior[k]? ≠ some w := by
    simp only [changes, List.mem_append, List.mem_map, Prod.exists, Prod.mk.injEq,
      mem_removedFrom, mem_changedIn]
    constructor
    · rintro (⟨_, w, h, rfl, rfl⟩ | ⟨_, w, h, rfl, rfl⟩)
      · exact .inl ⟨rfl, w, h⟩
      · exact .inr ⟨w, rfl, h⟩
    · rintro (⟨rfl, w, h⟩ | ⟨w, rfl, h⟩)
      · exact .inl ⟨k, w, h, rfl, rfl⟩
      · exact .inr ⟨k, w, h, rfl, rfl⟩
  rw [hmem]
  cases hpost : post[k]? with
  | none => cases hprior : prior[k]? <;> simp
  | some w => simp [eq_comm]

section Follow

variable {W : Type*} {rule : Option W → Option V → Option W} [DecidableEq K]

/-- What a listener holds after some changes, if it holds at each key what its rule makes of what
it held there and of the new value. -/
def followAll (rule : Option W → Option V → Option W) (held : K → Option W)
    (changes : List (K × Option V)) : K → Option W :=
  changes.foldl (fun held c => Function.update held c.1 (rule (held c.1) c.2)) held

theorem followAll_append (held : K → Option W) (cs cs' : List (K × Option V)) :
    followAll rule held (cs ++ cs') = followAll rule (followAll rule held cs) cs' :=
  List.foldl_append

open scoped Classical in
/-- Changes of a key that agree count once. -/
theorem followAll_apply (hrule : ∀ w v, rule (rule w v) v = rule w v) (held : K → Option W) {k : K}
    {v : Option V} {cs : List (K × Option V)} (hall : ∀ v', (k, v') ∈ cs → v' = v) :
    followAll rule held cs k = if (k, v) ∈ cs then rule (held k) v else held k := by
  induction cs generalizing held with
  | nil => rfl
  | cons c cs ih =>
    obtain ⟨k', v'⟩ := c
    have hstep : followAll rule held ((k', v') :: cs) =
        followAll rule (Function.update held k' (rule (held k') v')) cs := rfl
    rw [hstep, ih _ fun v' hv' => hall v' (List.mem_cons_of_mem _ hv')]
    by_cases hk : k' = k
    · subst hk
      cases hall v' List.mem_cons_self
      rw [Function.update_self, if_pos List.mem_cons_self, hrule, ite_self]
    · rw [Function.update_of_ne (Ne.symm hk)]
      have hmem : (k, v) ∈ (k', v') :: cs ↔ (k, v) ∈ cs := by
        rw [List.mem_cons, Prod.mk.injEq, or_iff_right_of_imp]
        exact fun h => absurd h.1.symm hk
      simp only [hmem]

/-- **A listener at a difference.** -/
theorem followAll_changes [DecidableEq V] (hrule : ∀ w v, rule (rule w v) v = rule w v)
    (held : K → Option W) (prior post : ExtTreeMap K V cmp) (k : K) :
    followAll rule held (changes prior post) k =
      if prior[k]? = post[k]? then held k else rule (held k) post[k]? := by
  rw [followAll_apply hrule held fun v' hv' => (mem_changes.1 hv').1]
  by_cases hsame : prior[k]? = post[k]?
  · rw [if_pos hsame, if_neg fun hmem => (mem_changes.1 hmem).2 hsame]
  · rw [if_neg hsame, if_pos (mem_changes.2 ⟨rfl, hsame⟩)]

end Follow

end Lib
