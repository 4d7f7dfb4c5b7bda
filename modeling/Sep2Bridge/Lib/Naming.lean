import Sep2Bridge.Lib.HashMap

/-!
# Names that are given once

A table of names: each key has at most one name, and no two keys have the same. A fresh name is one
that is not among those known so far.

* `Naming.insert` — a key gets a fresh name.
* `naming_ofEntries` — the table of entries with different names.
-/

namespace Lib

variable {K V : Type*} [DecidableEq K]

/-- No two keys have the same name, and all names are known. -/
structure Naming (names : HashMap K V) (known : List V) : Prop where
  injective : ∀ k k' v, names.get? k = some v → names.get? k' = some v → k = k'
  known : ∀ k v, names.get? k = some v → v ∈ known

variable {names : HashMap K V} {known known' : List V} {k : K} {v : V}

theorem naming_empty : Naming (∅ : HashMap K V) known where
  injective k k' v h := by
    rw [HashMap.get?_empty] at h
    cases h
  known k v h := by
    rw [HashMap.get?_empty] at h
    cases h

namespace Naming

theorem mono (h : Naming names known) (hsub : known ⊆ known') : Naming names known' :=
  ⟨h.injective, fun k v hv => hsub (h.known k v hv)⟩

/-- A fresh name belongs to no other key. -/
theorem insert (h : Naming names known) (hfresh : v ∉ known) :
    Naming (names.insert k v) (known ++ [v]) where
  injective := by
    intro k₁ k₂ w h₁ h₂
    rw [HashMap.get?_insert] at h₁ h₂
    split_ifs at h₁ h₂ with hk₁ hk₂ hk₂
    · rw [hk₁, hk₂]
    · cases h₁
      exact absurd (h.known _ _ h₂) hfresh
    · cases h₂
      exact absurd (h.known _ _ h₁) hfresh
    · exact h.injective _ _ _ h₁ h₂
  known := by
    intro k' w hw
    rw [HashMap.get?_insert] at hw
    split_ifs at hw
    · cases hw
      exact List.mem_append_right _ (List.mem_singleton_self _)
    · exact List.mem_append_left _ (h.known _ _ hw)

end Naming

theorem mem_of_get?_foldl_insert {entries : List (K × V)} {names : HashMap K V}
    (h : (entries.foldl (fun names e => names.insert e.1 e.2) names).get? k = some v) :
    (k, v) ∈ entries ∨ names.get? k = some v := by
  induction entries generalizing names with
  | nil => exact .inr h
  | cons e entries ih =>
    obtain hmem | hget := ih h
    · exact .inl (List.mem_cons_of_mem _ hmem)
    · rw [HashMap.get?_insert] at hget
      split_ifs at hget with hk
      · cases hget
        exact .inl (by rw [hk]; exact List.mem_cons_self)
      · exact .inr hget

/-- Entries with different names, where a later entry of a key wins. -/
theorem naming_ofEntries {entries : List (K × V)} (hnodup : (entries.map Prod.snd).Nodup)
    (hknown : entries.map Prod.snd ⊆ known) : Naming (HashMap.ofEntries entries) known := by
  have hmem : ∀ {k v}, (HashMap.ofEntries entries).get? k = some v → (k, v) ∈ entries := by
    intro k v h
    obtain hmem | hget := mem_of_get?_foldl_insert h
    · exact hmem
    · rw [HashMap.get?_empty] at hget
      cases hget
  refine ⟨fun k k' v h h' => ?_, fun k v h => hknown (List.mem_map_of_mem (hmem h))⟩
  exact congrArg Prod.fst (List.inj_on_of_nodup_map hnodup (hmem h) (hmem h') rfl)

end Lib
