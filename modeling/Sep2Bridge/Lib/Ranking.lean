import Mathlib.Data.List.Sort

/-!
# Ranked layers

Several sources may define a value and the first to define it wins. When the sources are
sorted by a ranking, the winner is a source that no other defining source outranks.

* `sortBy` — the stable sort by a three-way comparison.
* `findSome?_ranked` — the first defined value of a ranked list.
* `get_foldl_overlay` — merging layers left to right takes the first defined value.
-/

namespace Lib

variable {α β : Type*}

/-! ## Sorting by a comparison -/

/-- The stable sort by a three-way comparison, which is asked only whether one element is
less than another. -/
def sortBy (cmp : α → α → Ordering) (l : List α) : List α :=
  l.insertionSort fun a b => cmp b a ≠ .lt

/-- What `sortBy` needs of `cmp`: "less" is a strict weak order. -/
structure Ranks (cmp : α → α → Ordering) : Prop where
  asymm : ∀ a b, cmp a b = .lt → cmp b a ≠ .lt
  negTrans : ∀ a b c, cmp a b ≠ .lt → cmp b c ≠ .lt → cmp a c ≠ .lt

theorem sortBy_perm (cmp : α → α → Ordering) (l : List α) : (sortBy cmp l).Perm l :=
  List.perm_insertionSort _ l

@[simp] theorem mem_sortBy {cmp : α → α → Ordering} {l : List α} {a : α} :
    a ∈ sortBy cmp l ↔ a ∈ l :=
  (sortBy_perm cmp l).mem_iff

/-- In a sorted list nothing is less than what stands before it. -/
theorem sortBy_pairwise {cmp : α → α → Ordering} (h : Ranks cmp) (l : List α) :
    (sortBy cmp l).Pairwise fun a b => cmp b a ≠ .lt := by
  have : Std.Total fun a b => cmp b a ≠ .lt :=
    ⟨fun a b => by
      by_cases hab : cmp b a = .lt
      · exact .inr (h.asymm _ _ hab)
      · exact .inl hab⟩
  have : IsTrans α fun a b => cmp b a ≠ .lt :=
    ⟨fun a b c hab hbc => h.negTrans _ _ _ hbc hab⟩
  exact List.pairwise_insertionSort _ l

/-! ## The first defined value -/

/-- In a ranked list, the first element that defines a value is outranked by no element that
defines one. -/
theorem findSome?_ranked {lt : α → α → Prop} (hirr : ∀ a, ¬ lt a a) {l : List α}
    (hl : l.Pairwise fun a b => ¬ lt b a) {f : α → Option β} {v : β}
    (h : l.findSome? f = some v) :
    ∃ a ∈ l, f a = some v ∧ ∀ b ∈ l, (f b).isSome → ¬ lt b a := by
  induction l with
  | nil => simp at h
  | cons a l ih =>
    rw [List.pairwise_cons] at hl
    rw [List.findSome?_cons] at h
    cases ha : f a with
    | some w =>
      simp only [ha, Option.some.injEq] at h
      subst h
      refine ⟨a, List.mem_cons_self, ha, fun b hb _ => ?_⟩
      rcases List.mem_cons.1 hb with rfl | hb
      · exact hirr _
      · exact hl.1 b hb
    | none =>
      simp only [ha] at h
      obtain ⟨x, hx, hfx, hmax⟩ := ih hl.2 h
      refine ⟨x, List.mem_cons_of_mem _ hx, hfx, fun b hb hfb => ?_⟩
      rcases List.mem_cons.1 hb with rfl | hb
      · simp [ha] at hfb
      · exact hmax b hb hfb

/-! ## Merging layers -/

/-- Folding an overlay that prefers its left argument takes the first defined value. -/
theorem get_foldl_overlay {f : α → Option β} {overlay : α → α → α}
    (hov : ∀ x y, f (overlay x y) = (f x).or (f y)) (x : α) (l : List α) :
    f (l.foldl overlay x) = (f x).or (l.findSome? f) := by
  induction l generalizing x with
  | nil => simp
  | cons y l ih =>
    rw [List.foldl_cons, ih, hov, Option.or_assoc, List.findSome?_cons]
    cases f y <;> rfl

end Lib
