import Mathlib.Data.List.MinMax
import Mathlib.Tactic.Linarith

/-!
# Timelines

A list of things that happen, each at its time, in no particular order. An observer looks at
what is still to come and sleeps until the first of it. Until then the view does not change.

* `upcoming`, `earliest` — what is still to come, and when the first of it happens.
* `upcoming_congr` — the view is the same at every instant before the first upcoming time.
* `count_flatMap_of_filter` — counting in a concatenation, where only some parts count.
-/

namespace Lib

variable {α β : Type*}

/-- What happens strictly after `now`. -/
def upcoming (now : Int) (es : List (Int × α)) : List (Int × α) := es.filter fun e => now < e.1

/-- The first time on a list. -/
def earliest (es : List (Int × α)) : Option Int := (es.map Prod.fst).min?

theorem mem_upcoming {now : Int} {es : List (Int × α)} {e : Int × α} :
    e ∈ upcoming now es ↔ e ∈ es ∧ now < e.1 := by
  simp [upcoming]

theorem earliest_eq_some_iff {es : List (Int × α)} {t : Int} :
    earliest es = some t ↔ (∃ e ∈ es, e.1 = t) ∧ ∀ e ∈ es, t ≤ e.1 := by
  simp only [earliest, List.min?_eq_some_iff, List.mem_map, forall_exists_index, and_imp,
    forall_apply_eq_imp_iff₂]

theorem earliest_eq_none_iff {es : List (Int × α)} : earliest es = none ↔ es = [] := by
  simp [earliest]

/-- The first upcoming time is still to come. -/
theorem lt_of_earliest_upcoming {now t : Int} {es : List (Int × α)}
    (h : earliest (upcoming now es) = some t) : now < t := by
  obtain ⟨⟨e, he, rfl⟩, -⟩ := earliest_eq_some_iff.1 h
  exact (mem_upcoming.1 he).2

/-- Something upcoming bounds the first upcoming time. -/
theorem exists_earliest_le {now : Int} {es : List (Int × α)} {e : Int × α} (he : e ∈ es)
    (hnow : now < e.1) : ∃ t, earliest (upcoming now es) = some t ∧ t ≤ e.1 := by
  have hmem : e ∈ upcoming now es := mem_upcoming.2 ⟨he, hnow⟩
  cases h : earliest (upcoming now es) with
  | none => rw [earliest_eq_none_iff.1 h] at hmem; cases hmem
  | some t => exact ⟨t, rfl, (earliest_eq_some_iff.1 h).2 e hmem⟩

/-- Up to the first upcoming time, nothing changes sides. -/
theorem lt_iff_lt_of_quiet {now now' : Int} {es : List (Int × α)} (hle : now ≤ now')
    (h : ∀ t, earliest (upcoming now es) = some t → now' < t) {e : Int × α} (he : e ∈ es) :
    now < e.1 ↔ now' < e.1 := by
  constructor
  · intro hlt
    obtain ⟨t, ht, hte⟩ := exists_earliest_le he hlt
    exact lt_of_lt_of_le (h t ht) hte
  · exact lt_of_le_of_lt hle

/-- **Up to the first upcoming time the view does not change.** -/
theorem upcoming_congr {now now' : Int} {es : List (Int × α)} (hle : now ≤ now')
    (h : ∀ t, earliest (upcoming now es) = some t → now' < t) :
    upcoming now' es = upcoming now es := by
  refine List.filter_congr fun e he => ?_
  simp only [lt_iff_lt_of_quiet hle h he]

/-! ## Counting -/

/-- Counting in a concatenation, where only the parts that `p` selects count. -/
theorem count_flatMap_of_filter [BEq β] [LawfulBEq β] {b : β} {f : α → List β} {p : α → Bool}
    {l : List α} (h : ∀ a ∈ l, p a = false → b ∉ f a) :
    (l.flatMap f).count b = ((l.filter p).flatMap f).count b := by
  induction l with
  | nil => rfl
  | cons a l ih =>
    have ih := ih fun a ha => h a (List.mem_cons_of_mem _ ha)
    cases hp : p a with
    | true => simp [hp, ih]
    | false => simp [hp, ih, List.count_eq_zero.2 (h a List.mem_cons_self hp)]

end Lib
