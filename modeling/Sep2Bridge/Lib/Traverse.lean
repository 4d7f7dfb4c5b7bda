import Mathlib.Data.List.Forall2
import Mathlib.Data.List.ReduceOption

/-!
# Conversions of lists

A conversion that may fail is made of each item of a list. If all of them succeed, what is known
of one result is known of the list of results.

* `mapM_eq_some`, `eq_map_of_mapM` — the results of conversions that are known.
* `map_eq_of_mapM` — an image of the results that does not depend on how they were converted.
* `sublist_reduceOption` — lists of values some of which are missing.
-/

namespace Lib

section

variable {α β : Type}

theorem mapM_eq_some {f : α → Option β} {g : α → β} {l : List α}
    (h : ∀ a ∈ l, f a = some (g a)) : l.mapM f = some (l.map g) := by
  induction l with
  | nil => rfl
  | cons a l ih =>
    rw [List.mapM_cons, h a List.mem_cons_self, ih fun b hb => h b (List.mem_cons_of_mem _ hb)]
    rfl

/-- Items that are converted back. -/
theorem mapM_map_eq_some {f : α → β} {g : β → Option α} {l : List α}
    (h : ∀ a ∈ l, g (f a) = some a) : (l.map f).mapM g = some l := by
  have hback : l.mapM (g ∘ f) = some (l.map id) := mapM_eq_some h
  rw [List.mapM_map, hback, List.map_id]

theorem eq_map_of_mapM {f : α → Option β} {g : α → β} {l : List α} {bs : List β}
    (hf : ∀ a ∈ l, ∀ b, f a = some b → b = g a) (h : l.mapM f = some bs) : bs = l.map g := by
  induction l generalizing bs with
  | nil =>
    cases h
    rfl
  | cons a l ih =>
    rw [List.mapM_cons] at h
    obtain ⟨b, hb, h⟩ := Option.bind_eq_some_iff.1 h
    obtain ⟨bs', hbs', h⟩ := Option.bind_eq_some_iff.1 h
    cases h
    rw [List.map_cons, hf a List.mem_cons_self b hb,
      ih (fun a ha => hf a (List.mem_cons_of_mem _ ha)) hbs']

end

section Except

variable {ε α β γ : Type} {f : α → Except ε β}

theorem bind_eq_ok {x : Except ε α} {b : β} :
    x >>= f = .ok b ↔ ∃ a, x = .ok a ∧ f a = .ok b := by
  cases x with
  | error e => simp [bind, Except.bind]
  | ok a => simp [bind, Except.bind]

/-- What holds of each conversion holds of a list of them, in order. -/
theorem map_eq_of_mapM {g : β → γ} {g' : α → γ} {l : List α} {l' : List β}
    (h : l.mapM f = .ok l') (hf : ∀ a b, f a = .ok b → g b = g' a) : l'.map g = l.map g' := by
  induction l generalizing l' with
  | nil =>
    cases h
    rfl
  | cons a l ih =>
    rw [List.mapM_cons, bind_eq_ok] at h
    obtain ⟨b, hb, h⟩ := h
    obtain ⟨bs, hbs, h⟩ := bind_eq_ok.1 h
    cases h
    rw [List.map_cons, List.map_cons, hf a b hb, ih hbs]

/-- At most one value, of a fixed image. -/
theorem sublist_of_mapM {x : Option α} {y : Option β} {g : β → γ} {c : γ} (h : x.mapM f = .ok y)
    (hf : ∀ a b, f a = .ok b → g b = c) : (y.toList.map g).Sublist [c] := by
  cases x with
  | none =>
    cases h
    exact List.nil_sublist _
  | some a =>
    have hmap : some <$> f a = .ok y := h
    cases hfa : f a with
    | error e =>
      rw [hfa] at hmap
      cases hmap
    | ok b =>
      rw [hfa] at hmap
      cases hmap
      rw [← hf a b hfa]
      exact List.Sublist.refl _

end Except

theorem sublist_reduceOption {α β : Type*} {g : α → β} {os : List (Option α)} {cs : List β}
    (h : List.Forall₂ (fun o c => (o.toList.map g).Sublist [c]) os cs) :
    (os.reduceOption.map g).Sublist cs := by
  induction h with
  | nil => exact List.Sublist.refl _
  | @cons o c os cs ho _ ih =>
    cases o with
    | none => exact ih.cons c
    | some a => exact ho.append ih

end Lib
