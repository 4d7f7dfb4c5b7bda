import Mathlib.Data.List.ReduceOption
import Mathlib.Tactic.Common

/-!
# The first error

A sequence of steps that may fail has the error of the first step that does. `errorOf` reads the
error off, so that the error of a whole sequence is calculated from its steps (`errorOf_bind`)
when none of them depends on the results of those before it for whether it fails.
-/

namespace Lib

variable {ε ε' α β : Type}

/-- The error of a step, if it fails. -/
def errorOf : Except ε α → Option ε
  | .ok _ => none
  | .error e => some e

@[simp] theorem errorOf_ok (a : α) : errorOf (.ok a : Except ε α) = none := rfl

@[simp] theorem errorOf_pure (a : α) : errorOf (pure a : Except ε α) = none := rfl

@[simp] theorem errorOf_error (e : ε) : errorOf (.error e : Except ε α) = some e := rfl

theorem errorOf_eq_some {x : Except ε α} {e : ε} : errorOf x = some e ↔ x = .error e := by
  cases x <;> simp

theorem errorOf_eq_none {x : Except ε α} : errorOf x = none ↔ ∃ a, x = .ok a := by
  cases x <;> simp

/-- **The error of a sequence** is that of its first step, or else that of the rest. -/
theorem errorOf_bind {x : Except ε α} {f : α → Except ε β} {rest : Option ε}
    (h : ∀ a, x = .ok a → errorOf (f a) = rest) : errorOf (x >>= f) = (errorOf x).or rest := by
  cases x with
  | error e => rfl
  | ok a => exact h a rfl

theorem errorOf_mapError (g : ε → ε') (x : Except ε α) :
    errorOf (x.mapError g) = (errorOf x).map g := by
  cases x <;> rfl

/-- A conversion of what is there. -/
theorem errorOf_mapM_option (f : α → Except ε β) (x : Option α) :
    errorOf (x.mapM f) = x.bind fun a => errorOf (f a) := by
  cases x with
  | none => rfl
  | some a =>
    show errorOf (some <$> f a) = errorOf (f a)
    cases f a <;> rfl

/-- A conversion of each item of a list. -/
theorem errorOf_mapM_list (f : α → Except ε β) (l : List α) :
    errorOf (l.mapM f) = l.findSome? fun a => errorOf (f a) := by
  induction l with
  | nil => rfl
  | cons a l ih =>
    have hrest : ∀ b, f a = .ok b →
        errorOf (l.mapM f >>= fun bs => pure (b :: bs)) = errorOf (l.mapM f) := by
      intro b _
      cases l.mapM f <;> rfl
    rw [List.mapM_cons, errorOf_bind hrest, ih, List.findSome?_cons]
    cases errorOf (f a) <;> rfl

/-- The first of a list of errors. -/
theorem findSome?_cons_eq_or (f : α → Option ε) (a : α) (l : List α) :
    (a :: l).findSome? f = (f a).or (l.findSome? f) := by
  rw [List.findSome?_cons]
  cases f a <;> rfl

theorem findSome?_reduceOption (f : α → Option ε) (l : List (Option α)) :
    l.reduceOption.findSome? f = l.findSome? fun a => a.bind f := by
  induction l with
  | nil => rfl
  | cons a l ih =>
    cases a with
    | none => exact ih
    | some a =>
      rw [List.reduceOption_cons_of_some, findSome?_cons_eq_or, findSome?_cons_eq_or, ih]
      rfl

end Lib
