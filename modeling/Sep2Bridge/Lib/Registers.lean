import Mathlib.Logic.Function.Basic

/-!
# Registers and lists of writes

A register file gives each register a value of the register's own type. What a program does to
it is a list of writes, made in order, of which only the last to a register counts.

* `lastWrite` — the value a list of writes leaves in a register, if it writes it.
* `writeAll_apply` — the other registers keep what they held.
* `writeAll_eq_iff` — two files agree on a register after the same writes exactly if the writes
  settle it or the files agreed before.
-/

namespace Lib

variable {R : Type*} {V : R → Type*} [DecidableEq R]

/-- The registers after the writes `ws`, made in order. -/
def writeAll (d : ∀ r, V r) (ws : List (Sigma V)) : ∀ r, V r :=
  ws.foldl (fun d w => Function.update d w.1 w.2) d

/-- The value the writes leave in `r`, if they write it. -/
def lastWrite (r : R) : List (Sigma V) → Option (V r)
  | [] => none
  | w :: ws => (lastWrite r ws).or (if h : w.1 = r then some (h ▸ w.2) else none)

/-- Write `r` only when there is a value for it. -/
def writeIfSome (r : R) (value : Option (V r)) : List (Sigma V) :=
  match value with
  | none => []
  | some v => [⟨r, v⟩]

variable {d d' : ∀ r, V r} {ws ws' : List (Sigma V)} {r : R}

@[simp] theorem writeAll_nil : writeAll d [] = d := rfl

theorem writeAll_append : writeAll d (ws ++ ws') = writeAll (writeAll d ws) ws' :=
  List.foldl_append

@[simp] theorem lastWrite_nil : lastWrite r ([] : List (Sigma V)) = none := rfl

@[simp] theorem lastWrite_append :
    lastWrite r (ws ++ ws') = (lastWrite r ws').or (lastWrite r ws) := by
  induction ws with
  | nil => simp
  | cons w ws ih => rw [List.cons_append, lastWrite, ih, lastWrite, Option.or_assoc]

@[simp] theorem lastWrite_ite (c : Prop) [Decidable c] :
    lastWrite r (if c then ws else ws') = if c then lastWrite r ws else lastWrite r ws' :=
  apply_ite _ c ws ws'

@[simp] theorem lastWrite_elim {α : Type*} (o : Option α) (f : α → List (Sigma V)) :
    lastWrite r (o.elim [] f) = o.bind fun a => lastWrite r (f a) := by
  cases o <;> rfl

@[simp] theorem lastWrite_writeIfSome_self (value : Option (V r)) :
    lastWrite r (writeIfSome r value) = value := by
  cases value <;> simp [writeIfSome, lastWrite]

@[simp] theorem lastWrite_writeIfSome_ne {r' : R} (h : r' ≠ r) (value : Option (V r')) :
    lastWrite r (writeIfSome r' value) = none := by
  cases value <;> simp [writeIfSome, lastWrite, h]

/-- Writes to other registers leave nothing in `r`. -/
theorem lastWrite_eq_none (h : ∀ w ∈ ws, w.1 ≠ r) : lastWrite r ws = none := by
  induction ws with
  | nil => rfl
  | cons w ws ih =>
    rw [lastWrite, ih fun w hw => h w (List.mem_cons_of_mem _ hw), dif_neg (h w List.mem_cons_self)]
    rfl

/-- A register in which writes leave nothing is not among them. -/
theorem ne_of_lastWrite_eq_none (h : lastWrite r ws = none) {w : Sigma V} (hw : w ∈ ws) :
    w.1 ≠ r := by
  induction ws with
  | nil => cases hw
  | cons v ws ih =>
    rw [lastWrite, Option.or_eq_none_iff] at h
    rcases List.mem_cons.1 hw with rfl | hw
    · intro hr
      rw [dif_pos hr] at h
      cases h.2
    · exact ih h.1 hw

theorem writeAll_apply (d : ∀ r, V r) (ws : List (Sigma V)) (r : R) :
    writeAll d ws r = (lastWrite r ws).getD (d r) := by
  induction ws generalizing d with
  | nil => rfl
  | cons w ws ih =>
    have hcons : writeAll d (w :: ws) = writeAll (Function.update d w.1 w.2) ws := rfl
    rw [hcons, ih, lastWrite]
    cases lastWrite r ws with
    | some v => rfl
    | none =>
      by_cases h : w.1 = r
      · subst h; simp
      · rw [dif_neg h]
        exact Function.update_of_ne (Ne.symm h) _ _

/-- Writes that leave the same value in each register have the same effect. -/
theorem writeAll_congr (h : ∀ r, lastWrite r ws = lastWrite r ws') :
    writeAll d ws = writeAll d ws' := by
  funext r
  rw [writeAll_apply, writeAll_apply, h r]

/-- After several lists of writes a register holds what the last list to write it left. -/
theorem lastWrite_flatMap {α : Type*} (l : List α) (f : α → List (Sigma V)) :
    lastWrite r (l.flatMap f) = l.reverse.findSome? fun a => lastWrite r (f a) := by
  induction l with
  | nil => rfl
  | cons a l ih =>
    rw [List.flatMap_cons, lastWrite_append, ih, List.reverse_cons, List.findSome?_append]
    simp

theorem writeAll_eq_iff :
    writeAll d ws r = writeAll d' ws r ↔ (lastWrite r ws).isSome = true ∨ d r = d' r := by
  rw [writeAll_apply, writeAll_apply]
  cases lastWrite r ws <;> simp

end Lib
