import Mathlib.Tactic.Common

/-!
# A queue of messages to be delivered

Messages arrive at the back and are attempted at the front. An attempt settles its message or
leaves it at the front, to be tried again; when too many wait, the oldest is dropped. Each message
that leaves is settled for good, so the messages that arrived are those settled followed by those
still waiting. `Outbox.Valid` says this, and what it means for the attempts.
-/

namespace Lib

variable {α : Type*}

/-- What became of a message that no longer waits. -/
inductive Fate
  | accepted | discarded | dropped
  deriving DecidableEq

structure Outbox (α : Type*) where
  /-- The messages settled, in the order they arrived. -/
  settled : List (α × Fate) := []
  waiting : List α := []
  /-- Each attempt: which message, counted by arrival, and its fate, unless it is tried again. -/
  attempts : List (Nat × Option Fate) := []

namespace Outbox

def arrive (o : Outbox α) (a : α) : Outbox α := { o with waiting := o.waiting ++ [a] }

/-- Drop the oldest message when more than `limit` wait. -/
def overflow (limit : Nat) (o : Outbox α) : Option (Outbox α) :=
  match o.waiting with
  | a :: rest =>
    if limit < o.waiting.length then
      some { o with settled := o.settled ++ [(a, .dropped)], waiting := rest }
    else none
  | [] => none

/-- Attempt the oldest message. -/
def attempt (o : Outbox α) (fate : Option Fate) : Option (Outbox α) :=
  match o.waiting, fate with
  | _ :: _, none => some { o with attempts := o.attempts ++ [(o.settled.length, none)] }
  | a :: rest, some f =>
    some {
      settled := o.settled ++ [(a, f)]
      waiting := rest
      attempts := o.attempts ++ [(o.settled.length, some f)] }
  | [], _ => none

/-- The books of an outbox in which `arrived` arrived, in this order. -/
structure Valid (arrived : List α) (o : Outbox α) : Prop where
  /-- Every message is settled once or still waits, in order. -/
  conserved : arrived = o.settled.map Prod.fst ++ o.waiting
  /-- Messages are attempted in the order they arrived, and never after an attempt settled them. -/
  ordered : o.attempts.Pairwise fun a b => a.1 ≤ b.1 ∧ (a.2.isSome = true → a.1 < b.1)
  /-- No message is attempted after it was settled. -/
  reached : ∀ a ∈ o.attempts, a.1 ≤ o.settled.length ∧ (a.2.isSome = true → a.1 < o.settled.length)
  /-- An attempt that settles its message gives it its fate. -/
  settles : ∀ i f, (i, some f) ∈ o.attempts → (o.settled[i]?).map Prod.snd = some f
  /-- A message has another fate than to be dropped only by an attempt. -/
  attempted : ∀ i a f, o.settled[i]? = some (a, f) → f ≠ .dropped → (i, some f) ∈ o.attempts

variable {arrived : List α} {o o' : Outbox α} {fate : Option Fate} {limit : Nat}

theorem Valid.empty : Valid (α := α) [] {} where
  conserved := rfl
  ordered := .nil
  reached := by simp
  settles := by simp
  attempted := by simp

theorem Valid.arrive (h : o.Valid arrived) (a : α) : (o.arrive a).Valid (arrived ++ [a]) where
  conserved := by
    rw [h.conserved, List.append_assoc]
    rfl
  ordered := h.ordered
  reached := h.reached
  settles := h.settles
  attempted := h.attempted

theorem getElem?_concat_eq_some {β : Type*} {l : List β} {x y : β} {i : Nat} :
    (l ++ [x])[i]? = some y ↔ l[i]? = some y ∨ (i = l.length ∧ x = y) := by
  rcases Nat.lt_trichotomy i l.length with hlt | rfl | hgt
  · rw [List.getElem?_append_left hlt]
    simp [Nat.ne_of_lt hlt]
  · simp
  · rw [List.getElem?_eq_none (by simp; omega), List.getElem?_eq_none (Nat.le_of_lt hgt)]
    simp [Nat.ne_of_gt hgt]

theorem Valid.overflow (h : o.Valid arrived) (ho : o.overflow limit = some o') :
    o'.Valid arrived := by
  unfold Outbox.overflow at ho
  split at ho
  next a rest hwaiting =>
    split_ifs at ho with hlimit
    cases ho
    refine ⟨?_, h.ordered, fun b hb => ?_, fun i f hi => ?_, fun i b f hi hf => ?_⟩
    · rw [h.conserved, hwaiting]
      simp
    · obtain ⟨hle, hlt⟩ := h.reached b hb
      rw [List.length_append, List.length_singleton]
      exact ⟨by omega, fun hsome => Nat.lt_succ_of_lt (hlt hsome)⟩
    · rw [List.getElem?_append_left ((h.reached _ hi).2 rfl)]
      exact h.settles i f hi
    · rcases getElem?_concat_eq_some.1 hi with hi | ⟨-, hb⟩
      · exact h.attempted i b f hi hf
      · cases hb
        exact absurd rfl hf
  next => cases ho

/-- The attempts stay in order when the oldest message waiting is attempted. -/
theorem Valid.ordered_concat (h : o.Valid arrived) (fate : Option Fate) :
    (o.attempts ++ [(o.settled.length, fate)]).Pairwise
      fun a b => a.1 ≤ b.1 ∧ (a.2.isSome = true → a.1 < b.1) := by
  refine List.pairwise_append.2 ⟨h.ordered, List.pairwise_singleton _ _, fun a ha b hb => ?_⟩
  rw [List.mem_singleton.1 hb]
  exact h.reached a ha

theorem Valid.attempt (h : o.Valid arrived) (ho : o.attempt fate = some o') :
    o'.Valid arrived := by
  unfold Outbox.attempt at ho
  split at ho
  next a rest hwaiting =>
    cases ho
    refine ⟨h.conserved, h.ordered_concat none, fun b hb => ?_, fun i f hi => ?_,
      fun i b f hi hf => List.mem_append_left _ (h.attempted i b f hi hf)⟩
    · rcases List.mem_append.1 hb with hb | hb
      · exact h.reached b hb
      · rw [List.mem_singleton.1 hb]
        exact ⟨Nat.le_refl _, nofun⟩
    · rcases List.mem_append.1 hi with hi | hi
      · exact h.settles i f hi
      · cases List.mem_singleton.1 hi
  next a rest f hwaiting =>
    cases ho
    refine ⟨?_, h.ordered_concat (some f), fun b hb => ?_, fun i f' hi => ?_,
      fun i b f' hi hf => ?_⟩
    · rw [h.conserved, hwaiting]
      simp
    · rw [List.length_append, List.length_singleton]
      rcases List.mem_append.1 hb with hb | hb
      · obtain ⟨hle, hlt⟩ := h.reached b hb
        exact ⟨by omega, fun hsome => Nat.lt_succ_of_lt (hlt hsome)⟩
      · rw [List.mem_singleton.1 hb]
        exact ⟨Nat.le_succ _, fun _ => Nat.lt_succ_self _⟩
    · rcases List.mem_append.1 hi with hi | hi
      · rw [List.getElem?_append_left ((h.reached _ hi).2 rfl)]
        exact h.settles i f' hi
      · cases List.mem_singleton.1 hi
        simp
    · rcases getElem?_concat_eq_some.1 hi with hi | ⟨rfl, hb⟩
      · exact List.mem_append_left _ (h.attempted i b f' hi hf)
      · cases hb
        simp
  next => cases ho

end Outbox

end Lib
