import Mathlib.Data.List.Basic
import Mathlib.Tactic.Common

/-!
# Relays between channels

A relay receives the messages of a channel one by one, makes a list of messages of each, and passes
these on before it receives the next. What it makes of a message may depend on a reading, of the
clock for instance. `taken` remembers the messages received, each with its reading.

`Passed` is the law of a relay: what it has made of the messages received is what it has passed on,
followed by what it still holds. Where other senders share the channel that it passes messages on
to, its own messages are told apart by a predicate. What does not depend on the readings is
conserved.
-/

namespace Lib

/-- The channel that a relay receives from, and the relay. -/
structure Relay (ι α β : Type*) where
  /-- Sent and not yet received. -/
  channel : List α := []
  /-- Made and not yet passed on. -/
  held : List β := []
  taken : List (ι × α) := []

namespace Relay

variable {ι α β : Type*} {relay : ι → α → List β} {r r' : Relay ι α β}

def send (a : α) (r : Relay ι α β) : Relay ι α β := { r with channel := r.channel ++ [a] }

/-- Receive a message, once the last one is dealt with. -/
def take (relay : ι → α → List β) (i : ι) (r : Relay ι α β) : Option (Relay ι α β) :=
  match r.held, r.channel with
  | [], a :: rest => some ⟨rest, relay i a, r.taken ++ [(i, a)]⟩
  | _, _ => none

/-- Pass on one message. -/
def pass (r : Relay ι α β) : Option (β × Relay ι α β) :=
  match r.held with
  | b :: rest => some (b, { r with held := rest })
  | [] => none

/-- All that was ever sent on the channel. -/
def sent (r : Relay ι α β) : List α := r.taken.map Prod.snd ++ r.channel

/-- All that the relay has made of what it received. -/
def made (relay : ι → α → List β) (r : Relay ι α β) : List β :=
  r.taken.flatMap fun m => relay m.1 m.2

/-- The messages passed on so far are `passed`. -/
def Passed (relay : ι → α → List β) (r : Relay ι α β) (passed : List β) : Prop :=
  r.made relay = passed ++ r.held

theorem take_eq_some {i : ι} : r.take relay i = some r' ↔ ∃ a rest, r.held = [] ∧
    r.channel = a :: rest ∧ r' = ⟨rest, relay i a, r.taken ++ [(i, a)]⟩ := by
  unfold take
  cases r.held with
  | nil => cases r.channel <;> simp [eq_comm]
  | cons b rest => simp

theorem pass_eq_some {b : β} : r.pass = some (b, r') ↔ ∃ rest, r.held = b :: rest ∧
    r' = { r with held := rest } := by
  unfold pass
  cases r.held with
  | nil => simp
  | cons b rest => simp [eq_comm, and_assoc]

theorem take_eq_none {i : ι} : r.take relay i = none ↔ (r.channel ≠ [] → r.held ≠ []) := by
  unfold take
  cases r.held with
  | nil => cases r.channel <;> simp
  | cons b rest => simp

@[simp] theorem sent_send (a : α) : (r.send a).sent = r.sent ++ [a] :=
  (List.append_assoc _ _ _).symm

theorem sent_take {i : ι} (h : r.take relay i = some r') : r'.sent = r.sent := by
  obtain ⟨a, rest, -, hchannel, rfl⟩ := take_eq_some.1 h
  simp [sent, hchannel]

theorem sent_pass {b : β} (h : r.pass = some (b, r')) : r'.sent = r.sent := by
  obtain ⟨rest, -, rfl⟩ := pass_eq_some.1 h
  rfl

theorem Passed.start : Passed relay ({} : Relay ι α β) [] := rfl

variable {passed : List β}

theorem Passed.send (h : r.Passed relay passed) (a : α) : (r.send a).Passed relay passed := h

theorem Passed.take {i : ι} (h : r.Passed relay passed) (htake : r.take relay i = some r') :
    r'.Passed relay passed := by
  obtain ⟨a, rest, hheld, -, rfl⟩ := take_eq_some.1 htake
  unfold Passed made at h ⊢
  rw [hheld, List.append_nil] at h
  rw [List.flatMap_append, h]
  simp

theorem Passed.pass {b : β} (h : r.Passed relay passed) (hpass : r.pass = some (b, r')) :
    r'.Passed relay (passed ++ [b]) := by
  obtain ⟨rest, hheld, rfl⟩ := pass_eq_some.1 hpass
  unfold Passed at h ⊢
  rw [hheld] at h
  rw [List.append_assoc]
  exact h

section Shared

variable {own : β → Bool}

/-- What a relay holds is its own. -/
theorem Passed.own_pass {b : β} (h : r.Passed relay passed)
    (hown : ∀ i a, ∀ b ∈ relay i a, own b = true) (hpass : r.pass = some (b, r')) :
    own b = true := by
  obtain ⟨rest, hheld, -⟩ := pass_eq_some.1 hpass
  have hmade : b ∈ r.made relay := by
    rw [h, hheld]
    exact List.mem_append_right _ List.mem_cons_self
  obtain ⟨⟨i, a⟩, -, hrelay⟩ := List.mem_flatMap.1 hmade
  exact hown i a b hrelay

/-- A message passed on to a channel that is shared. -/
theorem Passed.pass_shared {b : β} {shared : List β} (h : r.Passed relay (shared.filter own))
    (hown : ∀ i a, ∀ b ∈ relay i a, own b = true) (hpass : r.pass = some (b, r')) :
    r'.Passed relay ((shared ++ [b]).filter own) := by
  rw [List.filter_append, List.filter_cons_of_pos (h.own_pass hown hpass), List.filter_nil]
  exact h.pass hpass

/-- A message of another sender on a channel that is shared. -/
theorem filter_append_other {shared : List β} {b : β} (hb : own b = false) :
    (shared ++ [b]).filter own = shared.filter own := by
  rw [List.filter_append, List.filter_cons_of_neg (by rw [hb]; exact Bool.false_ne_true),
    List.filter_nil, List.append_nil]

end Shared

/-! ### What does not depend on the readings -/

section Images

variable {γ : Type*} {f : β → Option γ}

/-- What `f` reads off the messages made of each message and reading. -/
theorem filterMap_made {image : ι × α → Option γ}
    (hf : ∀ i a, (relay i a).filterMap f = (image (i, a)).toList) :
    (r.made relay).filterMap f = r.taken.filterMap image := by
  unfold made
  rw [List.filterMap_flatMap, List.filterMap_eq_flatMap_toList]
  exact List.flatMap_congr fun m _ => hf m.1 m.2

variable {image : α → Option γ}

/-- **Nothing is lost, repeated or reordered.** What is read off all that was sent is what was
passed on, what is held, and what is yet to be made of what is in the channel. -/
theorem Passed.conserved (h : r.Passed relay passed)
    (hf : ∀ i a, (relay i a).filterMap f = (image a).toList) :
    r.sent.filterMap image =
      passed.filterMap f ++ r.held.filterMap f ++ r.channel.filterMap image := by
  have hmade : (r.made relay).filterMap f = (r.taken.map Prod.snd).filterMap image := by
    rw [List.filterMap_map]
    exact filterMap_made fun i a => hf i a
  rw [sent, List.filterMap_append, ← hmade, h, List.filterMap_append]

variable {own : β → Bool} {shared : List β}

/-- `f` reads nothing off the messages of others. -/
theorem filterMap_shared (hother : ∀ b, own b = false → f b = none) :
    (shared.filter own).filterMap f = shared.filterMap f := by
  rw [List.filterMap_filter]
  refine List.filterMap_congr fun b _ => ?_
  cases hb : own b with
  | true => rfl
  | false => exact (hother b hb).symm

/-- Nothing is lost on a channel that is shared. -/
theorem Passed.conserved_shared (h : r.Passed relay (shared.filter own))
    (hf : ∀ i a, (relay i a).filterMap f = (image a).toList)
    (hother : ∀ b, own b = false → f b = none) :
    r.sent.filterMap image =
      shared.filterMap f ++ r.held.filterMap f ++ r.channel.filterMap image := by
  rw [h.conserved hf, filterMap_shared hother]

end Images

end Relay

/-! ## Two senders -/

/-- `c` is what a channel receives that one sender sends `a` into, and another `b`. -/
inductive Merge {α : Type*} : List α → List α → List α → Prop
  | nil : Merge [] [] []
  | left {a b c : List α} (x : α) : Merge a b c → Merge (a ++ [x]) b (c ++ [x])
  | right {a b c : List α} (x : α) : Merge a b c → Merge a (b ++ [x]) (c ++ [x])

end Lib
