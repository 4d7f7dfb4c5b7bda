import Mathlib.Data.List.DropRight
import Mathlib.Logic.Relation
import Mathlib.Tactic.Common

/-!
# A ring of bounded queues

A worker takes pieces of work and sends results to a publisher, which in turn publishes work. A
`Leg` is what lies between a sender and its receiver: what is still to be sent, a channel, a relay
that holds one message, and an inbox. The channel and the inbox hold `cap` messages, and whoever
sends to a full one waits. If both senders and both relays wait, the ring is jammed for good.

While the publisher is busy sending, the ring can only jam by what the worker makes of the work
that is under way. `2 * (cap + 1)` pieces of it fit between the two, so the worker can be made to
take all but the last of these, and no others.

The ring is `Roomy` if either fewer messages are under way than jam a leg, or whatever the worker
makes of the work it can be made to take, the results fit in the other leg. Unless the publisher
takes in a result or publishes more, it stays roomy (`Roomy.step`), and is not jammed
(`Roomy.not_jammed`). A ring that is not roomy can jam (`exists_jammed`).
-/

namespace Lib

theorem rdrop_cons {α : Type*} {l : List α} {n : ℕ} (h : n ≤ l.length) (a : α) :
    (a :: l).rdrop n = a :: l.rdrop n := by
  rw [List.rdrop, List.rdrop, List.length_cons, Nat.succ_sub h, List.take_succ_cons]

/-! ## One leg -/

/-- What lies between a sender and a receiver. -/
structure Leg (α β : Type*) where
  /-- What is still to be sent, and waits while the channel is full. -/
  pending : List α := []
  channel : List α := []
  /-- What the relay has taken and not yet forwarded. -/
  held : Option β := none
  inbox : List β := []

namespace Leg

variable {α β ι : Type*} {cap : ℕ} {relay : ι → α → Option β} {l l' : Leg α β}

def send (cap : ℕ) (l : Leg α β) : Option (Leg α β) :=
  match l.pending with
  | a :: rest =>
    if l.channel.length < cap then
      some { l with pending := rest, channel := l.channel ++ [a] }
    else none
  | [] => none

/-- The relay takes a message, and passes it on or drops it. -/
def take (relay : α → Option β) (l : Leg α β) : Option (Leg α β) :=
  match l.held, l.channel with
  | none, a :: rest => some { l with channel := rest, held := relay a }
  | _, _ => none

def forward (cap : ℕ) (l : Leg α β) : Option (Leg α β) :=
  match l.held with
  | some b =>
    if l.inbox.length < cap then some { l with held := none, inbox := l.inbox ++ [b] } else none
  | none => none

theorem send_eq_some : l.send cap = some l' ↔ ∃ a rest, l.pending = a :: rest ∧
    l.channel.length < cap ∧ l' = { l with pending := rest, channel := l.channel ++ [a] } := by
  unfold send
  cases l.pending with
  | nil => simp
  | cons a rest => simp [eq_comm, and_assoc]

theorem take_eq_some {relay : α → Option β} : l.take relay = some l' ↔ ∃ a rest,
    l.held = none ∧ l.channel = a :: rest ∧ l' = { l with channel := rest, held := relay a } := by
  unfold take
  cases l.held with
  | none => cases l.channel <;> simp [eq_comm]
  | some b => simp

theorem forward_eq_some : l.forward cap = some l' ↔ ∃ b, l.held = some b ∧
    l.inbox.length < cap ∧ l' = { l with held := none, inbox := l.inbox ++ [b] } := by
  unfold forward
  cases l.held with
  | none => simp
  | some b => simp [eq_comm]

/-- One step of the sender or of the relay. -/
inductive Move (cap : ℕ) (relay : ι → α → Option β) (l l' : Leg α β) : Prop
  | send : l.send cap = some l' → Move cap relay l l'
  | take (i : ι) : l.take (relay i) = some l' → Move cap relay l l'
  | forward : l.forward cap = some l' → Move cap relay l l'

/-- What is yet to be relayed. -/
def raw (l : Leg α β) : List α := l.channel ++ l.pending

def arrived (l : Leg α β) : List β := l.inbox ++ l.held.toList

/-- How many messages are under way. -/
def load (l : Leg α β) : ℕ := l.raw.length + l.arrived.length

/-- The sender and the relay both wait. -/
def Jammed (cap : ℕ) (l : Leg α β) : Prop :=
  l.pending ≠ [] ∧ l.channel.length = cap ∧ l.held.isSome = true ∧ l.inbox.length = cap

def Within (cap : ℕ) (l : Leg α β) : Prop := l.channel.length ≤ cap ∧ l.inbox.length ≤ cap

instance : Decidable (l.Within cap) := inferInstanceAs (Decidable (_ ∧ _))

/-- How many steps the messages have ahead of them. -/
def distance (l : Leg α β) : ℕ := 3 * l.pending.length + 2 * l.channel.length + l.held.toList.length

theorem Jammed.cap_lt_raw (h : l.Jammed cap) : cap < l.raw.length := by
  have hpending := List.length_pos_iff.2 h.1
  rw [raw, List.length_append, h.2.1]
  omega

theorem Jammed.cap_lt_arrived (h : l.Jammed cap) : cap < l.arrived.length := by
  obtain ⟨b, hb⟩ := Option.isSome_iff_exists.1 h.2.2.1
  rw [arrived, List.length_append, h.2.2.2, hb]
  exact Nat.lt_succ_self cap

theorem Move.within (h : Move cap relay l l') (hl : l.Within cap) : l'.Within cap := by
  cases h with
  | send h =>
    obtain ⟨a, rest, -, hroom, rfl⟩ := send_eq_some.1 h
    exact ⟨by simpa using Nat.succ_le_of_lt hroom, hl.2⟩
  | take i h =>
    obtain ⟨a, rest, -, hchannel, rfl⟩ := take_eq_some.1 h
    refine ⟨?_, hl.2⟩
    have hlength := hl.1
    rw [hchannel] at hlength
    exact Nat.le_of_succ_le hlength
  | forward h =>
    obtain ⟨b, -, hroom, rfl⟩ := forward_eq_some.1 h
    exact ⟨hl.1, by simpa using Nat.succ_le_of_lt hroom⟩

theorem Move.distance_lt (h : Move cap relay l l') : l'.distance < l.distance := by
  cases h with
  | send h =>
    obtain ⟨a, rest, hpending, -, rfl⟩ := send_eq_some.1 h
    simp only [distance, hpending, List.length_cons, List.length_append, List.length_nil]
    omega
  | take i h =>
    obtain ⟨a, rest, hheld, hchannel, rfl⟩ := take_eq_some.1 h
    simp only [distance, hheld, hchannel, List.length_cons, Option.toList_none, List.length_nil]
    have hone : (relay i a).toList.length ≤ 1 := by cases relay i a <;> simp
    omega
  | forward h =>
    obtain ⟨b, hheld, -, rfl⟩ := forward_eq_some.1 h
    simp [distance, hheld]

/-- A step of the sender or the relay either changes nothing of what is under way, or the relay
takes its first message. -/
theorem Move.cases_raw (h : Move cap relay l l') : l'.raw = l.raw ∧ l'.arrived = l.arrived ∨
    ∃ i a, l.take (relay i) = some l' ∧ l.raw = a :: l'.raw ∧
      l'.arrived = l.arrived ++ (relay i a).toList := by
  cases h with
  | send h =>
    obtain ⟨a, rest, hpending, -, rfl⟩ := send_eq_some.1 h
    exact .inl ⟨by simp [raw, hpending], rfl⟩
  | take i h =>
    obtain ⟨a, rest, hheld, hchannel, rfl⟩ := take_eq_some.1 h
    exact .inr ⟨i, a, h, by simp [raw, hchannel], by simp [arrived, hheld]⟩
  | forward h =>
    obtain ⟨b, hheld, -, rfl⟩ := forward_eq_some.1 h
    exact .inl ⟨rfl, by simp [arrived, hheld]⟩

theorem Move.load_le (h : Move cap relay l l') : l'.load ≤ l.load := by
  unfold load
  obtain ⟨hraw, harrived⟩ | ⟨i, a, -, hraw, harrived⟩ := h.cases_raw
  · rw [hraw, harrived]
  · rw [hraw, harrived, List.length_append, List.length_cons]
    have hone : (relay i a).toList.length ≤ 1 := by cases relay i a <;> simp
    omega

/-- Nothing is lost where the relay drops nothing. -/
theorem Move.load_eq (htotal : ∀ i a, (relay i a).isSome = true) (h : Move cap relay l l') :
    l'.load = l.load := by
  unfold load
  obtain ⟨hraw, harrived⟩ | ⟨i, a, -, hraw, harrived⟩ := h.cases_raw
  · rw [hraw, harrived]
  · obtain ⟨b, hb⟩ := Option.isSome_iff_exists.1 (htotal i a)
    rw [hraw, harrived, hb, List.length_append, List.length_cons, Option.toList_some,
      List.length_singleton]
    omega

/-- A sender that has something to send can, or the leg can make another step, or it is jammed. -/
theorem exists_move (hcap : 0 < cap) (hl : l.Within cap) (hpending : l.pending ≠ []) (i : ι) :
    (∃ l', Move cap relay l l') ∨ l.Jammed cap := by
  obtain ⟨a, rest, hpending'⟩ := List.exists_cons_of_ne_nil hpending
  by_cases hchannel : l.channel.length < cap
  · exact .inl ⟨_, .send (send_eq_some.2 ⟨a, rest, hpending', hchannel, rfl⟩)⟩
  cases hheld : l.held with
  | none =>
    have hne : l.channel ≠ [] := List.ne_nil_of_length_pos (by omega)
    obtain ⟨a', rest', hchannel'⟩ := List.exists_cons_of_ne_nil hne
    exact .inl ⟨_, .take i (take_eq_some.2 ⟨a', rest', hheld, hchannel', rfl⟩)⟩
  | some b =>
    by_cases hinbox : l.inbox.length < cap
    · exact .inl ⟨_, .forward (forward_eq_some.2 ⟨b, hheld, hinbox, rfl⟩)⟩
    · have hwithin := hl
      unfold Within at hwithin
      exact .inr ⟨hpending, by omega, by rw [hheld]; rfl, by omega⟩

end Leg

/-! ## The ring -/

structure Ring (C α β γ δ : Type*) where
  worker : C
  /-- From the publisher to the worker. -/
  work : Leg γ δ
  /-- From the worker to the publisher. -/
  results : Leg α β

/-- How a ring is made up: the bound of its queues, what the relays do, and what the worker can
make of a piece of work. -/
structure Wiring (C α β γ δ ι : Type*) where
  cap : ℕ
  relayWork : ι → γ → Option δ
  relayResult : α → β
  turn : C → δ → List α → C → Prop

namespace Wiring

variable {C α β γ δ ι : Type*} (w : Wiring C α β γ δ ι) {r r' : Ring C α β γ δ} {c : C}
  {ds : List δ} {n : ℕ}

/-- One step of the worker, of the publisher's sending, or of a relay. -/
inductive Step (r : Ring C α β γ δ) : Ring C α β γ δ → Prop
  | turn {d : δ} {rest : List δ} {out : List α} {c : C} : r.results.pending = [] →
      r.work.inbox = d :: rest → w.turn r.worker d out c →
      Step r ⟨c, { r.work with inbox := rest }, { r.results with pending := out }⟩
  | work {l : Leg γ δ} : Leg.Move w.cap w.relayWork r.work l → Step r { r with work := l }
  | results {l : Leg α β} :
      Leg.Move w.cap (fun (_ : Unit) a => some (w.relayResult a)) r.results l →
      Step r { r with results := l }

def Jammed (r : Ring C α β γ δ) : Prop := r.work.Jammed w.cap ∧ r.results.Jammed w.cap

/-- Of the work `ds` the worker can make `n` results, by taking some of it in order. -/
inductive Yields : C → List δ → ℕ → Prop
  | stop (c : C) (ds : List δ) : Yields c ds 0
  | turn {c c' : C} {d : δ} {ds : List δ} {out : List α} {n : ℕ} :
      w.turn c d out c' → Yields c' ds n → Yields c (d :: ds) (out.length + n)

/-- What the relay can make of messages. -/
inductive Relays : List γ → List δ → Prop
  | nil : Relays [] []
  | cons (i : ι) (a : γ) {as : List γ} {ds : List δ} :
      Relays as ds → Relays (a :: as) ((w.relayWork i a).toList ++ ds)

/-- `cap + 1` messages wait at the publisher and in its channel, and as many pieces of work at the
relay and in the inbox, when the worker has taken all before them. -/
def Roomy (r : Ring C α β γ δ) : Prop :=
  r.work.raw.length ≤ w.cap ∨ ∀ ds, w.Relays (r.work.raw.rdrop (w.cap + 1)) ds →
    (r.work.arrived ++ ds).length ≤ w.cap ∨
    ∀ n, w.Yields r.worker ((r.work.arrived ++ ds).rdrop (w.cap + 1)) n →
      r.results.load + n ≤ 2 * w.cap + 1

variable {w}

theorem Relays.cons_inv {a : γ} {as : List γ} (h : w.Relays (a :: as) ds) :
    ∃ i ds', w.Relays as ds' ∧ ds = (w.relayWork i a).toList ++ ds' := by
  cases h with
  | cons i _ h => exact ⟨i, _, h, rfl⟩

theorem exists_relays [Nonempty ι] (as : List γ) : ∃ ds, w.Relays as ds := by
  induction as with
  | nil => exact ⟨_, .nil⟩
  | cons a as ih =>
    obtain ⟨ds, h⟩ := ih
    exact ⟨_, .cons (Classical.arbitrary ι) a h⟩

/-! ### No way into a jam -/

theorem Roomy.not_jammed [Nonempty ι] (h : w.Roomy r) : ¬w.Jammed r := by
  intro hjam
  have hraw := hjam.1.cap_lt_raw
  have harrived := hjam.1.cap_lt_arrived
  obtain h | h := h
  · omega
  obtain ⟨ds, hds⟩ := exists_relays (w := w) (r.work.raw.rdrop (w.cap + 1))
  obtain h | h := h ds hds
  · rw [List.length_append] at h
    omega
  · have hload := h 0 (.stop _ _)
    have hresults := hjam.2.cap_lt_raw
    have hresults' := hjam.2.cap_lt_arrived
    unfold Leg.load at hload
    omega

theorem Roomy.move_work {l : Leg γ δ} (h : w.Roomy r)
    (hmove : Leg.Move w.cap w.relayWork r.work l) : w.Roomy { r with work := l } := by
  obtain ⟨hraw, harrived⟩ | ⟨i, a, -, hraw, harrived⟩ := hmove.cases_raw
  · unfold Roomy
    rw [show l.raw = _ from hraw, show l.arrived = _ from harrived]
    exact h
  · by_cases hle : l.raw.length ≤ w.cap
    · exact .inl hle
    obtain h | h := h
    · rw [hraw, List.length_cons] at h
      omega
    refine .inr fun ds hds => ?_
    rw [hraw, rdrop_cons (by omega)] at h
    have hboth := h _ (.cons i a hds)
    rw [← List.append_assoc, ← harrived] at hboth
    exact hboth

theorem Roomy.move_results {l : Leg α β} (h : w.Roomy r) (hload : l.load ≤ r.results.load) :
    w.Roomy { r with results := l } := by
  refine h.imp_right fun h ds hds => (h ds hds).imp_right fun h n hn => ?_
  have hn := h n hn
  show l.load + n ≤ _
  omega

theorem Roomy.turn {d : δ} {rest : List δ} {out : List α} (h : w.Roomy r)
    (hpending : r.results.pending = []) (hinbox : r.work.inbox = d :: rest)
    (hturn : w.turn r.worker d out c) :
    w.Roomy ⟨c, { r.work with inbox := rest }, { r.results with pending := out }⟩ := by
  refine h.imp_right fun h ds hds => ?_
  have harrived : r.work.arrived ++ ds = d :: (rest ++ r.work.held.toList ++ ds) := by
    rw [Leg.arrived, hinbox, List.cons_append, List.cons_append]
  have hrest : Leg.arrived { r.work with inbox := rest } = rest ++ r.work.held.toList := rfl
  have h := h ds hds
  rw [harrived, List.length_cons] at h
  show (Leg.arrived { r.work with inbox := rest } ++ ds).length ≤ w.cap ∨ _
  rw [hrest]
  by_cases hle : (rest ++ r.work.held.toList ++ ds).length ≤ w.cap
  · exact .inl hle
  · refine .inr fun n hn => ?_
    obtain h | h := h
    · omega
    rw [rdrop_cons (by omega)] at h
    have hn := h _ (.turn hturn hn)
    simp only [Leg.load, Leg.raw, List.length_append, hpending, List.length_nil] at hn ⊢
    simp only [Leg.arrived, List.length_append] at hn ⊢
    omega

theorem Roomy.step (h : w.Roomy r) (hstep : w.Step r r') : w.Roomy r' := by
  cases hstep with
  | turn hpending hinbox hturn => exact h.turn hpending hinbox hturn
  | work hmove => exact h.move_work hmove
  | results hmove => exact h.move_results hmove.load_le

/-! ### A way into a jam -/

def Within (w : Wiring C α β γ δ ι) (r : Ring C α β γ δ) : Prop :=
  r.work.Within w.cap ∧ r.results.Within w.cap

theorem not_roomy_iff : ¬w.Roomy r ↔ w.cap < r.work.raw.length ∧
    ∃ ds, w.Relays (r.work.raw.rdrop (w.cap + 1)) ds ∧ w.cap < (r.work.arrived ++ ds).length ∧
      ∃ n, w.Yields r.worker ((r.work.arrived ++ ds).rdrop (w.cap + 1)) n ∧
        2 * w.cap + 1 < r.results.load + n := by
  unfold Roomy
  push Not
  rfl

/-- What is under way, and then how far it has to go. -/
def measure (r : Ring C α β γ δ) : ℕ × ℕ :=
  (r.work.load, r.work.distance + r.results.distance)

theorem Step.within (h : w.Step r r') (hr : w.Within r) : w.Within r' := by
  cases h with
  | turn hpending hinbox hturn =>
    refine ⟨⟨hr.1.1, ?_⟩, hr.2⟩
    have hlength := hr.1.2
    rw [hinbox] at hlength
    exact Nat.le_of_succ_le hlength
  | work hmove => exact ⟨hmove.within hr.1, hr.2⟩
  | results hmove => exact ⟨hr.1, hmove.within hr.2⟩

theorem measure_move_work {l : Leg γ δ} (h : Leg.Move w.cap w.relayWork r.work l) :
    Prod.Lex (· < ·) (· < ·) (measure { r with work := l }) (measure r) := by
  have hdistance := h.distance_lt
  obtain hlt | heq := Nat.lt_or_eq_of_le h.load_le
  · exact .left _ _ hlt
  · unfold measure
    rw [heq]
    exact .right _ (Nat.add_lt_add_right hdistance _)

/-- The publisher and its relay go on while they can. -/
theorem exists_move_work [Nonempty ι] (hcap : 0 < w.cap) (hr : r.work.Within w.cap)
    (h : ¬w.Roomy r) : (∃ l, Leg.Move w.cap w.relayWork r.work l ∧ ¬w.Roomy { r with work := l }) ∨
      r.work.Jammed w.cap := by
  obtain ⟨hraw, ds, hds, hlength, n, hn, hload⟩ := not_roomy_iff.1 h
  have hpending : r.work.pending ≠ [] := by
    intro hnil
    rw [Leg.raw, hnil, List.append_nil] at hraw
    exact absurd hr.1 (not_le.2 hraw)
  obtain ⟨l, hmove⟩ | hjam := Leg.exists_move hcap hr hpending (Classical.arbitrary ι)
  · obtain ⟨hraw', harrived⟩ | ⟨i, a, htake, hraw', -⟩ := hmove.cases_raw
    · refine .inl ⟨l, hmove, fun hroomy => h ?_⟩
      unfold Roomy at hroomy ⊢
      rwa [show l.raw = _ from hraw', show l.arrived = _ from harrived] at hroomy
    -- The relay makes of the message what it does on the way into the jam.
    obtain ⟨a', rest, hheld, hchannel, rfl⟩ := Leg.take_eq_some.1 htake
    cases hraw'.symm.trans (show r.work.raw = a' :: (rest ++ r.work.pending) by
      rw [Leg.raw, hchannel, List.cons_append])
    have harrived : r.work.arrived = r.work.inbox := by simp [Leg.arrived, hheld]
    have hraw'' : r.work.raw = a :: (rest ++ r.work.pending) := hraw'
    have hcap' : w.cap < (rest ++ r.work.pending).length := by
      by_contra hle
      have hnil : r.work.raw.rdrop (w.cap + 1) = [] := by
        rw [List.rdrop, hraw'', List.length_cons, Nat.sub_eq_zero_of_le (by omega), List.take_zero]
      rw [hnil] at hds
      cases hds
      rw [List.append_nil, harrived] at hlength
      exact absurd hr.2 (not_le.2 hlength)
    rw [hraw'', rdrop_cons hcap'] at hds
    obtain ⟨j, ds', hds', rfl⟩ := hds.cons_inv
    refine .inl ⟨_, .take j (Leg.take_eq_some.2 ⟨a, rest, hheld, hchannel, rfl⟩), ?_⟩
    rw [← List.append_assoc, harrived] at hlength hn
    exact not_roomy_iff.2 ⟨hcap', ds', hds', hlength, n, hn, hload⟩
  · exact .inr hjam

/-- The worker goes on while it can. -/
theorem exists_turn (hcap : 0 < w.cap) (hr : w.Within r) (h : ¬w.Roomy r)
    (hjam : r.work.Jammed w.cap) (hpending : r.results.pending = []) :
    ∃ r', w.Step r r' ∧ ¬w.Roomy r' ∧ r'.work.load < r.work.load := by
  obtain ⟨hraw, ds, hds, hlength, n, hn, hload⟩ := not_roomy_iff.1 h
  have hinbox : r.work.inbox ≠ [] := List.ne_nil_of_length_pos (hjam.2.2.2 ▸ hcap)
  obtain ⟨d, rest, hinbox⟩ := List.exists_cons_of_ne_nil hinbox
  have harrived : r.work.arrived ++ ds = d :: (rest ++ r.work.held.toList ++ ds) := by
    rw [Leg.arrived, hinbox, List.cons_append, List.cons_append]
  rw [harrived] at hn hlength
  -- With nothing to send, the worker's results alone cannot fill the other leg.
  have hpos : 0 < n := by
    have hwithin := hr.2
    have hheld : r.results.held.toList.length ≤ 1 := by cases r.results.held <;> simp
    simp only [Leg.load, Leg.raw, Leg.arrived, hpending, List.append_nil,
      List.length_append] at hload
    unfold Leg.Within at hwithin
    omega
  have hlong : w.cap < (rest ++ r.work.held.toList ++ ds).length := by
    by_contra hle
    rw [List.rdrop, List.length_cons, Nat.sub_eq_zero_of_le (by omega), List.take_zero] at hn
    cases hn
    exact absurd hpos (lt_irrefl 0)
  rw [rdrop_cons hlong] at hn
  cases hn with
  | stop => exact absurd hpos (lt_irrefl 0)
  | @turn _ c _ _ out n hturn hn =>
    refine ⟨_, .turn hpending hinbox hturn, not_roomy_iff.2 ⟨hraw, ds, hds, hlong, n, hn, ?_⟩, ?_⟩
    · simp only [Leg.load, Leg.raw, Leg.arrived, hpending, List.length_append,
        List.length_nil] at hload ⊢
      omega
    · simp only [Leg.load, Leg.raw, Leg.arrived, hinbox, List.length_append, List.length_cons]
      omega

/-- A ring that is not roomy can make a step and stays so, or it is jammed. -/
theorem exists_step [Nonempty ι] (hcap : 0 < w.cap) (hr : w.Within r) (h : ¬w.Roomy r) :
    (∃ r', w.Step r r' ∧ ¬w.Roomy r' ∧ Prod.Lex (· < ·) (· < ·) (measure r') (measure r)) ∨
      w.Jammed r := by
  obtain ⟨l, hmove, hroomy⟩ | hjam := exists_move_work hcap hr.1 h
  · exact .inl ⟨_, .work hmove, hroomy, measure_move_work hmove⟩
  by_cases hpending : r.results.pending = []
  · obtain ⟨r', hstep, hroomy, hlt⟩ := exists_turn hcap hr h hjam hpending
    exact .inl ⟨r', hstep, hroomy, .left _ _ hlt⟩
  have hmoves : (∃ l, Leg.Move w.cap (fun (_ : Unit) a => some (w.relayResult a)) r.results l) ∨
      r.results.Jammed w.cap := Leg.exists_move hcap hr.2 hpending ()
  obtain ⟨l, hmove⟩ | hjam' := hmoves
  · have hload := hmove.load_eq fun _ _ => rfl
    refine .inl ⟨_, .results hmove, fun hroomy => h ?_, ?_⟩
    · exact hroomy.move_results hload.ge
    · exact .right _ (Nat.add_lt_add_left hmove.distance_lt _)
  · exact .inr ⟨hjam, hjam'⟩

/-- **A ring that is not roomy can jam.** -/
theorem exists_jammed [Nonempty ι] (hcap : 0 < w.cap) (hr : w.Within r) (h : ¬w.Roomy r) :
    ∃ r', Relation.ReflTransGen w.Step r r' ∧ w.Jammed r' := by
  have hwf : WellFounded (Prod.Lex (· < ·) (· < ·) : ℕ × ℕ → ℕ × ℕ → Prop) :=
    (Prod.lex Nat.lt_wfRel Nat.lt_wfRel).wf
  induction hm : measure r using hwf.induction generalizing r with
  | _ m ih =>
    subst hm
    obtain ⟨r', hstep, hroomy, hlt⟩ | hjam := exists_step hcap hr h
    · obtain ⟨r'', hsteps, hjam⟩ := ih _ hlt (hstep.within hr) hroomy rfl
      exact ⟨r'', .head hstep hsteps, hjam⟩
    · exact ⟨r, .refl, hjam⟩

end Wiring

end Lib
