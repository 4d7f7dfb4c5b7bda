import Mathlib.Data.List.Induction
import Sep2Bridge.Lib.Interaction

/-!
# A value reported from time to time

A value is received now and then, and the latest one is sent, not more often than a rate allows. A
trace is what happened to it: `latest`, `pending`, `lastSent` and `postRate` read off a trace what
a client has to remember, and `Paced` is the law of what it sends. `spaced` is what the law says
of two successes in a row. `sends_sublist` is what becomes of the values, if each is pending when it
is sent: they arrive in order and at most once, and the last is not lost.
-/

namespace Lib.Reporting

variable {V : Type} {rate₀ : Nat}

/-- `sent v start finish` is a success that was decided on at one instant and known at another.
After a `reset` the next one may follow at once. -/
inductive Occurrence (V : Type)
  | received (v : V)
  | rate (r : Nat)
  | reset
  | sent (v : V) (start finish : Nat)

/-- The value most recently received. -/
def latest (trace : List (Occurrence V)) : Option V :=
  trace.foldl (fun old e => match e with | .received v => some v | _ => old) none

/-- The value most recently received, unless it was sent since. -/
def pending (trace : List (Occurrence V)) : Option V :=
  trace.foldl (fun old e => match e with
    | .received v => some v
    | .sent .. => none
    | _ => old) none

/-- When the last success was known, unless there was a reset since. -/
def lastSent (trace : List (Occurrence V)) : Option Nat :=
  trace.foldl (fun old e => match e with
    | .sent _ _ finish => some finish
    | .reset => none
    | _ => old) none

/-- The rate in force. -/
def postRate (rate₀ : Nat) (trace : List (Occurrence V)) : Nat :=
  trace.foldl (fun old e => match e with | .rate r => r | _ => old) rate₀

section Concat

variable (trace : List (Occurrence V)) (v : V) (r start finish : Nat)

@[simp] theorem latest_received : latest (trace ++ [.received v]) = some v := by simp [latest]

@[simp] theorem latest_rate : latest (trace ++ [.rate r]) = latest trace := by simp [latest]

@[simp] theorem latest_reset : latest (trace ++ [.reset]) = latest trace := by simp [latest]

@[simp] theorem latest_sent : latest (trace ++ [.sent v start finish]) = latest trace := by
  simp [latest]

@[simp] theorem pending_received : pending (trace ++ [.received v]) = some v := by simp [pending]

@[simp] theorem pending_rate : pending (trace ++ [.rate r]) = pending trace := by simp [pending]

@[simp] theorem pending_reset : pending (trace ++ [.reset]) = pending trace := by simp [pending]

@[simp] theorem pending_sent : pending (trace ++ [.sent v start finish]) = none := by simp [pending]

@[simp] theorem lastSent_received : lastSent (trace ++ [.received v]) = lastSent trace := by
  simp [lastSent]

@[simp] theorem lastSent_rate : lastSent (trace ++ [.rate r]) = lastSent trace := by
  simp [lastSent]

@[simp] theorem lastSent_reset : lastSent (trace ++ [.reset]) = none := by simp [lastSent]

@[simp] theorem lastSent_sent : lastSent (trace ++ [.sent v start finish]) = some finish := by
  simp [lastSent]

@[simp] theorem postRate_received :
    postRate rate₀ (trace ++ [.received v]) = postRate rate₀ trace := by
  simp [postRate]

@[simp] theorem postRate_rate : postRate rate₀ (trace ++ [.rate r]) = r := by simp [postRate]

@[simp] theorem postRate_reset : postRate rate₀ (trace ++ [.reset]) = postRate rate₀ trace := by
  simp [postRate]

@[simp] theorem postRate_sent :
    postRate rate₀ (trace ++ [.sent v start finish]) = postRate rate₀ trace := by
  simp [postRate]

end Concat

/-- What is pending is the latest value. -/
theorem latest_of_pending {trace : List (Occurrence V)} {v : V} (h : pending trace = some v) :
    latest trace = some v := by
  induction trace using List.reverseRecOn with
  | nil => cases h
  | append_singleton trace e ih => cases e <;> simp_all

/-- A success sends the latest value, and is decided on more than the rate after the last one. -/
def Paced (rate₀ : Nat) (trace : List (Occurrence V)) : Occurrence V → Prop
  | .sent v start _ =>
    latest trace = some v ∧ ∀ last ∈ lastSent trace, postRate rate₀ trace < start - last
  | _ => True

def Occurrence.isSent : Occurrence V → Bool
  | .sent .. => true
  | _ => false

/-- What is not a success keeps the law. -/
theorem always_paced {past trace : List (Occurrence V)} (h : ∀ e ∈ trace, e.isSent = false) :
    Always (Paced rate₀) past trace :=
  always_of_forall h fun _ e _ he => by
    cases e with
    | sent v start finish => cases he
    | _ => trivial

/-- Neither a success nor a reset. -/
def Occurrence.isQuiet : Occurrence V → Bool
  | .sent .. | .reset => false
  | _ => true

theorem lastSent_append_of_isQuiet {trace rest : List (Occurrence V)}
    (h : ∀ e ∈ rest, e.isQuiet = true) : lastSent (trace ++ rest) = lastSent trace := by
  induction rest using List.reverseRecOn with
  | nil => rw [List.append_nil]
  | append_singleton rest e ih =>
    rw [← List.append_assoc, ← ih fun e he => h e (by simp [he])]
    have he := h e (by simp)
    cases e with
    | received v => exact lastSent_received _ v
    | rate r => exact lastSent_rate _ r
    | reset => cases he
    | sent v start finish => cases he

/-- Two successes in a row, with no reset between them, are more than the rate then in force
apart. -/
def Spaced (rate₀ : Nat) (trace : List (Occurrence V)) : Prop :=
  ∀ before v start finish between v' start' finish' after,
    trace = before ++ .sent v start finish :: between ++ .sent v' start' finish' :: after →
    (∀ e ∈ between, e.isQuiet = true) →
      postRate rate₀ (before ++ .sent v start finish :: between) < finish' - finish

/-- **The law spaces the successes**, when each is decided on before it is known. -/
theorem spaced {trace : List (Occurrence V)} (h : Always (Paced rate₀) [] trace)
    (hordered : ∀ v start finish, .sent v start finish ∈ trace → start ≤ finish) :
    Spaced rate₀ trace := by
  intro before v start finish between v' start' finish' after htrace hquiet
  subst htrace
  have hpaced := always_iff.1 h (before ++ .sent v start finish :: between)
    (.sent v' start' finish') after rfl
  have hlast : lastSent (before ++ .sent v start finish :: between) = some finish := by
    rw [List.append_cons, lastSent_append_of_isQuiet hquiet]
    exact lastSent_sent before v start finish
  have hgap := hpaced.2 finish hlast
  rw [List.nil_append] at hgap
  have hle := hordered v' start' finish' (by simp)
  omega

/-! ## What arrives -/

def Occurrence.receipt? : Occurrence V → Option V
  | .received v => some v
  | _ => none

def Occurrence.success? : Occurrence V → Option V
  | .sent v _ _ => some v
  | _ => none

/-- The values received. -/
def receipts (trace : List (Occurrence V)) : List V := trace.filterMap Occurrence.receipt?

/-- The values sent. -/
def sends (trace : List (Occurrence V)) : List V := trace.filterMap Occurrence.success?

theorem receipts_concat (trace : List (Occurrence V)) (e : Occurrence V) :
    receipts (trace ++ [e]) = receipts trace ++ e.receipt?.toList := by
  unfold receipts
  rw [List.filterMap_append]
  cases e <;> rfl

theorem sends_concat (trace : List (Occurrence V)) (e : Occurrence V) :
    sends (trace ++ [e]) = sends trace ++ e.success?.toList := by
  unfold sends
  rw [List.filterMap_append]
  cases e <;> rfl

/-- What is sent is pending. -/
def Fresh (trace : List (Occurrence V)) : Occurrence V → Prop
  | .sent v _ _ => pending trace = some v
  | _ => True

/-- **What arrives.** The values sent, and the one that is pending, are values received, in order
and each at most once. The last of these is among them. -/
theorem sends_sublist {trace : List (Occurrence V)} (h : Always Fresh [] trace) :
    (sends trace ++ (pending trace).toList).Sublist (receipts trace) ∧
      (sends trace ++ (pending trace).toList).getLast? = (receipts trace).getLast? := by
  induction trace using List.reverseRecOn with
  | nil => exact ⟨List.Sublist.slnil, rfl⟩
  | append_singleton trace e ih =>
    obtain ⟨htrace, he, -⟩ := always_append.1 h
    obtain ⟨hsub, hlast⟩ := ih htrace
    rw [receipts_concat, sends_concat]
    cases e with
    | received v =>
      rw [pending_received]
      have hsends := (List.sublist_append_left (sends trace) _).trans hsub
      simp only [Occurrence.receipt?, Occurrence.success?, Option.toList_some, Option.toList_none,
        List.append_nil, List.getLast?_concat]
      exact ⟨hsends.append_right [v], trivial⟩
    | sent v start finish =>
      have hpending : pending trace = some v := he
      rw [hpending] at hsub hlast
      rw [pending_sent]
      simp only [Occurrence.receipt?, Occurrence.success?, Option.toList_some, Option.toList_none,
        List.append_nil] at hsub hlast ⊢
      exact ⟨hsub, hlast⟩
    | rate r =>
      rw [pending_rate]
      simp only [Occurrence.receipt?, Occurrence.success?, Option.toList_none, List.append_nil]
      exact ⟨hsub, hlast⟩
    | reset =>
      rw [pending_reset]
      simp only [Occurrence.receipt?, Occurrence.success?, Option.toList_none, List.append_nil]
      exact ⟨hsub, hlast⟩

end Lib.Reporting
