import Sep2Bridge.Connection.Commands
import Sep2Bridge.Connection.PostRates

/-!
# What the server accepts

A settings or status report is PUT when it is the latest that was received, and not again once the
server has accepted it.

**Theorem (`arriving_of_iterates`).** The reports accepted, and the one that is still to be sent,
are reports received, in order and each at most once. The last of these is among them.
-/

namespace Sep2Bridge.Connection

open Lib Proc Reporting

variable {R : Reports} {args : Args} {k : Stream R} {past l log : List (Moment R)}
  {trace : List (Occurrence k.Value)} {s t : Loop R}

/-- The values in the documents that the server has accepted. -/
def acceptedBy {V : Type} (document? : Document R → Option V) (log : List (Moment R)) : List V :=
  (log.filterMap accepted?).filterMap document?

theorem acceptedBy_concat {V : Type} (document? : Document R → Option V) (log : List (Moment R))
    (e : Moment R) : acceptedBy document? (log ++ [e]) =
      acceptedBy document? log ++ (lastAccepted? document? (log ++ [e])).toList := by
  rw [Stream.lastAccepted?_concat]
  unfold acceptedBy
  rw [List.filterMap_append, List.filterMap_append]
  congr 1
  cases h : accepted? e with
  | none =>
    rw [List.filterMap_cons_none h]
    rfl
  | some document =>
    rw [List.filterMap_cons_some h, List.filterMap_nil]
    cases hvalue : document? document with
    | none =>
      rw [List.filterMap_cons_none hvalue, Option.bind_some, hvalue]
      rfl
    | some v =>
      rw [List.filterMap_cons_some hvalue, Option.bind_some, hvalue]
      rfl

/-- A stream of documents that are PUT, with the command that brings a value. -/
structure Posted (k : Stream R) (value? : Command R → Option k.Value) : Prop where
  held trace : k.held trace = pending trace
  isPut : k.IsPut
  requests v : k.requests v
  heard trace command : receipts (k.heard trace command) = (value? command).toList
  unsent trace command : ∀ e ∈ k.heard trace command, e.isSent = false

/-- What was just accepted was the value to be sent. -/
theorem held_of_accepted {v : k.Value} (h : k.Traces past trace)
    (hlast : lastAccepted? k.document? past = some v) : k.held trace = some v := by
  cases h with
  | start => cases hlast
  | hears => cases (Stream.lastAccepted?_concat _ _ _).symm.trans hlast
  | sends => cases (Stream.lastAccepted?_concat _ _ _).symm.trans hlast
  | @other past _ e _ _ _ _ hput =>
    rw [Stream.lastAccepted?_concat] at hlast
    obtain ⟨document, haccepted, hvalue⟩ := Option.bind_eq_some_iff.1 hlast
    refine hput v ?_
    obtain ⟨⟨s, q⟩, answer⟩ := e
    cases q with
    | put href document' =>
      cases answer with
      | error err => cases haccepted
      | ok _ =>
        cases haccepted
        exact hvalue
    | _ => cases haccepted

/-- Where no success is left to be recorded, none of its documents was just accepted. -/
theorem Posted.lastAccepted?_eq_none {value? : Command R → Option k.Value} (hk : Posted k value?)
    (h : k.Traces past trace) (hsettled : k.Settled past trace) :
    lastAccepted? k.document? past = none := by
  cases hlast : lastAccepted? k.document? past with
  | none => rfl
  | some v =>
    exact absurd ((hk.isPut past v).2 hlast) (hsettled v (held_of_accepted h hlast) (hk.requests v))

theorem commandsIn_concat {e : Moment R} (he : received? e = none) :
    commandsIn (past ++ [e]) = commandsIn past := by
  rw [commandsIn_append, commandsIn, commandsIn, List.filterMap_cons_none he]
  exact List.append_nil _

variable {value? : Command R → Option k.Value}

/-- The trace of a log, in terms of what was received and accepted. -/
theorem Posted.of_traces (hk : Posted k value?) (h : k.Traces log trace) :
    sends trace ++ (lastAccepted? k.document? log).toList = acceptedBy k.document? log ∧
      receipts trace = (commandsIn log).filterMap value? ∧ Always Fresh [] trace := by
  induction h with
  | start => exact ⟨rfl, rfl, trivial⟩
  | @hears past trace s command htrace _ hsettled ih =>
    obtain ⟨haccepted, hreceived, hfresh⟩ := ih
    have hsends : sends (k.heard trace command) = [] := by
      refine List.filterMap_eq_nil_iff.2 fun e he => ?_
      have hunsent := hk.unsent trace command e he
      cases e <;> first | rfl | cases hunsent
    rw [hk.lastAccepted?_eq_none htrace hsettled, Option.toList_none, List.append_nil] at haccepted
    refine ⟨?_, ?_, always_append.2 ⟨hfresh, ?_⟩⟩
    · rw [acceptedBy_concat, ← haccepted, sends, List.filterMap_append, ← sends, ← sends, hsends,
        List.append_nil]
    · rw [receipts, List.filterMap_append, ← receipts, ← receipts, hreceived, hk.heard,
        commandsIn_append, List.filterMap_append]
      rfl
    · refine always_of_forall (hk.unsent trace command) fun _ e _ he => ?_
      cases e <;> trivial
  | @sends past trace s v start now htrace _ hdelivered _ ih =>
    obtain ⟨haccepted, hreceived, hfresh⟩ := ih
    have hlast := (hk.isPut past v).1 hdelivered
    have hpending := held_of_accepted htrace hlast
    rw [hk.held] at hpending
    rw [hlast] at haccepted
    refine ⟨?_, ?_, always_append.2 ⟨hfresh, hpending, trivial⟩⟩
    · rw [acceptedBy_concat, ← haccepted, sends_concat]
      rfl
    · rw [receipts_concat, hreceived, commandsIn_concat rfl]
      exact List.append_nil _
  | @other past trace e htrace _ hreceived? hsettled _ ih =>
    obtain ⟨haccepted, hreceived, hfresh⟩ := ih
    rw [hk.lastAccepted?_eq_none htrace hsettled, Option.toList_none, List.append_nil] at haccepted
    exact ⟨by rw [acceptedBy_concat, haccepted], by rw [hreceived, commandsIn_concat hreceived?],
      hfresh⟩

variable [DecidableEq R.DERCapability]

/-- `accepted`, and the report that is pending, are reports received. -/
structure Arriving {V : Type} (received accepted : List V) (pending : Option V) : Prop where
  /-- In order, and each at most once. -/
  inOrder : (accepted ++ pending.toList).Sublist received
  /-- The last is not lost. -/
  last : (accepted ++ pending.toList).getLast? = received.getLast?

theorem Posted.of_iterates (hk : Posted k value?)
    (hparts : Parts args k.HasTrace k.Tracked k.Attempting) (h₀ : k.Tracked [] {})
    (h : Iterates (iteration args) goesOn {} log t) :
    Arriving ((commandsIn log).filterMap value?) (acceptedBy k.document? log) (k.view t).1 := by
  have htracked : k.Tracked log t :=
    (h.always (S := fun _ _ => True) h₀ fun past s hs l r t hrun => ⟨always_iff.2 fun _ _ _ _ =>
      trivial, (hparts.turn (hparts.beginTurn hs) (turn_of_runs hrun)).2⟩).2
  obtain ⟨trace, htrace, -, hagrees, hsettled⟩ := htracked
  obtain ⟨haccepted, hreceived, hfresh⟩ := hk.of_traces htrace
  obtain ⟨hsub, hgetLast⟩ := sends_sublist hfresh
  rw [hk.lastAccepted?_eq_none htrace hsettled, Option.toList_none, List.append_nil] at haccepted
  have hview : (k.view t).1 = pending trace := (congrArg Prod.fst hagrees).trans (hk.held trace)
  rw [hview, ← haccepted, ← hreceived]
  exact ⟨hsub, hgetLast⟩

/-! ## Settings and status -/

def Command.settings? : Command R → Option R.DERSettings
  | sendDeviceSettings settings => some settings
  | _ => none

def Command.status? : Command R → Option R.DERStatus
  | sendDeviceStatus status => some status
  | _ => none

omit [DecidableEq R.DERCapability] in
theorem posted_settings : Posted (settings (R := R)) Command.settings? where
  held _ := rfl
  isPut _ _ := Iff.rfl
  requests _ := trivial
  heard _ command := by cases command <;> rfl
  unsent _ command := by cases command <;> simp [settings, Occurrence.isSent]

omit [DecidableEq R.DERCapability] in
theorem posted_status : Posted (status (R := R)) Command.status? where
  held _ := rfl
  isPut _ _ := Iff.rfl
  requests _ := trivial
  heard _ command := by cases command <;> rfl
  unsent _ command := by cases command <;> simp [status, Occurrence.isSent]

/-- **What arrives** of the settings and of the status, in a run of whole turns. -/
theorem arriving_of_iterates (h : Iterates (iteration args) goesOn {} log t) :
    Arriving ((commandsIn log).filterMap Command.settings?) (acceptedBy settings? log)
        t.latestDeviceSettings ∧
      Arriving ((commandsIn log).filterMap Command.status?) (acceptedBy status? log)
        t.latestDeviceStatus :=
  ⟨posted_settings.of_iterates parts_settings (Stream.tracked_start rfl rfl) h,
    posted_status.of_iterates parts_status (Stream.tracked_start rfl rfl) h⟩

end Sep2Bridge.Connection
