import Sep2Bridge.Connection.Polls

/-!
# What the connection task broadcasts

Two things make the task broadcast a resource: a subscription to a link that it does not poll yet,
and an attempt to send while it knows no dcap with a list of devices. `Loop.fetches` counts what a
list of commands can make it broadcast, whatever the server answers.

**Theorem (`fetches_turn`).** Each turn takes what it broadcasts off the count.
-/

namespace Sep2Bridge.Connection

open Lib Proc

variable {R : Reports} {args : Args} {s t u : Loop R} {l : List (Moment R)}

def Query.broadcast? : Query R → Option Sep2ResourceEvent
  | broadcast resource => some resource
  | _ => none

/-- The resources broadcast in a log. -/
def broadcasts (log : List (Moment R)) : List Sep2ResourceEvent :=
  log.filterMap fun e => e.question.2.broadcast?

/-- A request for a resource that failed. -/
def failedGet : Moment R → Bool
  | ⟨(_, .get _ _), .error _⟩ => true
  | _ => false

namespace Loop

def polls (s : Loop R) (href : String) : Bool := (s.establishedPolls.get? href).isSome

/-- A dcap is known that links a list of devices. -/
def dcapLinked (s : Loop R) : Bool :=
  (s.dcapOption.bind DeviceCapability.endDeviceListLink).isSome

end Loop

/-! ## The count -/

/-- How many polls the commands start, where `polled` tells what is polled already. -/
def newPolls : (String → Bool) → List (Command R) → Nat
  | _, [] => 0
  | polled, .subscribeToResource href kind _ :: rest =>
    if polled href = true ∨ pollOf kind = none then newPolls polled rest
    else newPolls (Function.update polled href true) rest + 1
  | polled, .unsubscribeFromResource href :: rest =>
    newPolls (Function.update polled href false) rest
  | polled, _ :: rest => newPolls polled rest

/-- How often the commands can make the task announce a dcap. Without one every attempt does, and
each may fail after it. -/
def dcapFetches : Bool → Bool → List (Command R) → Nat
  | _, _, [] => 0
  | linked, retrying, command :: rest =>
    if command.isSubscription = true ∨ retrying = true ∧ command.isWakeCommand = false then
      dcapFetches linked retrying rest
    else if linked = true ∧ command.isReset = false then dcapFetches true retrying rest
    else dcapFetches false true rest + 1

/-- How many resources the commands can make the task broadcast. -/
def Loop.fetches (s : Loop R) (commands : List (Command R)) : Nat :=
  newPolls s.polls commands + dcapFetches s.dcapLinked s.retryRequested commands

/-- While a dcap is linked, only a reset starts a fetch, whether a retry is under way or not. -/
theorem dcapFetches_linked (retrying retrying' : Bool) (commands : List (Command R)) :
    dcapFetches true retrying commands = dcapFetches true retrying' commands := by
  induction commands with
  | nil => rfl
  | cons command commands ih =>
    cases command <;> cases retrying <;> cases retrying' <;>
      simp [dcapFetches, Command.isSubscription, Command.isWakeCommand, Command.isReset, ih]

theorem dcapFetches_linked_le (retrying : Bool) (commands : List (Command R)) :
    dcapFetches true retrying commands ≤ dcapFetches false true commands := by
  rw [dcapFetches_linked retrying true]
  induction commands with
  | nil => rfl
  | cons command commands ih =>
    cases command <;>
      simp [dcapFetches, Command.isSubscription, Command.isWakeCommand, Command.isReset] <;> omega

/-! ## What each part broadcasts -/

theorem broadcasts_append (l₁ l₂ : List (Moment R)) :
    broadcasts (l₁ ++ l₂) = broadcasts l₁ ++ broadcasts l₂ := List.filterMap_append

/-- A frame that asks no broadcast. -/
theorem broadcasts_of_keeps {α β : Type} {p : Task R α} {view : Loop R → β} {φ : Query R → Prop}
    {r : Except Exit α} (h : Keeps view φ p) (hφ : ∀ q, φ q → q.broadcast? = none)
    (hrun : Runs p s l r t) : broadcasts l = [] ∧ view t = view s := by
  obtain ⟨hl, ht⟩ := h s l r t hrun
  exact ⟨List.filterMap_eq_nil_iff.2 fun e he => hφ _ (hl e he).2, ht⟩

theorem broadcast?_of_isRegistering (q : Query R) (h : q.isRegistering = true) :
    q.broadcast? = none := by
  cases q <;> first | rfl | cases h

theorem broadcast?_of_gets (q : Query R) (h : q.gets .registration = true) :
    q.broadcast? = none := by
  cases q <;> first | rfl | cases h

theorem broadcast?_of_isDelivering (q : Query R) (h : q.isDelivering = true) :
    q.broadcast? = none := by
  cases q <;> first | rfl | cases h

/-- At most one dcap is announced. -/
theorem broadcasts_refetchDcap {r : Except Exit Unit} (hrun : Runs (refetchDcap args) s l r t) :
    (broadcasts l).length ≤ 1 := by
  have hget : Keeps (fun _ : Loop R => ()) (fun q => q.broadcast? = none) (getDcap args) := by
    refine keeps_bind (keeps_ask rfl) fun response => ?_
    cases response <;> exact keeps_pure _
  rcases runs_bind.1 (runs_modify_bind.1 hrun) with ⟨e, h, -⟩ | ⟨l₁, l₂, dcap, u, rfl, h₁, h₂⟩
  · rw [(broadcasts_of_keeps hget (fun _ => id) h).1]
    exact Nat.zero_le 1
  rw [broadcasts_append, (broadcasts_of_keeps hget (fun _ => id) h₁).1, List.nil_append]
  have hannounce := runs_modify_bind.1 h₂
  cases dcap with
  | none =>
    obtain ⟨rfl, -, -⟩ := runs_pure.1 hannounce
    exact Nat.zero_le 1
  | some dcap =>
    obtain ⟨sent, l, rfl, hend⟩ := runs_ask_bind.1 hannounce
    have hl : l = [] := by
      cases (sent : Bool) with
      | true => exact (runs_modify.1 hend).1
      | false => exact (runs_throw.1 hend).1
    rw [hl]
    exact Nat.le_refl 1

/-- A dcap that is known is not fetched again. -/
theorem runs_ensureDcap {r : Except Exit DeviceCapability}
    (hrun : Runs (ensureDcap args) s l r t) :
    (∃ dcap, s.dcapOption = some dcap ∧ l = [] ∧ r = .ok dcap ∧ t = s) ∨
      s.dcapOption = none ∧ (broadcasts l).length ≤ 1 ∧
        ∀ dcap, r = .ok dcap → t.dcapOption = some dcap := by
  cases hdcap : s.dcapOption with
  | some dcap =>
    have hlookup : ∀ l (r : Except Exit Unit) u,
        Runs (lookupIfNone Loop.dcapOption (refetchDcap args)) s l r u →
          l = [] ∧ r = .ok () ∧ u = s := by
      intro l r u h
      have h := runs_get_bind.1 h
      rw [hdcap] at h
      exact runs_pure.1 h
    rcases runs_bind.1 hrun with ⟨e, h, -⟩ | ⟨l₁, l₂, _, u, rfl, h₁, h₂⟩
    · obtain ⟨-, hr, -⟩ := hlookup _ _ _ h
      cases hr
    · obtain ⟨rfl, -, rfl⟩ := hlookup _ _ _ h₁
      obtain ⟨rfl, rfl, hr⟩ := runs_require Loop.dcapOption h₂
      rw [hdcap] at hr
      exact .inl ⟨dcap, rfl, rfl, hr, rfl⟩
  | none =>
    have hlookup : ∀ l (r : Except Exit Unit) u,
        Runs (lookupIfNone Loop.dcapOption (refetchDcap args)) s l r u →
          (broadcasts l).length ≤ 1 := by
      intro l r u h
      have h := runs_get_bind.1 h
      rw [hdcap] at h
      exact broadcasts_refetchDcap h
    refine .inr ⟨rfl, ?_⟩
    rcases runs_bind.1 hrun with ⟨e, h, rfl⟩ | ⟨l₁, l₂, _, u, rfl, h₁, h₂⟩
    · exact ⟨hlookup _ _ _ h, fun dcap hr => by cases hr⟩
    · obtain ⟨rfl, rfl, hr⟩ := runs_require Loop.dcapOption h₂
      rw [List.append_nil]
      refine ⟨hlookup _ _ _ h₁, fun dcap hok => ?_⟩
      rw [hok] at hr
      cases hd : t.dcapOption with
      | none =>
        rw [hd] at hr
        cases hr
      | some dcap' =>
        rw [hd] at hr
        cases hr
        rfl

/-- Only a dcap with a link to the devices is kept. -/
theorem runs_edevLink {dcap : DeviceCapability} {r : Except Exit Link}
    (hrun : Runs (edevLink dcap) s l r t) : l = [] ∧
      (dcap.endDeviceListLink.isSome = true ∧ t = s ∨
        dcap.endDeviceListLink.isSome = false ∧ ∀ link, r ≠ .ok link) := by
  unfold edevLink at hrun
  cases hlink : dcap.endDeviceListLink with
  | some link =>
    rw [hlink] at hrun
    obtain ⟨rfl, -, rfl⟩ := runs_pure.1 hrun
    exact ⟨rfl, .inl ⟨rfl, rfl⟩⟩
  | none =>
    rw [hlink] at hrun
    have hend : Runs (throw .again : Task R Link) { s with dcapOption := none } l r t := hrun
    obtain ⟨rfl, rfl, -⟩ := runs_throw.1 hend
    exact ⟨rfl, .inr ⟨rfl, fun link h => by cases h⟩⟩

/-- What an attempt takes off the count as it connects: it needs a linked dcap and keeps it. -/
structure Connects (s : Loop R) (l : List (Moment R)) (succeeds : Prop) (t : Loop R) : Prop where
  broadcasts_le : (broadcasts l).length ≤ if s.dcapLinked = true then 0 else 1
  keeps : s.dcapLinked = true → t.dcapLinked = true
  linked : succeeds → t.dcapLinked = true

/-- What comes after a part that connects, and broadcasts nothing. -/
theorem Connects.append {succeeds succeeds' : Prop} {l₁ l₂ : List (Moment R)}
    (h : Connects s l₁ succeeds u) (hquiet : broadcasts l₂ = [])
    (hlinked : t.dcapLinked = u.dcapLinked) (hsucceeds : succeeds' → succeeds) :
    Connects s (l₁ ++ l₂) succeeds' t where
  broadcasts_le := by
    rw [broadcasts_append, hquiet, List.append_nil]
    exact h.broadcasts_le
  keeps hs := hlinked.trans (h.keeps hs)
  linked ht := hlinked.trans (h.linked (hsucceeds ht))

theorem connects_edevLink {r : Except Exit Link}
    (hrun : Runs (ensureDcap args >>= edevLink) s l r t) :
    Connects s l (∃ link, r = .ok link) t := by
  have hlinked : ∀ {dcap : DeviceCapability} {u : Loop R}, u.dcapOption = some dcap →
      u.dcapLinked = dcap.endDeviceListLink.isSome := by
    intro dcap u hu
    rw [Loop.dcapLinked, hu]
    rfl
  rcases runs_bind.1 hrun with ⟨e, h, rfl⟩ | ⟨l₁, l₂, dcap, u, rfl, h₁, h₂⟩
  · rcases runs_ensureDcap h with ⟨dcap, -, -, hr, -⟩ | ⟨hs, hl, -⟩
    · cases hr
    have hs' : s.dcapLinked = false := by rw [Loop.dcapLinked, hs]; rfl
    exact ⟨by simpa [hs'] using hl, fun h => by simp [hs'] at h, fun h => by simp at h⟩
  obtain ⟨rfl, hlink⟩ := runs_edevLink h₂
  have hdcap : u.dcapOption = some dcap ∧
      (broadcasts l₁).length ≤ (if s.dcapLinked = true then 0 else 1) ∧
        (s.dcapLinked = true → dcap.endDeviceListLink.isSome = true) := by
    rcases runs_ensureDcap h₁ with ⟨dcap', hs, rfl, hr, rfl⟩ | ⟨hs, hl, ht⟩
    · cases hr
      exact ⟨hs, Nat.zero_le _, fun h => (hlinked hs).symm.trans h⟩
    · have hs' : s.dcapLinked = false := by rw [Loop.dcapLinked, hs]; rfl
      exact ⟨ht dcap rfl, by simpa [hs'] using hl, fun h => by simp [hs'] at h⟩
  obtain ⟨hu, hl, hs⟩ := hdcap
  rw [List.append_nil]
  rcases hlink with ⟨hsome, rfl⟩ | ⟨hnone, hr⟩
  · exact ⟨hl, fun _ => (hlinked hu).trans hsome, fun _ => (hlinked hu).trans hsome⟩
  · refine ⟨hl, fun h => ?_, fun h => ?_⟩
    · rw [hs h] at hnone
      cases hnone
    · obtain ⟨link, h⟩ := h
      exact (hr link h).elim

theorem connects_findDevice {r : Except Exit (DeviceCapability × EndDevice)}
    (hrun : Runs (findDevice args) s l r t) : Connects s l (∃ found, r = .ok found) t := by
  rcases runs_bind.1 hrun with ⟨e, h, rfl⟩ | ⟨l₁, l, dcap, u, rfl, h₁, hrun⟩
  · have hconnects := connects_edevLink (runs_bind.2 (.inl ⟨e, h, rfl⟩))
    exact ⟨hconnects.broadcasts_le, hconnects.keeps, fun h => by simp at h⟩
  rcases runs_bind.1 hrun with ⟨e, h, rfl⟩ | ⟨l₂, l₃, link, v, rfl, h₂, hdevice⟩
  · have hconnects := connects_edevLink (runs_bind.2 (.inr ⟨l₁, l, dcap, u, rfl, h₁, h⟩))
    exact ⟨hconnects.broadcasts_le, hconnects.keeps, fun h => by simp at h⟩
  have hconnects := connects_edevLink (runs_bind.2 (.inr ⟨l₁, l₂, dcap, u, rfl, h₁, h₂⟩))
  have hframe : Keeps Loop.dcapLinked (fun q : Query R => q.broadcast? = none)
      (ensureServerDevice args link.href >>= fun serverDevice => pure (dcap, serverDevice)) :=
    keeps_bind ((keeps_ensureServerDevice args _).weaken Loop.dcapLinked (fun _ => rfl)
      broadcast?_of_isRegistering) fun _ => keeps_pure _
  obtain ⟨hquiet, hlinked⟩ := broadcasts_of_keeps hframe (fun _ => id) hdevice
  rw [← List.append_assoc]
  exact hconnects.append hquiet hlinked fun _ => ⟨link, rfl⟩

theorem connects_connect {r : Except Exit (DeviceCapability × EndDevice)}
    (hrun : Runs (connect args) s l r t) : Connects s l (∃ found, r = .ok found) t := by
  rcases runs_bind.1 hrun with ⟨e, h, rfl⟩ | ⟨l₁, l₂, found, u, rfl, h₁, hcheck⟩
  · exact connects_findDevice h
  have hframe : Keeps Loop.dcapLinked (fun q : Query R => q.broadcast? = none)
      (checkRegistration args found.2 >>= fun _ => pure found) :=
    keeps_bind ((keeps_checkRegistration args _).weaken Loop.dcapLinked (fun _ => rfl)
      broadcast?_of_gets) fun _ => keeps_pure _
  obtain ⟨hquiet, hlinked⟩ := broadcasts_of_keeps hframe (fun _ => id) hcheck
  exact (connects_findDevice h₁).append hquiet hlinked fun _ => ⟨found, rfl⟩

/-- An attempt that is not wanted again leaves a linked dcap. -/
theorem connects_attempt {r : Except Exit Unit} (hrun : Runs (attempt args) s l r t) :
    Connects s l (t.retryRequested = false) t := by
  have hbegin : ∀ {l : List (Moment R)} {succeeds : Prop} {u : Loop R},
      Connects s.beginAttempt l succeeds u → Connects s l succeeds u := fun h =>
    ⟨h.broadcasts_le, h.keeps, h.linked⟩
  have hretry : ∀ {l : List (Moment R)} {r : Except Exit (DeviceCapability × EndDevice)}
      {u : Loop R}, Runs (connect args) s.beginAttempt l r u → u.retryRequested = true := fun h =>
    (((keeps_connect args).weaken Loop.retryRequested (fun _ => rfl) fun _ => id) _ _ _ _ h).2
  have hdeliver : ∀ {dcap device} {l : List (Moment R)} {r : Except Exit Unit} {u v : Loop R},
      Runs (deliver args dcap device) u l r v → broadcasts l = [] ∧ v.dcapLinked = u.dcapLinked ∧
        v.retryRequested = u.retryRequested := by
    intro dcap device l r u v h
    have hframe := (keeps_deliver args dcap device).weaken
      (fun s : Loop R => (s.dcapLinked, s.retryRequested)) (fun _ => rfl) broadcast?_of_isDelivering
    obtain ⟨hquiet, hview⟩ := broadcasts_of_keeps hframe (fun _ => id) h
    exact ⟨hquiet, congrArg Prod.fst hview, congrArg Prod.snd hview⟩
  rcases runs_attempt hrun with ⟨e, -, h⟩ | ⟨l₁, l₂, found, u, rfl, h₁, ⟨e, -, h⟩ | ⟨v, -, h, rfl⟩⟩
  · have hconnects := hbegin (connects_connect h)
    refine ⟨hconnects.broadcasts_le, hconnects.keeps, fun ht => ?_⟩
    rw [hretry h] at ht
    cases ht
  · obtain ⟨hquiet, hlinked, ht⟩ := hdeliver h
    exact (hbegin (connects_connect h₁)).append hquiet hlinked fun _ => ⟨found, rfl⟩
  · obtain ⟨hquiet, hlinked, -⟩ := hdeliver h
    exact (hbegin (connects_connect h₁)).append hquiet hlinked fun _ => ⟨found, rfl⟩

/-! ## Subscriptions -/

/-- The initial GET is either broadcast or failed. -/
theorem broadcasts_getThenPoll {resource : Resource} {callback : resource.Body → Sep2ResourceEvent}
    {uri : String} {pollRate : UInt32} {r : Except Exit Nat}
    (hrun : Runs (getThenPoll resource callback uri pollRate) s l r t) :
    t = s ∧ (broadcasts l).length + l.countP failedGet = 1 ∧ ∃ handle, r = .ok handle := by
  obtain ⟨output, l, rfl, hpoll⟩ := runs_ask_bind.1 hrun
  cases output with
  | error err =>
    obtain ⟨handle, rfl, rfl, rfl⟩ := runs_ask.1 hpoll
    exact ⟨rfl, rfl, handle, rfl⟩
  | ok output =>
    rcases runs_bind.1 hpoll with ⟨e, hcallback, -⟩ | ⟨l₁, l₂, _, u, rfl, hcallback, hstart⟩
    · obtain ⟨answer, -, he, -⟩ := runs_pollCallback hcallback
      cases he
    · obtain ⟨answer, rfl, -, rfl⟩ := runs_pollCallback hcallback
      obtain ⟨handle, rfl, rfl, rfl⟩ := runs_ask.1 hstart
      exact ⟨rfl, rfl, handle, rfl⟩

theorem broadcasts_startPollFor {kind : ResourceKind} {href : String}
    {pollRate maxListSize : UInt32} {r : Except Exit (Option EstablishedPoll)}
    (hrun : Runs (startPollFor kind href pollRate maxListSize) s l r t) :
    t = s ∧ ∃ poll : Option EstablishedPoll, r = .ok poll ∧ (poll = none ↔ pollOf kind = none) ∧
      (broadcasts l).length + l.countP failedGet = poll.toList.length := by
  unfold startPollFor at hrun
  cases hkind : pollOf kind with
  | none =>
    rw [hkind] at hrun
    obtain ⟨rfl, rfl, rfl⟩ := runs_pure.1 hrun
    exact ⟨rfl, none, rfl, iff_of_true rfl rfl, rfl⟩
  | some poll =>
    rw [hkind] at hrun
    rcases runs_bind.1 hrun with ⟨e, hpoll, rfl⟩ | ⟨l₁, l₂, handle, u, rfl, hpoll, hend⟩
    · obtain ⟨-, -, handle, he⟩ := broadcasts_getThenPoll hpoll
      cases he
    · obtain ⟨rfl, hl, -⟩ := broadcasts_getThenPoll hpoll
      obtain ⟨rfl, rfl, rfl⟩ := runs_pure.1 hend
      rw [List.append_nil]
      exact ⟨rfl, _, rfl, iff_of_false (by simp) (by simp), hl⟩

theorem polls_establish (s : Loop R) (href : String) (poll : EstablishedPoll) :
    Loop.polls { s with establishedPolls := s.establishedPolls.insert href poll } =
      Function.update s.polls href true := by
  funext href'
  by_cases hhref : href' = href
  · subst hhref
    rw [Function.update_self, Loop.polls, HashMap.get?_insert_self]
    rfl
  · rw [Function.update_of_ne hhref, Loop.polls, HashMap.get?_insert_ne _ _ hhref, Loop.polls]

/-- Every poll that is started was counted, and is broadcast unless its GET fails. -/
theorem broadcasts_subscribeToResource {href : String} {kind : ResourceKind}
    {pollRate : Option UInt32} {r : Except Exit Unit}
    (hrun : Runs (subscribeToResource args href kind pollRate) s l r t) :
    r = .ok () ∧ ∀ rest : List (Command R),
      (broadcasts l).length + l.countP failedGet + newPolls t.polls rest =
        newPolls s.polls (.subscribeToResource href kind pollRate :: rest) := by
  have hget := runs_get_bind.1 hrun
  cases hp : s.establishedPolls.get? href with
  | some p =>
    have hpolled : s.polls href = true := by rw [Loop.polls, hp]; rfl
    have hskip : ∀ rest : List (Command R), newPolls s.polls rest =
        newPolls s.polls (.subscribeToResource href kind pollRate :: rest) := fun rest =>
      (if_pos (.inl hpolled)).symm
    rw [hp] at hget
    have hrate : Runs (if p.pollRate ≠ pollRate.getD args.defaultPollRate then
        (do
          updatePollRate p.handle (pollRate.getD args.defaultPollRate)
          establish href { p with pollRate := pollRate.getD args.defaultPollRate })
        else pure () : Task R Unit) s l r t := hget
    split_ifs at hrate
    · obtain ⟨_, l, rfl, hestablish⟩ := runs_ask_bind.1 hrate
      obtain ⟨rfl, rfl, rfl⟩ := runs_modify.1 hestablish
      refine ⟨rfl, fun rest => ?_⟩
      rw [polls_establish, Function.update_eq_self_iff.2 hpolled.symm, ← hskip]
      exact Nat.zero_add _
    · obtain ⟨rfl, rfl, rfl⟩ := runs_pure.1 hrate
      exact ⟨rfl, fun rest => (Nat.zero_add _).trans (hskip rest)⟩
  | none =>
    have hpolled : s.polls href = false := by rw [Loop.polls, hp]; rfl
    rw [hp] at hget
    rcases runs_bind.1 hget with ⟨e, hstart, -⟩ | ⟨l₁, l₂, poll, u, rfl, hstart, hend⟩
    · obtain ⟨-, poll, he, -⟩ := broadcasts_startPollFor hstart
      cases he
    obtain ⟨rfl, _, hr, hkind, hl⟩ := broadcasts_startPollFor hstart
    cases hr
    cases poll with
    | none =>
      obtain ⟨rfl, rfl, rfl⟩ := runs_pure.1 hend
      refine ⟨rfl, fun rest => ?_⟩
      rw [List.append_nil, hl, newPolls, if_pos (.inr (hkind.1 rfl))]
      exact Nat.zero_add _
    | some poll =>
      obtain ⟨rfl, rfl, rfl⟩ := runs_modify.1 hend
      refine ⟨rfl, fun rest => ?_⟩
      have hnew : ¬(u.polls href = true ∨ pollOf kind = none) := by
        rw [hpolled, ← hkind]
        simp
      rw [List.append_nil, hl, newPolls, if_neg hnew, polls_establish]
      exact Nat.add_comm _ _

theorem broadcasts_unsubscribeFromResource {href : String} {r : Except Exit Unit}
    (hrun : Runs (unsubscribeFromResource href) s l r t) :
    r = .ok () ∧ (broadcasts l).length + l.countP failedGet = 0 ∧
      t.polls = Function.update s.polls href false := by
  have hget := runs_get_bind.1 hrun
  cases hp : s.establishedPolls.get? href with
  | some p =>
    rw [hp] at hget
    have hretain : Runs (cancel p.handle)
        { s with establishedPolls := s.establishedPolls.retain fun href' _ => href' ≠ href }
        l r t := hget
    obtain ⟨_, rfl, rfl, rfl⟩ := runs_ask.1 hretain
    refine ⟨rfl, rfl, funext fun href' => ?_⟩
    rw [Loop.polls, HashMap.get?_retain]
    by_cases hhref : href' = href
    · subst hhref
      rw [Function.update_self]
      cases s.establishedPolls.get? href' <;> simp
    · rw [Function.update_of_ne hhref, Loop.polls]
      cases s.establishedPolls.get? href' <;> simp [hhref]
  | none =>
    rw [hp] at hget
    obtain ⟨rfl, rfl, rfl⟩ := runs_pure.1 hget
    refine ⟨rfl, rfl, (Function.update_eq_self_iff.2 ?_).symm⟩
    rw [Loop.polls, hp]
    rfl

/-! ## A turn -/

variable [DecidableEq R.DERCapability] {command : Command R} {r : Except Exit Unit}

theorem polls_take (s : Loop R) (command : Command R) : (s.take command).polls = s.polls := by
  funext href
  rw [Loop.polls, Loop.polls, establishedPolls_take]

theorem dcapLinked_take (s : Loop R) (command : Command R) :
    (s.take command).dcapLinked = (s.dcapLinked && !command.isReset) := by
  cases command <;> simp only [Loop.take] <;> (try split_ifs) <;>
    simp [Loop.dcapLinked, Command.isReset, Loop.resetConnection]

omit [DecidableEq R.DERCapability] in
/-- Changing the polls does not make the task connect. -/
theorem dcapFetches_polls {p : Task R Unit}
    (hp : Keeps Loop.exceptPolls (fun q => q.isPolling = true) p)
    (hrun : Runs p s.beginTurn l r t) (command : Command R) (hsub : command.isSubscription = true)
    (rest : List (Command R)) : dcapFetches t.dcapLinked t.retryRequested rest =
      dcapFetches s.dcapLinked s.retryRequested (command :: rest) := by
  have hframe := hp.weaken (fun s : Loop R => (s.dcapLinked, s.retryRequested)) (fun _ => rfl)
    fun _ => id
  have hview : (t.dcapLinked, t.retryRequested) = (s.dcapLinked, s.retryRequested) :=
    (hframe _ _ _ _ hrun).2
  obtain ⟨hlinked, hretry⟩ := Prod.mk.inj hview
  rw [hlinked, hretry, dcapFetches, if_pos (.inl hsub)]

omit [DecidableEq R.DERCapability] in
theorem fetches_subscribes {href : String} {kind : ResourceKind} {pollRate : Option UInt32}
    (hrun : Runs (subscribeToResource args href kind pollRate >>= fun _ => throw .again)
      s.beginTurn l r t) (rest : List (Command R)) :
    r = .error .again ∧ (broadcasts l).length + l.countP failedGet + t.fetches rest =
      s.fetches (.subscribeToResource href kind pollRate :: rest) := by
  rcases runs_bind.1 hrun with ⟨e, h, -⟩ | ⟨l₁, l₂, _, u, rfl, h₁, h₂⟩
  · obtain ⟨he, -⟩ := broadcasts_subscribeToResource h
    cases he
  · obtain ⟨rfl, hr, rfl⟩ := runs_throw.1 h₂
    have hpolls := (broadcasts_subscribeToResource h₁).2 rest
    have hdcap := dcapFetches_polls (keeps_subscribeToResource args href kind pollRate) h₁
      (.subscribeToResource href kind pollRate) rfl rest
    have hbegin : s.beginTurn.polls = s.polls := rfl
    rw [hbegin] at hpolls
    rw [List.append_nil, Loop.fetches, Loop.fetches, ← hpolls, ← hdcap,
      Nat.add_assoc _ _ (dcapFetches ..)]
    exact ⟨hr, rfl⟩

omit [DecidableEq R.DERCapability] in
theorem fetches_unsubscribes {href : String}
    (hrun : Runs (unsubscribeFromResource href >>= fun _ => throw .again) s.beginTurn l r t)
    (rest : List (Command R)) :
    r = .error .again ∧ (broadcasts l).length + l.countP failedGet + t.fetches rest =
      s.fetches (.unsubscribeFromResource href :: rest) := by
  rcases runs_bind.1 hrun with ⟨e, h, -⟩ | ⟨l₁, l₂, _, u, rfl, h₁, h₂⟩
  · obtain ⟨he, -⟩ := broadcasts_unsubscribeFromResource h
    cases he
  · obtain ⟨rfl, hr, rfl⟩ := runs_throw.1 h₂
    obtain ⟨-, hquiet, hpolls⟩ := broadcasts_unsubscribeFromResource h₁
    have hdcap := dcapFetches_polls (keeps_unsubscribeFromResource href) h₁
      (.unsubscribeFromResource href) rfl rest
    rw [List.append_nil, hquiet, Nat.zero_add, Loop.fetches, hpolls, hdcap]
    exact ⟨hr, rfl⟩

/-- A subscription takes off the count what it fetches, whether or not the GET succeeds. -/
theorem fetches_subscription (hsub : command.isSubscription = true)
    (hturn : Turn args s.beginTurn (⟨(s.beginTurn, .recv), some command⟩ :: l) r t)
    (rest : List (Command R)) : r = .error .again ∧
      (broadcasts l).length + l.countP failedGet + t.fetches rest =
        s.fetches (command :: rest) := by
  cases hturn with
  | subscribes hrun => exact fetches_subscribes hrun rest
  | unsubscribes hrun => exact fetches_unsubscribes hrun rest
  | waits hwaits => rw [hsub] at hwaits; cases hwaits
  | attempts hattempts => rw [hattempts.1] at hsub; cases hsub

omit [DecidableEq R.DERCapability] in
theorem newPolls_cons (hsub : command.isSubscription = false) (polled : String → Bool)
    (rest : List (Command R)) : newPolls polled (command :: rest) = newPolls polled rest := by
  cases command <;> first | rfl | cases hsub

/-- A command that only is taken in. -/
theorem fetches_waits (hsub : command.isSubscription = false)
    (hwaits : ¬s.beginTurn.Attempts command) (rest : List (Command R)) :
    (s.beginTurn.take command).fetches rest = s.fetches (command :: rest) := by
  have hgate : s.retryRequested = true ∧ command.isWakeCommand = false := by
    by_contra h
    refine hwaits ⟨hsub, fun hretry => ?_⟩
    by_contra hwake
    exact h ⟨hretry, by simpa using hwake⟩
  have hreset : command.isReset = false := by
    cases command <;> first | rfl | cases hgate.2
  rw [Loop.fetches, Loop.fetches, newPolls_cons hsub, dcapFetches, if_pos (.inr hgate), polls_take,
    dcapLinked_take, retryRequested_take, hreset, Bool.not_false, Bool.and_true]
  rfl

theorem fetches_attempts (hattempts : s.beginTurn.Attempts command)
    (hrun : Runs (attempt args) (s.beginTurn.take command) l r t) (rest : List (Command R)) :
    (broadcasts l).length + t.fetches rest ≤ s.fetches (command :: rest) := by
  have hconnects := connects_attempt hrun
  have hpolls : t.polls = s.polls := by
    have hframe : Keeps Loop.polls (fun _ : Query R => True) (attempt args) :=
      keeps_attempt.weaken (fun polls href => (polls.get? href).isSome) (fun _ => rfl)
        fun _ _ => trivial
    rw [(hframe _ _ _ _ hrun).2, polls_take]
    rfl
  have hstart : (s.beginTurn.take command).dcapLinked = (s.dcapLinked && !command.isReset) :=
    dcapLinked_take _ _
  have hgo : ¬(command.isSubscription = true ∨
      s.retryRequested = true ∧ command.isWakeCommand = false) := by
    intro h
    obtain h | ⟨hretry, hwake⟩ := h
    · rw [hattempts.1] at h
      cases h
    · rw [hattempts.2 hretry] at hwake
      cases hwake
  rw [Loop.fetches, Loop.fetches, newPolls_cons hattempts.1, hpolls, dcapFetches, if_neg hgo]
  by_cases hkept : s.dcapLinked = true ∧ command.isReset = false
  · have hlinked : (s.beginTurn.take command).dcapLinked = true := by
      rw [hstart, hkept.1, hkept.2]
      rfl
    have hquiet := hconnects.broadcasts_le
    rw [if_pos hlinked] at hquiet
    rw [if_pos hkept, hconnects.keeps hlinked, dcapFetches_linked _ s.retryRequested]
    omega
  · have hle : dcapFetches t.dcapLinked t.retryRequested rest ≤ dcapFetches false true rest := by
      by_cases hlinked : t.dcapLinked = true
      · rw [hlinked]
        exact dcapFetches_linked_le _ _
      · have hretry : t.retryRequested = true := by
          by_contra hdone
          exact hlinked (hconnects.linked (by simpa using hdone))
        rw [Bool.not_eq_true] at hlinked
        rw [hlinked, hretry]
    have hone : (broadcasts l).length ≤ 1 := by
      refine hconnects.broadcasts_le.trans ?_
      split_ifs <;> decide
    rw [if_neg hkept]
    omega

/-- **A turn takes what it broadcasts off the count.** -/
theorem fetches_turn (rest : List (Command R))
    (hturn : Turn args s.beginTurn (⟨(s.beginTurn, .recv), some command⟩ :: l) r t) :
    (broadcasts l).length + t.fetches rest ≤ s.fetches (command :: rest) := by
  by_cases hsub : command.isSubscription = true
  · have h := (fetches_subscription hsub hturn rest).2
    omega
  cases hturn with
  | subscribes => cases hsub rfl
  | unsubscribes => cases hsub rfl
  | waits hsub hwaits => exact (Nat.zero_add _).trans_le (fetches_waits hsub hwaits rest).le
  | attempts hattempts hrun => exact fetches_attempts hattempts hrun rest

end Sep2Bridge.Connection
