import Mathlib.Data.List.Induction
import Sep2Bridge.Connection.Turn
import Sep2Bridge.Dispatch
import Sep2Bridge.Lib.MapDiff
import Sep2Bridge.Scheduler.Sep2Model

/-!
# The polls

The scheduler announces the difference of the links before and after an update, and the connection
task polls what it is told to. It keeps its polls by href alone: a link that comes with another
kind only changes the rate of the poll that there is.

`Polling` reads the live polls off a log. They are what a listener holds that sticks to the first
kind it can poll (`polls_of_log`), so they are those of the links exactly when each link still has
the kind its poll began with (`polls_match_iff`). `poll_keeps_its_kind` is a link that has not.
-/

namespace Sep2Bridge.Connection

open Lib Proc

variable {R : Reports} {args : Args}

/-! ## What is polled -/

/-- A live poll, and the link it is for. -/
structure Poll where
  href : String
  resource : Resource
  uri : String
  pollRate : UInt32
  deriving DecidableEq

/-- The poll that a link asks for, if its kind can be polled. -/
def pollFor (args : Args) (href : String) (link : ResourceLink) : Option Poll :=
  (pollOf link.kind).map fun poll =>
    ⟨href, poll.1, kindHref link.kind href args.maxListSize,
      link.pollRate.getD args.defaultPollRate⟩

/-- The live polls by handle, and the last link to be subscribed to. -/
structure Polling where
  href : String := ""
  live : List (Nat × Poll) := []

def Polling.note (p : Polling) : Moment R → Polling
  | ⟨(_, .recv), some (.subscribeToResource href _ _)⟩ => { p with href }
  | ⟨(_, .startPoll resource uri pollRate), (handle : Nat)⟩ =>
    { p with live := p.live ++ [(handle, ⟨p.href, resource, uri, pollRate⟩)] }
  | ⟨(_, .updatePollRate handle pollRate), _⟩ =>
    { p with live := p.live.map fun e =>
        if e.1 = handle then (e.1, { e.2 with pollRate }) else e }
  | ⟨(_, .cancel handle), _⟩ => { p with live := p.live.filter fun e => e.1 ≠ handle }
  | _ => p

def polling (log : List (Moment R)) : Polling := log.foldl Polling.note {}

/-- The live polls that are for a link. -/
def Polling.of (p : Polling) (href : String) : List Poll :=
  (p.live.map Prod.snd).filter fun poll => poll.href = href

/-- There is one live poll for each link of a kind that can be polled, and no other. -/
def PollsFor (args : Args) (log : List (Moment R)) (links : ResourceLinks) : Prop :=
  ∀ href, (polling log).of href = (links[href]?.bind (pollFor args href)).toList

/-- The handle of a poll that is started. -/
def started? : Moment R → Option Nat
  | ⟨(_, .startPoll ..), handle⟩ => some handle
  | _ => none

/-! ## What is announced -/

/-- The change of the links that a command tells of. -/
def change? : Command R → Option (String × Option ResourceLink)
  | .subscribeToResource href kind pollRate => some (href, some ⟨kind, pollRate⟩)
  | .unsubscribeFromResource href => some (href, none)
  | _ => none

/-- The change that is received. -/
def receivedChange? (e : Moment R) : Option (String × Option ResourceLink) :=
  (received? e).bind fun received => change? received.2

/-- The events between successive maps, the first of which is empty. -/
def linkFeed : ResourceLinks → List ResourceLinks → List Event
  | _, [] => []
  | prior, links :: maps => Sep2Model.resourceLinkEvents prior links ++ linkFeed links maps

/-- The last of the maps. -/
def lastLinks (maps : List ResourceLinks) : ResourceLinks := maps.getLastD ∅

/-- The kind under which the poll of a link began: the first that can be polled, since the link
was last absent. -/
def begunAs (href : String) (maps : List ResourceLinks) : Option ResourceKind :=
  maps.foldl (fun begun links => links[href]?.bind fun link =>
    begun <|> if (pollOf link.kind).isSome = true then some link.kind else none) none

/-- The kind under which a link should be polled. -/
def polledKind (links : ResourceLinks) (href : String) : Option ResourceKind :=
  links[href]?.bind fun link =>
    if (pollOf link.kind).isSome = true then some link.kind else none

/-! ## What the task sticks to -/

/-- What becomes of a link that is held: its kind stays, and a kind that cannot be polled is not
taken up. -/
def sticks : Option ResourceLink → Option ResourceLink → Option ResourceLink
  | _, none => none
  | some held, some link => some { held with pollRate := link.pollRate }
  | none, some link => if (pollOf link.kind).isSome = true then some link else none

theorem sticks_sticks (held link : Option ResourceLink) :
    sticks (sticks held link) link = sticks held link := by
  rcases held, link with ⟨_ | held, _ | link⟩
  · rfl
  · unfold sticks
    by_cases hkind : (pollOf link.kind).isSome = true <;> simp [hkind]
  · rfl
  · rfl

/-- The links held after a log. -/
def heldBy (log : List (Moment R)) : String → Option ResourceLink :=
  followAll sticks (fun _ => none) (log.filterMap receivedChange?)

/-- The polls of a link, as the task knows them and as they are. -/
inductive Held (args : Args) (href : String) :
    Option ResourceLink → List (Nat × Poll) → Option EstablishedPoll → Prop
  | absent : Held args href none [] none
  | polled {link : ResourceLink} {poll : Poll} {handle : Nat} : pollFor args href link = some poll →
      Held args href (some link) [(handle, poll)] (some ⟨handle, poll.pollRate⟩)

/-- The task polls what it holds, when each poll has a handle of its own. -/
def Following (args : Args) (past : List (Moment R)) (s : Loop R) : Prop :=
  (past.filterMap started?).Nodup →
    ((polling past).live.map Prod.fst).Sublist (past.filterMap started?) ∧
    ∀ href, Held args href (heldBy past href)
      ((polling past).live.filter fun e => e.2.href = href) (s.establishedPolls.get? href)

/-- A moment that has nothing to do with polls. -/
def IsSteady (e : Moment R) : Prop :=
  (∀ p : Polling, p.note e = p) ∧ started? e = none ∧ receivedChange? e = none

section Log

variable {past l : List (Moment R)} {s t : Loop R} {e : Moment R}

theorem polling_append (past l : List (Moment R)) :
    polling (past ++ l) = l.foldl Polling.note (polling past) := List.foldl_append

theorem heldBy_append (past l : List (Moment R)) :
    heldBy (past ++ l) = followAll sticks (heldBy past) (l.filterMap receivedChange?) := by
  rw [heldBy, List.filterMap_append, followAll_append]
  rfl

theorem polling_steady (hl : ∀ e ∈ l, IsSteady e) : polling (past ++ l) = polling past := by
  rw [polling_append]
  induction l with
  | nil => rfl
  | cons e l ih =>
    rw [List.foldl_cons, (hl e (by simp)).1]
    exact ih fun e he => hl e (by simp [he])

theorem heldBy_steady (hl : ∀ e ∈ l, IsSteady e) : heldBy (past ++ l) = heldBy past := by
  have hreceived : l.filterMap receivedChange? = [] := by
    simpa [List.filterMap_eq_nil_iff] using fun e he => (hl e he).2.2
  rw [heldBy_append, hreceived]
  rfl

theorem started_steady (hl : ∀ e ∈ l, IsSteady e) :
    (past ++ l).filterMap started? = past.filterMap started? := by
  have hstarted : l.filterMap started? = [] := by
    simpa [List.filterMap_eq_nil_iff] using fun e he => (hl e he).2.1
  rw [List.filterMap_append, hstarted, List.append_nil]

theorem Following.steady (h : Following args past s) (hl : ∀ e ∈ l, IsSteady e)
    (ht : t.establishedPolls = s.establishedPolls) : Following args (past ++ l) t := by
  unfold Following
  rw [started_steady hl, polling_steady hl, heldBy_steady hl, ht]
  exact h

end Log

/-! ## One change -/

section Change

variable {past : List (Moment R)} {s : Loop R} {live : List (Nat × Poll)} {handle : Nat}
  {poll : Poll} {href : String}

/-- A link with another rate is polled at that rate. -/
theorem pollFor_pollRate {link : ResourceLink} (h : pollFor args href link = some poll)
    (pollRate : Option UInt32) : pollFor args href { link with pollRate } =
      some { poll with pollRate := pollRate.getD args.defaultPollRate } := by
  obtain ⟨p, hp, rfl⟩ := Option.map_eq_some_iff.1 h
  rw [pollFor, hp]
  rfl

/-- A live poll is told by its handle. -/
theorem href_of_mem (hnodup : (live.map Prod.fst).Nodup)
    (hlive : live.filter (fun e => e.2.href = href) = [(handle, poll)]) {e : Nat × Poll}
    (he : e ∈ live) (hhandle : e.1 = handle) : e.2.href = href := by
  have hmem : (handle, poll) ∈ live.filter (fun e => e.2.href = href) := by simp [hlive]
  obtain ⟨hmem, hhref⟩ := List.mem_filter.1 hmem
  rw [List.inj_on_of_nodup_map hnodup he hmem hhandle]
  simpa using hhref

theorem filter_updated (hnodup : (live.map Prod.fst).Nodup)
    (hlive : live.filter (fun e => e.2.href = href) = [(handle, poll)]) (pollRate : UInt32)
    (href' : String) :
    (live.map fun e => if e.1 = handle then (e.1, { e.2 with pollRate }) else e).filter
        (fun e => e.2.href = href') =
      if href' = href then [(handle, { poll with pollRate })]
      else live.filter (fun e => e.2.href = href') := by
  have hfilter : (live.map fun e => if e.1 = handle then (e.1, { e.2 with pollRate }) else e).filter
      (fun e => e.2.href = href') = (live.filter fun e => e.2.href = href').map
        fun e => if e.1 = handle then (e.1, { e.2 with pollRate }) else e := by
    rw [List.filter_map]
    congr 1
    refine List.filter_congr fun e _ => ?_
    dsimp only [Function.comp]
    split_ifs <;> rfl
  rw [hfilter]
  split_ifs with hhref
  · rw [hhref, hlive]
    simp
  · refine (List.map_congr_left fun e he => ?_).trans (List.map_id _)
    obtain ⟨hmem, he⟩ := List.mem_filter.1 he
    refine if_neg fun hhandle => hhref ?_
    rw [← href_of_mem hnodup hlive hmem hhandle]
    exact (of_decide_eq_true he).symm

theorem filter_cancelled (hnodup : (live.map Prod.fst).Nodup)
    (hlive : live.filter (fun e => e.2.href = href) = [(handle, poll)]) (href' : String) :
    (live.filter fun e => e.1 ≠ handle).filter (fun e => e.2.href = href') =
      if href' = href then [] else live.filter (fun e => e.2.href = href') := by
  rw [List.filter_comm]
  split_ifs with hhref
  · rw [hhref, hlive]
    simp
  · refine List.filter_eq_self.2 fun e he => ?_
    obtain ⟨hmem, he⟩ := List.mem_filter.1 he
    refine decide_eq_true fun hhandle => hhref ?_
    rw [← href_of_mem hnodup hlive hmem hhandle]
    exact (of_decide_eq_true he).symm

theorem Held.of_none {held : Option ResourceLink} (h : Held args href held live none) :
    held = none ∧ live = [] := by
  cases h
  exact ⟨rfl, rfl⟩

theorem Held.of_some {held : Option ResourceLink} {p : EstablishedPoll}
    (h : Held args href held live (some p)) : ∃ link poll handle, held = some link ∧
      pollFor args href link = some poll ∧ p = ⟨handle, poll.pollRate⟩ ∧
      live = [(handle, poll)] := by
  cases h with
  | polled hpoll => exact ⟨_, _, _, rfl, hpoll, rfl, rfl⟩

/-- A change of one link leaves the others as they are. -/
theorem Held.update {held : String → Option ResourceLink} {live' own : List (Nat × Poll)}
    {polls polls' : HashMap String EstablishedPoll} {link : Option ResourceLink}
    {p : Option EstablishedPoll} (h : ∀ href', Held args href' (held href')
      (live.filter fun e => e.2.href = href') (polls.get? href'))
    (hown : Held args href link own p) (hlive : ∀ href', live'.filter (fun e => e.2.href = href') =
      if href' = href then own else live.filter fun e => e.2.href = href')
    (hpolls : ∀ href', polls'.get? href' = if href' = href then p else polls.get? href')
    (href' : String) : Held args href' (Function.update held href link href')
      (live'.filter fun e => e.2.href = href') (polls'.get? href') := by
  rw [hlive, hpolls]
  by_cases hhref : href' = href
  · subst hhref
    rw [Function.update_self, if_pos rfl, if_pos rfl]
    exact hown
  · rw [Function.update_of_ne hhref, if_neg hhref, if_neg hhref]
    exact h href'

/-- Another link, for the polls that there are. -/
theorem Held.relabel {held : String → Option ResourceLink}
    {polls : HashMap String EstablishedPoll} {link : Option ResourceLink}
    (h : ∀ href', Held args href' (held href') (live.filter fun e => e.2.href = href')
      (polls.get? href'))
    (hown : Held args href link (live.filter fun e => e.2.href = href) (polls.get? href))
    (href' : String) : Held args href' (Function.update held href link href')
      (live.filter fun e => e.2.href = href') (polls.get? href') := by
  by_cases hhref : href' = href
  · subst hhref
    rw [Function.update_self]
    exact hown
  · rw [Function.update_of_ne hhref]
    exact h href'

end Change

section Commands

variable {past : List (Moment R)} {s : Loop R} {href : String}

theorem heldBy_change {e : Moment R} {link : Option ResourceLink}
    (he : receivedChange? e = some (href, link)) :
    heldBy (past ++ [e]) =
      Function.update (heldBy past) href (sticks (heldBy past href) link) := by
  rw [heldBy_append, List.filterMap_cons_some he]
  rfl

/-- A moment that starts no poll and tells of no change. -/
theorem heldBy_silent {e : Moment R} (he : receivedChange? e = none) :
    heldBy (past ++ [e]) = heldBy past := by
  rw [heldBy_append, List.filterMap_cons_none he]
  rfl

theorem started_silent {e : Moment R} (he : started? e = none) :
    (past ++ [e]).filterMap started? = past.filterMap started? := by
  rw [List.filterMap_append, List.filterMap_cons_none he]
  exact List.append_nil _

theorem polling_concat (past : List (Moment R)) (e : Moment R) :
    polling (past ++ [e]) = (polling past).note e := polling_append _ _

theorem isSteady_get (resource : Resource) (uri : String) (answer : ClientResult resource.Body) :
    IsSteady (⟨(s, .get resource uri), answer⟩ : Moment R) := ⟨fun _ => rfl, rfl, rfl⟩

theorem isSteady_broadcast (resource : Sep2ResourceEvent) (answer : Bool) :
    IsSteady (⟨(s, .broadcast resource), answer⟩ : Moment R) := ⟨fun _ => rfl, rfl, rfl⟩

theorem runs_pollCallback {resource : Sep2ResourceEvent} {l : List (Moment R)}
    {r : Except Exit Unit} {t : Loop R} (hrun : Runs (pollCallback resource) s l r t) :
    ∃ answer, l = [⟨(s, .broadcast resource), answer⟩] ∧ r = .ok () ∧ t = s := by
  obtain ⟨answer, l, rfl, hend⟩ := runs_ask_bind.1 hrun
  obtain ⟨rfl, rfl, rfl⟩ := runs_pure.1 hend
  exact ⟨answer, rfl, rfl, rfl⟩

/-- The last moment of `get_then_poll` is the start of the poll. -/
theorem runs_getThenPoll {resource : Resource} {callback : resource.Body → Sep2ResourceEvent}
    {uri : String} {pollRate : UInt32} {l : List (Moment R)} {r : Except Exit Nat} {t : Loop R}
    (hrun : Runs (getThenPoll resource callback uri pollRate) s l r t) :
    t = s ∧ ∃ (l' : List (Moment R)) (handle : Nat), (∀ e ∈ l', IsSteady e) ∧ r = .ok handle ∧
      l = l' ++ [⟨(s, .startPoll resource uri pollRate), handle⟩] := by
  obtain ⟨output, l, rfl, hpoll⟩ := runs_ask_bind.1 hrun
  have hget := isSteady_get (s := s) resource uri output
  cases output with
  | error err =>
    obtain ⟨handle, rfl, rfl, rfl⟩ := runs_ask.1 hpoll
    exact ⟨rfl, [_], handle, List.forall_mem_singleton.2 hget, rfl, rfl⟩
  | ok output =>
    rcases runs_bind.1 hpoll with ⟨e, hcallback, -⟩ | ⟨l₁, l₂, _, u, rfl, hcallback, hstart⟩
    · obtain ⟨answer, -, he, -⟩ := runs_pollCallback hcallback
      cases he
    · obtain ⟨answer, rfl, -, rfl⟩ := runs_pollCallback hcallback
      have hbroadcast := isSteady_broadcast (s := u) (callback output) answer
      obtain ⟨handle, rfl, rfl, rfl⟩ := runs_ask.1 hstart
      exact ⟨rfl, [_, _], handle,
        List.forall_mem_cons.2 ⟨hget, List.forall_mem_singleton.2 hbroadcast⟩, rfl, rfl⟩

theorem runs_startPollFor {kind : ResourceKind} {pollRate maxListSize : UInt32}
    {l : List (Moment R)} {r : Except Exit (Option EstablishedPoll)} {t : Loop R}
    (hrun : Runs (startPollFor kind href pollRate maxListSize) s l r t) :
    t = s ∧ ((pollOf kind = none ∧ r = .ok none ∧ l = []) ∨
      ∃ poll l' handle, pollOf kind = some poll ∧ (∀ e ∈ l', IsSteady e) ∧
        r = .ok (some ⟨handle, pollRate⟩) ∧ l = l' ++
          [⟨(s, .startPoll poll.1 (kindHref kind href maxListSize) pollRate), handle⟩]) := by
  unfold startPollFor at hrun
  cases hkind : pollOf kind with
  | none =>
    rw [hkind] at hrun
    obtain ⟨rfl, rfl, rfl⟩ := runs_pure.1 hrun
    exact ⟨rfl, .inl ⟨rfl, rfl, rfl⟩⟩
  | some poll =>
    rw [hkind] at hrun
    rcases runs_bind.1 hrun with ⟨e, hpoll, rfl⟩ | ⟨l₁, l₂, handle, u, rfl, hpoll, hend⟩
    · obtain ⟨-, _, _, -, he, -⟩ := runs_getThenPoll hpoll
      cases he
    · obtain ⟨rfl, l', handle', hl', hhandle, rfl⟩ := runs_getThenPoll hpoll
      obtain ⟨rfl, rfl, rfl⟩ := runs_pure.1 hend
      cases hhandle
      exact ⟨rfl, .inr ⟨poll, l', handle, rfl, hl', rfl, List.append_nil _⟩⟩

/-! ### The four changes -/

/-- A change that leaves the polls as they are. -/
theorem Following.relabel {command : Command R} {link : Option ResourceLink}
    (h : Following args past s) (hchange : change? command = some (href, link))
    (hown : ∀ {held live}, Held args href held live (s.establishedPolls.get? href) →
      Held args href (sticks held link) live (s.establishedPolls.get? href)) :
    Following args (past ++ [⟨(s, .recv), some command⟩]) s := by
  intro hfresh
  rw [started_silent rfl] at hfresh ⊢
  obtain ⟨hsub, hheld⟩ := h hfresh
  have hlive : (polling (past ++ [⟨(s, .recv), some command⟩])).live = (polling past).live := by
    rw [polling_concat]
    cases command <;> rfl
  have hreceived : receivedChange? (⟨(s, .recv), some command⟩ : Moment R) = some (href, link) :=
    hchange
  rw [hlive, heldBy_change hreceived]
  exact ⟨hsub, Held.relabel hheld (hown (hheld href))⟩

/-- A poll goes on at the new rate. -/
theorem Following.updated {p : EstablishedPoll} (h : Following args past s)
    (hp : s.establishedPolls.get? href = some p) (kind : ResourceKind)
    (pollRate : Option UInt32) (answer : Unit) :
    Following args
      (past ++ [⟨(s, .recv), some (.subscribeToResource href kind pollRate)⟩] ++
        [⟨(s, .updatePollRate p.handle (pollRate.getD args.defaultPollRate)), answer⟩])
      { s with
        establishedPolls := s.establishedPolls.insert href
          { p with pollRate := pollRate.getD args.defaultPollRate } } := by
  intro hfresh
  rw [started_silent rfl, started_silent rfl] at hfresh ⊢
  obtain ⟨hsub, hheld⟩ := h hfresh
  obtain ⟨link, poll, handle, hlink, hpoll, rfl, hlive⟩ := (hp ▸ hheld href).of_some
  rw [polling_concat, polling_concat, heldBy_silent rfl, heldBy_change rfl, hlink]
  refine ⟨?_, Held.update hheld (.polled (pollFor_pollRate hpoll pollRate)) (fun href' => ?_)
    fun href' => HashMap.get?_insert _ _ _ _⟩
  · have hhandles : ((polling past).live.map fun e =>
        if e.1 = handle then (e.1, { e.2 with pollRate := pollRate.getD args.defaultPollRate })
        else e).map Prod.fst = (polling past).live.map Prod.fst := by
      rw [List.map_map]
      refine List.map_congr_left fun e _ => ?_
      dsimp only [Function.comp]
      split_ifs <;> rfl
    show (List.map Prod.fst _).Sublist _
    exact hhandles ▸ hsub
  · exact filter_updated (hfresh.sublist hsub) hlive _ href'

/-- A poll is started for a link that has none. -/
theorem Following.started {kind : ResourceKind} {pollRate : Option UInt32}
    {poll : (resource : Resource) × (resource.Body → Sep2ResourceEvent)} {l : List (Moment R)}
    (h : Following args past s) (hp : s.establishedPolls.get? href = none)
    (hkind : pollOf kind = some poll) (hl : ∀ e ∈ l, IsSteady e) (handle : Nat) :
    Following args
      (past ++ [⟨(s, .recv), some (.subscribeToResource href kind pollRate)⟩] ++ l ++
        [⟨(s, .startPoll poll.1 (kindHref kind href args.maxListSize)
          (pollRate.getD args.defaultPollRate)), handle⟩])
      { s with
        establishedPolls := s.establishedPolls.insert href
          ⟨handle, pollRate.getD args.defaultPollRate⟩ } := by
  intro hfresh
  let started : Poll :=
    ⟨href, poll.1, kindHref kind href args.maxListSize, pollRate.getD args.defaultPollRate⟩
  have hstarted {e e' : Moment R} (he : started? e = none) (he' : started? e' = some handle) :
      (past ++ [e] ++ l ++ [e']).filterMap started? = past.filterMap started? ++ [handle] := by
    rw [List.filterMap_append, started_steady hl, started_silent he, List.filterMap_cons_some he']
    rfl
  rw [hstarted rfl rfl] at hfresh ⊢
  obtain ⟨hsub, hheld⟩ := h (hfresh.sublist (List.sublist_append_left _ _))
  obtain ⟨hnone, hlive⟩ := (hp ▸ hheld href).of_none
  have hown : Held args href (sticks none (some ⟨kind, pollRate⟩)) [(handle, started)]
      (some ⟨handle, started.pollRate⟩) := by
    rw [sticks, if_pos (by simp [hkind])]
    exact .polled (by rw [pollFor, hkind]; rfl)
  rw [polling_concat, polling_steady hl, polling_concat, heldBy_silent rfl, heldBy_steady hl,
    heldBy_change rfl, hnone]
  refine ⟨?_, Held.update hheld hown (fun href' => ?_) fun href' => HashMap.get?_insert _ _ _ _⟩
  · show (List.map Prod.fst ((polling past).live ++ [(handle, started)])).Sublist _
    rw [List.map_append]
    exact hsub.append (List.Sublist.refl _)
  · show List.filter _ ((polling past).live ++ [(handle, started)]) = _
    rw [List.filter_append]
    split_ifs with hhref
    · rw [hhref, hlive]
      simp [started]
    · simp [started, Ne.symm hhref]

/-- A poll is cancelled. -/
theorem Following.cancelled {p : EstablishedPoll} {t : Loop R} (h : Following args past s)
    (hp : s.establishedPolls.get? href = some p) (answer : Unit)
    (ht : t.establishedPolls = s.establishedPolls.retain fun href' _ => href' ≠ href) :
    Following args (past ++ [⟨(s, .recv), some (.unsubscribeFromResource href)⟩] ++
      [⟨(t, .cancel p.handle), answer⟩]) t := by
  intro hfresh
  rw [started_silent rfl, started_silent rfl] at hfresh ⊢
  obtain ⟨hsub, hheld⟩ := h hfresh
  obtain ⟨link, poll, handle, hlink, hpoll, rfl, hlive⟩ := (hp ▸ hheld href).of_some
  rw [polling_concat, polling_concat, heldBy_silent rfl, heldBy_change rfl, hlink, ht]
  refine ⟨?_, Held.update hheld .absent (fun href' => ?_) fun href' => ?_⟩
  · exact (List.filter_sublist.map Prod.fst).trans hsub
  · exact filter_cancelled (hfresh.sublist hsub) hlive href'
  · rw [HashMap.get?_retain]
    split_ifs with hhref
    · rw [hhref, hp]
      simp
    · cases s.establishedPolls.get? href' <;> simp [hhref]

/-! ### The two commands -/

theorem wp_subscribeToResource (kind : ResourceKind) (pollRate : Option UInt32)
    (h : Following args past s) :
    Wp (fun _ _ => True) (subscribeToResource args href kind pollRate) (fun _ => Following args)
      (past ++ [⟨(s, .recv), some (.subscribeToResource href kind pollRate)⟩]) s := by
  refine wp_get_bind ?_
  cases hp : s.establishedPolls.get? href with
  | some p =>
    refine wp_ite (fun _ => ?_) fun hrate => wp_pure ?_
    · exact wp_ask_bind fun answer => ⟨trivial, wp_modify (h.updated hp kind pollRate answer)⟩
    · -- the poll has the rate already
      refine h.relabel rfl fun hheld => ?_
      rw [hp] at hheld ⊢
      obtain ⟨link, poll, handle, rfl, hpoll, rfl, rfl⟩ := hheld.of_some
      have hpoll' : pollFor args href { link with pollRate } = some poll := by
        rw [pollFor_pollRate hpoll, ← not_ne_iff.1 hrate]
      exact .polled hpoll'
  | none =>
    intro l r t hrun
    refine ⟨always_iff.2 fun _ _ _ _ => trivial, ?_⟩
    rcases runs_bind.1 hrun with ⟨err, hstart, -⟩ | ⟨l₁, l₂, started, u, rfl, hstart, hend⟩
    · obtain ⟨-, ⟨-, hr, -⟩ | ⟨_, _, _, -, -, hr, -⟩⟩ := runs_startPollFor hstart <;> cases hr
    obtain ⟨rfl, ⟨hkind, hr, rfl⟩ | ⟨poll, l', handle, hkind, hl', hr, rfl⟩⟩ :=
      runs_startPollFor hstart
    · -- the kind is not polled
      cases hr
      obtain ⟨rfl, -, rfl⟩ := runs_pure.1 hend
      rw [List.append_nil, List.append_nil]
      refine h.relabel rfl fun hheld => ?_
      rw [hp] at hheld ⊢
      obtain ⟨rfl, rfl⟩ := hheld.of_none
      rw [sticks, if_neg (by simp [hkind])]
      exact .absent
    · cases hr
      obtain ⟨rfl, -, rfl⟩ := runs_modify.1 hend
      rw [List.append_nil, ← List.append_assoc]
      exact h.started hp hkind hl' handle

theorem wp_unsubscribeFromResource (h : Following args past s) :
    Wp (fun _ _ => True) (unsubscribeFromResource href) (fun _ => Following args)
      (past ++ [⟨(s, .recv), some (.unsubscribeFromResource href)⟩]) s := by
  refine wp_get_bind ?_
  cases hp : s.establishedPolls.get? href with
  | some p =>
    exact wp_modify_bind (wp_ask fun answer => ⟨trivial, h.cancelled hp answer rfl⟩)
  | none =>
    refine wp_pure (h.relabel rfl fun hheld => ?_)
    rw [hp] at hheld ⊢
    obtain ⟨rfl, rfl⟩ := hheld.of_none
    exact .absent

end Commands

/-! ## The runs of the task -/

section Runs

variable {past l log : List (Moment R)} {s t : Loop R} {r : Except Exit Unit}

theorem isSteady_of_attempt {e : Moment R}
    (h : e.question.2.isConnecting = true ∨ e.question.2.isDelivering = true) : IsSteady e := by
  obtain ⟨⟨s, q⟩, answer⟩ := e
  cases q with
  | recv => obtain h | h := h <;> cases h
  | startPoll => obtain h | h := h <;> cases h
  | updatePollRate => obtain h | h := h <;> cases h
  | cancel => obtain h | h := h <;> cases h
  | _ => exact ⟨fun _ => rfl, rfl, rfl⟩

/-- An attempt has nothing to do with polls. -/
theorem keeps_attempt : Keeps Loop.establishedPolls
    (fun q : Query R => q.isConnecting = true ∨ q.isDelivering = true) (attempt args) := by
  refine keeps_bind (keeps_modify fun _ => rfl) fun _ => keeps_bind ?_ fun found =>
    keeps_bind ?_ fun _ => keeps_modify fun _ => rfl
  · exact (keeps_connect args).weaken Loop.establishedPolls (fun _ => rfl) fun _ => .inl
  · exact (keeps_deliver args _ _).weaken Loop.establishedPolls (fun _ => rfl) fun _ => .inr

variable [DecidableEq R.DERCapability]

theorem Following.turn (h : Following args past s) (hturn : Turn args s l r t) :
    Following args (past ++ l) t := by
  have hrecv {command : Command R} (hcommand : command.isSubscription = false) :
      IsSteady (⟨(s, .recv), some command⟩ : Moment R) := by
    cases command <;> first | exact ⟨fun _ => rfl, rfl, rfl⟩ | cases hcommand
  have hpolls {p : Task R Unit} {past : List (Moment R)} {l : List (Moment R)}
      {r : Except Exit Unit} {t : Loop R}
      (hp : Wp (fun _ _ => True) p (fun _ => Following args) past s)
      (hrun : Runs (p >>= fun _ => throw .again : Task R Unit) s l r t) :
      Following args (past ++ l) t := by
    have hwp : Wp (fun _ _ => True) (p >>= fun _ => throw .again : Task R Unit)
        (fun _ => Following args) past s :=
      wp_bind hp (fun _ _ _ h => wp_throw h) fun _ _ _ h => h
    exact (hwp l r t hrun).2
  cases hturn with
  | closed => exact h.steady (List.forall_mem_singleton.2 ⟨fun _ => rfl, rfl, rfl⟩) rfl
  | subscribes hrun =>
    rw [List.append_cons]
    exact hpolls (wp_subscribeToResource _ _ h) hrun
  | unsubscribes hrun =>
    rw [List.append_cons]
    exact hpolls (wp_unsubscribeFromResource h) hrun
  | @waits command hcommand _ =>
    exact h.steady (List.forall_mem_singleton.2 (hrecv hcommand)) (establishedPolls_take s command)
  | @attempts command l r t hattempts hrun =>
    obtain ⟨hl, ht⟩ := keeps_attempt _ l r t hrun
    refine h.steady (List.forall_mem_cons.2 ⟨hrecv hattempts.1, fun e he => ?_⟩) ?_
    · exact isSteady_of_attempt (hl e he).2
    · exact ht.trans (establishedPolls_take s command)

/-- **The live polls** are those of the links that are held. -/
theorem polls_of_log (hrun : Iterates (iteration args) goesOn {} log t)
    (hfresh : (log.filterMap started?).Nodup) (href : String) :
    (polling log).of href = ((heldBy log href).bind (pollFor args href)).toList := by
  have hfollowing : Following args log t := by
    refine (hrun.always (S := fun _ _ => True) (I := Following args) (fun _ => ?_)
      fun past s h l r t hrun => ?_).2
    · exact ⟨List.Sublist.slnil, fun _ => .absent⟩
    · exact ⟨always_iff.2 fun _ _ _ _ => trivial,
        Following.turn (s := s.beginTurn) h (turn_of_runs hrun)⟩
  have hlive : (polling log).of href =
      ((polling log).live.filter fun e => e.2.href = href).map Prod.snd := by
    rw [Polling.of, List.filter_map]
    rfl
  rw [hlive]
  have hheld := (hfollowing hfresh).2 href
  generalize heldBy log href = held, t.establishedPolls.get? href = p,
    ((polling log).live.filter fun e => e.2.href = href) = live at hheld ⊢
  cases hheld with
  | absent => rfl
  | polled hpoll => rw [Option.bind_some, hpoll]; rfl

end Runs

/-! ## The links -/

section Links

variable {maps : List ResourceLinks} {href : String}

/-- The change that an event becomes. -/
def forwarded? (R : Reports) (now : Int) (event : Event) : Option (String × Option ResourceLink) :=
  (sep2SubscriptionAndNotificationDispatcher (R := R) now event).bind change?

/-- The difference of the links is what the connection task is told. -/
theorem forwarded_resourceLinkEvents (now : Int) (prior post : ResourceLinks) :
    (Sep2Model.resourceLinkEvents prior post).filterMap (forwarded? R now) =
      changes prior post := by
  have hremoved (es : List (String × ResourceLink)) :
      (es.map fun e => Event.linkRemoved e.1 e.2.kind).filterMap (forwarded? R now) =
        es.map fun e => (e.1, none) := by
    rw [List.filterMap_map, ← List.filterMap_eq_map]
    rfl
  have hchanged (es : List (String × ResourceLink)) :
      (es.map fun e => Event.linkAddedOrUpdated e.1 e.2.kind e.2.pollRate).filterMap
          (forwarded? R now) = es.map fun e => (e.1, some e.2) := by
    rw [List.filterMap_map, ← List.filterMap_eq_map]
    rfl
  rw [Sep2Model.resourceLinkEvents, List.filterMap_append, hremoved, hchanged]
  rfl

theorem linkFeed_concat (prior : ResourceLinks) (maps : List ResourceLinks)
    (links : ResourceLinks) : linkFeed prior (maps ++ [links]) =
      linkFeed prior maps ++ Sep2Model.resourceLinkEvents (maps.getLastD prior) links := by
  induction maps generalizing prior with
  | nil => exact List.append_nil _
  | cons first maps ih =>
    rw [List.cons_append, linkFeed, linkFeed, ih, List.append_assoc, List.getLastD_cons]

theorem lastLinks_concat (maps : List ResourceLinks) (links : ResourceLinks) :
    lastLinks (maps ++ [links]) = links := List.getLastD_concat ..

theorem begunAs_concat (href : String) (maps : List ResourceLinks) (links : ResourceLinks) :
    begunAs href (maps ++ [links]) = links[href]?.bind fun link =>
      begunAs href maps <|> if (pollOf link.kind).isSome = true then some link.kind else none := by
  rw [begunAs, List.foldl_append]
  rfl

/-- A link of a kind that can be polled is polled, as some kind. -/
theorem isSome_begunAs (maps : List ResourceLinks) (href : String)
    (h : (polledKind (lastLinks maps) href).isSome = true) :
    (begunAs href maps).isSome = true := by
  rcases List.eq_nil_or_concat' maps with rfl | ⟨maps, links, rfl⟩
  · exact absurd h (by simp [lastLinks, polledKind])
  · rw [begunAs_concat]
    rw [lastLinks_concat, polledKind] at h
    cases hlink : links[href]? with
    | none => rw [hlink] at h; cases h
    | some link =>
      rw [hlink] at h
      rw [Option.bind_some] at h ⊢
      cases begunAs href maps with
      | none => exact h
      | some kind => rfl

/-- A link that is absent is not polled. -/
theorem begunAs_eq_none (h : (lastLinks maps)[href]? = none) : begunAs href maps = none := by
  rcases List.eq_nil_or_concat' maps with rfl | ⟨maps, links, rfl⟩
  · rfl
  · rw [lastLinks_concat] at h
    rw [begunAs_concat, h]
    rfl

/-- The links held after the feed: each link that began to be polled, with its latest rate. -/
theorem held_linkFeed (now : Int) (maps : List ResourceLinks) (href : String) :
    followAll sticks (fun _ => none) ((linkFeed ∅ maps).filterMap (forwarded? R now)) href =
      (begunAs href maps).map fun kind => ⟨kind, (lastLinks maps)[href]?.bind (·.pollRate)⟩ := by
  induction maps using List.reverseRecOn with
  | nil => rfl
  | append_singleton maps links ih =>
    rw [linkFeed_concat, List.filterMap_append, followAll_append, forwarded_resourceLinkEvents,
      followAll_changes sticks_sticks, ih, begunAs_concat, lastLinks_concat]
    show (if (lastLinks maps)[href]? = links[href]? then _ else _) = _
    have hbegun := isSome_begunAs maps href
    rw [polledKind] at hbegun
    by_cases hsame : (lastLinks maps)[href]? = links[href]?
    · -- nothing is announced, and nothing begins
      rw [if_pos hsame]
      rw [hsame] at hbegun
      cases hlink : links[href]? with
      | none => rw [begunAs_eq_none (hsame.trans hlink)]; rfl
      | some link =>
        rw [hlink, Option.bind_some] at hbegun
        rw [hsame, hlink, Option.bind_some]
        cases hbegan : begunAs href maps with
        | some kind => rfl
        | none =>
          by_cases hkind : (pollOf link.kind).isSome = true
          · rw [hbegan, if_pos hkind] at hbegun
            cases hbegun rfl
          · simp [hkind]
    · rw [if_neg hsame]
      cases hlink : links[href]? with
      | none => cases begunAs href maps <;> rfl
      | some link =>
        cases begunAs href maps with
        | some kind => rfl
        | none => by_cases hkind : (pollOf link.kind).isSome = true <;> simp [sticks, hkind]

/-- The kind that is polled as a resource. -/
def kindOf : Resource → Option ResourceKind
  | .time => some .time
  | .endDeviceList => some .endDeviceList
  | .functionSetAssignmentsList => some .functionSetAssignmentsList
  | .derProgramList => some .derProgramList
  | .derControlList => some .derControlList
  | .defaultDerControl => some .defaultDerControl
  | .derCurveList => some .derCurveList
  | .derList => some .derList
  | .mirrorUsagePointList => some .mirrorUsagePointList
  | .deviceCapability | .endDevice | .registration => none

theorem kindOf_pollOf {kind : ResourceKind}
    {poll : (resource : Resource) × (resource.Body → Sep2ResourceEvent)}
    (h : pollOf kind = some poll) : kindOf poll.1 = some kind := by
  cases kind <;> cases h <;> rfl

theorem isSome_pollOf_of_begunAs {kind : ResourceKind} (h : begunAs href maps = some kind) :
    (pollOf kind).isSome = true := by
  induction maps using List.reverseRecOn with
  | nil => cases h
  | append_singleton maps links ih =>
    rw [begunAs_concat] at h
    obtain ⟨link, -, h⟩ := Option.bind_eq_some_iff.1 h
    cases hbegun : begunAs href maps with
    | some kind' =>
      rw [hbegun] at h
      cases h
      exact ih hbegun
    | none =>
      rw [hbegun] at h
      by_cases hkind : (pollOf link.kind).isSome = true
      · rw [if_pos hkind] at h
        cases h
        exact hkind
      · rw [if_neg hkind] at h
        cases h

/-- The polls of a link are those it asks for exactly when they began under its kind. -/
theorem polls_eq_iff (maps : List ResourceLinks) (href : String) :
    (((begunAs href maps).map fun kind =>
        (⟨kind, (lastLinks maps)[href]?.bind (·.pollRate)⟩ : ResourceLink)).bind
      (pollFor args href)).toList = ((lastLinks maps)[href]?.bind (pollFor args href)).toList ↔
      begunAs href maps = polledKind (lastLinks maps) href := by
  have hbegun := isSome_begunAs maps href
  rw [polledKind] at hbegun ⊢
  cases hlink : (lastLinks maps)[href]? with
  | none =>
    rw [begunAs_eq_none hlink]
    exact iff_of_true rfl rfl
  | some link =>
    rw [hlink] at hbegun
    rw [Option.bind_some, Option.bind_some, Option.bind_some] at *
    cases hbegan : begunAs href maps with
    | none =>
      rw [hbegan] at hbegun
      have hkind : ¬ (pollOf link.kind).isSome = true := fun hkind => by
        rw [if_pos hkind] at hbegun
        cases hbegun rfl
      rw [if_neg hkind, pollFor, Option.not_isSome_iff_eq_none.1 hkind]
      exact iff_of_true rfl rfl
    | some kind =>
      obtain ⟨poll, hpoll⟩ := Option.isSome_iff_exists.1 (isSome_pollOf_of_begunAs hbegan)
      rw [Option.map_some, Option.bind_some, pollFor, hpoll, pollFor]
      constructor
      · intro h
        cases hkind : pollOf link.kind with
        | none => rw [hkind] at h; cases h
        | some poll' =>
          rw [hkind] at h
          have hresource : poll.1 = poll'.1 := congrArg (fun polls => polls.map Poll.resource) h
            |> List.cons.inj |>.1
          have hkinds := (kindOf_pollOf hpoll).symm.trans (hresource ▸ kindOf_pollOf hkind)
          rw [Option.isSome_some, if_pos rfl]
          exact hkinds
      · intro h
        by_cases hkind : (pollOf link.kind).isSome = true
        · rw [if_pos hkind] at h
          obtain rfl := Option.some.inj h
          rw [hpoll]
        · rw [if_neg hkind] at h
          cases h

end Links

/-! ## The law -/

section Law

variable [DecidableEq R.DERCapability]

/-- The task has gone through whole turns. -/
def Turns (args : Args) (log : List (Moment R)) (t : Loop R) : Prop :=
  Iterates (iteration args) goesOn {} log t

/-- **What is polled.** In a run that is told of the differences of the links, from none, the live
polls are those of the last links exactly when each link has the kind its poll began with. -/
theorem polls_match_iff {log : List (Moment R)} {t : Loop R} {maps : List ResourceLinks} {now : Int}
    (hrun : Turns args log t) (hfresh : (log.filterMap started?).Nodup)
    (hfeed : log.filterMap receivedChange? = (linkFeed ∅ maps).filterMap (forwarded? R now)) :
    PollsFor args log (lastLinks maps) ↔
      ∀ href, begunAs href maps = polledKind (lastLinks maps) href := by
  refine forall_congr' fun href => ?_
  rw [polls_of_log hrun hfresh, heldBy, hfeed, held_linkFeed]
  exact polls_eq_iff maps href

end Law

section KindChange

/-- A link of each of these kinds at one href, in turn. -/
def kindsAt (href : String) (kinds : List ResourceKind) : List ResourceLinks :=
  kinds.map fun kind => (∅ : ResourceLinks).insert href ⟨kind, none⟩

/-- The commands of the feed. -/
def feedCommands (maps : List ResourceLinks) : List (Command NoReports) :=
  (linkFeed ∅ maps).filterMap (sep2SubscriptionAndNotificationDispatcher 0)

/-- A run with a property that can be checked on `n` turns. -/
theorem exists_run_of_turns
    (env : List (Moment NoReports) → (m : Loop NoReports × Query NoReports) → m.2.Answer)
    (n : Nat) {P : List (Moment NoReports) → Prop} [DecidablePred P]
    (h : (execTurns env (iteration ourArgs) goesOn {} n).any (fun out => decide (P out.1)) = true) :
    ∃ (log : List (Moment NoReports)) (t : Loop NoReports), Turns ourArgs log t ∧ P log := by
  obtain ⟨⟨log, t⟩, hturns, hP⟩ := (Option.any_eq_true _ _).1 h
  exact ⟨log, t, iterates_execTurns hturns, of_decide_eq_true hP⟩

/-- The first link gets another rate, and the second goes and comes back as another kind. -/
def threeMaps : List ResourceLinks :=
  let links (rate : Option UInt32) : ResourceLinks := (∅ : ResourceLinks).insert "/a" ⟨.time, rate⟩
  [(links none).insert "/b" ⟨.endDeviceList, some 60⟩, links (some 30),
    (links (some 30)).insert "/b" ⟨.derProgramList, none⟩]

theorem begunAs_threeMaps (href : String) :
    begunAs href threeMaps = polledKind (lastLinks threeMaps) href := by
  simp only [begunAs, polledKind, lastLinks, threeMaps, List.foldl_cons, List.foldl_nil,
    List.getLastD_cons, List.getLastD_nil, Std.ExtTreeMap.getElem?_insert,
    Std.LawfulEqCmp.compare_eq_iff_eq]
  split_ifs with hb ha
  · exact absurd (hb.trans ha.symm) (by decide)
  all_goals rfl

/-- Three maps, told of after a wake command. -/
theorem polls_match_three : ∃ (log : List (Moment NoReports)) (t : Loop NoReports),
    Turns ourArgs log t ∧ (polling log).of "/a" = [⟨"/a", .time, "/a", 30⟩] ∧
      (polling log).of "/b" = [⟨"/b", .derProgramList, "/b?l=30", 300⟩] ∧
      PollsFor ourArgs log (lastLinks threeMaps) := by
  obtain ⟨log, t, hrun, hfresh, hfeed, htime, hprograms⟩ :
      ∃ (log : List (Moment NoReports)) (t : Loop NoReports), Turns ourArgs log t ∧
        (log.filterMap started?).Nodup ∧ log.filterMap receivedChange? =
          (linkFeed ∅ threeMaps).filterMap (forwarded? NoReports 0) ∧
        (polling log).of "/a" = [⟨"/a", .time, "/a", 30⟩] ∧
        (polling log).of "/b" = [⟨"/b", .derProgramList, "/b?l=30", 300⟩] := by
    refine exists_run_of_turns (scripted (.wake :: feedCommands threeMaps)) 6 ?_
    decide +kernel
  exact ⟨log, t, hrun, htime, hprograms,
    (polls_match_iff hrun hfresh hfeed).2 begunAs_threeMaps⟩

/-- A link that comes with another kind is still polled as the first. -/
theorem poll_keeps_its_kind :
    ¬ ∀ (log : List (Moment NoReports)) (t : Loop NoReports) (maps : List ResourceLinks),
      Turns ourArgs log t → (log.filterMap started?).Nodup →
        log.filterMap receivedChange? = (linkFeed ∅ maps).filterMap (forwarded? NoReports 0) →
          PollsFor ourArgs log (lastLinks maps) := by
  obtain ⟨log, t, hrun, hfresh, hfeed, hpoll⟩ :
      ∃ (log : List (Moment NoReports)) (t : Loop NoReports), Turns ourArgs log t ∧
        (log.filterMap started?).Nodup ∧ log.filterMap receivedChange? =
          (linkFeed ∅ (kindsAt "/a" [.time, .defaultDerControl])).filterMap
            (forwarded? NoReports 0) ∧
        (polling log).of "/a" = [⟨"/a", .time, "/a", 300⟩] := by
    refine exists_run_of_turns
      (scripted (feedCommands (kindsAt "/a" [.time, .defaultDerControl]))) 2 ?_
    decide +kernel
  intro h
  have hmatch := h log t _ hrun hfresh hfeed "/a"
  rw [hpoll] at hmatch
  revert hmatch
  decide +kernel

end KindChange

end Sep2Bridge.Connection
