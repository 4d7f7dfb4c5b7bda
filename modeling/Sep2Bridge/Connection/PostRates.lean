import Sep2Bridge.Connection.Turn
import Sep2Bridge.Lib.Reporting

/-!
# What is reported, and how often

Settings, status, capabilities and meter readings are four streams of values. `Stream.Traces`
follows a log with what happened to a stream, so that its local variables can be read off the
trace at every moment: the value to be sent, when the last success was, and the post rate. What
the server has accepted is a success, and it is recorded before anything else happens.

`reports_paced` is the law of all four, in every run, with the pause that follows an attempt that
ends early.
-/

namespace Sep2Bridge.Connection

open Lib Proc Reporting

variable {R : Reports} {args : Args}

/-! ## Streams -/

/-- One kind of report. -/
structure Stream (R : Reports) where
  Value : Type
  /-- The post rate until one is received. -/
  initialRate : Nat
  /-- What a command means for the stream. -/
  heard : List (Occurrence Value) → Command R → List (Occurrence Value)
  /-- The value that is to be sent. -/
  held : List (Occurrence Value) → Option Value
  /-- The value in a document that is PUT. -/
  document? : Document R → Option Value
  /-- After these moments the server has accepted the value. -/
  delivered : List (Moment R) → Value → Prop
  /-- The value takes a request to send. -/
  requests : Value → Prop := fun _ => True
  /-- The value to be sent, the last success and the post rate. -/
  view : Loop R → Option Value × Option Nat × Nat

/-- The document of a PUT that succeeded. -/
def accepted? : Moment R → Option (Document R)
  | ⟨(_, .put _ document), .ok _⟩ => some document
  | _ => none

/-- The last moment is a PUT that succeeded, of a certain kind. -/
def lastAccepted? {V : Type} (document? : Document R → Option V) (past : List (Moment R)) :
    Option V :=
  (past.getLast?.bind accepted?).bind document?

section Documents

def settings? : Document R → Option R.DERSettings
  | .derSettings settings => some settings
  | _ => none

def status? : Document R → Option R.DERStatus
  | .derStatus status => some status
  | _ => none

def capabilities? : Document R → Option R.DERCapability
  | .derCapability capabilities => some capabilities
  | _ => none

end Documents

abbrev settings : Stream R where
  Value := R.DERSettings
  initialRate := postRateGeneric
  heard _
    | .sendDeviceSettings settings => [.received settings]
    | .updatePostRates postRates => [.rate (toDuration postRates.der)]
    | .resetConnection => [.reset]
    | _ => []
  held := pending
  document? := settings?
  delivered past settings := lastAccepted? settings? past = some settings
  view s := (s.latestDeviceSettings, s.lastSentDeviceSettings, s.postRateDer)

abbrev status : Stream R where
  Value := R.DERStatus
  initialRate := postRateGeneric
  heard _
    | .sendDeviceStatus status => [.received status]
    | .updatePostRates postRates => [.rate (toDuration postRates.der)]
    | .resetConnection => [.reset]
    | _ => []
  held := pending
  document? := status?
  delivered past status := lastAccepted? status? past = some status
  view s := (s.latestDeviceStatus, s.lastSentDeviceStatus, s.postRateDer)

/-- Capabilities are sent again after a change, as after a reset, and kept when they are sent. -/
abbrev capabilities [DecidableEq R.DERCapability] : Stream R where
  Value := R.DERCapability
  initialRate := postRateCapabilities
  heard trace
    | .sendDeviceCapability capabilities =>
      if some capabilities = latest trace then [] else [.reset, .received capabilities]
    | .resetConnection => [.reset]
    | _ => []
  held := latest
  document? := capabilities?
  delivered past capabilities := lastAccepted? capabilities? past = some capabilities
  view s := (s.deviceCapabilities, s.lastSentDeviceCapabilities, postRateCapabilities)

/-- The readings the server has accepted at a moment. -/
def acceptedReadings : Moment R → List MirrorMeterReading
  | ⟨(_, .post _ (.mirrorMeterReading reading)), .ok _⟩ => [reading]
  | ⟨(_, .post _ (.mirrorUsagePoint mup)), .ok (.created (some _))⟩ => mup.mirrorMeterReading
  | _ => []

/-- The readings accepted since the last command. -/
def batch (past : List (Moment R)) : List MirrorMeterReading :=
  past.foldl (fun readings e =>
    if e.question.2.isRecv = true then [] else readings ++ acceptedReadings e) []

/-- A reading without the identifier it is sent under. -/
def unnamed (reading : MirrorMeterReading) : MirrorMeterReading := { reading with mrid := 0 }

/-- The readings that have a key, as they are sent. -/
def sendable (readings : List MirrorMeterReading) : List MirrorMeterReading :=
  (readings.filter fun reading => (readingKey reading).isSome).map unnamed

/-- A batch of readings is a success when all that have a key are accepted, in order. -/
abbrev readings : Stream R where
  Value := List MirrorMeterReading
  initialRate := postRateGeneric
  heard _
    | .sendMeterReadings readings => [.received readings]
    | .updatePostRates postRates => [.rate (toDuration postRates.mirrorUsagePoint)]
    | .resetConnection => [.reset]
    | _ => []
  held := pending
  document? _ := none
  delivered past readings := (batch past).map unnamed = sendable readings
  requests readings := sendable readings ≠ []
  view s := (s.latestMeterReadings, s.lastSentMeterReadings, s.postRateMup)

/-- The four streams. -/
def streams (R : Reports) [DecidableEq R.DERCapability] : List (Stream R) :=
  [settings, status, capabilities, readings]

/-- The answer of the clock. -/
def instant? : Moment R → Option Nat
  | ⟨(_, .instantNow), now⟩ => some now
  | _ => none

/-- The clock does not go back. -/
def Clock (log : List (Moment R)) : Prop := (log.filterMap instant?).Pairwise (· ≤ ·)

namespace Stream

variable (k : Stream R)

/-- The local variables are what the trace says. -/
def Agrees (trace : List (Occurrence k.Value)) (s : Loop R) : Prop :=
  k.view s = (k.held trace, lastSent trace, postRate k.initialRate trace)

/-- The document that is PUT at a moment. -/
def put? : Moment R → Option k.Value
  | ⟨(_, .put _ document), _⟩ => k.document? document
  | _ => none

/-- No success is left to be recorded: the server has not accepted the value to be sent. -/
def Settled (past : List (Moment R)) (trace : List (Occurrence k.Value)) : Prop :=
  ∀ v, k.held trace = some v → k.requests v → ¬ k.delivered past v

/-- The trace of a stream in a log. The local variables agree with it at every moment, what is PUT
is the value to be sent, and a success is recorded at once: where the server has accepted the value
to be sent, the next moment is the clock reading of `sends`. -/
inductive Traces : List (Moment R) → List (Occurrence k.Value) → Prop
  | start : Traces [] []
  | hears {past : List (Moment R)} {trace : List (Occurrence k.Value)} {s : Loop R}
      {command : Command R} : Traces past trace → k.Agrees trace s → k.Settled past trace →
      Traces (past ++ [⟨(s, .recv), some command⟩]) (trace ++ k.heard trace command)
  | sends {past : List (Moment R)} {trace : List (Occurrence k.Value)} {s : Loop R} {v : k.Value}
      {start now : Nat} : Traces past trace → k.Agrees trace s → k.delivered past v →
      start = now ∨ start ∈ past.filterMap instant? →
      Traces (past ++ [⟨(s, .instantNow), now⟩]) (trace ++ [.sent v start now])
  | other {past : List (Moment R)} {trace : List (Occurrence k.Value)} {e : Moment R} :
      Traces past trace → k.Agrees trace e.question.1 → received? e = none →
      k.Settled past trace → (∀ v ∈ k.put? e, k.held trace = some v) → Traces (past ++ [e]) trace

/-- The trace, up to this moment, of a stream that keeps its law. -/
def HasTrace (past : List (Moment R)) (e : Moment R) : Prop :=
  ∃ trace, k.Traces (past ++ [e]) trace ∧ Always (Paced k.initialRate) [] trace

/-- The stream has a trace that keeps its law, and the task goes on as it says. -/
def Tracked (past : List (Moment R)) (s : Loop R) : Prop :=
  ∃ trace, k.Traces past trace ∧ Always (Paced k.initialRate) [] trace ∧ k.Agrees trace s ∧
    k.Settled past trace

variable {k}

/-! ## The trace of a log -/

/-- A trace is ordered as the clock is. -/
theorem Traces.ordered {log : List (Moment R)} {trace : List (Occurrence k.Value)}
    (h : k.Traces log trace) (hclock : Clock log)
    (hheard : ∀ trace command, ∀ e ∈ k.heard trace command, e.isSent = false) :
    ∀ v start finish, .sent v start finish ∈ trace → start ≤ finish := by
  induction h with
  | start => simp
  | @hears past trace s command _ _ _ ih =>
    have hpast : Clock past := hclock.sublist ((List.sublist_append_left _ _).filterMap _)
    intro v start finish hmem
    rcases List.mem_append.1 hmem with hmem | hmem
    · exact ih hpast v start finish hmem
    · cases hheard trace command _ hmem
  | @sends past trace s v start now _ _ _ hstart ih =>
    have hpast : Clock past := hclock.sublist ((List.sublist_append_left _ _).filterMap _)
    intro v' start' finish' hmem
    rcases List.mem_append.1 hmem with hmem | hmem
    · exact ih hpast v' start' finish' hmem
    · cases List.mem_singleton.1 hmem
      rcases hstart with rfl | hstart
      · exact Nat.le_refl _
      · unfold Clock at hclock
        rw [List.filterMap_append] at hclock
        exact (List.pairwise_append.1 hclock).2.2 _ hstart _ (by simp [instant?])
  | other _ _ _ _ _ ih =>
    exact ih (hclock.sublist ((List.sublist_append_left _ _).filterMap _))

theorem lastAccepted?_concat {V : Type} (document? : Document R → Option V)
    (past : List (Moment R)) (e : Moment R) :
    lastAccepted? document? (past ++ [e]) = (accepted? e).bind document? := by
  rw [lastAccepted?, List.getLast?_concat]
  rfl

theorem batch_concat (past : List (Moment R)) (e : Moment R) :
    batch (past ++ [e]) =
      if e.question.2.isRecv = true then [] else batch past ++ acceptedReadings e := by
  rw [batch, List.foldl_append]
  rfl

/-- Neither a receive nor a report of the stream. -/
def IsOther (k : Stream R) (q : Query R) : Prop :=
  q.isRecv = false ∧ ∀ href document, q = .put href document → k.document? document = none

/-- Neither a receive, nor a report of the stream, nor readings. -/
def IsIdle (k : Stream R) (q : Query R) : Prop :=
  k.IsOther q ∧ ∀ href document, q = .post href document → ∃ edev, document = .endDevice edev

/-- Whatever the answer, the question brings the server no value of the stream. -/
def IsQuiet (k : Stream R) (q : Query R) : Prop :=
  ∀ past s answer v, k.requests v → k.delivered (past ++ [⟨(s, q), answer⟩]) v → k.delivered past v

/-- Only its own reports and readings bring the server a value of the stream, and those before a
command do not count after it. -/
structure Delivers (k : Stream R) : Prop where
  idle {q : Query R} : k.IsIdle q → k.IsQuiet q
  anew past s answer v : k.requests v → ¬ k.delivered (past ++ [⟨(s, .recv), answer⟩]) v

/-- The stream is one of documents that are PUT. -/
def IsPut (k : Stream R) : Prop :=
  ∀ past v, k.delivered past v ↔ lastAccepted? k.document? past = some v

theorem received?_of_isOther {e : Moment R} (h : k.IsOther e.question.2) : received? e = none := by
  obtain ⟨⟨s, q⟩, answer⟩ := e
  cases q with
  | recv => cases h.1
  | _ => rfl

theorem put?_of_isOther {e : Moment R} (h : k.IsOther e.question.2) : k.put? e = none := by
  obtain ⟨⟨s, q⟩, answer⟩ := e
  cases q with
  | put href document => exact h.2 href document rfl
  | _ => rfl

theorem accepted?_of_isOther {e : Moment R} (h : k.IsOther e.question.2) :
    (accepted? e).bind k.document? = none := by
  obtain ⟨⟨s, q⟩, answer⟩ := e
  cases q with
  | put href document =>
    cases answer with
    | error err => rfl
    | ok response => exact h.2 href document rfl
  | _ => rfl

theorem IsPut.not_delivered {past : List (Moment R)} {e : Moment R} (hk : k.IsPut)
    (he : (accepted? e).bind k.document? = none) (v : k.Value) :
    ¬ k.delivered (past ++ [e]) v := fun h => by
  rw [hk, lastAccepted?_concat, he] at h
  cases h

theorem IsPut.isQuiet (hk : k.IsPut) {q : Query R} (h : k.IsOther q) : k.IsQuiet q :=
  fun _ _ _ v _ hdelivered => absurd hdelivered (hk.not_delivered (accepted?_of_isOther h) v)

theorem IsPut.delivers (hk : k.IsPut) : k.Delivers where
  idle h := hk.isQuiet h.1
  anew _ _ _ v _ := hk.not_delivered rfl v

/-- A moment of no interest to the stream. -/
theorem Tracked.other {past : List (Moment R)} {s : Loop R} {e : Moment R}
    (h : k.Tracked past s) (hview : k.view e.question.1 = k.view s)
    (hq : k.IsOther e.question.2) (hquiet : k.IsQuiet e.question.2) :
    k.HasTrace past e ∧ k.Tracked (past ++ [e]) s := by
  obtain ⟨trace, htrace, hpaced, hagrees, hsettled⟩ := h
  have htrace' : k.Traces (past ++ [e]) trace :=
    htrace.other (hview.trans hagrees) (received?_of_isOther hq) hsettled
      (by simp [put?_of_isOther hq])
  exact ⟨⟨trace, htrace', hpaced⟩, trace, htrace', hpaced, hagrees,
    fun v hv hrequests hdelivered =>
      hsettled v hv hrequests (hquiet past _ _ v hrequests hdelivered)⟩

theorem Tracked.congr {past : List (Moment R)} {s t : Loop R} (h : k.Tracked past s)
    (hview : k.view t = k.view s) : k.Tracked past t := by
  obtain ⟨trace, htrace, hpaced, hagrees, hsettled⟩ := h
  exact ⟨trace, htrace, hpaced, hview.trans hagrees, hsettled⟩

/-- In an attempt that has come to no readings yet. -/
def Attempting (k : Stream R) (past : List (Moment R)) (s : Loop R) : Prop :=
  k.Tracked past s ∧ batch past = []

theorem batch_concat_of_isIdle {past : List (Moment R)} {e : Moment R} (h : batch past = [])
    (he : ∀ href document, e.question.2 = .post href document →
      ∃ edev, document = .endDevice edev) :
    batch (past ++ [e]) = [] := by
  rw [batch_concat, h]
  obtain ⟨⟨s, q⟩, answer⟩ := e
  cases q with
  | post href document =>
    obtain ⟨edev, rfl⟩ := he href document rfl
    rfl
  | _ => rfl

section Parts

variable {past : List (Moment R)} {s : Loop R} {α : Type}

/-- What `Tracked` says of the local variables of the stream. -/
def TrackedAt (k : Stream R) (past : List (Moment R)) (view : Option k.Value × Option Nat × Nat) :
    Prop :=
  ∃ trace, k.Traces past trace ∧ Always (Paced k.initialRate) [] trace ∧
    view = (k.held trace, lastSent trace, postRate k.initialRate trace) ∧ k.Settled past trace

/-- A part that does not concern the stream. -/
theorem wp_other {P : Query R → Prop} {p : Task R α} (hp : Keeps k.view P p)
    (hP : ∀ q, P q → k.IsOther q ∧ k.IsQuiet q) (h : k.Tracked past s) :
    Wp k.HasTrace p (fun _ => k.Tracked) past s :=
  hp.wp (I := k.TrackedAt) h fun _ _ h hview he =>
    Tracked.other (s := s) h hview (hP _ he).1 (hP _ he).2

/-- A part that concerns neither the stream nor the readings. -/
theorem wp_idle (hk : k.Delivers) {p : Task R α} (hp : Keeps k.view k.IsIdle p)
    (h : k.Attempting past s) : Wp k.HasTrace p (fun _ => k.Attempting) past s :=
  hp.wp (I := fun past view => k.TrackedAt past view ∧ batch past = []) h
    fun _ _ h hview he => by
      obtain ⟨htrace, htracked⟩ := Tracked.other (s := s) h.1 hview he.1 (hk.idle he)
      exact ⟨htrace, htracked, batch_concat_of_isIdle h.2 he.2⟩

theorem isIdle_instantNow : k.IsIdle .instantNow := by
  refine ⟨⟨rfl, ?_⟩, ?_⟩ <;> intro href document h <;> cases h

/-- A report is due only when the clock says so. -/
theorem wp_isDue (hk : k.Delivers) (lastSent : Option Nat) (postRate : Nat)
    (h : k.Attempting past s) :
    Wp k.HasTrace (isDue lastSent postRate) (fun r past' s' => s' = s ∧ k.Attempting past' s ∧
      (r = .ok true → ∀ last ∈ lastSent, ∃ start ∈ past'.filterMap instant?,
        postRate < start - last)) past s := by
  cases lastSent with
  | none =>
    refine wp_pure ⟨rfl, h, fun _ last hlast => ?_⟩
    cases hlast
  | some last =>
    refine wp_ask_bind fun now => ?_
    obtain ⟨htrace, htracked⟩ := h.1.other (e := ⟨(s, .instantNow), now⟩) rfl isIdle_instantNow.1
      (hk.idle isIdle_instantNow)
    refine ⟨htrace, wp_pure ⟨rfl, ⟨htracked, ?_⟩, fun hdue last' hlast => ?_⟩⟩
    · exact batch_concat_of_isIdle h.2 (isIdle_instantNow (k := k)).2
    · cases hlast
      refine ⟨now, ?_, of_decide_eq_true (Except.ok.inj hdue)⟩
      rw [List.filterMap_append]
      exact List.mem_append_right _ (List.mem_singleton.2 rfl)

/-- A success, when the clock is read after it. -/
theorem sends (now : Nat) {trace : List (Occurrence k.Value)} {v : k.Value}
    (htrace : k.Traces past trace) (hpaced : Always (Paced k.initialRate) [] trace)
    (hagrees : k.Agrees trace s) (hdelivered : k.delivered past v) (hlatest : latest trace = some v)
    (hdue : ∀ last ∈ lastSent trace, ∃ start ∈ past.filterMap instant?,
      postRate k.initialRate trace < start - last) :
    ∃ start, k.Traces (past ++ [⟨(s, .instantNow), now⟩]) (trace ++ [.sent v start now]) ∧
      Always (Paced k.initialRate) [] (trace ++ [.sent v start now]) := by
  cases hlast : lastSent trace with
  | none =>
    refine ⟨now, htrace.sends hagrees hdelivered (.inl rfl), always_append.2 ⟨hpaced, ?_, trivial⟩⟩
    refine ⟨hlatest, fun last h => ?_⟩
    rw [List.nil_append, hlast] at h
    cases h
  | some last =>
    obtain ⟨start, hstart, hgap⟩ := hdue last hlast
    refine ⟨start, htrace.sends hagrees hdelivered (.inr hstart),
      always_append.2 ⟨hpaced, ?_, trivial⟩⟩
    refine ⟨hlatest, fun last' h => ?_⟩
    rw [List.nil_append, hlast] at h
    cases h
    exact hgap

/-- The part of a stream that is PUT. -/
theorem wp_sendReport {document : k.Value → Document R} {sent : Nat → Loop R → Loop R}
    (hdocument : ∀ v, k.document? (document v) = some v) (hk : k.IsPut)
    (hlatest : ∀ trace v, k.held trace = some v → latest trace = some v)
    (hsent : ∀ trace s v start now, k.Agrees trace s →
      k.Agrees (trace ++ [.sent v start now]) (sent now s))
    (link : Option Link) (h : k.Attempting past s) :
    Wp k.HasTrace (sendReport (k.view s).2.1 (k.view s).2.2 ((k.view s).1.map document) link sent)
      (fun _ => k.Attempting) past s := by
  refine wp_bind (wp_isDue hk.delivers _ _ h) (fun due past' s' h' => ?_)
    fun _ _ _ h' => h'.1 ▸ h'.2.1
  obtain ⟨rfl, ⟨⟨trace, htrace, hpaced, hagrees, hsettled⟩, hbatch⟩, hdue⟩ := h'
  have hstays : k.Attempting past' s' := ⟨⟨trace, htrace, hpaced, hagrees, hsettled⟩, hbatch⟩
  refine wp_ite (fun hdue' => ?_) fun _ => wp_pure hstays
  rw [hagrees] at hdue ⊢
  cases hheld : k.held trace with
  | none => exact wp_pure hstays
  | some v =>
    cases link with
    | none => exact wp_pure hstays
    | some link =>
      refine wp_ask_bind fun response => ?_
      have hput : k.Traces (past' ++ [⟨(s', .put link.href (document v)), response⟩]) trace := by
        refine htrace.other hagrees rfl hsettled fun v' hv' => ?_
        have hv : some v = some v' := (hdocument v).symm.trans hv'
        rw [hheld, hv]
      have hbatch' := batch_concat_of_isIdle
        (e := ⟨(s', .put link.href (document v)), response⟩) hbatch (by intro _ _ h; cases h)
      refine ⟨⟨trace, hput, hpaced⟩, ?_⟩
      cases response with
      | error err =>
        exact wp_throw
          ⟨⟨trace, hput, hpaced, hagrees, fun v _ _ => hk.not_delivered rfl v⟩, hbatch'⟩
      | ok response =>
        refine wp_ask_bind fun now => ?_
        have haccepted : k.delivered
            (past' ++ [⟨(s', .put link.href (document v)), .ok response⟩]) v := by
          rw [hk, lastAccepted?_concat]
          exact hdocument v
        obtain ⟨start, hsends, hpaced'⟩ := sends now hput hpaced hagrees haccepted
          (hlatest trace v hheld) fun last hlast' => by
            obtain ⟨start, hstart, hgap⟩ := hdue (by rw [hdue']) last hlast'
            exact ⟨start, by rw [List.filterMap_append]; exact List.mem_append_left _ hstart, hgap⟩
        refine ⟨⟨_, hsends, hpaced'⟩, wp_modify ⟨⟨_, hsends, hpaced', ?_, ?_⟩, ?_⟩⟩
        · exact hsent trace s' v start now hagrees
        · exact fun v _ _ => hk.not_delivered rfl v
        · exact batch_concat_of_isIdle hbatch' (isIdle_instantNow (k := k)).2

end Parts

/-! ## The other parts -/

theorem isIdle_of {q : Query R} (h : q.isPolling = true ∨ q.isConnecting = true ∨
    q.isResponding = true ∨ q.isDer = true) : k.IsIdle q := by
  cases q with
  | recv => obtain h | h | h | h := h <;> cases h
  | put href document => obtain h | h | h | h := h <;> cases h
  | post href document =>
    cases document with
    | endDevice edev =>
      refine ⟨⟨rfl, fun _ _ h => by cases h⟩, fun href document h => ?_⟩
      cases h
      exact ⟨edev, rfl⟩
    | _ => obtain h | h | h | h := h <;> cases h
  | _ => exact ⟨⟨rfl, fun _ _ h => by cases h⟩, fun _ _ h => by cases h⟩

theorem isIdle_put {href : String} {document : Document R} (h : k.document? document = none) :
    k.IsIdle (.put href document) := by
  refine ⟨⟨rfl, fun href' document' heq => ?_⟩, fun _ _ heq => by cases heq⟩
  cases heq
  exact h

theorem isIdle_of_isSettings (hother : ∀ v, k.document? (.derSettings v) = none) {q : Query R}
    (h : q.isSettings = true) : k.IsIdle q := by
  cases q with
  | put href document =>
    cases document with
    | derSettings settings => exact isIdle_put (hother settings)
    | _ => cases h
  | instantNow => exact isIdle_instantNow
  | _ => cases h

theorem isIdle_of_isStatus (hother : ∀ v, k.document? (.derStatus v) = none) {q : Query R}
    (h : q.isStatus = true) : k.IsIdle q := by
  cases q with
  | put href document =>
    cases document with
    | derStatus status => exact isIdle_put (hother status)
    | _ => cases h
  | instantNow => exact isIdle_instantNow
  | _ => cases h

theorem isIdle_of_isCapability (hother : ∀ v, k.document? (.derCapability v) = none)
    {q : Query R} (h : q.isCapability = true) : k.IsIdle q := by
  cases q with
  | put href document =>
    cases document with
    | derCapability capabilities => exact isIdle_put (hother capabilities)
    | _ => cases h
  | instantNow => exact isIdle_instantNow
  | _ => cases h

theorem isOther_of_isMetering {q : Query R} (h : q.isMetering = true) : k.IsOther q := by
  cases q with
  | recv => cases h
  | put href document => cases h
  | _ => exact ⟨rfl, fun _ _ h => by cases h⟩

variable [DecidableEq R.DERCapability]

/-- The stream has local variables of its own, which follow the commands. -/
structure Separate (k : Stream R) : Prop extends k.Delivers where
  polls s : k.view s = k.view s.exceptPolls
  connection s : k.view s = k.view s.exceptConnection
  queue s : k.view s = k.view s.exceptQueue
  der s : k.view s = k.view s.exceptDer
  beginTurn s : k.view s.beginTurn = k.view s
  beginAttempt s : k.view s.beginAttempt = k.view s
  endAttempt s : k.view s.endAttempt = k.view s
  hears trace s command : k.Agrees trace s →
    k.Agrees (trace ++ k.heard trace command) (s.take command)
  unsent trace command : ∀ e ∈ k.heard trace command, e.isSent = false

section Separate

variable {past : List (Moment R)} {s : Loop R}

theorem Separate.recv (hk : k.Separate) (answer : Option (Command R)) (h : k.Tracked past s) :
    k.HasTrace past ⟨(s, .recv), answer⟩ ∧
      k.Tracked (past ++ [⟨(s, .recv), answer⟩]) (s.hear answer) := by
  obtain ⟨trace, htrace, hpaced, hagrees, hsettled⟩ := h
  have hsettled' (trace : List (Occurrence k.Value)) :
      k.Settled (past ++ [⟨(s, .recv), answer⟩]) trace := fun v _ => hk.anew past s answer v
  cases answer with
  | none =>
    have htrace' := htrace.other (e := ⟨(s, .recv), none⟩) hagrees rfl hsettled
      (fun _ h => by cases h)
    exact ⟨⟨trace, htrace', hpaced⟩, trace, htrace', hpaced, hagrees, hsettled' trace⟩
  | some command =>
    have htrace' : k.Traces (past ++ [⟨(s, .recv), some command⟩])
        (trace ++ k.heard trace command) := htrace.hears hagrees hsettled
    have hpaced' : Always (Paced k.initialRate) [] (trace ++ k.heard trace command) :=
      always_append.2 ⟨hpaced, always_paced (hk.unsent trace command)⟩
    exact ⟨⟨_, htrace', hpaced'⟩, _, htrace', hpaced', hk.hears trace s command hagrees,
      hsettled' _⟩

/-- What is left to show of a stream: its own part of an attempt, and the three others. -/
theorem Separate.parts (hk : k.Separate)
    (hsettings : ∀ past s der, k.Attempting past s →
      Wp k.HasTrace (sendDeviceSettings der) (fun _ => k.Attempting) past s)
    (hstatus : ∀ past s der, k.Attempting past s →
      Wp k.HasTrace (sendDeviceStatus der) (fun _ => k.Attempting) past s)
    (hcapabilities : ∀ past s der, k.Attempting past s →
      Wp k.HasTrace (sendDeviceCapabilities der) (fun _ => k.Attempting) past s)
    (hreadings : ∀ past s dcap, k.Attempting past s →
      Wp k.HasTrace (sendLatestMeterReadings args dcap) (fun _ => k.Tracked) past s) :
    Parts args k.HasTrace k.Tracked k.Attempting where
  beginTurn h := h.congr (hk.beginTurn _)
  recv answer h := hk.recv answer h
  polls hp h := wp_other (hp.weaken k.view hk.polls fun _ hq => isIdle_of (.inl hq))
    (fun _ hq => ⟨hq.1, hk.idle hq⟩) h
  beginAttempt h _ := ⟨(hk.recv (some _) h).2.congr (hk.beginAttempt _), by rw [batch_concat]; rfl⟩
  connect h := wp_idle hk.toDelivers ((keeps_connect args).weaken k.view hk.connection fun _ hq =>
    isIdle_of (.inr (.inl hq))) h
  responses h := wp_idle hk.toDelivers ((keeps_sendControlResponses args _).weaken k.view hk.queue
    fun _ hq => isIdle_of (.inr (.inr (.inl hq)))) h
  der serverDevice h := wp_idle hk.toDelivers ((keeps_ensureDer args serverDevice).weaken k.view
    hk.der fun _ hq => isIdle_of (.inr (.inr (.inr hq)))) h
  settings der h := hsettings _ _ der h
  status der h := hstatus _ _ der h
  capabilities der h := hcapabilities _ _ der h
  readings dcap h := hreadings _ _ dcap h
  leave h := h.1
  endAttempt h := h.congr (hk.endAttempt _)

end Separate

section Others

variable {past : List (Moment R)} {s : Loop R}

omit [DecidableEq R.DERCapability] in
theorem wp_settings (hk : k.Delivers) (hview : ∀ s, k.view s = k.view s.exceptSettings)
    (hother : ∀ v, k.document? (.derSettings v) = none) (der : DER) (h : k.Attempting past s) :
    Wp k.HasTrace (sendDeviceSettings der) (fun _ => k.Attempting) past s :=
  wp_idle hk ((keeps_sendDeviceSettings der).weaken k.view hview fun _ hq =>
    isIdle_of_isSettings hother hq) h

omit [DecidableEq R.DERCapability] in
theorem wp_status (hk : k.Delivers) (hview : ∀ s, k.view s = k.view s.exceptStatus)
    (hother : ∀ v, k.document? (.derStatus v) = none) (der : DER) (h : k.Attempting past s) :
    Wp k.HasTrace (sendDeviceStatus der) (fun _ => k.Attempting) past s :=
  wp_idle hk ((keeps_sendDeviceStatus der).weaken k.view hview fun _ hq =>
    isIdle_of_isStatus hother hq) h

omit [DecidableEq R.DERCapability] in
theorem wp_capabilities (hk : k.Delivers)
    (hview : ∀ s, k.view s = k.view s.exceptSentCapabilities)
    (hother : ∀ v, k.document? (.derCapability v) = none) (der : DER) (h : k.Attempting past s) :
    Wp k.HasTrace (sendDeviceCapabilities der) (fun _ => k.Attempting) past s :=
  wp_idle hk ((keeps_sendDeviceCapabilities der).weaken k.view hview fun _ hq =>
    isIdle_of_isCapability hother hq) h

omit [DecidableEq R.DERCapability] in
theorem wp_readings (hk : k.IsPut) (hview : ∀ s, k.view s = k.view s.exceptMeter)
    (dcap : DeviceCapability) (h : k.Attempting past s) :
    Wp k.HasTrace (sendLatestMeterReadings args dcap) (fun _ => k.Tracked) past s :=
  wp_other ((keeps_sendLatestMeterReadings args dcap).weaken k.view hview fun _ => id)
    (fun _ hq => ⟨isOther_of_isMetering hq, hk.isQuiet (isOther_of_isMetering hq)⟩) h.1

end Others

end Stream

/-! ## Settings, status and capabilities -/

section Put

variable [DecidableEq R.DERCapability]

omit [DecidableEq R.DERCapability] in
theorem isPut_settings : (settings (R := R)).IsPut := fun _ _ => Iff.rfl

theorem separate_settings : (settings (R := R)).Separate where
  toDelivers := isPut_settings.delivers
  polls _ := rfl
  connection _ := rfl
  queue _ := rfl
  der _ := rfl
  beginTurn _ := rfl
  beginAttempt _ := rfl
  endAttempt _ := rfl
  hears := by
    intro (trace : List (Occurrence R.DERSettings)) s command h
    simp only [Stream.Agrees, settings, Prod.mk.injEq] at h ⊢
    cases command with
    | sendDeviceCapability capabilities =>
      simp only [Loop.take]
      split_ifs <;> simp [h]
    | _ => simp [Loop.take, Loop.resetConnection, h]
  unsent trace command := by
    cases command <;> simp [settings, Occurrence.isSent]

theorem parts_settings :
    Parts args settings.HasTrace (settings (R := R)).Tracked settings.Attempting := by
  have hk := isPut_settings (R := R)
  refine separate_settings.parts (fun past s der h => wp_get_bind ?_)
    (fun past s => Stream.wp_status hk.delivers (fun _ => rfl) fun _ => rfl)
    (fun past s => Stream.wp_capabilities hk.delivers (fun _ => rfl) fun _ => rfl)
    fun past s => Stream.wp_readings hk fun _ => rfl
  refine Stream.wp_sendReport (k := settings) (fun _ => rfl) hk
    (fun _ _ => latest_of_pending) ?_ der.derSettingsLink h
  intro (trace : List (Occurrence R.DERSettings)) s v start now h
  simp only [Stream.Agrees, settings, Prod.mk.injEq] at h ⊢
  simp [h]

omit [DecidableEq R.DERCapability] in
theorem isPut_status : (status (R := R)).IsPut := fun _ _ => Iff.rfl

theorem separate_status : (status (R := R)).Separate where
  toDelivers := isPut_status.delivers
  polls _ := rfl
  connection _ := rfl
  queue _ := rfl
  der _ := rfl
  beginTurn _ := rfl
  beginAttempt _ := rfl
  endAttempt _ := rfl
  hears := by
    intro (trace : List (Occurrence R.DERStatus)) s command h
    simp only [Stream.Agrees, status, Prod.mk.injEq] at h ⊢
    cases command with
    | sendDeviceCapability capabilities =>
      simp only [Loop.take]
      split_ifs <;> simp [h]
    | _ => simp [Loop.take, Loop.resetConnection, h]
  unsent trace command := by
    cases command <;> simp [status, Occurrence.isSent]

theorem parts_status :
    Parts args status.HasTrace (status (R := R)).Tracked status.Attempting := by
  have hk := isPut_status (R := R)
  refine separate_status.parts
    (fun past s => Stream.wp_settings hk.delivers (fun _ => rfl) fun _ => rfl)
    (fun past s der h => wp_get_bind ?_)
    (fun past s => Stream.wp_capabilities hk.delivers (fun _ => rfl) fun _ => rfl)
    fun past s => Stream.wp_readings hk fun _ => rfl
  refine Stream.wp_sendReport (k := status) (fun _ => rfl) hk
    (fun _ _ => latest_of_pending) ?_ der.derStatusLink h
  intro (trace : List (Occurrence R.DERStatus)) s v start now h
  simp only [Stream.Agrees, status, Prod.mk.injEq] at h ⊢
  simp [h]

theorem isPut_capabilities : (capabilities (R := R)).IsPut := fun _ _ => Iff.rfl

theorem separate_capabilities : (capabilities (R := R)).Separate where
  toDelivers := isPut_capabilities.delivers
  polls _ := rfl
  connection _ := rfl
  queue _ := rfl
  der _ := rfl
  beginTurn _ := rfl
  beginAttempt _ := rfl
  endAttempt _ := rfl
  hears := by
    intro (trace : List (Occurrence R.DERCapability)) s command h
    simp only [Stream.Agrees, capabilities, Prod.mk.injEq] at h ⊢
    obtain ⟨hvalue, hlast, hrate⟩ := h
    cases command with
    | sendDeviceCapability value =>
      simp only [Loop.take]
      rw [hvalue]
      by_cases hchange : some value = latest trace
      · simp [hchange, hvalue, hlast, ← hrate]
      · rw [if_neg hchange, if_pos hchange, List.append_cons]
        simp only [latest_received, lastSent_received, lastSent_reset, postRate_received,
          postRate_reset, ← hrate, and_self]
    | _ => simp [Loop.take, Loop.resetConnection, hvalue, hlast, ← hrate]
  unsent trace command := by
    cases command with
    | sendDeviceCapability value =>
      dsimp only [capabilities]
      split_ifs <;> simp [Occurrence.isSent]
    | _ => simp [capabilities, Occurrence.isSent]

theorem parts_capabilities :
    Parts args capabilities.HasTrace (capabilities (R := R)).Tracked capabilities.Attempting := by
  have hk := isPut_capabilities (R := R)
  refine separate_capabilities.parts
    (fun past s => Stream.wp_settings hk.delivers (fun _ => rfl) fun _ => rfl)
    (fun past s => Stream.wp_status hk.delivers (fun _ => rfl) fun _ => rfl)
    (fun past s der h => wp_get_bind ?_)
    fun past s => Stream.wp_readings hk fun _ => rfl
  refine Stream.wp_sendReport (k := capabilities) (fun _ => rfl) hk
    (fun _ _ => id) ?_ der.derCapabilityLink h
  intro (trace : List (Occurrence R.DERCapability)) s v start now h
  simp only [Stream.Agrees, capabilities, Prod.mk.injEq] at h ⊢
  simp [h.1, ← h.2.2]

end Put

/-! ## Meter readings -/

section Readings

variable {past : List (Moment R)} {s : Loop R}
  {view : Option (List MirrorMeterReading) × Option Nat × Nat} {starts : List Nat}
  {b : List MirrorMeterReading}

/-- A batch is being sent, and so far `b` was accepted. The clock was read at `starts`. -/
def Sending (view : Option (List MirrorMeterReading) × Option Nat × Nat) (starts : List Nat)
    (b : List MirrorMeterReading) (past : List (Moment R)) (s : Loop R) : Prop :=
  (∃ trace, readings.Traces past trace ∧ Always (Paced postRateGeneric) [] trace ∧
    readings.Agrees trace s) ∧ readings.view s = view ∧ (batch past).map unnamed = b ∧
    starts ⊆ past.filterMap instant?

/-- With `b` accepted, some of the readings that are to be sent are left. -/
def Unfinished (view : Option (List MirrorMeterReading) × Option Nat × Nat)
    (b : List MirrorMeterReading) : Prop :=
  ∀ readings, view.1 = some readings → sendable readings ≠ [] → b ≠ sendable readings

theorem Unfinished.settled {trace : List (Occurrence (List MirrorMeterReading))}
    (h : Unfinished (readings.view s) b) (hagrees : (readings (R := R)).Agrees trace s)
    (hbatch : (batch past).map unnamed = b) : (readings (R := R)).Settled past trace := by
  intro latest hlatest hrequests hdelivered
  exact h latest ((congrArg Prod.fst hagrees).trans hlatest) hrequests
    (hbatch.symm.trans hdelivered)

theorem Sending.tracked (h : Sending view starts b past s) (hopen : Unfinished view b) :
    readings.Tracked past s := by
  obtain ⟨⟨trace, htrace, hpaced, hagrees⟩, rfl, hbatch, -⟩ := h
  exact ⟨trace, htrace, hpaced, hagrees, hopen.settled hagrees hbatch⟩

theorem Sending.metering {q : Query R} (h : Sending view starts b past s)
    (hopen : Unfinished view b) (hq : q.isMetering = true) (answer : q.Answer) :
    readings.HasTrace past ⟨(s, q), answer⟩ ∧
      Sending view starts (b ++ (acceptedReadings ⟨(s, q), answer⟩).map unnamed)
        (past ++ [⟨(s, q), answer⟩]) s := by
  obtain ⟨⟨trace, htrace, hpaced, hagrees⟩, rfl, hbatch, hstarts⟩ := h
  have hother : (readings (R := R)).IsOther q := Stream.isOther_of_isMetering hq
  have hput := Stream.put?_of_isOther (e := ⟨(s, q), answer⟩) hother
  have htrace' : readings.Traces (past ++ [⟨(s, q), answer⟩]) trace :=
    htrace.other hagrees (Stream.received?_of_isOther hother) (hopen.settled hagrees hbatch)
      (by simp [hput])
  refine ⟨⟨trace, htrace', hpaced⟩, ⟨trace, htrace', hpaced, hagrees⟩, rfl, ?_, ?_⟩
  · rw [Stream.batch_concat, if_neg (by simp [hother.1]), List.map_append, hbatch]
  · rw [List.filterMap_append]
    exact List.subset_append_of_subset_left _ hstarts

/-- A question about the readings by which none is accepted. -/
theorem Sending.asks {q : Query R} (h : Sending view starts b past s) (hopen : Unfinished view b)
    (hq : q.isMetering = true) (answer : q.Answer)
    (hnone : acceptedReadings ⟨(s, q), answer⟩ = []) :
    readings.HasTrace past ⟨(s, q), answer⟩ ∧
      Sending view starts b (past ++ [⟨(s, q), answer⟩]) s := by
  obtain ⟨htrace, hsending⟩ := h.metering hopen hq answer
  rw [hnone, List.map_nil, List.append_nil] at hsending
  exact ⟨htrace, hsending⟩

theorem Sending.congr {t : Loop R} (h : Sending view starts b past s)
    (hview : readings.view t = readings.view s) : Sending view starts b past t := by
  obtain ⟨⟨trace, htrace, hpaced, hagrees⟩, hs, hrest⟩ := h
  exact ⟨⟨trace, htrace, hpaced, hview.trans hagrees⟩, hview.trans hs, hrest⟩

/-- With `b` accepted before it, one reading was sent. -/
def SentOne (view : Option (List MirrorMeterReading) × Option Nat × Nat) (starts : List Nat)
    (b : List MirrorMeterReading) (reading : MirrorMeterReading) (accepted : Bool)
    (past : List (Moment R)) (s : Loop R) : Prop :=
  Sending view starts (bif accepted then b ++ [unnamed reading] else b) past s

/-- A `MirrorUsagePoint` that has the reading. -/
def hasMup : Except Exit (Option String) → Bool
  | .ok (some _) => true
  | _ => false

/-- No retry is required. -/
def isDone : Except Exit Bool → Bool
  | .ok false => true
  | _ => false

theorem wp_lookupMup (muplHref : String) (h : Sending view starts b past s)
    (hopen : Unfinished view b) :
    Wp readings.HasTrace (lookupMup args muplHref) (fun _ => Sending view starts b) past s := by
  refine wp_ask_bind fun response => ?_
  obtain ⟨htrace, hsending⟩ := h.asks hopen (q := .get .mirrorUsagePointList _) rfl response rfl
  refine ⟨htrace, ?_⟩
  cases response <;> exact wp_pure hsending

theorem wp_fillCache (dcap : DeviceCapability) (h : Sending view starts b past s)
    (hopen : Unfinished view b) :
    Wp readings.HasTrace (fillCache args dcap) (fun _ => Sending view starts b) past s := by
  refine wp_get_bind (wp_ite (fun _ => ?_) fun _ => wp_pure h)
  have hcache : Wp readings.HasTrace (initialiseReadingMridCache args dcap)
      (fun _ => Sending view starts b) past s := by
    unfold initialiseReadingMridCache
    cases dcap.mirrorUsagePointListLink with
    | none => exact wp_pure h
    | some link =>
      refine wp_bind (wp_lookupMup link.href h hopen) (fun mup past s h => ?_) fun _ _ _ h => h
      cases mup <;> exact wp_pure h
  exact wp_bind hcache (fun cache past s h => wp_modify (h.congr rfl)) fun _ _ _ h => h

theorem wp_cachedMrid_sending (key : CacheKey) (h : Sending view starts b past s)
    (hopen : Unfinished view b) :
    Wp readings.HasTrace (cachedMrid key) (fun _ => Sending view starts b) past s := by
  refine wp_get_bind ?_
  cases s.readingMridCache.get? key with
  | some mrid => exact wp_pure h
  | none =>
    refine wp_ask_bind fun mrid => ?_
    obtain ⟨htrace, hsending⟩ := h.asks hopen (q := .mridGen) rfl mrid rfl
    exact ⟨htrace, wp_modify_bind (wp_pure (hsending.congr rfl))⟩

theorem wp_registerMup_sending (muplHref : String) (reading : MirrorMeterReading)
    (h : Sending view starts b past s) (hopen : Unfinished view b) :
    Wp readings.HasTrace (registerMup args muplHref reading)
      (fun r => SentOne view starts b reading (hasMup r)) past s := by
  refine wp_ask_bind fun mrid => ?_
  obtain ⟨htrace, h⟩ := h.asks hopen (q := .mridGen) rfl mrid rfl
  refine ⟨htrace, wp_ask_bind fun response => ?_⟩
  have hpost := h.metering hopen (q := .post muplHref (.mirrorUsagePoint _)) rfl response
  refine ⟨hpost.1, ?_⟩
  rcases response with err | (_ | location) | _
  · exact wp_pure (h.asks hopen rfl _ rfl).2
  · exact wp_pure (h.asks hopen rfl _ rfl).2
  · exact wp_pure hpost.2
  · exact wp_pure (h.asks hopen rfl _ rfl).2

theorem wp_ensureMup_sending (muplHref : String) (reading : MirrorMeterReading)
    (h : Sending view starts b past s) (hopen : Unfinished view b) :
    Wp readings.HasTrace (ensureMup args muplHref reading)
      (fun r => SentOne view starts b reading (hasMup r)) past s := by
  refine wp_bind (wp_lookupMup muplHref h hopen) (fun found past s h => ?_) fun _ _ _ h => h
  cases found with
  | none => exact wp_registerMup_sending muplHref reading h hopen
  | some mup =>
    dsimp only
    cases mup.href with
    | none => exact wp_pure h
    | some href =>
      refine wp_ask_bind fun response => ?_
      have hpost := h.metering hopen (q := .post href (.mirrorMeterReading reading)) rfl response
      refine ⟨hpost.1, ?_⟩
      cases response with
      | error err => exact wp_pure (h.asks hopen rfl _ rfl).2
      | ok response => exact wp_pure hpost.2

/-- A reading that needs no retry was accepted. -/
theorem wp_sendReading_sending (dcap : DeviceCapability) (reading : MirrorMeterReading)
    (h : Sending view starts b past s) (hopen : Unfinished view b) :
    Wp readings.HasTrace (sendReading args dcap reading)
      (fun r => SentOne view starts b reading (isDone r)) past s := by
  refine wp_get_bind ?_
  cases s.mirrorUsagePoint with
  | some mup =>
    refine wp_ask_bind fun response => ?_
    have hpost := h.metering hopen (q := .post mup (.mirrorMeterReading reading)) rfl response
    refine ⟨hpost.1, ?_⟩
    cases response with
    | error err => exact wp_pure (h.asks hopen rfl _ rfl).2
    | ok response => exact wp_pure hpost.2
  | none =>
    cases dcap.mirrorUsagePointListLink with
    | none => exact wp_pure h
    | some link =>
      refine wp_bind (wp_ensureMup_sending link.href reading h hopen) (fun mup past s h => ?_)
        fun _ _ _ h => h
      refine wp_modify_bind (wp_pure ?_)
      cases mup with
      | none => exact Sending.congr h rfl
      | some href => exact Sending.congr h rfl

theorem sendable_cons (reading : MirrorMeterReading) (readings : List MirrorMeterReading) :
    sendable (reading :: readings) =
      if (readingKey reading).isSome = true then unnamed reading :: sendable readings
      else sendable readings := by
  unfold sendable
  rw [List.filter_cons]
  split_ifs <;> rfl

/-- Readings that need no retry were accepted in order, but for those without a key. Where one
needs a retry, some are left. -/
theorem wp_sendReadings_sending (dcap : DeviceCapability) (rest : List MirrorMeterReading)
    (h : Sending view starts b past s)
    (hrest : ∀ latest, view.1 = some latest → b ++ sendable rest = sendable latest) :
    Wp readings.HasTrace (sendReadings args dcap rest) (fun r past t =>
      ∃ b', Sending view starts b' past t ∧ (r = .ok false → b' = b ++ sendable rest) ∧
        (r ≠ .ok false → Unfinished view b')) past s := by
  induction rest generalizing past s b with
  | nil => exact wp_pure ⟨b, h, fun _ => (List.append_nil b).symm, fun hr => absurd rfl hr⟩
  | cons reading rest ih =>
    unfold sendReadings
    rw [sendable_cons] at hrest ⊢
    cases hkey : readingKey reading with
    | none =>
      simp only [hkey, Option.isSome_none, Bool.false_eq_true, if_false] at hrest
      exact ih h hrest
    | some key =>
      simp only [hkey, Option.isSome_some, if_true] at hrest
      have hopen : Unfinished view b := fun latest hlatest _ heq => by
        have hall := hrest latest hlatest
        rw [← heq] at hall
        exact List.cons_ne_nil _ _ (List.append_right_eq_self.1 hall)
      -- this one was not accepted
      have hleft {r : Except Exit Bool} {past : List (Moment R)} {s : Loop R} (hr : r ≠ .ok false)
          (h : Sending view starts b past s) : ∃ b', Sending view starts b' past s ∧
            (r = .ok false → b' = b ++ unnamed reading :: sendable rest) ∧
              (r ≠ .ok false → Unfinished view b') :=
        ⟨b, h, fun hdone => absurd hdone hr, fun _ => hopen⟩
      refine wp_bind (wp_cachedMrid_sending key h hopen) (fun mrid past s h => ?_)
        fun _ _ _ => hleft fun hr => by cases hr
      refine wp_bind (wp_sendReading_sending dcap _ h hopen) (fun retry past s h => ?_)
        fun _ _ _ => hleft fun hr => by cases hr
      cases retry with
      | true => exact wp_pure (hleft (fun hr => by cases hr) h)
      | false =>
        rw [List.append_cons] at hrest
        rw [Option.isSome_some, if_pos rfl, List.append_cons]
        exact ih h hrest

theorem delivers_readings : (readings (R := R)).Delivers where
  idle {q} hq past s answer v _ hdelivered := by
    refine Eq.trans (congrArg _ ?_) hdelivered
    have hnone : acceptedReadings ⟨(s, q), answer⟩ = [] := by
      cases q with
      | post href document =>
        obtain ⟨edev, rfl⟩ := hq.2 href document rfl
        rfl
      | _ => rfl
    rw [Stream.batch_concat, if_neg (by simp [hq.1.1]), hnone, List.append_nil]
  anew past s answer v hrequests hdelivered := by
    have hbatch : batch (past ++ [(⟨(s, .recv), answer⟩ : Moment R)]) = [] := by
      rw [Stream.batch_concat]
      rfl
    refine hrequests (hdelivered.symm.trans ?_)
    rw [hbatch]
    rfl

theorem separate_readings [DecidableEq R.DERCapability] : (readings (R := R)).Separate where
  toDelivers := delivers_readings
  polls _ := rfl
  connection _ := rfl
  queue _ := rfl
  der _ := rfl
  beginTurn _ := rfl
  beginAttempt _ := rfl
  endAttempt _ := rfl
  hears := by
    intro (trace : List (Occurrence (List MirrorMeterReading))) s command h
    simp only [Stream.Agrees, readings, Prod.mk.injEq] at h ⊢
    cases command with
    | sendDeviceCapability capabilities =>
      simp only [Loop.take]
      split_ifs <;> simp [h]
    | _ => simp [Loop.take, Loop.resetConnection, h]
  unsent trace command := by
    cases command <;> simp [readings, Occurrence.isSent]

/-- The latest readings are forgotten when all that have a key are accepted. -/
theorem wp_sendLatestMeterReadings_own (dcap : DeviceCapability)
    (h : readings.Attempting past s) :
    Wp readings.HasTrace (sendLatestMeterReadings args dcap) (fun _ => readings.Tracked)
      past s := by
  refine wp_get_bind ?_
  cases hlatest : s.latestMeterReadings with
  | none => exact wp_pure h.1
  | some latest =>
    refine wp_bind (Stream.wp_isDue delivers_readings s.lastSentMeterReadings s.postRateMup h)
      (fun due past₁ s' h => ?_) fun _ _ _ h => h.1 ▸ h.2.1.1
    obtain ⟨rfl, h, hdue⟩ := h
    refine wp_ite (fun hdue' => ?_) fun _ => wp_pure h.1
    obtain ⟨⟨trace, htrace, hpaced, hagrees, -⟩, hbatch⟩ := h
    have hsending : Sending (readings.view s') (past₁.filterMap instant?) [] past₁ s' :=
      ⟨⟨trace, htrace, hpaced, hagrees⟩, rfl, by rw [hbatch]; rfl, List.Subset.refl _⟩
    have hview : (readings.view s').1 = some latest := hlatest
    have hopen : Unfinished (readings.view s') [] := fun _ _ hrequests => hrequests.symm
    have hsend : Wp readings.HasTrace (sendMeterReadings args dcap latest) (fun r past t =>
        ∃ b, Sending (readings.view s') (past₁.filterMap instant?) b past t ∧
          (r = .ok false → b = sendable latest) ∧
          (r ≠ .ok false → Unfinished (readings.view s') b)) past₁ s' := by
      refine wp_bind (wp_fillCache dcap hsending hopen) (fun _ past s h => ?_)
        fun _ _ _ h => ⟨[], h, (fun hr => by cases hr), fun _ => hopen⟩
      exact wp_sendReadings_sending dcap latest h fun latest' h' => by
        rw [Option.some.inj (hview.symm.trans h'), List.nil_append]
    refine wp_bind hsend (fun retry past' t h => ?_)
      fun _ _ _ ⟨_, h, _, hopen⟩ => h.tracked (hopen fun hr => by cases hr)
    obtain ⟨b, hsending, haccepted, hopen⟩ := h
    refine wp_ite (fun hretry => wp_throw (hsending.tracked (hopen ?_))) fun hretry => ?_
    · rw [hretry]
      exact fun hr => by cases hr
    refine wp_ask_bind fun now => ?_
    obtain ⟨⟨trace, htrace, hpaced, hagrees⟩, hview', hbatch, hstarts⟩ := hsending
    have hs : (some latest, s'.lastSentMeterReadings, s'.postRateMup) =
        (pending trace, lastSent trace, postRate postRateGeneric trace) := by
      rw [← hlatest]
      exact hview'.symm.trans hagrees
    obtain ⟨hpending, hlastSent, hrate⟩ : some latest = pending trace ∧
        s'.lastSentMeterReadings = lastSent trace ∧
        s'.postRateMup = postRate postRateGeneric trace := by simpa using hs
    have hdelivered : readings.delivered past' latest := by
      rw [Bool.not_eq_true] at hretry
      show (batch past').map unnamed = sendable latest
      rw [hbatch, haccepted (by rw [hretry])]
    obtain ⟨start, hsends, hpaced'⟩ := Stream.sends (k := readings) now htrace hpaced
      hagrees hdelivered (latest_of_pending hpending.symm) fun last hlast => by
        obtain ⟨start, hstart, hgap⟩ := hdue (by rw [hdue']) last (hlastSent ▸ hlast)
        exact ⟨start, hstarts hstart, hrate ▸ hgap⟩
    refine ⟨⟨_, hsends, hpaced'⟩, wp_modify ⟨_, hsends, hpaced', ?_, ?_⟩⟩
    · have hrate' : t.postRateMup = postRate postRateGeneric trace :=
        congrArg (fun view => view.2.2) hagrees
      show (none, some now, t.postRateMup) = _
      rw [hrate']
      exact congrArg₂ Prod.mk (pending_sent trace latest start now).symm
        (congrArg₂ Prod.mk (lastSent_sent trace latest start now).symm
          (postRate_sent trace latest start now).symm)
    · intro v hv
      cases (pending_sent trace latest start now).symm.trans hv

theorem parts_readings [DecidableEq R.DERCapability] :
    Parts args readings.HasTrace (readings (R := R)).Tracked readings.Attempting :=
  separate_readings.parts
    (fun _ _ => Stream.wp_settings delivers_readings (fun _ => rfl) fun _ => rfl)
    (fun _ _ => Stream.wp_status delivers_readings (fun _ => rfl) fun _ => rfl)
    (fun _ _ => Stream.wp_capabilities delivers_readings (fun _ => rfl) fun _ => rfl)
    fun _ _ dcap h => wp_sendLatestMeterReadings_own dcap h

end Readings

/-! ## What an attempt that ends well leaves

Readings none of which has a key take no request. That they are forgotten too shows at the end of an
attempt. -/

section Left

variable {past l : List (Moment R)} {s t : Loop R}

/-- By a clock reading of `l` the last success is not more than the post rate ago. -/
def NotDue (lastSent : Option Nat) (postRate : Nat) (l : List (Moment R)) : Prop :=
  ∃ last, lastSent = some last ∧ ∃ now ∈ l.filterMap instant?, now - last ≤ postRate

/-- Readings are left only where they are not due. -/
def LeavesReadings (l : List (Moment R)) (t : Loop R) : Prop :=
  t.latestMeterReadings = none ∨ NotDue t.lastSentMeterReadings t.postRateMup l

/-- If it ends well, a part of an attempt leaves readings only where they are not due. -/
def Leaves (p : Task R Unit) : Prop :=
  ∀ past s, Wp (fun _ _ => True) p (fun r past t => r = .ok () → LeavesReadings past t) past s

/-- What comes first does not matter. -/
theorem leaves_bind {α : Type} {p : Task R α} {f : α → Task R Unit} (h : ∀ a, Leaves (f a)) :
    Leaves (p >>= f) := fun _ _ =>
  wp_bind wp_any (fun a past s _ => h a past s) fun _ _ _ _ hr => by cases hr

theorem leaves_throw (e : Exit) : Leaves (throw e : Task R Unit) := fun _ _ =>
  wp_throw fun hr => by cases hr

theorem Leaves.modify {p : Task R Unit} {f : Loop R → Loop R} (h : Leaves p)
    (hf : ∀ s, readings.view (f s) = readings.view s) : Leaves (p >>= fun _ => modify f) :=
  fun past s => by
    refine wp_bind (h past s) (fun _ past t ht => wp_modify fun _ => ?_) fun _ _ _ _ hr => by
      cases hr
    have hview := hf t
    simp only [Prod.mk.injEq] at hview
    obtain ⟨hlatest, hlast, hrate⟩ := hview
    show _ = none ∨ NotDue _ _ past
    rw [hlatest, hlast, hrate]
    exact ht rfl

theorem wp_isDue_left (lastSent : Option Nat) (postRate : Nat) :
    Wp (fun _ _ => True) (isDue lastSent postRate) (fun r past t => t = s ∧
      (r = .ok false → NotDue lastSent postRate past)) past s := by
  cases lastSent with
  | none => exact wp_pure ⟨rfl, fun hr => by cases hr⟩
  | some last =>
    refine wp_ask_bind fun now => ⟨trivial, wp_pure ⟨rfl, fun hr => ⟨last, rfl, now, ?_, ?_⟩⟩⟩
    · rw [List.filterMap_append]
      exact List.mem_append_right _ (List.mem_singleton.2 rfl)
    · exact Nat.le_of_not_lt (of_decide_eq_false (Except.ok.inj hr))

theorem leaves_sendLatestMeterReadings (dcap : DeviceCapability) :
    Leaves (sendLatestMeterReadings (R := R) args dcap) := by
  intro past s
  refine wp_get_bind ?_
  cases hlatest : s.latestMeterReadings with
  | none => exact wp_pure fun _ => .inl hlatest
  | some latest =>
    refine wp_bind (wp_isDue_left s.lastSentMeterReadings s.postRateMup) (fun due past t h => ?_)
      fun _ _ _ _ hr => by cases hr
    obtain ⟨rfl, hdue⟩ := h
    refine wp_ite (fun _ => leaves_bind (fun retry past s => ?_) past t) fun hnot =>
      wp_pure fun _ => .inr (hdue ?_)
    · refine wp_ite (fun _ => leaves_throw .again past s) fun _ => ?_
      exact wp_ask_bind fun now => ⟨trivial, wp_modify fun _ => .inl rfl⟩
    · rw [Bool.not_eq_true] at hnot
      rw [hnot]

/-- The readings come last. -/
theorem leaves_attempt : Leaves (attempt (R := R) args) := by
  refine leaves_bind fun _ => leaves_bind fun found => Leaves.modify ?_ fun _ => rfl
  refine leaves_bind fun s => leaves_bind fun retry past s => ?_
  refine wp_ite (fun _ => leaves_throw .again past s) fun _ => ?_
  refine leaves_bind (fun der => ?_) past s
  refine leaves_bind fun _ => leaves_bind fun _ => leaves_bind fun _ => ?_
  exact leaves_sendLatestMeterReadings found.1

theorem leavesReadings_of_attempt (hrun : Runs (attempt args) s l (.ok ()) t) :
    LeavesReadings l t :=
  (leaves_attempt [] s l _ t hrun).2 rfl

end Left

/-! ## The pause -/

/-- An attempt of a run has ended early, after the moments `past`, and left `t`. -/
def EndsEarly [DecidableEq R.DERCapability] (args : Args) (past : List (Moment R)) (t : Loop R) :
    Prop :=
  ∃ turns s command l, Iterates (iteration args) goesOn {} turns s ∧
    s.beginTurn.Attempts command ∧
    Runs (attempt args) (s.beginTurn.take command) l (.error .again) t ∧
    past = turns ++ ⟨(s.beginTurn, .recv), some command⟩ :: l

/-- An attempt of a run has ended well, with the moments `l`, and left `t`. -/
def EndsWell [DecidableEq R.DERCapability] (args : Args) (l : List (Moment R))
    (t : Loop R) : Prop :=
  ∃ turns s command, Iterates (iteration args) goesOn {} turns s ∧
    s.beginTurn.Attempts command ∧ Runs (attempt args) (s.beginTurn.take command) l (.ok ()) t

/-- No `Wake` and no `ResetConnection`. -/
def IsAsleep (e : Moment R) : Prop := ∀ received ∈ received? e, received.2.isWakeCommand = false

instance : DecidablePred (IsAsleep (R := R)) := fun e =>
  inferInstanceAs (Decidable (∀ received ∈ received? e, _ = false))

/-- As long as no wake command arrives, nothing is sent. -/
def Paused (past : List (Moment R)) (e : Moment R) : Prop :=
  (∀ e' ∈ past, IsAsleep e') → IsAsleep e → e.question.2.sendsReport = false

section Pause

variable {past l : List (Moment R)} {s t : Loop R} {r : Except Exit Unit}

/-- An attempt that ends early leaves a retry requested. -/
theorem retryRequested_of_attempt (hrun : Runs (attempt args) s l (.error .again) t) :
    t.retryRequested = true := by
  have hconnect := (keeps_connect (R := R) args).weaken Loop.retryRequested (fun _ => rfl)
    fun _ => id
  rcases runs_attempt hrun with ⟨e, -, h⟩ | ⟨l₁, l₂, found, u, -, h₁, hdeliver⟩
  · exact (hconnect _ _ _ _ h).2
  · have hu : u.retryRequested = true := (hconnect _ _ _ _ h₁).2
    have hkeeps := (keeps_deliver (R := R) args found.1 found.2).weaken Loop.retryRequested
      (fun _ => rfl) fun _ => id
    rcases hdeliver with ⟨e, -, h⟩ | ⟨v, hr, -⟩
    · exact (hkeeps _ _ _ _ h).2.trans hu
    · cases hr

theorem sendsReport_of_isPolling {q : Query R} (h : q.isPolling = true) :
    q.sendsReport = false := by
  cases q <;> first | rfl | cases h

theorem paused_turn [DecidableEq R.DERCapability]
    (h : (∀ e ∈ past, IsAsleep e) → s.retryRequested = true ∧ s.retryHandle = true)
    (hturn : Turn args s l r t) : Always Paused past l ∧
      ((∀ e ∈ past ++ l, IsAsleep e) → t.retryRequested = true) := by
  have hrecv (answer : (Query.recv : Query R).Answer) : Paused past ⟨(s, .recv), answer⟩ :=
    fun _ _ => rfl
  have hpast {l : List (Moment R)} (hasleep : ∀ e ∈ past ++ l, IsAsleep e) :=
    h fun e he => hasleep e (List.mem_append_left _ he)
  have hpolls {p : Task R Unit} (hp : Keeps Loop.exceptPolls (fun q => q.isPolling = true) p)
      {e : Moment R} {l : List (Moment R)} {r : Except Exit Unit} {t : Loop R}
      (hrun : Runs (p >>= fun _ => throw .again : Task R Unit) s l r t) :
      Always Paused (past ++ [e]) l ∧
        ((∀ e' ∈ past ++ e :: l, IsAsleep e') → t.retryRequested = true) := by
    have hkeeps : Keeps Loop.retryRequested (fun q : Query R => q.isPolling = true)
        (p >>= fun _ => throw .again : Task R Unit) :=
      keeps_bind (hp.weaken Loop.retryRequested (fun _ => rfl) fun _ => id) fun _ => keeps_throw _
    obtain ⟨hl, ht⟩ := hkeeps s l r t hrun
    refine ⟨always_of_forall hl fun _ _ _ he _ _ => sendsReport_of_isPolling he.2, ?_⟩
    exact fun hasleep => ht.trans (hpast hasleep).1
  cases hturn with
  | closed => exact ⟨⟨hrecv none, trivial⟩, fun hasleep => (hpast hasleep).1⟩
  | subscribes hrun =>
    obtain ⟨hl, ht⟩ := hpolls (keeps_subscribeToResource args _ _ _) hrun
    exact ⟨⟨hrecv _, hl⟩, ht⟩
  | unsubscribes hrun =>
    obtain ⟨hl, ht⟩ := hpolls (keeps_unsubscribeFromResource _) hrun
    exact ⟨⟨hrecv _, hl⟩, ht⟩
  | @waits command _ _ =>
    refine ⟨⟨hrecv _, trivial⟩, fun hasleep => ?_⟩
    rw [retryRequested_take]
    exact (hpast hasleep).1
  | @attempts command l r t hattempts hrun =>
    -- with a retry pending, only a wake command leads to an attempt
    have hwake (hpast : ∀ e ∈ past, IsAsleep e) :
        ¬ IsAsleep (⟨(s, .recv), some command⟩ : Moment R) := fun hasleep => by
      have hnot := hasleep (s, command) rfl
      rw [hattempts.2 (h hpast).2] at hnot
      cases hnot
    refine ⟨⟨hrecv _, always_iff.2 fun pre e post _ hasleep _ => ?_⟩, fun hasleep => ?_⟩
    · exact absurd (hasleep _ (by simp)) (hwake fun e he => hasleep e (by simp [he]))
    · exact absurd (hasleep _ (by simp)) (hwake fun e he => hasleep e (by simp [he]))

/-- **The pause.** After an attempt that ends early nothing is reported before the next wake
command. -/
theorem paused_of_endsEarly [DecidableEq R.DERCapability] {rest : List (Moment R)}
    (h : EndsEarly args past t) (hrest : LogFrom args t rest) (hasleep : ∀ e ∈ rest, IsAsleep e) :
    ∀ e ∈ rest, e.question.2.sendsReport = false := by
  obtain ⟨turns, s, command, l, -, -, hrun, -⟩ := h
  have hpaused : Always Paused [] rest := by
    refine hrest.always (I := fun past s => (∀ e ∈ past, IsAsleep e) → s.retryRequested = true)
      (fun _ => retryRequested_of_attempt hrun) fun past s l r t hI hturn => ?_
    exact paused_turn (s := s.beginTurn) (fun hpast => ⟨hI hpast, hI hpast⟩) hturn
  intro e he
  obtain ⟨pre, post, rfl⟩ := List.append_of_mem he
  exact always_iff.1 hpaused pre e post rfl (fun e' he' => hasleep e' (by simp at he'; simp [he']))
    (hasleep e he)

end Pause

/-! ## The runs of the task -/

variable [DecidableEq R.DERCapability]

/-- The law of one stream in a log. -/
def Stream.Reported (k : Stream R) (log : List (Moment R)) : Prop :=
  ∃ trace, k.Traces log trace ∧ Always (Paced k.initialRate) [] trace ∧
    (Clock log → Spaced k.initialRate trace)

omit [DecidableEq R.DERCapability] in
theorem Stream.tracked_start {k : Stream R} (hheld : k.held [] = none)
    (h : k.view {} = (none, none, k.initialRate)) : k.Tracked [] {} := by
  refine ⟨[], .start, trivial, ?_, fun v hv => ?_⟩
  · rw [Agrees, h, hheld]
    rfl
  · rw [hheld] at hv
    cases hv

omit [DecidableEq R.DERCapability] in
theorem Stream.reported_of_always {k : Stream R} {log : List (Moment R)}
    (hk : ∀ trace command, ∀ e ∈ k.heard trace command, e.isSent = false)
    (h : Always k.HasTrace [] log) : k.Reported log := by
  rcases List.eq_nil_or_concat' log with rfl | ⟨pre, e, rfl⟩
  · exact ⟨[], .start, trivial, fun _ => spaced trivial (by simp)⟩
  · obtain ⟨trace, htrace, hpaced⟩ := always_iff.1 h pre e [] rfl
    exact ⟨trace, htrace, hpaced, fun hclock => spaced hpaced (htrace.ordered hclock hk)⟩

/-- **What is reported.** In every run each stream keeps its law, nothing is reported between an
attempt that ends early and the next wake command, and an attempt that ends well leaves no readings
that are due. -/
theorem reports_paced {log : List (Moment R)} (h : Log args log) :
    (∀ k ∈ streams R, k.Reported log) ∧
      (∀ (past rest : List (Moment R)) (t : Loop R), EndsEarly args past t → LogFrom args t rest →
        (∀ e ∈ rest, IsAsleep e) → ∀ e ∈ rest, e.question.2.sendsReport = false) ∧
      ∀ (l : List (Moment R)) (t : Loop R), EndsWell args l t → LeavesReadings l t := by
  refine ⟨fun k hk => ?_, fun past rest t => paused_of_endsEarly, fun l t hwell => ?_⟩
  · simp only [streams, List.mem_cons, List.not_mem_nil, or_false] at hk
    rcases hk with rfl | rfl | rfl | rfl
    · exact Stream.reported_of_always separate_settings.unsent
        (parts_settings.log h (Stream.tracked_start rfl rfl))
    · exact Stream.reported_of_always separate_status.unsent
        (parts_status.log h (Stream.tracked_start rfl rfl))
    · exact Stream.reported_of_always separate_capabilities.unsent
        (parts_capabilities.log h (Stream.tracked_start rfl rfl))
    · exact Stream.reported_of_always separate_readings.unsent
        (parts_readings.log h (Stream.tracked_start rfl rfl))
  · obtain ⟨turns, s, command, -, -, hrun⟩ := hwell
    exact leavesReadings_of_attempt hrun

section Scripted

/-- The clock goes on by `pace` seconds with every moment, and the server keeps what is created. -/
def ticking (pace : Nat) (commands : List (Command NoReports)) (past : List (Moment NoReports)) :
    (m : Loop NoReports × Query NoReports) → m.2.Answer
  | (_, .instantNow) => secs (pace * past.length)
  | (_, .post _ (.mirrorUsagePoint _)) => .ok (.created (some "/mup/1"))
  | m => scripted commands past m

/-- A voltage, a reading without a unit, and a power. -/
def someReadings : Command NoReports :=
  .sendMeterReadings [{ readingType := some { uom := some .voltage } }, { readingType := some {} },
    { readingType := some { uom := some .w } }]

/-- The attempt that a command leads to. -/
def attempted (s : Loop NoReports) (past : List (Moment NoReports)) (command : Command NoReports) :
    List (Moment NoReports) × Except Exit Unit × Loop NoReports :=
  ((attempt (R := NoReports) ourArgs).run.run (s.beginTurn.take command)).exec (ticking 0 []) past

/-- Readings that arrive at once after others are left by an attempt that ends well. -/
theorem endsWell_someReadings : ∃ (l : List (Moment NoReports)) (t : Loop NoReports),
    EndsWell ourArgs l t ∧ t.latestMeterReadings.isSome = true := by
  have hturns : (execTurns (ticking 0 [someReadings]) (iteration ourArgs) goesOn {} 1).any
      (fun out => decide ((attempted out.2 out.1 someReadings).2.1 = .ok () ∧
        out.2.retryRequested = false ∧
        (attempted out.2 out.1 someReadings).2.2.latestMeterReadings.isSome = true)) = true := by
    decide +kernel
  obtain ⟨⟨turns, s⟩, hturns, hP⟩ := (Option.any_eq_true _ _).1 hturns
  obtain ⟨hok, hretry, hleft⟩ := of_decide_eq_true hP
  have hrun : Runs (attempt ourArgs) (s.beginTurn.take someReadings)
      (attempted s turns someReadings).1 (attempted s turns someReadings).2.1
      (attempted s turns someReadings).2.2 :=
    Interaction.runs_exec _ _ _
  rw [hok] at hrun
  have hattempts : s.beginTurn.Attempts someReadings :=
    ⟨rfl, fun h => by cases hretry.symm.trans h⟩
  exact ⟨_, _, ⟨turns, s, someReadings, iterates_execTurns hturns, hattempts, hrun⟩, hleft⟩

/-- Settings are sent twice and readings once, nothing after an attempt that failed, and readings
that are not due are left. -/
theorem reports_paced_sent :
    (∃ log : List (Moment NoReports), Log ourArgs log ∧
      (log.filterMap accepted?).length = 2 ∧ (log.flatMap acceptedReadings).length = 2 ∧
        Clock log ∧ ∀ k ∈ streams NoReports, k.Reported log) ∧
    (∃ (past rest : List (Moment NoReports)) (t : Loop NoReports), EndsEarly ourArgs past t ∧
      LogFrom ourArgs t rest ∧ rest.length = 1 ∧ ∀ e ∈ rest, e.question.2.sendsReport = false) ∧
    ∃ (l : List (Moment NoReports)) (t : Loop NoReports), t.latestMeterReadings.isSome = true ∧
      LeavesReadings l t := by
  obtain ⟨log, hlog, haccepted, hreadings, hclock⟩ :
      ∃ log : List (Moment NoReports), Log ourArgs log ∧
        (log.filterMap accepted?).length = 2 ∧ (log.flatMap acceptedReadings).length = 2 ∧
          (log.filterMap instant?).Pairwise (· ≤ ·) := by
    refine exists_log_of_turns
      (ticking 400 [.sendDeviceSettings (), someReadings, .sendDeviceSettings ()]) 3 ?_
    decide +kernel
  obtain ⟨l, t, hwell, hleft⟩ := endsWell_someReadings
  refine ⟨⟨log, hlog, haccepted, hreadings, hclock, (reports_paced hlog).1⟩, ?_,
    l, t, hleft, (reports_paced hlog).2.2 l t hwell⟩
  let env := unreachable [.sendDeviceSettings ()]
  let s : Loop NoReports := Loop.take ({} : Loop NoReports).beginTurn (.sendDeviceSettings ())
  let failed := ((attempt (R := NoReports) ourArgs).run.run s).exec env []
  let waiting := ((iteration (R := NoReports) ourArgs).run.run failed.2.2).exec env []
  have hearly : EndsEarly ourArgs
      (⟨(({} : Loop NoReports).beginTurn, .recv), some (.sendDeviceSettings ())⟩ :: failed.1)
      failed.2.2 := by
    have hrun := Interaction.runs_exec env ((attempt (R := NoReports) ourArgs).run.run s) []
    exact ⟨[], {}, .sendDeviceSettings (), failed.1, .start, ⟨rfl, fun h => by cases h⟩, hrun, rfl⟩
  have hrest : LogFrom ourArgs failed.2.2 waiting.1 := by
    have hrun := Interaction.runs_exec env
      ((iteration (R := NoReports) ourArgs).run.run failed.2.2) []
    exact ⟨[], waiting.1, failed.2.2, waiting.2.1, waiting.2.2, .start, hrun, List.prefix_refl _⟩
  exact ⟨_, waiting.1, failed.2.2, hearly, hrest, by decide +kernel,
    (reports_paced hlog).2.1 _ _ _ hearly hrest (by decide +kernel)⟩

end Scripted

end Sep2Bridge.Connection
