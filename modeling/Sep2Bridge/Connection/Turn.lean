import Sep2Bridge.Connection.Frames

/-!
# One turn of the loop

`Turn` says all that a turn can do: the channel is closed, the polls are changed, a command is only
taken in, or an attempt follows. Every law of the task is derived from these cases, with the
frames of the parts, and `Log.always` extends it from one turn to the log of the task.
-/

namespace Sep2Bridge.Connection

open Lib Proc

variable {R : Reports} {s t : Loop R} {l : List (Moment R)} {r : Except Exit Unit} {args : Args}

/-- The command goes on to an attempt to send. -/
def Loop.Attempts (s : Loop R) (command : Command R) : Prop :=
  command.isSubscription = false ∧ (s.retryHandle = true → command.isWakeCommand = true)

/-- The turn begins: the retry task is spawned or stopped. -/
def Loop.beginTurn (s : Loop R) : Loop R := { s with retryHandle := s.retryRequested }

/-- An attempt begins: a retry is requested. -/
def Loop.beginAttempt (s : Loop R) : Loop R := { s with retryRequested := true }

/-- The command received at a moment, with the local variables before it is taken in. -/
def received? : Moment R → Option (Loop R × Command R)
  | ⟨(s, .recv), answer⟩ => answer.map fun command => (s, command)
  | _ => none

def Command.isReset : Command R → Bool
  | resetConnection => true
  | _ => false

/-- An attempt ends well: no retry is needed. -/
def Loop.endAttempt (s : Loop R) : Loop R := { s with retryRequested := false }

variable [DecidableEq R.DERCapability]

/-- What a turn can do, once it waits for a command. -/
inductive Turn (args : Args) (s : Loop R) : List (Moment R) → Except Exit Unit → Loop R → Prop
  | closed : Turn args s [⟨(s, .recv), none⟩] (.error .stop) s
  | subscribes {href : String} {kind : ResourceKind} {pollRate : Option UInt32}
      {l : List (Moment R)} {r : Except Exit Unit} {t : Loop R} :
      Runs (subscribeToResource args href kind pollRate >>= fun _ => throw .again) s l r t →
      Turn args s (⟨(s, .recv), some (.subscribeToResource href kind pollRate)⟩ :: l) r t
  | unsubscribes {href : String} {l : List (Moment R)} {r : Except Exit Unit} {t : Loop R} :
      Runs (unsubscribeFromResource href >>= fun _ => throw .again) s l r t →
      Turn args s (⟨(s, .recv), some (.unsubscribeFromResource href)⟩ :: l) r t
  | waits {command : Command R} : command.isSubscription = false → ¬ s.Attempts command →
      Turn args s [⟨(s, .recv), some command⟩] (.error .again) (s.take command)
  | attempts {command : Command R} {l : List (Moment R)} {r : Except Exit Unit} {t : Loop R} :
      s.Attempts command → Runs (attempt args) (s.take command) l r t →
      Turn args s (⟨(s, .recv), some command⟩ :: l) r t

/-! Taking in a command leaves the retry task and the polls alone. -/

theorem retryHandle_take (s : Loop R) (command : Command R) :
    (s.take command).retryHandle = s.retryHandle := by
  cases command <;> simp only [Loop.take] <;> (try split_ifs) <;> rfl

theorem retryRequested_take (s : Loop R) (command : Command R) :
    (s.take command).retryRequested = s.retryRequested := by
  cases command <;> simp only [Loop.take] <;> (try split_ifs) <;> rfl

theorem establishedPolls_take (s : Loop R) (command : Command R) :
    (s.take command).establishedPolls = s.establishedPolls := by
  cases command <;> simp only [Loop.take] <;> (try split_ifs) <;> rfl

theorem handle_of_not_isSubscription {command : Command R} (h : command.isSubscription = false) :
    handle args command = modify (·.take command) := by
  cases command <;> first | rfl | cases h

theorem attempts_take (s : Loop R) (command : Command R) :
    (s.take command).Attempts command ↔ s.Attempts command := by
  rw [Loop.Attempts, Loop.Attempts, retryHandle_take]

omit [DecidableEq R.DERCapability] in
theorem runs_recv {r : Except Exit (Command R)} (hrun : Runs recv s l r t) :
    t = s ∧ ((l = [⟨(s, .recv), none⟩] ∧ r = .error .stop) ∨
      ∃ command, l = [⟨(s, .recv), some command⟩] ∧ r = .ok command) := by
  obtain ⟨answer, l, rfl, h⟩ := runs_ask_bind.1 hrun
  cases answer with
  | none =>
    obtain ⟨rfl, rfl, rfl⟩ := runs_throw.1 h
    exact ⟨rfl, .inl ⟨rfl, rfl⟩⟩
  | some command =>
    obtain ⟨rfl, rfl, rfl⟩ := runs_pure.1 h
    exact ⟨rfl, .inr ⟨command, rfl, rfl⟩⟩

omit [DecidableEq R.DERCapability] in
/-- The retry gate in front of an attempt. -/
theorem runs_awaitRetry {command : Command R} (hsub : command.isSubscription = false)
    (hrun : Runs (awaitRetry command >>= fun _ => attempt args) s l r t) :
    (s.Attempts command ∧ Runs (attempt args) s l r t) ∨
      (¬ s.Attempts command ∧ l = [] ∧ r = .error .again ∧ t = s) := by
  by_cases hc : s.retryHandle = true ∧ ¬ command.isWakeCommand = true
  · have hgate : (if s.retryHandle = true ∧ ¬ command.isWakeCommand = true then throw .again
        else pure () : Task R Unit) = throw .again := if_pos hc
    rcases runs_bind.1 hrun with ⟨e, h, rfl⟩ | ⟨l₁, l₂, a, u, rfl, h, -⟩
    · rw [awaitRetry, runs_get_bind, hgate] at h
      obtain ⟨rfl, he, rfl⟩ := runs_throw.1 h
      exact .inr ⟨fun hs => hc.2 (hs.2 hc.1), rfl, he, rfl⟩
    · rw [awaitRetry, runs_get_bind, hgate] at h
      obtain ⟨-, he, -⟩ := runs_throw.1 h
      cases he
  · have hgate : (if s.retryHandle = true ∧ ¬ command.isWakeCommand = true then throw .again
        else pure () : Task R Unit) = pure () := if_neg hc
    rcases runs_bind.1 hrun with ⟨e, h, -⟩ | ⟨l₁, l₂, a, u, rfl, h, hattempt⟩
    · rw [awaitRetry, runs_get_bind, hgate] at h
      obtain ⟨-, he, -⟩ := runs_pure.1 h
      cases he
    · rw [awaitRetry, runs_get_bind, hgate] at h
      obtain ⟨rfl, -, rfl⟩ := runs_pure.1 h
      exact .inl ⟨⟨hsub, fun hs => by_contra fun hw => hc ⟨hs, hw⟩⟩, hattempt⟩

/-- **The cases of a turn.** -/
theorem turn_of_runs (hrun : Runs (iteration args) s l r t) : Turn args s.beginTurn l r t := by
  rcases runs_bind.1 (runs_modify_bind.1 hrun) with
    ⟨e, hrecv, rfl⟩ | ⟨l₁, l₂, command, u, rfl, hrecv, hrest⟩
  · obtain ⟨rfl, ⟨rfl, he⟩ | ⟨command, -, he⟩⟩ := runs_recv hrecv
    · cases he
      exact .closed
    · cases he
  obtain ⟨rfl, ⟨-, he⟩ | ⟨command, rfl, he⟩⟩ := runs_recv hrecv
  · cases he
  cases he
  by_cases hsub : command.isSubscription = true
  · cases command with
    | subscribeToResource href kind pollRate =>
      obtain ⟨e, rfl, hpolls⟩ := runs_bind_throw_bind.1 hrest
      exact .subscribes hpolls
    | unsubscribeFromResource href =>
      obtain ⟨e, rfl, hpolls⟩ := runs_bind_throw_bind.1 hrest
      exact .unsubscribes hpolls
    | _ => cases hsub
  · rw [Bool.not_eq_true] at hsub
    rw [handle_of_not_isSubscription hsub, runs_modify_bind] at hrest
    rcases runs_awaitRetry hsub hrest with ⟨hattempts, h⟩ | ⟨hwaits, rfl, rfl, rfl⟩
    · exact .attempts ((attempts_take _ _).1 hattempts) h
    · exact .waits hsub fun h => hwaits ((attempts_take _ _).2 h)

omit [DecidableEq R.DERCapability] in
/-- An attempt ends while it connects, or goes on to deliver. -/
theorem runs_attempt (hrun : Runs (attempt args) s l r t) :
    (∃ e, r = .error e ∧ Runs (connect args) s.beginAttempt l (.error e) t) ∨
    ∃ l₁ l₂ found u, l = l₁ ++ l₂ ∧ Runs (connect args) s.beginAttempt l₁ (.ok found) u ∧
      ((∃ e, r = .error e ∧ Runs (deliver args found.1 found.2) u l₂ (.error e) t) ∨
        ∃ v : Loop R, r = .ok () ∧ Runs (deliver args found.1 found.2) u l₂ (.ok ()) v ∧
          t = v.endAttempt) := by
  rcases runs_bind.1 (runs_modify_bind.1 hrun) with
    ⟨e, hconnect, rfl⟩ | ⟨l₁, l₂, found, u, rfl, hconnect, hrest⟩
  · exact .inl ⟨e, rfl, hconnect⟩
  refine .inr ⟨l₁, l₂, found, u, rfl, hconnect, ?_⟩
  rcases runs_bind.1 hrest with ⟨e, hdeliver, rfl⟩ | ⟨l₂, l₃, a, v, rfl, hdeliver, hend⟩
  · exact .inl ⟨e, rfl, hdeliver⟩
  · obtain ⟨rfl, rfl, rfl⟩ := runs_modify.1 hend
    rw [List.append_nil]
    exact .inr ⟨v, rfl, hdeliver, rfl⟩

/-- The log against an environment, after turns that go on. -/
theorem log_of_execTurns {env : List (Moment R) → (q : Loop R × Query R) → q.2.Answer} {n : Nat}
    {log : List (Moment R)} (h : execTurns env (iteration args) goesOn {} n = some (log, t)) :
    Log args log :=
  ⟨log, _, t, _, _, iterates_execTurns h, Interaction.runs_exec env _ log, List.prefix_append _ _⟩

/-- What the task may go on with, when a turn has left the local variables `s`. -/
def LogFrom (args : Args) (s : Loop R) (log : List (Moment R)) : Prop :=
  ∃ turns last t r u, Iterates (iteration args) goesOn s turns t ∧
    Runs (iteration args) t last r u ∧ log <+: turns ++ last

/-- **The rule for the task.** If every turn keeps `I` and adds only entries that meet `S`, then
all entries of a log meet `S`. -/
theorem LogFrom.always {S : List (Moment R) → Moment R → Prop}
    {I : List (Moment R) → Loop R → Prop} {log : List (Moment R)} (h : LogFrom args s log)
    (h₀ : I [] s) (hturn : ∀ past s l r t, I past s → Turn args s.beginTurn l r t →
      Always S past l ∧ I (past ++ l) t) : Always S [] log := by
  obtain ⟨turns, last, s, r, t, hturns, hlast, rest, hlog⟩ := h
  have hstep : ∀ past s, I past s → Wp S (iteration args) (fun _ => I) past s :=
    fun past s hI l r t hrun => hturn past s l r t hI (turn_of_runs hrun)
  obtain ⟨hS, hI⟩ := hturns.always h₀ hstep
  have hall : Always S [] (turns ++ last) := always_append.2 ⟨hS, (hstep _ _ hI _ _ _ hlast).1⟩
  rw [← hlog] at hall
  exact (always_append.1 hall).1

theorem Log.always {S : List (Moment R) → Moment R → Prop} {I : List (Moment R) → Loop R → Prop}
    {log : List (Moment R)} (h : Log args log) (h₀ : I [] {})
    (hturn : ∀ past s l r t, I past s → Turn args s.beginTurn l r t →
      Always S past l ∧ I (past ++ l) t) : Always S [] log :=
  LogFrom.always (s := {}) h h₀ hturn

/-! ## The rule for the parts -/

/-- The local variables after the channel has answered. -/
def Loop.hear (s : Loop R) : Option (Command R) → Loop R
  | some command => s.take command
  | none => s

/-- What a law takes to hold of the task: `I` is kept between turns, and `J` in an attempt up to
its last part; every part adds only entries that meet `S`. -/
structure Parts (args : Args) (S : List (Moment R) → Moment R → Prop)
    (I J : List (Moment R) → Loop R → Prop) : Prop where
  beginTurn {past s} : I past s → I past s.beginTurn
  recv {past s} (answer : Option (Command R)) : I past s → S past ⟨(s, .recv), answer⟩ ∧
    I (past ++ [⟨(s, .recv), answer⟩]) (s.hear answer)
  polls {past s} {p : Task R Unit} : Keeps Loop.exceptPolls (fun q => q.isPolling = true) p →
    I past s → Wp S p (fun _ => I) past s
  beginAttempt {past s command} : I past s → s.Attempts command →
    J (past ++ [⟨(s, .recv), some command⟩]) (s.take command).beginAttempt
  connect {past s} : J past s → Wp S (connect args) (fun _ => J) past s
  responses {past s} : J past s →
    Wp S (sendControlResponses args s.controlResponseQueue) (fun _ => J) past s
  der {past s} (serverDevice : EndDevice) : J past s →
    Wp S (ensureDer args serverDevice) (fun _ => J) past s
  settings {past s} (der : DER) : J past s → Wp S (sendDeviceSettings der) (fun _ => J) past s
  status {past s} (der : DER) : J past s → Wp S (sendDeviceStatus der) (fun _ => J) past s
  capabilities {past s} (der : DER) : J past s →
    Wp S (sendDeviceCapabilities der) (fun _ => J) past s
  readings {past s} (dcap : DeviceCapability) : J past s →
    Wp S (sendLatestMeterReadings args dcap) (fun _ => I) past s
  leave {past s} : J past s → I past s
  endAttempt {past s} : I past s → I past s.endAttempt

namespace Parts

variable {S : List (Moment R) → Moment R → Prop} {I J : List (Moment R) → Loop R → Prop}
  {past : List (Moment R)}

theorem wp_deliver (h : Parts args S I J) (dcap : DeviceCapability) (serverDevice : EndDevice)
    (hJ : J past s) : Wp S (deliver args dcap serverDevice) (fun _ => I) past s := by
  refine wp_get_bind (wp_bind (h.responses hJ) (fun retry past s hJ => ?_) fun _ _ _ => h.leave)
  refine wp_ite (fun _ => wp_throw (h.leave hJ)) fun _ => ?_
  refine wp_bind (h.der serverDevice hJ) (fun der past s hJ => ?_) fun _ _ _ => h.leave
  refine wp_bind (h.settings der hJ) (fun _ past s hJ => ?_) fun _ _ _ => h.leave
  refine wp_bind (h.status der hJ) (fun _ past s hJ => ?_) fun _ _ _ => h.leave
  refine wp_bind (h.capabilities der hJ) (fun _ past s hJ => ?_) fun _ _ _ => h.leave
  exact h.readings dcap hJ

/-- An attempt, once it is requested. -/
theorem wp_attempt (h : Parts args S I J) (hJ : J past s.beginAttempt) :
    Wp S (attempt args) (fun _ => I) past s := by
  refine wp_modify_bind (wp_bind (h.connect hJ) (fun found past s hJ => ?_) fun _ _ _ => h.leave)
  refine wp_bind (h.wp_deliver found.1 found.2 hJ) (fun _ past s hI => ?_) fun _ _ _ hI => hI
  exact wp_modify (h.endAttempt hI)

theorem turn (h : Parts args S I J) (hI : I past s) (hturn : Turn args s l r t) :
    Always S past l ∧ I (past ++ l) t := by
  have hpolls {p : Task R Unit} (hp : Keeps Loop.exceptPolls (fun q => q.isPolling = true) p)
      (command : Command R) (hcommand : command.isSubscription = true) {l : List (Moment R)}
      {r : Except Exit Unit} {t : Loop R}
      (hrun : Runs (p >>= fun _ => throw .again : Task R Unit) s l r t) :
      Always S past (⟨(s, .recv), some command⟩ :: l) ∧
        I (past ++ ⟨(s, .recv), some command⟩ :: l) t := by
    obtain ⟨hS, hI⟩ := h.recv (some command) hI
    have htake : s.hear (some command) = s := by
      cases command <;> first | rfl | cases hcommand
    rw [htake] at hI
    have hwp : Wp S (p >>= fun _ => throw .again : Task R Unit) (fun _ => I)
        (past ++ [⟨(s, .recv), some command⟩]) s :=
      wp_bind (h.polls hp hI) (fun _ _ _ hI => wp_throw hI) fun _ _ _ hI => hI
    obtain ⟨hl, ht⟩ := hwp l r t hrun
    exact ⟨⟨hS, hl⟩, by rwa [List.append_assoc] at ht⟩
  cases hturn with
  | closed => exact ⟨⟨(h.recv none hI).1, trivial⟩, (h.recv none hI).2⟩
  | subscribes hrun => exact hpolls (keeps_subscribeToResource args _ _ _) _ rfl hrun
  | unsubscribes hrun => exact hpolls (keeps_unsubscribeFromResource _) _ rfl hrun
  | @waits command _ _ => exact ⟨⟨(h.recv command hI).1, trivial⟩, (h.recv command hI).2⟩
  | @attempts command l r t hattempts hrun =>
    obtain ⟨hl, ht⟩ := h.wp_attempt (h.beginAttempt hI hattempts) l r t hrun
    exact ⟨⟨(h.recv command hI).1, hl⟩, by rwa [List.append_assoc] at ht⟩

/-- A law of the parts is a law of the task. -/
theorem log (h : Parts args S I J) {log : List (Moment R)} (hlog : Log args log) (h₀ : I [] {}) :
    Always S [] log :=
  hlog.always h₀ fun _ _ _ _ _ hI hturn => h.turn (h.beginTurn hI) hturn

end Parts

/-! ## An obliging environment

Runs on fixed inputs override some of its answers. -/

section Scripted

/-- Reports of no interest. -/
abbrev NoReports : Reports := ⟨Unit, Unit, Unit⟩

def ourDevice : EndDevice where
  lfdi := some 7
  derListLink := some ⟨"/der"⟩
  registrationLink := some ⟨"/rg"⟩

def ourArgs : Args where
  dcapUri := "/dcap"
  maxListSize := 30
  defaultPollRate := 300
  deviceToRegister := ⟨7, ourDevice⟩
  expectedPin := some 111115

/-- The commands arrive in order and every request is answered well, with our device under the
expected PIN. The clock stands still, and each mRID is fresh. -/
def scripted (commands : List (Command NoReports)) (past : List (Moment NoReports)) :
    (m : Loop NoReports × Query NoReports) → m.2.Answer
  | (_, .recv) => commands[past.countP fun e => e.question.2.isRecv]?
  | (_, .get .deviceCapability _) =>
    .ok { endDeviceListLink := some ⟨"/edev"⟩, mirrorUsagePointListLink := some ⟨"/mup"⟩ }
  | (_, .get .endDeviceList _) => .ok { all := 1, endDevice := [ourDevice] }
  | (_, .get .registration _) => .ok ⟨111115⟩
  | (_, .get .derList _) => .ok { der := [⟨some ⟨"/ders"⟩, some ⟨"/derst"⟩, some ⟨"/dercap"⟩⟩] }
  | (_, .get .mirrorUsagePointList _) => .ok {}
  | (_, .get _ _) => .error "404"
  | (_, .broadcast _) => true
  | (_, .put ..) | (_, .post ..) => .ok .other
  | (_, .postTimeout ..) => some (.ok .other)
  | (_, .startPoll ..) | (_, .mridGen) => past.length
  | (_, .instantNow) => (0 : Nat)
  | (_, .updatePollRate ..) | (_, .cancel _) => ()

/-- A server whose dcap cannot be fetched. -/
def unreachable (commands : List (Command NoReports)) (past : List (Moment NoReports)) :
    (m : Loop NoReports × Query NoReports) → m.2.Answer
  | (_, .get .deviceCapability _) => .error "timeout"
  | m => scripted commands past m

/-- A log with a property that can be checked on `n` turns. -/
theorem exists_log_of_turns
    (env : List (Moment NoReports) → (m : Loop NoReports × Query NoReports) → m.2.Answer)
    (n : Nat) {P : List (Moment NoReports) → Prop} [DecidablePred P]
    (h : (execTurns env (iteration ourArgs) goesOn {} n).any (fun out => decide (P out.1)) = true) :
    ∃ log, Log ourArgs log ∧ P log := by
  obtain ⟨⟨log, t⟩, hturns, hP⟩ := (Option.any_eq_true _ _).1 h
  exact ⟨log, log_of_execTurns hturns, of_decide_eq_true hP⟩

end Scripted

end Sep2Bridge.Connection
