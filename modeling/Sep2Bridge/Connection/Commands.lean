import Sep2Bridge.Connection.Polls

/-!
# The commands of the connection task

A turn of the loop takes in one command. The post rates and the capabilities are only changed by
commands, so that they are those of the commands taken in so far (`commanded_of_iterates`).

**Theorem (`retrying_of_log`).** Whenever the task waits for a command while responses are queued,
its retry task runs.
-/

namespace Sep2Bridge.Connection

open Lib Proc

variable {R : Reports} {args : Args} {s t : Loop R} {l log : List (Moment R)}
  {r : Except Exit Unit}

/-- The commands received in a log. -/
def commandsIn (log : List (Moment R)) : List (Command R) :=
  (log.filterMap received?).map Prod.snd

theorem commandsIn_append (log l : List (Moment R)) :
    commandsIn (log ++ l) = commandsIn log ++ commandsIn l := by
  unfold commandsIn
  rw [List.filterMap_append, List.map_append]

theorem commandsIn_eq_nil (h : ∀ e ∈ l, e.question.2.isRecv = false) : commandsIn l = [] := by
  have hnone : l.filterMap received? = [] := by
    refine List.filterMap_eq_nil_iff.2 fun e he => ?_
    have hrecv := h e he
    obtain ⟨⟨s, q⟩, answer⟩ := e
    cases q with
    | recv => cases hrecv
    | _ => rfl
  rw [commandsIn, hnone]
  rfl

theorem isRecv_of_isPolling {q : Query R} (h : q.isPolling = true) : q.isRecv = false := by
  cases q <;> first | rfl | cases h

theorem isRecv_of_attempt {q : Query R} (h : q.isConnecting = true ∨ q.isDelivering = true) :
    q.isRecv = false := by
  cases q with
  | recv => obtain h | h := h <;> cases h
  | _ => rfl

/-- What only commands change. -/
def Loop.commanded (s : Loop R) : Nat × Nat × Option R.DERCapability :=
  (s.postRateDer, s.postRateMup, s.deviceCapabilities)

theorem keeps_attempt_commanded : Keeps Loop.commanded (fun q : Query R => q.isRecv = false)
    (attempt args) := by
  refine keeps_bind (keeps_modify fun _ => rfl) fun _ => keeps_bind ?_ fun found =>
    keeps_bind ?_ fun _ => keeps_modify fun _ => rfl
  · exact (keeps_connect args).weaken Loop.commanded (fun _ => rfl) fun _ h =>
      isRecv_of_attempt (.inl h)
  · exact (keeps_deliver args _ _).weaken Loop.commanded (fun _ => rfl) fun _ h =>
      isRecv_of_attempt (.inr h)

variable [DecidableEq R.DERCapability]

/-- A turn that begins with a command takes in no other. -/
theorem turn_of_command {command : Command R}
    (h : Turn args s (⟨(s, .recv), some command⟩ :: l) r t) :
    (∀ e ∈ l, e.question.2.isRecv = false) ∧ t.commanded = (s.take command).commanded := by
  have hpolls {p : Task R Unit} (hp : Keeps Loop.exceptPolls (fun q => q.isPolling = true) p)
      (hrun : Runs (p >>= fun _ => throw .again : Task R Unit) s l r t) :
      (∀ e ∈ l, e.question.2.isRecv = false) ∧ t.commanded = s.commanded := by
    have hkeeps : Keeps Loop.commanded (fun q : Query R => q.isRecv = false)
        (p >>= fun _ => throw .again : Task R Unit) :=
      keeps_bind (hp.weaken Loop.commanded (fun _ => rfl) fun _ => isRecv_of_isPolling)
        fun _ => keeps_throw _
    obtain ⟨hl, ht⟩ := hkeeps s l r t hrun
    exact ⟨fun e he => (hl e he).2, ht⟩
  cases h with
  | subscribes hrun => exact hpolls (keeps_subscribeToResource args _ _ _) hrun
  | unsubscribes hrun => exact hpolls (keeps_unsubscribeFromResource _) hrun
  | waits => exact ⟨fun e he => absurd he List.not_mem_nil, rfl⟩
  | attempts _ hrun =>
    obtain ⟨hl, ht⟩ := keeps_attempt_commanded _ l r t hrun
    exact ⟨fun e he => (hl e he).2, ht⟩

/-- What a command makes of the post rates and the capabilities depends on nothing else. -/
theorem commanded_take {s s' : Loop R} (h : s.commanded = s'.commanded) (command : Command R) :
    (s.take command).commanded = (s'.take command).commanded := by
  simp only [Loop.commanded, Prod.mk.injEq] at h ⊢
  obtain ⟨hder, hmup, hcapabilities⟩ := h
  cases command with
  | sendDeviceCapability capabilities =>
    simp only [Loop.take, hcapabilities]
    split_ifs <;> exact ⟨hder, hmup, by first | rfl | exact hcapabilities⟩
  | _ => exact ⟨by first | rfl | exact hder, by first | rfl | exact hmup, hcapabilities⟩

/-- **What the commands say** is what the task goes by, after any number of turns. -/
theorem commanded_of_iterates (h : Iterates (iteration args) goesOn {} log t) :
    t.commanded = ((commandsIn log).foldl Loop.take {}).commanded := by
  refine (h.always (S := fun _ _ => True)
    (I := fun log s => s.commanded = ((commandsIn log).foldl Loop.take {}).commanded)
    rfl fun past s hs l r t hrun => ?_).2
  refine ⟨always_iff.2 fun _ _ _ _ => trivial, ?_⟩
  have hs : s.beginTurn.commanded = ((commandsIn past).foldl Loop.take {}).commanded := hs
  have hturn := turn_of_runs hrun
  show t.commanded = ((commandsIn (past ++ l)).foldl Loop.take {}).commanded
  rw [commandsIn_append]
  generalize s.beginTurn = s at hs hturn
  have hcommand {command : Command R} {l : List (Moment R)}
      (hturn : Turn args s (⟨(s, .recv), some command⟩ :: l) r t) :
      t.commanded = ((commandsIn past ++
        commandsIn (⟨(s, .recv), some command⟩ :: l)).foldl Loop.take {}).commanded := by
    obtain ⟨hl, ht⟩ := turn_of_command hturn
    rw [List.foldl_append, ht]
    show _ = ((command :: commandsIn l).foldl Loop.take _).commanded
    rw [commandsIn_eq_nil hl]
    exact commanded_take hs command
  cases hturn with
  | closed =>
    rw [List.foldl_append]
    exact hs
  | subscribes hrun => exact hcommand (.subscribes hrun)
  | unsubscribes hrun => exact hcommand (.unsubscribes hrun)
  | waits hsub hwaits => exact hcommand (.waits hsub hwaits)
  | attempts hattempts hrun => exact hcommand (.attempts hattempts hrun)

section PostRates

def Command.postRates? : Command R → Option PostRates
  | updatePostRates postRates => some postRates
  | _ => none

theorem postRates_foldl (commands : List (Command R)) :
    let rates := (commands.filterMap Command.postRates?).getLastD {}
    (commands.foldl Loop.take {}).postRateDer = toDuration rates.der ∧
      (commands.foldl Loop.take {}).postRateMup = toDuration rates.mirrorUsagePoint := by
  induction commands using List.reverseRecOn with
  | nil => exact ⟨rfl, rfl⟩
  | append_singleton commands command ih =>
    rw [List.foldl_append, List.filterMap_append]
    cases command with
    | updatePostRates postRates =>
      show toDuration postRates.der = toDuration ((_ ++ [postRates]).getLastD {}).der ∧
        toDuration postRates.mirrorUsagePoint =
          toDuration ((_ ++ [postRates]).getLastD {}).mirrorUsagePoint
      rw [List.getLastD_concat]
      exact ⟨rfl, rfl⟩
    | sendDeviceCapability capabilities =>
      rw [List.filterMap_cons_none rfl, List.filterMap_nil, List.append_nil]
      simp only [List.foldl_cons, List.foldl_nil, Loop.take]
      split_ifs <;> exact ih
    | _ =>
      rw [List.filterMap_cons_none rfl, List.filterMap_nil, List.append_nil]
      exact ih

/-- The post rates in force are those of the last `UpdatePostRates`. -/
theorem postRates_of_iterates (h : Iterates (iteration args) goesOn {} log t) :
    let rates := ((commandsIn log).filterMap Command.postRates?).getLastD {}
    t.postRateDer = toDuration rates.der ∧ t.postRateMup = toDuration rates.mirrorUsagePoint := by
  have hcommanded := commanded_of_iterates h
  obtain ⟨hder, hmup⟩ := postRates_foldl (commandsIn log)
  simp only [Loop.commanded, Prod.mk.injEq] at hcommanded
  exact ⟨hcommanded.1.trans hder, hcommanded.2.1.trans hmup⟩

end PostRates

/-! ## No response is forgotten -/

/-- A retry is requested while responses are queued. -/
def Retrying (s : Loop R) : Prop := s.controlResponseQueue ≠ [] → s.retryRequested = true

/-- While the task waits for a command, with responses queued, the retry task runs. -/
def RetryRuns (_past : List (Moment R)) (e : Moment R) : Prop :=
  e.question.2.isRecv = true → e.question.1.controlResponseQueue ≠ [] →
    e.question.1.retryHandle = true

omit [DecidableEq R.DERCapability] in
/-- Without a retry the whole queue was sent. -/
theorem queue_of_sendControlResponses {queue : List ControlResponse}
    (hs : s.controlResponseQueue = queue)
    (hrun : Runs (sendControlResponses args queue) s l (.ok false) t) :
    t.controlResponseQueue = [] := by
  induction queue generalizing s l with
  | nil =>
    obtain ⟨-, -, rfl⟩ := runs_pure.1 hrun
    exact hs
  | cons response queue ih =>
    obtain ⟨result, l, -, hrun⟩ := runs_ask_bind.1 (runs_modify_bind.1 hrun)
    by_cases hretry : isRetryable result = true
    · rw [if_pos hretry] at hrun
      have hrun : Runs (pure true : Task R Bool) _ l (.ok false) t := hrun
      obtain ⟨-, h, -⟩ := runs_pure.1 hrun
      cases h
    · rw [if_neg hretry] at hrun
      exact ih rfl hrun

omit [DecidableEq R.DERCapability] in
/-- An attempt that delivers all leaves no response queued. -/
theorem queue_of_deliver {dcap : DeviceCapability} {serverDevice : EndDevice}
    (hrun : Runs (deliver args dcap serverDevice) s l (.ok ()) t) :
    t.controlResponseQueue = [] := by
  rcases runs_bind.1 (runs_get_bind.1 hrun) with ⟨e, -, h⟩ | ⟨l₁, l₂, retry, u, -, hsend, hrest⟩
  · cases h
  · cases retry with
    | true =>
      obtain ⟨-, h, -⟩ := runs_throw.1 hrest
      cases h
    | false =>
      have hkeeps : Keeps (Loop.controlResponseQueue (R := R)) (fun _ => True)
          (ensureDer args serverDevice >>= fun der => sendDeviceSettings der >>= fun _ =>
            sendDeviceStatus der >>= fun _ => sendDeviceCapabilities der >>= fun _ =>
              sendLatestMeterReadings args dcap) := by
        refine keeps_bind ?_ fun der => keeps_bind ?_ fun _ => keeps_bind ?_ fun _ =>
          keeps_bind ?_ fun _ => ?_
        · exact (keeps_ensureDer args serverDevice).weaken Loop.controlResponseQueue (fun _ => rfl)
            fun _ _ => trivial
        · exact (keeps_sendDeviceSettings der).weaken Loop.controlResponseQueue (fun _ => rfl)
            fun _ _ => trivial
        · exact (keeps_sendDeviceStatus der).weaken Loop.controlResponseQueue (fun _ => rfl)
            fun _ _ => trivial
        · exact (keeps_sendDeviceCapabilities der).weaken Loop.controlResponseQueue (fun _ => rfl)
            fun _ _ => trivial
        · exact (keeps_sendLatestMeterReadings args dcap).weaken Loop.controlResponseQueue
            (fun _ => rfl) fun _ _ => trivial
      rw [(hkeeps _ _ _ _ hrest).2]
      exact queue_of_sendControlResponses rfl hsend

omit [DecidableEq R.DERCapability] in
/-- An attempt that ends early leaves a retry requested. -/
theorem retrying_of_attempt (hrun : Runs (attempt args) s l r t) : Retrying t := by
  have hconnect := (keeps_connect (R := R) args).weaken Loop.retryRequested (fun _ => rfl)
    fun _ => id
  rcases runs_attempt hrun with ⟨e, -, h⟩ | ⟨l₁, l₂, found, u, -, h₁, hdeliver⟩
  · exact fun _ => (hconnect _ _ _ _ h).2
  · have hu : u.retryRequested = true := (hconnect _ _ _ _ h₁).2
    have hkeeps := (keeps_deliver (R := R) args found.1 found.2).weaken Loop.retryRequested
      (fun _ => rfl) fun _ => id
    rcases hdeliver with ⟨e, -, h⟩ | ⟨v, -, h, rfl⟩
    · exact fun _ => (hkeeps _ _ _ _ h).2.trans hu
    · exact fun hqueue => absurd (queue_of_deliver h) hqueue

/-- **Step lemma.** -/
theorem Retrying.turn (hs : Retrying s) (hretry : s.retryHandle = s.retryRequested)
    (h : Turn args s l r t) : (∀ past, Always RetryRuns past l) ∧ Retrying t := by
  have hrecv (past : List (Moment R)) (answer : (Query.recv : Query R).Answer) :
      RetryRuns past ⟨(s, .recv), answer⟩ := fun _ hqueue => hretry.trans (hs hqueue)
  have hsilent {l : List (Moment R)} (hl : ∀ e ∈ l, e.question.2.isRecv = false)
      (past : List (Moment R)) : Always RetryRuns past l :=
    always_of_forall hl fun _ e _ he hrecv => by rw [he] at hrecv; cases hrecv
  have hpolls {p : Task R Unit} {l : List (Moment R)} {r : Except Exit Unit} {t : Loop R}
      (hp : Keeps Loop.exceptPolls (fun q => q.isPolling = true) p)
      (hrun : Runs (p >>= fun _ => throw .again : Task R Unit) s l r t) : Retrying t := by
    have hkeeps : Keeps (fun s : Loop R => (s.controlResponseQueue, s.retryRequested))
        (fun _ => True) (p >>= fun _ => throw .again : Task R Unit) :=
      keeps_bind (hp.weaken (fun s => (s.controlResponseQueue, s.retryRequested))
        (fun _ => rfl) fun _ _ => trivial) fun _ => keeps_throw _
    obtain ⟨hqueue, hrequested⟩ := Prod.mk.inj (hkeeps _ _ _ _ hrun).2
    unfold Retrying
    rw [hqueue, hrequested]
    exact hs
  cases h with
  | closed => exact ⟨fun past => ⟨hrecv past none, trivial⟩, hs⟩
  | @subscribes href kind pollRate l r t hrun =>
    have hl := (turn_of_command (.subscribes hrun)).1
    exact ⟨fun past => ⟨hrecv past _, hsilent hl _⟩,
      hpolls (keeps_subscribeToResource args _ _ _) hrun⟩
  | @unsubscribes href l r t hrun =>
    have hturn : Turn args s (⟨(s, .recv), some (.unsubscribeFromResource href)⟩ :: l) r t :=
      .unsubscribes hrun
    have hl := (turn_of_command hturn).1
    exact ⟨fun past => ⟨hrecv past _, hsilent hl _⟩, hpolls (keeps_unsubscribeFromResource _) hrun⟩
  | @waits command hsub hwaits =>
    refine ⟨fun past => ⟨hrecv past _, trivial⟩, fun _ => ?_⟩
    have hhandle : s.retryHandle = true := by
      by_contra hnot
      exact hwaits ⟨hsub, fun h => absurd h hnot⟩
    rw [retryRequested_take, ← hretry, hhandle]
  | @attempts command l r t hattempts hrun =>
    have hl := (turn_of_command (.attempts hattempts hrun)).1
    exact ⟨fun past => ⟨hrecv past _, hsilent hl _⟩, retrying_of_attempt hrun⟩

/-- **No response is forgotten.** -/
theorem retrying_of_log (h : Log args log) : Always RetryRuns [] log := by
  refine h.always (I := fun _ s => Retrying s) (fun hqueue => absurd rfl hqueue)
    fun past s l r t hs hturn => ?_
  obtain ⟨hl, ht⟩ := Retrying.turn (s := s.beginTurn) hs rfl hturn
  exact ⟨hl past, ht⟩

/-- A response cannot be sent, since the dcap cannot be fetched. -/
theorem retrying_of_log_unreachable : ∃ log : List (Moment NoReports), Log ourArgs log ∧
    (∃ e ∈ log, e.question.2.isRecv = true ∧ e.question.1.controlResponseQueue ≠ []) ∧
      Always RetryRuns [] log := by
  obtain ⟨log, hlog, hwaits⟩ : ∃ log : List (Moment NoReports), Log ourArgs log ∧
      ∃ e ∈ log, e.question.2.isRecv = true ∧ e.question.1.controlResponseQueue ≠ [] := by
    refine exists_log_of_turns
      (unreachable [.sendControlResponse ⟨4, .eventReceived, "/rsp", 0⟩, .wake]) 2 ?_
    decide +kernel
  exact ⟨log, hlog, hwaits, retrying_of_log hlog⟩

end Sep2Bridge.Connection
