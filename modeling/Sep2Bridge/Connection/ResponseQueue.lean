import Sep2Bridge.Connection.Turn
import Sep2Bridge.Lib.Outbox

/-!
# The queue of control responses

The responses are the messages of an outbox. `Books` follows a log with the outbox it should be
keeping: whenever the task awaits something, its queue is what the outbox says waits, and each POST
is for the oldest of these. `books_of_log` is that every log has such books.

`limit` is how many responses may wait. The queue is trimmed `while` it has at least
`MAX_RESPONSE_QUEUE_SIZE` responses, so it never holds that many: a response is dropped when only
as many wait as may. `responses_conserved` is the law of every run in which none arrives while
one place is left, and `dropped_at_the_limit` a run in which the thirtieth pushes out the first.
-/

namespace Sep2Bridge.Connection

open Lib Proc

variable {R : Reports} {args : Args} {limit : Nat}

/-! ## The books -/

/-- What becomes of a response that got this answer, unless it is tried again. -/
def fateOf (result : Option (ClientResult SEPResponse)) : Option Fate :=
  if isRetryable result then none
  else
    match result with
    | some (.ok _) => some .accepted
    | _ => some .discarded

/-- The response received at a moment. -/
def arrived? : Moment R → Option ControlResponse
  | ⟨(_, .recv), some (.sendControlResponse response)⟩ => some response
  | _ => none

/-- What a moment does to the outbox. -/
def noteResponse (o : Outbox ControlResponse) : Moment R → Option (Outbox ControlResponse)
  | ⟨(_, .postTimeout ..), result⟩ => o.attempt (fateOf result)
  | e => some ((arrived? e).elim o o.arrive)

/-- The task agrees with the outbox: its queue is what waits, and what it POSTs is the oldest, which
is then not in the queue. -/
def Agrees (args : Args) (o : Outbox ControlResponse) : Moment R → Prop
  | ⟨(s, .postTimeout href document), _⟩ => ∃ response,
    o.waiting = response :: s.controlResponseQueue ∧ href = response.replyTo ∧
      document = .derControlResponse (responsePayload args response)
  | ⟨(s, _), _⟩ => o.waiting = s.controlResponseQueue

/-- The outbox after a log, when more than `limit` waiting responses lead to an overflow. -/
inductive Books (args : Args) (limit : Nat) : List (Moment R) → Outbox ControlResponse → Prop
  | start : Books args limit [] {}
  | overflow {past : List (Moment R)} {o o' : Outbox ControlResponse} :
      Books args limit past o → o.overflow limit = some o' → Books args limit past o'
  | moment {past : List (Moment R)} {o o' : Outbox ControlResponse} {e : Moment R} :
      Books args limit past o → Agrees args o e → noteResponse o e = some o' →
      Books args limit (past ++ [e]) o'

theorem Books.valid {log : List (Moment R)} {o : Outbox ControlResponse}
    (h : Books args limit log o) : o.Valid (log.filterMap arrived?) := by
  induction h with
  | start => exact .empty
  | overflow _ ho ih => exact ih.overflow ho
  | @moment past o o' e _ _ ho ih =>
    rw [List.filterMap_append]
    obtain ⟨⟨s, q⟩, answer⟩ := e
    cases q with
    | postTimeout href document =>
      rw [show List.filterMap arrived? [⟨(s, .postTimeout href document), answer⟩] = [] from rfl,
        List.append_nil]
      exact ih.attempt ho
    | recv =>
      cases ho
      rcases answer with _ | command
      · rw [show List.filterMap arrived? [⟨(s, .recv), none⟩] = [] from rfl, List.append_nil]
        exact ih
      · cases command with
        | sendControlResponse response => exact ih.arrive response
        | _ =>
          rw [List.filterMap_cons_none rfl, List.filterMap_nil, List.append_nil]
          exact ih
    | _ =>
      cases ho
      rw [List.filterMap_cons_none rfl, List.filterMap_nil, List.append_nil]
      exact ih

/-- The response that the server accepts, with where it was sent to. -/
def acceptedResponse? : Moment R → Option (String × Document R)
  | ⟨(_, .postTimeout href document), some (.ok _)⟩ => some (href, document)
  | _ => none

/-- The responses that an outbox has delivered. -/
def delivered (o : Outbox ControlResponse) : List ControlResponse :=
  (o.settled.filter fun m => m.2 = .accepted).map Prod.fst

theorem delivered_settle {o : Outbox ControlResponse} {response : ControlResponse} {fate : Fate}
    {waiting : List ControlResponse} {attempts : List (Nat × Option Fate)} :
    delivered ⟨o.settled ++ [(response, fate)], waiting, attempts⟩ =
      delivered o ++ if fate = .accepted then [response] else [] := by
  rw [delivered, delivered, List.filter_append, List.map_append]
  by_cases hfate : fate = .accepted <;> simp [hfate]

/-- The server accepts the responses that are delivered, each once, and no others. -/
theorem Books.accepted {log : List (Moment R)} {o : Outbox ControlResponse}
    (h : Books args limit log o) : log.filterMap acceptedResponse? =
      (delivered o).map fun response =>
        (response.replyTo, .derControlResponse (responsePayload args response)) := by
  induction h with
  | start => rfl
  | @overflow past o o' _ ho ih =>
    unfold Outbox.overflow at ho
    split at ho
    next a rest hwaiting =>
      split_ifs at ho
      cases ho
      rw [ih, delivered_settle, if_neg (by decide), List.append_nil]
    next => cases ho
  | @moment past o o' e _ hagrees ho ih =>
    rw [List.filterMap_append, ih]
    obtain ⟨⟨s, q⟩, answer⟩ := e
    cases q with
    | postTimeout href document =>
      obtain ⟨response, hwaiting, rfl, rfl⟩ := hagrees
      have ho : o.attempt (fateOf answer) = some o' := ho
      unfold Outbox.attempt at ho
      rw [hwaiting] at ho
      rcases answer with _ | err | accepted
      · cases ho
        exact List.append_nil _
      · by_cases hretry : isFailureRetriable err = true
        · have hfate : fateOf (some (.error err)) = none := if_pos hretry
          rw [hfate] at ho
          cases ho
          exact List.append_nil _
        · have hfate : fateOf (some (.error err)) = some .discarded := if_neg hretry
          rw [hfate] at ho
          cases ho
          rw [delivered_settle, if_neg (by decide), List.append_nil]
          exact List.append_nil _
      · cases ho
        rw [delivered_settle, if_pos rfl, List.map_append]
        rfl
    | recv =>
      cases ho
      cases arrived? (⟨(s, .recv), answer⟩ : Moment R) <;> exact List.append_nil _
    | _ =>
      cases ho
      exact List.append_nil _

theorem agrees_of_not_isResponding {o : Outbox ControlResponse} {e : Moment R}
    (hq : e.question.2.isResponding = false) (h : Agrees args o e) :
    o.waiting = e.question.1.controlResponseQueue := by
  obtain ⟨⟨s, q⟩, answer⟩ := e
  cases q with
  | postTimeout href document =>
    obtain ⟨response, -, -, rfl⟩ := h
    cases hq
  | _ => exact h

/-- The outbox a moment was noted in. -/
theorem Books.before {past : List (Moment R)} {e : Moment R} {o : Outbox ControlResponse}
    (h : Books args limit (past ++ [e]) o) : ∃ o', Books args limit past o' ∧ Agrees args o' e := by
  generalize hlog : past ++ [e] = log at h
  induction h with
  | start => cases List.append_ne_nil_of_right_ne_nil past (List.cons_ne_nil e []) hlog
  | overflow _ _ ih => exact ih hlog
  | @moment past' o o' e' hbooks hagrees _ _ =>
    obtain ⟨rfl, he⟩ := List.append_inj' hlog rfl
    cases he
    exact ⟨o, hbooks, hagrees⟩

/-- Without an attempt or an overflow, all that arrived waits. -/
theorem Books.waiting_eq {log : List (Moment R)} {o : Outbox ControlResponse}
    (h : Books args limit log o) (hsilent : ∀ e ∈ log, e.question.2.isResponding = false)
    (harrived : (log.filterMap arrived?).length ≤ limit) : o.waiting = log.filterMap arrived? := by
  suffices hsettled : o.settled = [] by
    rw [h.valid.conserved, hsettled]
    rfl
  induction h with
  | start => rfl
  | @overflow past o o' hbooks ho ih =>
    have hwaiting := hbooks.valid.conserved
    rw [ih hsilent harrived, List.map_nil, List.nil_append] at hwaiting
    unfold Outbox.overflow at ho
    split at ho
    · split_ifs at ho with hlimit
      rw [hwaiting] at harrived
      omega
    · cases ho
  | @moment past o o' e hbooks hagrees ho ih =>
    rw [List.filterMap_append, List.length_append] at harrived
    have hsettled := ih (fun e he => hsilent e (by simp [he])) (by omega)
    have he := hsilent e (by simp)
    obtain ⟨⟨s, q⟩, answer⟩ := e
    cases q with
    | postTimeout href document =>
      obtain ⟨response, -, -, rfl⟩ := hagrees
      cases he
    | recv =>
      cases ho
      cases arrived? (⟨(s, .recv), answer⟩ : Moment R) <;> exact hsettled
    | _ =>
      cases ho
      exact hsettled

/-! ## The books of a log -/

/-- A response that arrives finds more than one place left. -/
def HasRoom (e : Moment R) : Prop :=
  (arrived? e).isSome = true → e.question.1.controlResponseQueue.length + 1 < maxResponseQueueSize

instance : DecidablePred (HasRoom (R := R)) := fun _ =>
  inferInstanceAs (Decidable (_ = true → _ < _))

/-- Either fewer may wait than the task allows, or there was always room. -/
def Fits (limit : Nat) (log : List (Moment R)) : Prop :=
  limit < maxResponseQueueSize ∨ ∀ e ∈ log, HasRoom e

/-- The log has books in which `queue` waits. -/
def Booked (args : Args) (limit : Nat) (past : List (Moment R)) (queue : List ControlResponse) :
    Prop :=
  Fits limit past → ∃ o, Books args limit past o ∧ o.waiting = queue

/-- The log has books, up to this moment. -/
def HasBooks (args : Args) (limit : Nat) (past : List (Moment R)) (e : Moment R) : Prop :=
  Fits limit (past ++ [e]) → ∃ o, Books args limit (past ++ [e]) o

theorem Fits.left {past l : List (Moment R)} (h : Fits limit (past ++ l)) : Fits limit past :=
  h.imp_right fun h e he => h e (List.mem_append_left l he)

/-- Neither a receive nor an attempt to send a response. -/
def IsSilent (q : Query R) : Prop :=
  q.isRecv = false ∧ ∀ href document, q ≠ .postTimeout href document

section Moments

variable {past : List (Moment R)} {e : Moment R} {queue : List ControlResponse} {s : Loop R}

/-- What a moment that agrees with the outbox makes of the books. -/
theorem Booked.concat {queue' : List ControlResponse} (h : Booked args limit past queue)
    (hagrees : ∀ o : Outbox ControlResponse, o.waiting = queue → Agrees args o e)
    (hnote : ∀ o : Outbox ControlResponse, o.waiting = queue →
      ∃ o', noteResponse o e = some o' ∧ o'.waiting = queue') :
    HasBooks args limit past e ∧ Booked args limit (past ++ [e]) queue' := by
  have hbooks : Fits limit (past ++ [e]) → ∃ o, Books args limit (past ++ [e]) o ∧
      o.waiting = queue' := by
    intro hfits
    obtain ⟨o, ho, hwaiting⟩ := h hfits.left
    obtain ⟨o', ho', hwaiting'⟩ := hnote o hwaiting
    exact ⟨o', ho.moment (hagrees o hwaiting) ho', hwaiting'⟩
  refine ⟨fun hfits => ?_, hbooks⟩
  obtain ⟨o, ho, -⟩ := hbooks hfits
  exact ⟨o, ho⟩

/-- A moment of no interest to the outbox. -/
theorem Booked.silent (h : Booked args limit past queue)
    (hq : IsSilent e.question.2 ∨ (e.question.2.isRecv = true ∧ arrived? e = none))
    (hqueue : e.question.1.controlResponseQueue = queue) :
    HasBooks args limit past e ∧ Booked args limit (past ++ [e]) queue := by
  obtain ⟨⟨s, q⟩, answer⟩ := e
  cases q with
  | postTimeout href document =>
    rcases hq with ⟨-, hq⟩ | ⟨hq, -⟩
    · exact absurd rfl (hq href document)
    · cases hq
  | recv =>
    rcases hq with ⟨hq, -⟩ | ⟨-, hq⟩
    · cases hq
    · refine h.concat (fun o ho => ho.trans hqueue.symm) fun o ho => ⟨o, ?_, ho⟩
      show some ((arrived? _).elim o o.arrive) = some o
      rw [hq]
      rfl
  | _ => exact h.concat (fun o ho => ho.trans hqueue.symm) fun o ho => ⟨o, rfl, ho⟩

/-- Trimming the queue is dropping the oldest, one by one. -/
theorem Books.limitQueue {o : Outbox ControlResponse} (h : Books args limit past o)
    (hfits : limit < maxResponseQueueSize ∨ o.waiting.length < maxResponseQueueSize) :
    ∃ o', Books args limit past o' ∧ o'.waiting = limitQueue o.waiting := by
  generalize hqueue : o.waiting = queue at hfits ⊢
  induction queue generalizing o with
  | nil => exact ⟨o, h, hqueue⟩
  | cons response queue ih =>
    by_cases hlength : (response :: queue).length < maxResponseQueueSize
    · refine ⟨o, h, hqueue.trans ?_⟩
      have hzero : (response :: queue).length + 1 - maxResponseQueueSize = 0 := by omega
      rw [Connection.limitQueue, hzero, List.drop_zero]
    · have hlimit : limit < maxResponseQueueSize := hfits.resolve_right hlength
      have hoverflow : o.overflow limit = some { o with
          settled := o.settled ++ [(response, .dropped)], waiting := queue } := by
        unfold Outbox.overflow
        rw [hqueue]
        exact if_pos (by omega)
      obtain ⟨o', ho', hwaiting⟩ := ih (h.overflow hoverflow) rfl (.inl hlimit)
      refine ⟨o', ho', hwaiting.trans ?_⟩
      have hdrop : (response :: queue).length + 1 - maxResponseQueueSize =
          queue.length + 1 - maxResponseQueueSize + 1 := by
        rw [List.length_cons] at hlength ⊢
        omega
      rw [Connection.limitQueue, Connection.limitQueue, hdrop, List.drop_succ_cons]

/-- An arriving response goes to the back, and the queue is trimmed. -/
theorem Booked.arrives {response : ControlResponse} (h : Booked args limit past queue)
    (hs : s.controlResponseQueue = queue) :
    HasBooks args limit past ⟨(s, .recv), some (.sendControlResponse response)⟩ ∧
      Booked args limit (past ++ [⟨(s, .recv), some (.sendControlResponse response)⟩])
        (Connection.limitQueue (queue ++ [response])) := by
  obtain ⟨hbooks, hbooked⟩ : HasBooks args limit past
      ⟨(s, .recv), some (.sendControlResponse response)⟩ ∧
        Booked args limit (past ++ [⟨(s, .recv), some (.sendControlResponse response)⟩])
          (queue ++ [response]) := by
    refine h.concat (fun o ho => ?_) fun o ho => ?_
    · exact ho.trans hs.symm
    · exact ⟨o.arrive response, rfl, by rw [← ho]; rfl⟩
  refine ⟨hbooks, fun hfits => ?_⟩
  obtain ⟨o, ho, hwaiting⟩ := hbooked hfits
  rw [← hwaiting]
  refine ho.limitQueue (hfits.imp_right fun hroom => ?_)
  have hlength := hroom ⟨(s, .recv), some (.sendControlResponse response)⟩ (by simp) rfl
  rw [hwaiting, List.length_append, List.length_singleton, ← hs]
  exact hlength

/-- An attempt settles the oldest response, or leaves it at the front. -/
theorem Booked.attempt {response : ControlResponse}
    (result : Option (ClientResult SEPResponse)) (h : Booked args limit past (response :: queue))
    (hs : s.controlResponseQueue = queue) :
    HasBooks args limit past ⟨(s, .postTimeout response.replyTo
        (.derControlResponse (responsePayload args response))), result⟩ ∧
      Booked args limit (past ++ [⟨(s, .postTimeout response.replyTo
          (.derControlResponse (responsePayload args response))), result⟩])
        (if isRetryable result = true then response :: queue else queue) := by
  refine h.concat (fun o ho => ⟨response, by rw [ho, hs], rfl, rfl⟩) fun o ho => ?_
  show ∃ o', o.attempt (fateOf result) = some o' ∧ _
  unfold Outbox.attempt fateOf
  rw [ho]
  split_ifs with hretry
  · exact ⟨_, rfl, rfl⟩
  · rcases result with _ | err | response'
    · exact ⟨_, rfl, rfl⟩
    · exact ⟨_, rfl, rfl⟩
    · exact ⟨_, rfl, rfl⟩

end Moments

/-! ## Attempts -/

section Parts

variable {past : List (Moment R)} {s : Loop R} {α : Type}

/-- What an attempt does besides sending the responses. -/
theorem wp_silent {p : Task R α} (h : Keeps Loop.controlResponseQueue IsSilent p)
    (hpast : Booked args limit past s.controlResponseQueue) :
    Wp (HasBooks args limit) p (fun _ past t => Booked args limit past t.controlResponseQueue)
      past s :=
  h.wp (I := Booked args limit) hpast fun _ _ hpast hview he => hpast.silent (.inl he) hview

theorem wp_sendControlResponses (queue : List ControlResponse)
    (hpast : Booked args limit past queue) (hs : s.controlResponseQueue = queue) :
    Wp (HasBooks args limit) (sendControlResponses args queue)
      (fun _ past t => Booked args limit past t.controlResponseQueue) past s := by
  induction queue generalizing past s with
  | nil =>
    refine wp_pure ?_
    rwa [hs]
  | cons response queue ih =>
    refine wp_modify_bind (wp_ask_bind fun result => ?_)
    obtain ⟨hbooks, hbooked⟩ := hpast.attempt (s := { s with controlResponseQueue := queue }) result
      rfl
    refine ⟨hbooks, wp_ite (fun hretry => ?_) fun hretry => ?_⟩
    · rw [if_pos hretry] at hbooked
      exact wp_modify_bind (wp_pure hbooked)
    · rw [if_neg hretry] at hbooked
      exact ih hbooked rfl

theorem isSilent_of {q : Query R} (h : q.isPolling = true ∨ q.isConnecting = true ∨
    q.isDer = true ∨ q.isSettings = true ∨ q.isStatus = true ∨ q.isCapability = true ∨
    q.isMetering = true) : IsSilent q := by
  cases q with
  | recv => obtain h | h | h | h | h | h | h := h <;> cases h
  | postTimeout href document => obtain h | h | h | h | h | h | h := h <;> cases h
  | _ => exact ⟨rfl, fun _ _ h => by cases h⟩

end Parts

/-! ## The runs of the task -/

variable [DecidableEq R.DERCapability]

theorem Booked.take {past : List (Moment R)} {s : Loop R}
    (h : Booked args limit past s.controlResponseQueue) (command : Command R) :
    HasBooks args limit past ⟨(s, .recv), some command⟩ ∧
      Booked args limit (past ++ [⟨(s, .recv), some command⟩])
        (s.take command).controlResponseQueue := by
  cases command with
  | sendControlResponse response => exact h.arrives rfl
  | sendDeviceCapability capabilities =>
    have hqueue : (s.take (.sendDeviceCapability capabilities)).controlResponseQueue =
        s.controlResponseQueue := by
      simp only [Loop.take]
      split_ifs <;> rfl
    rw [hqueue]
    exact h.silent (.inr ⟨rfl, rfl⟩) rfl
  | _ => exact h.silent (.inr ⟨rfl, rfl⟩) rfl

theorem parts_booked : Parts args (HasBooks (R := R) args limit)
    (fun past s => Booked args limit past s.controlResponseQueue)
    (fun past s => Booked args limit past s.controlResponseQueue) where
  beginTurn h := h
  recv
    | none, h => h.silent (.inr ⟨rfl, rfl⟩) rfl
    | some command, h => h.take command
  polls hp h := wp_silent (hp.weaken Loop.controlResponseQueue (fun _ => rfl) fun _ hq =>
    isSilent_of (.inl hq)) h
  beginAttempt h _ := (h.take _).2
  connect h := wp_silent ((keeps_connect args).weaken Loop.controlResponseQueue (fun _ => rfl)
    fun _ hq => isSilent_of (.inr (.inl hq))) h
  responses h := wp_sendControlResponses _ h rfl
  der serverDevice h := wp_silent ((keeps_ensureDer args serverDevice).weaken
    Loop.controlResponseQueue (fun _ => rfl) fun _ hq => isSilent_of (by simp [hq])) h
  settings der h := wp_silent ((keeps_sendDeviceSettings der).weaken Loop.controlResponseQueue
    (fun _ => rfl) fun _ hq => isSilent_of (by simp [hq])) h
  status der h := wp_silent ((keeps_sendDeviceStatus der).weaken Loop.controlResponseQueue
    (fun _ => rfl) fun _ hq => isSilent_of (by simp [hq])) h
  capabilities der h := wp_silent ((keeps_sendDeviceCapabilities der).weaken
    Loop.controlResponseQueue (fun _ => rfl) fun _ hq => isSilent_of (by simp [hq])) h
  readings dcap h := wp_silent ((keeps_sendLatestMeterReadings args dcap).weaken
    Loop.controlResponseQueue (fun _ => rfl) fun _ hq => isSilent_of (by simp [hq])) h
  leave h := h
  endAttempt h := h

/-- **Every log has books**, with as many waiting as the task keeps, or, when there was always
room, with any limit. -/
theorem books_of_log {log : List (Moment R)} (h : Log args log) (hfits : Fits limit log) :
    ∃ o, Books args limit log o := by
  have hbooks : Always (HasBooks args limit) [] log :=
    parts_booked.log h fun _ => ⟨{}, .start, rfl⟩
  rcases List.eq_nil_or_concat' log with rfl | ⟨pre, e, rfl⟩
  · exact ⟨{}, .start⟩
  · exact always_iff.1 hbooks pre e [] rfl hfits

/-- What the task is left with after any number of turns has books. -/
theorem booked_of_iterates {log : List (Moment R)} {t : Loop R}
    (h : Iterates (iteration args) goesOn {} log t) :
    Booked args limit log t.controlResponseQueue := by
  refine (h.always (S := HasBooks args limit)
    (I := fun past s => Booked args limit past s.controlResponseQueue)
    (fun _ => ⟨{}, .start, rfl⟩) fun past s hs l r t hrun => ?_).2
  have hs : Booked args limit past s.beginTurn.controlResponseQueue := hs
  exact parts_booked.turn hs (turn_of_runs hrun)

/-- **Conservation, in order.** In a run in which each response finds room, the task keeps the
books of an outbox that drops a response only when more than `MAX_RESPONSE_QUEUE_SIZE` wait. -/
theorem responses_conserved {log : List (Moment R)} (h : Log args log)
    (hroom : ∀ e ∈ log, HasRoom e) :
    ∃ o, Books args maxResponseQueueSize log o ∧ o.Valid (log.filterMap arrived?) := by
  obtain ⟨o, ho⟩ := books_of_log h (.inr hroom)
  exact ⟨o, ho, ho.valid⟩

section FullQueue

/-- The response to control `i`. -/
def responseTo (i : Nat) : ControlResponse where
  subject := i
  status := .eventReceived
  replyTo := "/rsp"
  time := 0

/-- The responses to `n` controls, between two attempts. -/
def manyResponses (n : Nat) : List (Command NoReports) :=
  .wake :: (List.range n).map (fun i => .sendControlResponse (responseTo i)) ++ [.wake]

/-- The server takes the first response, refuses the second, and is slow to take the third. -/
def slowServer (commands : List (Command NoReports)) (past : List (Moment NoReports)) :
    (m : Loop NoReports × Query NoReports) → m.2.Answer
  | (_, .postTimeout ..) =>
    match past.countP fun e => e.question.2.isResponding with
    | 1 => some (.error "Unexpected HTTP response from server: 404")
    | 2 => none
    | _ => some (.ok .other)
  | m => scripted commands past m

/-- What became of a POST of a response. -/
def posted? : Moment R → Option (Option Fate)
  | ⟨(_, .postTimeout ..), result⟩ => some (fateOf result)
  | _ => none

/-- Of three responses one is accepted, one is refused, and one is accepted when it is tried
again. -/
theorem responses_conserved_three :
    ∃ log : List (Moment NoReports), Log ourArgs log ∧
      log.filterMap arrived? = [responseTo 0, responseTo 1, responseTo 2] ∧
      log.filterMap posted? = [some .accepted, some .discarded, none, some .accepted] ∧
      ∃ o, Books ourArgs maxResponseQueueSize log o ∧ o.Valid (log.filterMap arrived?) := by
  obtain ⟨log, hlog, harrived, hposted, hroom⟩ :
      ∃ log : List (Moment NoReports), Log ourArgs log ∧
        log.filterMap arrived? = [responseTo 0, responseTo 1, responseTo 2] ∧
        log.filterMap posted? = [some .accepted, some .discarded, none, some .accepted] ∧
        ∀ e ∈ log, HasRoom e := by
    refine exists_log_of_turns (slowServer [.sendControlResponse (responseTo 0),
      .sendControlResponse (responseTo 1), .sendControlResponse (responseTo 2), .wake]) 4 ?_
    decide +kernel
  exact ⟨log, hlog, harrived, hposted, responses_conserved hlog hroom⟩

/-- The thirtieth response to wait pushes out the first. -/
theorem dropped_at_the_limit :
    ¬ ∀ log : List (Moment NoReports), Log ourArgs log →
      ∃ o, Books ourArgs maxResponseQueueSize log o := by
  obtain ⟨log, hlog, hsilent, harrived, hlast⟩ :
      ∃ log : List (Moment NoReports), Log ourArgs log ∧
        (∀ e ∈ log, e.question.2.isResponding = false) ∧
        (log.filterMap arrived?).length = maxResponseQueueSize ∧
        log.getLast?.any (fun e => arrived? e = none ∧
          e.question.1.controlResponseQueue.length < maxResponseQueueSize) = true := by
    refine exists_log_of_turns (unreachable (manyResponses maxResponseQueueSize)) 32 ?_
    decide +kernel
  intro h
  obtain ⟨o, ho⟩ := h log hlog
  rcases List.eq_nil_or_concat' log with rfl | ⟨pre, e, rfl⟩
  · cases harrived
  obtain ⟨o', ho', hagrees⟩ := ho.before
  rw [List.getLast?_concat, Option.any_some, decide_eq_true_iff] at hlast
  rw [List.filterMap_append, List.filterMap_cons_none hlast.1, List.filterMap_nil,
    List.append_nil] at harrived
  have hwaiting : o'.waiting = pre.filterMap arrived? :=
    ho'.waiting_eq (fun e he => hsilent e (by simp [he])) (Nat.le_of_eq harrived)
  rw [agrees_of_not_isResponding (hsilent e (by simp)) hagrees] at hwaiting
  have hlength := congrArg List.length hwaiting
  omega

end FullQueue

end Sep2Bridge.Connection
