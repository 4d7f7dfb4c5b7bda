import Sep2Bridge.Modbus.Retry

/-!
# The connection loop

`modbus_connection::task`, one iteration at a time. An `Iteration` is everything that is not up to
the loop: the command received, if any, how the points of the device read, the outcome of each
communication step, and the readings of the clock. So a list of iterations is a run, and what holds
of every list holds of every order of commands, failures and timeouts. A closed channel ends the
task, and with it the list.

`attempts` records the sends made on the present connection. The invariant is
`Loop.UpToDate`: on a connection, the parameters last sent are what the latest attempts say they
are. A failed step always drops the connection, and connecting forgets what was sent.
-/

namespace Sep2Bridge.Modbus

open Lib

/-- How a communication step ends. -/
inductive Outcome (α : Type)
  | ok (result : α)
  | err
  | timeout
  deriving DecidableEq

/-- `modbus_connection::Event`, over the types of what is read from the device. -/
inductive Event (Model1 Capabilities State : Type)
  | deviceConnected (model1 : Model1)
  | capabilitiesPolled (capabilities : Capabilities)
  | statePolled (state : State)
  deriving DecidableEq

/-- A full send or a retry, with the status it reported if it succeeded. -/
inductive Attempt
  | full (p : Parameters) (status : Option ApplyStatus)
  | retry (p : Parameters) (status : Option ApplyStatus)
  deriving DecidableEq

def Attempt.status : Attempt → Option ApplyStatus
  | full _ status | retry _ status => status

def Attempt.parameters : Attempt → Parameters
  | full p _ | retry p _ => p

/-- The local variables of the loop, the device's registers and the output channel. Instants are in
milliseconds. -/
structure Loop (Model1 Capabilities State : Type) where
  connected : Bool := false
  parameters : Option Parameters := none
  lastSentParameters : Option Parameters := none
  pendingApply : PendingApply := .none
  lastPollTime : Nat
  registers : Registers
  outputCh : List (Event Model1 Capabilities State) := []
  /-- The sends made on the present connection, the oldest first. -/
  attempts : List Attempt := []

structure Iteration (Model1 Capabilities State : Type) where
  /-- The parameters of an `UpdateParameters`, or `none` when the loop timer runs out. -/
  command : Option Parameters
  connect : Outcome (Model1 × Option Capabilities)
  /-- What the registers hold when a connection is made: the device may have been restarted. -/
  registers : Registers
  device : Device
  send : Outcome Unit
  /-- How many writes of a failed send were made. -/
  written : Nat
  now : Nat
  poll : Outcome State
  polledAt : Nat

/-- `MIN_POLL_PERIOD`. -/
def minPollPeriod : Nat := 1000

namespace Loop

variable {M C S : Type} (curveModels : Parameters → List (UInt16 × UInt16))

def receive (command : Option Parameters) (s : Loop M C S) : Loop M C S :=
  match command with
  | none => s
  | some newParameters => { s with parameters := some newParameters }

def dropConnection (s : Loop M C S) : Loop M C S := { s with connected := false }

/-- Ensure the device is connected. A new connection forgets what was sent before. -/
def connect (i : Iteration M C S) (s : Loop M C S) : Loop M C S :=
  if s.connected then s
  else
    match i.connect with
    | .ok (model1, capabilities) =>
      { s with
        connected := true
        registers := i.registers
        outputCh := s.outputCh ++ .deviceConnected model1 ::
          capabilities.toList.map .capabilitiesPolled
        lastSentParameters := none
        pendingApply := .none
        attempts := [] }
    | .err | .timeout => s.dropConnection

/-- Make the writes of a send. One that fails makes some of them and drops the connection. -/
def write (sent : Writes × ApplyStatus) (outcome : Outcome Unit) (written : Nat)
    (attempt : Option ApplyStatus → Attempt) (s : Loop M C S) : Loop M C S :=
  match outcome with
  | .ok _ =>
    { s with
      registers := writeAll s.registers sent.1
      pendingApply := .fromApplyStatus sent.2
      attempts := s.attempts ++ [attempt (some sent.2)] }
  | .err | .timeout =>
    { s with
      registers := writeAll s.registers (sent.1.take written)
      attempts := s.attempts ++ [attempt none] }.dropConnection

/-- Send parameters that are not the last sent, or else look for a pending retry. -/
def apply (i : Iteration M C S) (s : Loop M C S) : Loop M C S :=
  match s.connected, s.parameters with
  | true, some p =>
    if s.lastSentParameters ≠ some p then
      let t := s.write (i.device.sendNewParameters p curveModels) i.send i.written (.full p)
      if t.connected then { t with lastSentParameters := some p } else t
    else
      match i.device.retryPending p s.pendingApply with
      | none => s
      | some sent => s.write sent i.send i.written (.retry p)
  | _, _ => s

def poll (i : Iteration M C S) (s : Loop M C S) : Loop M C S :=
  if i.now - s.lastPollTime > minPollPeriod ∧ s.connected = true then
    match i.poll with
    | .ok state =>
      { s with outputCh := s.outputCh ++ [.statePolled state], lastPollTime := i.polledAt }
    | .err | .timeout => { s with lastPollTime := i.polledAt }.dropConnection
  else s

/-- One iteration of the loop. -/
def iterate (s : Loop M C S) (i : Iteration M C S) : Loop M C S :=
  (((s.receive i.command).connect i).apply curveModels i).poll i

def start (now : Nat) (registers : Registers) : Loop M C S :=
  { lastPollTime := now, registers }

/-- The loop after the iterations `ls`. -/
def run (now : Nat) (registers : Registers) (ls : List (Iteration M C S)) : Loop M C S :=
  ls.foldl (iterate curveModels) (start now registers)

end Loop

/-! ## What the latest attempts say -/

/-- A full send of `p` succeeded and only retries of `p`, all successful, were made since; something
is pending exactly if the latest of these reported it deferred. -/
structure SentOn (attempts : List Attempt) (p : Parameters) (pending : PendingApply) : Prop where
  full : ∃ earlier status retries, attempts = earlier ++ .full p (some status) :: retries ∧
    ∀ a ∈ retries, ∃ status, a = .retry p (some status)
  pending_iff : pending ≠ .none ↔
    ∃ latest status, attempts.getLast? = some latest ∧ latest.status = some status ∧
      status.deferred = true

theorem fromApplyStatus_ne_none {status : ApplyStatus} :
    PendingApply.fromApplyStatus status ≠ .none ↔ status.deferred = true := by
  unfold PendingApply.fromApplyStatus
  cases status.deferred <;> simp

/-- Pending is what the latest attempt reported. -/
theorem pending_iff_concat {attempts : List Attempt} {a : Attempt} {status : ApplyStatus}
    (ha : a.status = some status) :
    PendingApply.fromApplyStatus status ≠ .none ↔
      ∃ latest status', (attempts ++ [a]).getLast? = some latest ∧ latest.status = some status' ∧
        status'.deferred = true := by
  rw [fromApplyStatus_ne_none, List.getLast?_concat]
  constructor
  · intro h
    exact ⟨a, status, rfl, ha, h⟩
  · intro ⟨latest, status', hlatest, hstatus, h⟩
    cases hlatest
    rw [ha] at hstatus
    cases hstatus
    exact h

theorem SentOn.of_full (attempts : List Attempt) (p : Parameters) (status : ApplyStatus) :
    SentOn (attempts ++ [.full p (some status)]) p (.fromApplyStatus status) where
  full := ⟨attempts, status, [], rfl, fun _ h => absurd h List.not_mem_nil⟩
  pending_iff := pending_iff_concat rfl

theorem SentOn.retry {attempts : List Attempt} {p : Parameters} {pending : PendingApply}
    (h : SentOn attempts p pending) (status : ApplyStatus) :
    SentOn (attempts ++ [.retry p (some status)]) p (.fromApplyStatus status) where
  full := by
    obtain ⟨earlier, fullStatus, retries, rfl, hretries⟩ := h.full
    refine ⟨earlier, fullStatus, retries ++ [.retry p (some status)], by simp, fun a ha => ?_⟩
    rcases List.mem_append.1 ha with ha | ha
    · exact hretries a ha
    · exact ⟨status, List.mem_singleton.1 ha⟩
  pending_iff := pending_iff_concat rfl

namespace Loop

variable {M C S : Type} {curveModels : Parameters → List (UInt16 × UInt16)} {s t : Loop M C S}
  {i : Iteration M C S}

/-- On a connection, the parameters last sent are what the latest attempts say they are. -/
def Recorded (s : Loop M C S) : Prop :=
  s.connected = true → ∀ q, s.lastSentParameters = some q → SentOn s.attempts q s.pendingApply

/-- On a connection, the parameters received are the parameters last sent. -/
def UpToDate (s : Loop M C S) : Prop :=
  s.connected = true → ∀ p, s.parameters = some p → s.lastSentParameters = some p

/-- A send after which the connection still stands succeeded. -/
theorem write_of_connected {sent : Writes × ApplyStatus} {outcome : Outcome Unit} {written : Nat}
    {attempt : Option ApplyStatus → Attempt}
    (h : (s.write sent outcome written attempt).connected = true) :
    s.write sent outcome written attempt =
      { s with
        registers := writeAll s.registers sent.1
        pendingApply := .fromApplyStatus sent.2
        attempts := s.attempts ++ [attempt (some sent.2)] } := by
  cases outcome with
  | ok _ => rfl
  | err => cases h
  | timeout => cases h

theorem Recorded.receive (h : s.Recorded) (command : Option Parameters) :
    (s.receive command).Recorded := by
  cases command <;> exact h

/-- A new connection has nothing recorded on it. -/
theorem Recorded.connect (h : s.Recorded) : (s.connect i).Recorded := by
  by_cases hs : s.connected = true
  · rw [Loop.connect, if_pos hs]
    exact h
  · rw [Loop.connect, if_neg hs]
    intro ht q hq
    cases hc : i.connect with
    | ok result =>
      rw [hc] at hq
      cases hq
    | err =>
      rw [hc] at ht
      cases ht
    | timeout =>
      rw [hc] at ht
      cases ht

/-- A full send records the parameters it sent. -/
theorem apply_new {p : Parameters} (hs : s.connected = true) (hp : s.parameters = some p)
    (hnew : s.lastSentParameters ≠ some p) :
    (s.apply curveModels i).Recorded ∧ (s.apply curveModels i).UpToDate := by
  have happly : s.apply curveModels i =
      let t := s.write (i.device.sendNewParameters p curveModels) i.send i.written (.full p)
      if t.connected then { t with lastSentParameters := some p } else t := by
    rw [Loop.apply, hs, hp]
    exact if_pos hnew
  by_cases ht : (s.write (i.device.sendNewParameters p curveModels) i.send i.written
      (.full p)).connected = true
  · simp only [happly, if_pos ht]
    refine ⟨fun _ q hq => ?_, fun _ q hq => ?_⟩
    · cases hq
      simp only [write_of_connected ht]
      exact .of_full _ _ _
    · rw [write_of_connected ht] at hq
      exact hp.symm.trans hq
  · simp only [happly, if_neg ht]
    exact ⟨fun h => absurd h ht, fun h => absurd h ht⟩

/-- A retry is of the parameters last sent. -/
theorem Recorded.apply_sent {p : Parameters} (h : s.Recorded) (hs : s.connected = true)
    (hp : s.parameters = some p) (hsent : s.lastSentParameters = some p) :
    (s.apply curveModels i).Recorded ∧ (s.apply curveModels i).UpToDate := by
  have happly : s.apply curveModels i =
      match i.device.retryPending p s.pendingApply with
      | none => s
      | some sent => s.write sent i.send i.written (.retry p) := by
    rw [Loop.apply, hs, hp]
    exact if_neg (not_not.2 hsent)
  rw [happly]
  cases i.device.retryPending p s.pendingApply with
  | none => exact ⟨h, fun _ q hq => hsent.trans (hp.symm.trans hq)⟩
  | some sent =>
    refine ⟨fun ht q hq => ?_, fun ht q hq => ?_⟩
    · simp only [write_of_connected ht] at hq ⊢
      cases hsent.symm.trans hq
      exact (h hs p hsent).retry _
    · simp only [write_of_connected ht] at hq ⊢
      exact hsent.trans (hp.symm.trans hq)

theorem Recorded.apply (h : s.Recorded) (curveModels : Parameters → List (UInt16 × UInt16))
    (i : Iteration M C S) :
    (s.apply curveModels i).Recorded ∧ (s.apply curveModels i).UpToDate := by
  cases hs : s.connected with
  | false =>
    have happly : s.apply curveModels i = s := by rw [Loop.apply, hs]
    rw [happly]
    exact ⟨h, fun ht => by rw [hs] at ht; cases ht⟩
  | true =>
    cases hp : s.parameters with
    | none =>
      have happly : s.apply curveModels i = s := by rw [Loop.apply, hs, hp]
      rw [happly]
      exact ⟨h, fun _ q hq => by rw [hp] at hq; cases hq⟩
    | some p =>
      by_cases hsent : s.lastSentParameters = some p
      · exact h.apply_sent hs hp hsent
      · exact apply_new hs hp hsent

/-- A poll sends no parameters. -/
theorem poll_cases : (s.poll i).connected = false ∨
    (s.poll i).connected = s.connected ∧ (s.poll i).parameters = s.parameters ∧
      (s.poll i).lastSentParameters = s.lastSentParameters ∧
      (s.poll i).pendingApply = s.pendingApply ∧ (s.poll i).attempts = s.attempts := by
  unfold Loop.poll
  split_ifs
  · cases i.poll with
    | ok state => exact .inr ⟨rfl, rfl, rfl, rfl, rfl⟩
    | err => exact .inl rfl
    | timeout => exact .inl rfl
  · exact .inr ⟨rfl, rfl, rfl, rfl, rfl⟩

theorem Recorded.poll (h : s.Recorded) : (s.poll i).Recorded := by
  intro ht q hq
  rcases poll_cases (s := s) (i := i) with hdropped | ⟨hc, -, hsent, hpending, hattempts⟩
  · rw [hdropped] at ht
    cases ht
  · rw [hattempts, hpending]
    exact h (hc ▸ ht) q (hsent ▸ hq)

theorem UpToDate.poll (h : s.UpToDate) : (s.poll i).UpToDate := by
  intro ht q hq
  rcases poll_cases (s := s) (i := i) with hdropped | ⟨hc, hparameters, hsent, -, -⟩
  · rw [hdropped] at ht
    cases ht
  · rw [hsent]
    exact h (hc ▸ ht) q (hparameters ▸ hq)

/-- **Step lemma.** -/
theorem Recorded.iterate (h : s.Recorded) :
    (s.iterate curveModels i).Recorded ∧ (s.iterate curveModels i).UpToDate := by
  obtain ⟨hrecorded, hupToDate⟩ := (h.receive i.command).connect.apply curveModels i
  exact ⟨hrecorded.poll, hupToDate.poll⟩

@[simp] theorem parameters_connect : (s.connect i).parameters = s.parameters := by
  unfold Loop.connect
  split_ifs
  · rfl
  · cases i.connect <;> rfl

@[simp] theorem parameters_write {sent : Writes × ApplyStatus} {outcome : Outcome Unit}
    {written : Nat} {attempt : Option ApplyStatus → Attempt} :
    (s.write sent outcome written attempt).parameters = s.parameters := by
  cases outcome <;> rfl

@[simp] theorem parameters_apply : (s.apply curveModels i).parameters = s.parameters := by
  cases hs : s.connected with
  | false => rw [Loop.apply, hs]
  | true =>
    cases hp : s.parameters with
    | none => rw [Loop.apply, hs, hp]; exact hp
    | some p =>
      simp only [Loop.apply, hs, hp]
      split_ifs
      · exact parameters_write.trans hp
      · exact parameters_write.trans hp
      · cases i.device.retryPending p s.pendingApply with
        | none => exact hp
        | some sent => exact parameters_write.trans hp

@[simp] theorem parameters_poll : (s.poll i).parameters = s.parameters := by
  unfold Loop.poll
  split_ifs
  · cases i.poll <;> rfl
  · rfl

/-- Only a command changes the parameters. -/
theorem parameters_iterate :
    (s.iterate curveModels i).parameters = i.command.or s.parameters := by
  simp only [Loop.iterate, parameters_poll, parameters_apply, parameters_connect]
  cases h : i.command <;> rfl

@[simp] theorem outputCh_receive {command : Option Parameters} :
    (s.receive command).outputCh = s.outputCh := by
  cases command <;> rfl

@[simp] theorem outputCh_write {sent : Writes × ApplyStatus} {outcome : Outcome Unit}
    {written : Nat} {attempt : Option ApplyStatus → Attempt} :
    (s.write sent outcome written attempt).outputCh = s.outputCh := by
  cases outcome <;> rfl

@[simp] theorem outputCh_apply : (s.apply curveModels i).outputCh = s.outputCh := by
  cases hs : s.connected with
  | false => rw [Loop.apply, hs]
  | true =>
    cases hp : s.parameters with
    | none => rw [Loop.apply, hs, hp]
    | some p =>
      simp only [Loop.apply, hs, hp]
      split_ifs
      · exact outputCh_write
      · exact outputCh_write
      · cases i.device.retryPending p s.pendingApply with
        | none => rfl
        | some sent => exact outputCh_write

/-- An iteration only adds to what was broadcast: what a new connection gives, and a poll. -/
theorem outputCh_iterate : ∃ events, (s.iterate curveModels i).outputCh = s.outputCh ++ events := by
  obtain ⟨connected, hconnected⟩ :
      ∃ events, ((s.receive i.command).connect i).outputCh = s.outputCh ++ events := by
    have hreceive : (s.receive i.command).outputCh = s.outputCh := outputCh_receive
    rw [← hreceive]
    unfold Loop.connect
    split_ifs
    · exact ⟨[], (List.append_nil _).symm⟩
    · cases i.connect with
      | ok result => exact ⟨_, rfl⟩
      | err => exact ⟨[], (List.append_nil _).symm⟩
      | timeout => exact ⟨[], (List.append_nil _).symm⟩
  have happly : (((s.receive i.command).connect i).apply curveModels i).outputCh =
      ((s.receive i.command).connect i).outputCh := outputCh_apply
  rw [← happly] at hconnected
  unfold Loop.iterate Loop.poll
  split_ifs
  · cases i.poll with
    | ok state =>
      refine ⟨connected ++ [.statePolled state], ?_⟩
      rw [← List.append_assoc, ← hconnected]
    | err => exact ⟨connected, hconnected⟩
    | timeout => exact ⟨connected, hconnected⟩
  · exact ⟨connected, hconnected⟩

/-- The parameters after a run are those of its latest command. -/
theorem parameters_foldl (ls : List (Iteration M C S)) (s : Loop M C S) :
    (ls.foldl (iterate curveModels) s).parameters =
      (ls.filterMap Iteration.command).getLast?.or s.parameters := by
  induction ls generalizing s with
  | nil => rfl
  | cons i ls ih =>
    rw [List.foldl_cons, ih, parameters_iterate, ← Option.or_assoc]
    cases h : i.command with
    | none => simp [h]
    | some p => simp [h, List.getLast?_cons]

/-- A send is of the parameters received. -/
theorem attempts_write {sent : Writes × ApplyStatus} {outcome : Outcome Unit} {written : Nat}
    {attempt : Option ApplyStatus → Attempt} :
    ∃ status, (s.write sent outcome written attempt).attempts = s.attempts ++ [attempt status] := by
  cases outcome <;> exact ⟨_, rfl⟩

theorem attempts_apply {a : Attempt} (h : a ∈ (s.apply curveModels i).attempts) :
    a ∈ s.attempts ∨ s.parameters = some a.parameters := by
  cases hs : s.connected with
  | false =>
    rw [Loop.apply, hs] at h
    exact .inl h
  | true =>
    cases hp : s.parameters with
    | none =>
      rw [Loop.apply, hs, hp] at h
      exact .inl h
    | some p =>
      have hwrite {sent : Writes × ApplyStatus} {attempt : Option ApplyStatus → Attempt}
          (hattempt : ∀ status, (attempt status).parameters = p)
          (h : a ∈ (s.write sent i.send i.written attempt).attempts) :
          a ∈ s.attempts ∨ some p = some a.parameters := by
        obtain ⟨status, hstatus⟩ := attempts_write (s := s)
        rw [hstatus] at h
        rcases List.mem_append.1 h with h | h
        · exact .inl h
        · rw [List.mem_singleton.1 h, hattempt]
          exact .inr rfl
      simp only [Loop.apply, hs, hp] at h
      split_ifs at h
      · exact hwrite (fun _ => rfl) h
      · exact hwrite (fun _ => rfl) h
      · cases hretry : i.device.retryPending p s.pendingApply with
        | none =>
          rw [hretry] at h
          exact .inl h
        | some sent =>
          rw [hretry] at h
          exact hwrite (fun _ => rfl) h

theorem attempts_iterate {a : Attempt} (h : a ∈ (s.iterate curveModels i).attempts) :
    a ∈ s.attempts ∨ (s.iterate curveModels i).parameters = some a.parameters := by
  have hpoll : ∀ u : Loop M C S, (u.poll i).attempts = u.attempts := by
    intro u
    unfold Loop.poll
    split_ifs
    · cases i.poll <;> rfl
    · rfl
  have hconnect : ∀ u : Loop M C S, ∀ a ∈ (u.connect i).attempts, a ∈ u.attempts := by
    intro u a ha
    unfold Loop.connect at ha
    split_ifs at ha
    · exact ha
    · cases hc : i.connect with
      | ok result =>
        rw [hc] at ha
        exact absurd ha List.not_mem_nil
      | err =>
        rw [hc] at ha
        exact ha
      | timeout =>
        rw [hc] at ha
        exact ha
  rw [Loop.iterate, hpoll] at h
  obtain h | h := attempts_apply h
  · have hreceive : (s.receive i.command).attempts = s.attempts := by cases i.command <;> rfl
    rw [← hreceive]
    exact .inl (hconnect _ a h)
  · rw [Loop.iterate, parameters_poll, parameters_apply]
    exact .inr h

/-- Only parameters that were received are ever sent. -/
theorem attempts_foldl (ls : List (Iteration M C S)) {a : Attempt}
    (h : a ∈ (ls.foldl (iterate curveModels) s).attempts) :
    a ∈ s.attempts ∨ s.parameters = some a.parameters ∨
      a.parameters ∈ ls.filterMap Iteration.command := by
  induction ls generalizing s with
  | nil => exact .inl h
  | cons i ls ih =>
    have hi (hi : (s.iterate curveModels i).parameters = some a.parameters) :
        s.parameters = some a.parameters ∨
          a.parameters ∈ (i :: ls).filterMap Iteration.command := by
      rw [parameters_iterate, Option.or_eq_some_iff] at hi
      obtain hi | ⟨-, hi⟩ := hi
      · exact .inr (List.mem_filterMap.2 ⟨i, List.mem_cons_self, hi⟩)
      · exact .inl hi
    obtain h | h | h := ih h
    · exact (attempts_iterate h).imp_right hi
    · exact .inr (hi h)
    · obtain ⟨j, hj, hcommand⟩ := List.mem_filterMap.1 h
      exact .inr (.inr (List.mem_filterMap.2 ⟨j, List.mem_cons_of_mem _ hj, hcommand⟩))

/-- **Run lemma.** -/
theorem recorded_foldl (ls : List (Iteration M C S)) (hrecorded : s.Recorded)
    (hupToDate : s.UpToDate) :
    (ls.foldl (iterate curveModels) s).Recorded ∧ (ls.foldl (iterate curveModels) s).UpToDate := by
  induction ls generalizing s with
  | nil => exact ⟨hrecorded, hupToDate⟩
  | cons i ls ih => exact ih hrecorded.iterate.1 hrecorded.iterate.2

/-- **The device is never left on old parameters.** After every iteration of every run, if a device
is connected and parameters have been received, the latest were sent in full on this connection,
nothing else was sent since, and a retry is pending exactly if the latest attempt deferred. -/
theorem sent_of_run (now : Nat) (registers : Registers) (ls : List (Iteration M C S))
    {p : Parameters} (hconnected : (run curveModels now registers ls).connected = true)
    (hreceived : (ls.filterMap Iteration.command).getLast? = some p) :
    (run curveModels now registers ls).lastSentParameters = some p ∧
      SentOn (run curveModels now registers ls).attempts p
        (run curveModels now registers ls).pendingApply := by
  obtain ⟨hrecorded, hupToDate⟩ : (run curveModels now registers ls).Recorded ∧
      (run curveModels now registers ls).UpToDate :=
    recorded_foldl ls (fun h => by cases h) fun h => by cases h
  have hparameters : (run curveModels now registers ls).parameters = some p := by
    rw [run, parameters_foldl, hreceived]
    rfl
  have hsent := hupToDate hconnected p hparameters
  exact ⟨hsent, hrecorded hconnected p hsent⟩

/-- An iteration in which everything succeeds and nothing is polled. -/
def uneventful (command : Option Parameters) (rating : Option UInt16) :
    Iteration Unit Unit Unit where
  command
  connect := .ok ((), none)
  registers := .initial
  device := .plain rating
  send := .ok ()
  written := 0
  now := 0
  poll := .ok ()
  polledAt := 0

/-- A poll times out while a derivation is pending; the rating reads after the reconnection. -/
def reconnecting : List (Iteration Unit Unit Unit) :=
  [uneventful (some siteLimits) none, { uneventful none none with now := 2000, poll := .timeout },
    uneventful none (some 0), uneventful none (some 1000)]

theorem sent_of_run_reconnecting :
    let t := run (fun _ => []) 0 .initial reconnecting
    (t.lastSentParameters = some siteLimits ∧ SentOn t.attempts siteLimits t.pendingApply) ∧
      t.pendingApply = .none ∧ t.registers .wMaxLimPct = (40 : UInt16) :=
  ⟨sent_of_run 0 .initial reconnecting (by decide) (by decide), by decide, by decide⟩

end Loop

end Sep2Bridge.Modbus
