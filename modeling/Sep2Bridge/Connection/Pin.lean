import Sep2Bridge.Connection.Turn

/-!
# The PIN check

With an expected PIN, and a device that has a registration link, nothing should be reported to the
server unless the registration it last gave us carries that PIN. The registration is kept when it
is fetched, before the comparison, and the comparison is only made when none is kept. So an
attempt that follows a mismatch finds the wrong registration kept, skips the check, and sends.

`pin_checked_of_startsChecked` is the law of every run in which no attempt starts with a kept
registration of another PIN. `unchecked_after_mismatch` is a run that breaks the law: a mismatch,
then the `Wake` of the retry task.
-/

namespace Sep2Bridge.Connection

open Lib Proc

variable {R : Reports}

/-! ## The law -/

def noteRegistration (last : Option Registration) : Moment R → Option Registration
  | ⟨(_, .recv), some .resetConnection⟩ => none
  | ⟨(_, .get .registration _), .ok reg⟩ => some reg
  | _ => last

/-- The registration most recently fetched since the last `ResetConnection`, or the start. -/
def lastRegistration (log : List (Moment R)) : Option Registration :=
  log.foldl noteRegistration none

/-- A report is only sent to a device with a registration link when the last registration has the
expected PIN. -/
def PinChecked (args : Args) (past : List (Moment R)) (e : Moment R) : Prop :=
  e.question.2.sendsReport = true → ∀ pin, args.expectedPin = some pin →
    (e.question.1.serverDevice.bind EndDevice.registrationLink).isSome = true →
    (lastRegistration past).map Registration.pin = some pin

instance (args : Args) (past : List (Moment R)) : DecidablePred (PinChecked args past) := fun _ =>
  inferInstanceAs (Decidable (_ = true → ∀ pin ∈ args.expectedPin, _ = true → _ = some pin))

variable [DecidableEq R.DERCapability]

/-- If the command starts an attempt, no registration of another PIN is kept at its start. -/
def StartsChecked (args : Args) (e : Moment R) : Prop :=
  ∀ received ∈ received? e, received.1.Attempts received.2 →
    ∀ pin ∈ args.expectedPin, ∀ reg ∈ (received.1.take received.2).serverRegistrationInfo,
      reg.pin = pin

instance (args : Args) : DecidablePred (StartsChecked (R := R) args) := fun e =>
  inferInstanceAs (Decidable (∀ received ∈ received? e, (_ ∧ _) →
    ∀ pin ∈ args.expectedPin, ∀ reg ∈ (received.1.take received.2).serverRegistrationInfo,
      reg.pin = pin))

/-! ## The invariant -/

omit [DecidableEq R.DERCapability] in
/-- Only a reset and a fetched registration change what was fetched last. -/
theorem lastRegistration_append {past l : List (Moment R)}
    (h : ∀ e ∈ l, e.question.2.isRecv = false ∧ e.question.2.gets .registration = false) :
    lastRegistration (past ++ l) = lastRegistration past := by
  unfold lastRegistration
  rw [List.foldl_append]
  generalize past.foldl noteRegistration none = last
  induction l generalizing last with
  | nil => rfl
  | cons e l ih =>
    have he : noteRegistration last e = last := by
      obtain ⟨hrecv, hget⟩ := h e (by simp)
      obtain ⟨⟨s, q⟩, answer⟩ := e
      cases q with
      | recv => cases hrecv
      | get resource href => cases resource <;> first | rfl | cases hget
      | _ => rfl
    rw [List.foldl_cons, he]
    exact ih (fun e he => h e (by simp [he])) last

/-- What is kept is what was fetched last. -/
def Kept (past : List (Moment R)) (s : Loop R) : Prop :=
  s.serverRegistrationInfo = lastRegistration past

/-- With all attempts so far started checked, what is kept has the expected PIN. -/
def Trusted (args : Args) (past : List (Moment R)) (s : Loop R) : Prop :=
  (∀ e ∈ past, StartsChecked args e) → ∀ pin, args.expectedPin = some pin →
    ∀ reg, s.serverRegistrationInfo = some reg → reg.pin = pin

/-- The law, for a log whose attempts so far started checked. -/
def Law (args : Args) (past : List (Moment R)) (e : Moment R) : Prop :=
  (∀ e' ∈ past, StartsChecked args e') → PinChecked args past e

/-- Neither a report nor something that changes the last registration. -/
def IsQuiet (q : Query R) : Prop :=
  q.sendsReport = false ∧ q.isRecv = false ∧ q.gets .registration = false

theorem law_of_not_sendsReport {args : Args} {past : List (Moment R)} {e : Moment R}
    (h : e.question.2.sendsReport = false) : Law args past e := by
  intro _ hsends
  rw [h] at hsends
  cases hsends

theorem always_law_of_quiet {args : Args} {past l : List (Moment R)}
    (h : ∀ e ∈ l, IsQuiet e.question.2) : Always (Law args) past l :=
  always_of_forall h fun _ _ _ he => law_of_not_sendsReport he.1

section Quiet

omit [DecidableEq R.DERCapability]

theorem isQuiet_of_isPolling {q : Query R} (h : q.isPolling = true) : IsQuiet q := by
  cases q with
  | get resource href => cases resource <;> first | exact ⟨rfl, rfl, rfl⟩ | cases h
  | _ => first | exact ⟨rfl, rfl, rfl⟩ | cases h

theorem isQuiet_of_isDcap {q : Query R} (h : q.isDcap = true) : IsQuiet q := by
  cases q with
  | get resource href => cases resource <;> first | exact ⟨rfl, rfl, rfl⟩ | cases h
  | _ => first | exact ⟨rfl, rfl, rfl⟩ | cases h

theorem isQuiet_of_isRegistering {q : Query R} (h : q.isRegistering = true) : IsQuiet q := by
  cases q with
  | get resource href => cases resource <;> first | exact ⟨rfl, rfl, rfl⟩ | cases h
  | post href document => cases document <;> first | exact ⟨rfl, rfl, rfl⟩ | cases h
  | _ => first | exact ⟨rfl, rfl, rfl⟩ | cases h

/-- Delivering neither receives nor fetches the registration. -/
theorem of_isDelivering {q : Query R} (h : q.isDelivering = true) :
    q.isRecv = false ∧ q.gets .registration = false := by
  cases q with
  | get resource href => cases resource <;> first | exact ⟨rfl, rfl⟩ | cases h
  | _ => first | exact ⟨rfl, rfl⟩ | cases h

end Quiet

/-! ## One turn -/

variable {args : Args} {past l : List (Moment R)} {s t : Loop R}

/-- What leaves the registration alone keeps the invariant. -/
theorem Kept.of_quiet (h : Kept past s) (args : Args) {α : Type} {p : Task R α} {r : Except Exit α}
    (hp : Keeps Loop.serverRegistrationInfo IsQuiet p) (hrun : Runs p s l r t) :
    Always (Law args) past l ∧ Kept (past ++ l) t := by
  obtain ⟨hl, ht⟩ := hp s l r t hrun
  refine ⟨always_law_of_quiet fun e he => (hl e he).2, ?_⟩
  show t.serverRegistrationInfo = _
  rw [ht, lastRegistration_append fun e he => (hl e he).2.2]
  exact h

/-- Taking in a command clears what is kept exactly when it forgets what was fetched. -/
theorem Kept.take (h : Kept past s) (command : Command R) :
    Kept (past ++ [⟨(s, .recv), some command⟩]) (s.take command) := by
  unfold Kept lastRegistration
  rw [List.foldl_append]
  show (s.take command).serverRegistrationInfo =
    noteRegistration (lastRegistration past) ⟨(s, .recv), some command⟩
  rw [← h]
  cases command with
  | sendDeviceCapability capabilities =>
    simp only [Loop.take]
    split_ifs <;> rfl
  | _ => rfl

theorem Trusted.of_attempts {command : Command R} (h : s.Attempts command) :
    Trusted args (past ++ [⟨(s, .recv), some command⟩]) (s.take command) :=
  fun hchecked => hchecked ⟨(s, .recv), some command⟩ (by simp) (s, command) rfl h

section Connecting

omit [DecidableEq R.DERCapability]

theorem quiet_findDevice (args : Args) :
    Keeps Loop.serverRegistrationInfo IsQuiet (findDevice (R := R) args) := by
  refine keeps_findDevice args ?_ ?_ ?_
  · exact (keeps_ensureDcap args).weaken Loop.serverRegistrationInfo (fun _ => rfl)
      fun _ => isQuiet_of_isDcap
  · intro dcap
    exact (keeps_edevLink dcap).weaken Loop.serverRegistrationInfo (fun _ => rfl)
      fun _ => isQuiet_of_isDcap
  · intro uri
    exact (keeps_ensureServerDevice args uri).weaken Loop.serverRegistrationInfo (fun _ => rfl)
      fun _ => isQuiet_of_isRegistering

/-- The device found is the one kept. -/
theorem serverDevice_of_findDevice {found : DeviceCapability × EndDevice}
    (hrun : Runs (findDevice args) s l (.ok found) t) : t.serverDevice = some found.2 := by
  rcases runs_bind.1 hrun with ⟨e, -, he⟩ | ⟨_, l₁, dcap, s₁, -, -, hrun₁⟩
  · cases he
  rcases runs_bind.1 hrun₁ with ⟨e, -, he⟩ | ⟨_, l₂, link, s₂, -, -, hrun₂⟩
  · cases he
  rcases runs_bind.1 hrun₂ with ⟨e, -, he⟩ | ⟨_, l₃, device, s₃, -, hensure, hreturn⟩
  · cases he
  obtain ⟨-, hfound, rfl⟩ := runs_pure.1 hreturn
  cases hfound
  rcases runs_bind.1 hensure with ⟨e, -, he⟩ | ⟨_, l₄, -, s₄, -, -, hrequire⟩
  · cases he
  obtain ⟨-, rfl, hdevice⟩ := runs_require _ hrequire
  cases hkept : t.serverDevice with
  | none => rw [hkept] at hdevice; cases hdevice
  | some device => rw [hkept] at hdevice; cases hdevice; rfl

/-- Validating keeps the registration it fetches, whatever its PIN. -/
theorem runs_validatePin {link : Link} {pin : PINType} {r : Except Exit Unit}
    (hrun : Runs (validatePin link pin) s l r t) :
    (∃ err, l = [⟨(s, .get .registration link.href), .error err⟩] ∧ r = .error .again ∧ t = s) ∨
    ∃ reg, l = [⟨(s, .get .registration link.href), .ok reg⟩] ∧
      t = { s with serverRegistrationInfo := some reg } ∧ (r = .ok () → reg.pin = pin) := by
  obtain ⟨response, l, rfl, h⟩ := runs_ask_bind.1 hrun
  cases response with
  | error err =>
    obtain ⟨rfl, rfl, rfl⟩ := runs_throw.1 h
    exact .inl ⟨err, rfl, rfl, rfl⟩
  | ok reg =>
    refine .inr ⟨reg, ?_⟩
    have h := runs_modify_bind.1 h
    split_ifs at h with hpin
    · obtain ⟨rfl, rfl, rfl⟩ := runs_throw.1 h
      exact ⟨rfl, rfl, nofun⟩
    · obtain ⟨rfl, rfl, rfl⟩ := runs_pure.1 h
      exact ⟨rfl, rfl, fun _ => (not_not.1 hpin).symm⟩

/-- The check is skipped, or else the PIN is validated. -/
theorem runs_checkRegistration {device : EndDevice} {r : Except Exit Unit}
    (hrun : Runs (checkRegistration args device) s l r t) :
    (l = [] ∧ t = s ∧ (∀ pin, args.expectedPin = some pin → device.registrationLink.isSome = true →
      s.serverRegistrationInfo.isSome = true)) ∨
    ∃ link pin, args.expectedPin = some pin ∧ Runs (validatePin link pin) s l r t := by
  have h := runs_get_bind.1 hrun
  cases hreg : s.serverRegistrationInfo with
  | some reg =>
    rw [hreg] at h
    obtain ⟨rfl, -, rfl⟩ := runs_pure.1 h
    exact .inl ⟨rfl, rfl, fun _ _ _ => rfl⟩
  | none =>
    cases hlink : device.registrationLink with
    | none =>
      rw [hreg, hlink] at h
      obtain ⟨rfl, -, rfl⟩ := runs_pure.1 h
      exact .inl ⟨rfl, rfl, fun _ _ h => nomatch h⟩
    | some link =>
      cases hpin : args.expectedPin with
      | none =>
        rw [hreg, hlink, hpin] at h
        obtain ⟨rfl, -, rfl⟩ := runs_pure.1 h
        exact .inl ⟨rfl, rfl, nofun⟩
      | some pin =>
        rw [hreg, hlink, hpin] at h
        exact .inr ⟨link, pin, rfl, h⟩

end Connecting

/-- With the device found, the PIN was checked now or in an earlier attempt. -/
structure Checked (args : Args) (past : List (Moment R)) (s : Loop R) : Prop where
  kept : Kept past s
  trusted : Trusted args past s
  validated : ∀ pin, args.expectedPin = some pin →
    (s.serverDevice.bind EndDevice.registrationLink).isSome = true →
    s.serverRegistrationInfo.isSome = true

/-- What the check adds to the log, whether or not it ends the attempt. -/
theorem of_checkRegistration {device : EndDevice} {r : Except Exit Unit} (hkept : Kept past s)
    (htrusted : Trusted args past s) (hdevice : s.serverDevice = some device)
    (hrun : Runs (checkRegistration args device) s l r t) :
    Always (Law args) past l ∧ Kept (past ++ l) t ∧ (r = .ok () → Checked args (past ++ l) t) := by
  rcases runs_checkRegistration hrun with ⟨rfl, rfl, hvalid⟩ | ⟨link, pin, hpin, hvalidate⟩
  · rw [List.append_nil]
    refine ⟨trivial, hkept, fun _ => ⟨hkept, htrusted, fun pin hpin hlink => ?_⟩⟩
    rw [hdevice] at hlink
    exact hvalid pin hpin hlink
  rcases runs_validatePin hvalidate with ⟨err, rfl, rfl, rfl⟩ | ⟨reg, rfl, rfl, hok⟩
  · have hl : lastRegistration (past ++ [⟨(t, .get .registration link.href), .error err⟩]) =
        lastRegistration past := by
      unfold lastRegistration
      rw [List.foldl_append]
      rfl
    refine ⟨⟨law_of_not_sendsReport rfl, trivial⟩, hkept.trans hl.symm, fun hr => ?_⟩
    cases hr
  · have hl : lastRegistration (past ++ [⟨(s, .get .registration link.href), .ok reg⟩]) =
        some reg := by
      unfold lastRegistration
      rw [List.foldl_append]
      rfl
    refine ⟨⟨law_of_not_sendsReport rfl, trivial⟩, hl.symm, fun hr => ?_⟩
    refine ⟨hl.symm, fun _ pin' hpin' reg' hreg' => ?_, fun _ _ _ => rfl⟩
    cases hreg'
    cases hpin.symm.trans hpin'
    exact hok hr

theorem of_connect {r : Except Exit (DeviceCapability × EndDevice)} (hkept : Kept past s)
    (htrusted : Trusted args past s) (hrun : Runs (connect args) s l r t) :
    Always (Law args) past l ∧ Kept (past ++ l) t ∧
      ∀ found, r = .ok found → Checked args (past ++ l) t := by
  rcases runs_bind.1 hrun with ⟨e, hfind, rfl⟩ | ⟨l₁, l₂, found, u, rfl, hfind, hrest⟩
  · obtain ⟨hl, ht⟩ := hkept.of_quiet args (quiet_findDevice args) hfind
    refine ⟨hl, ht, fun found hr => ?_⟩
    cases hr
  obtain ⟨hl₁, hu⟩ := hkept.of_quiet args (quiet_findDevice args) hfind
  have hdevice := serverDevice_of_findDevice hfind
  have hutrusted : Trusted args (past ++ l₁) u := by
    intro hchecked
    rw [(quiet_findDevice args s l₁ _ u hfind).2]
    exact htrusted fun e he => hchecked e (List.mem_append_left l₁ he)
  rw [← List.append_assoc]
  rcases runs_bind.1 hrest with ⟨e, hfail, rfl⟩ | ⟨l₂, l₃, _, v, rfl, hpass, hreturn⟩
  · obtain ⟨hl₂, hv, -⟩ := of_checkRegistration hu hutrusted hdevice hfail
    refine ⟨always_append.2 ⟨hl₁, hl₂⟩, hv, fun found hr => ?_⟩
    cases hr
  · obtain ⟨rfl, rfl, rfl⟩ := runs_pure.1 hreturn
    obtain ⟨hl₂, hv, hchecked⟩ := of_checkRegistration hu hutrusted hdevice hpass
    rw [List.append_nil]
    exact ⟨always_append.2 ⟨hl₁, hl₂⟩, hv, fun _ _ => hchecked rfl⟩

theorem Checked.of_deliver (h : Checked args past s) {dcap : DeviceCapability}
    {device : EndDevice} {r : Except Exit Unit} (hrun : Runs (deliver args dcap device) s l r t) :
    Always (Law args) past l ∧ Kept (past ++ l) t := by
  have hkeeps : Keeps (fun s : Loop R => (s.serverDevice, s.serverRegistrationInfo))
      (fun q => q.isRecv = false ∧ q.gets .registration = false) (deliver args dcap device) :=
    (keeps_deliver args dcap device).weaken (fun s => (s.serverDevice, s.serverRegistrationInfo))
      (fun _ => rfl) fun _ => of_isDelivering
  obtain ⟨hl, ht⟩ := hkeeps s l r t hrun
  have hlast {pre : List (Moment R)} (hpre : ∀ e ∈ pre, e.question.2.isRecv = false ∧
      e.question.2.gets .registration = false) :
      lastRegistration (past ++ pre) = s.serverRegistrationInfo :=
    (lastRegistration_append hpre).trans h.kept.symm
  refine ⟨always_of_forall hl fun pre e hpre he hchecked hsends pin hpin hlink => ?_, ?_⟩
  · have hdevice : e.question.1.serverDevice = s.serverDevice := congrArg Prod.fst he.1
    rw [hdevice] at hlink
    obtain ⟨reg, hreg⟩ := Option.isSome_iff_exists.1 (h.validated pin hpin hlink)
    have hpast : ∀ e ∈ past, StartsChecked args e :=
      fun e' he' => hchecked e' (List.mem_append_left pre he')
    rw [hlast fun e' he' => (hpre e' he').2, hreg, Option.map_some,
      h.trusted hpast pin hpin reg hreg]
  · have hreg : t.serverRegistrationInfo = s.serverRegistrationInfo := congrArg Prod.snd ht
    exact hreg.trans (hlast fun e he => (hl e he).2).symm

theorem of_attempt {r : Except Exit Unit} (hkept : Kept past s) (htrusted : Trusted args past s)
    (hrun : Runs (attempt args) s l r t) : Always (Law args) past l ∧ Kept (past ++ l) t := by
  rcases runs_attempt hrun with ⟨e, rfl, hconnect⟩ | ⟨l₁, l₂, found, u, rfl, hconnect, hdeliver⟩
  · obtain ⟨hl, ht, -⟩ := of_connect (s := s.beginAttempt) hkept htrusted hconnect
    exact ⟨hl, ht⟩
  obtain ⟨hl₁, -, hchecked⟩ := of_connect (s := s.beginAttempt) hkept htrusted hconnect
  rw [← List.append_assoc, always_append]
  rcases hdeliver with ⟨e, -, hdeliver⟩ | ⟨v, -, hdeliver, rfl⟩
  · obtain ⟨hl₂, ht⟩ := (hchecked found rfl).of_deliver hdeliver
    exact ⟨⟨hl₁, hl₂⟩, ht⟩
  · obtain ⟨hl₂, hv⟩ := (hchecked found rfl).of_deliver hdeliver
    exact ⟨⟨hl₁, hl₂⟩, hv⟩

theorem Kept.turn {r : Except Exit Unit} (hkept : Kept past s) (hturn : Turn args s l r t) :
    Always (Law args) past l ∧ Kept (past ++ l) t := by
  have hrecv (answer : (Query.recv : Query R).Answer) : Law args past ⟨(s, .recv), answer⟩ :=
    law_of_not_sendsReport rfl
  have hpolls {p : Task R Unit} (hp : Keeps Loop.exceptPolls (fun q => q.isPolling = true) p) :
      Keeps Loop.serverRegistrationInfo IsQuiet (p >>= fun _ => throw .again : Task R Unit) :=
    keeps_bind (hp.weaken Loop.serverRegistrationInfo (fun _ => rfl) fun _ => isQuiet_of_isPolling)
      fun _ => keeps_throw _
  cases hturn with
  | closed =>
    refine ⟨⟨hrecv none, trivial⟩, ?_⟩
    show s.serverRegistrationInfo = lastRegistration (past ++ [⟨(s, .recv), none⟩])
    unfold lastRegistration
    rw [List.foldl_append]
    exact hkept
  | @subscribes href kind pollRate l r t h =>
    obtain ⟨hl, ht⟩ := (hkept.take (.subscribeToResource href kind pollRate)).of_quiet args
      (hpolls (keeps_subscribeToResource args href kind pollRate)) h
    exact ⟨⟨hrecv _, hl⟩, by rwa [List.append_assoc] at ht⟩
  | @unsubscribes href l r t h =>
    obtain ⟨hl, ht⟩ := (hkept.take (.unsubscribeFromResource href)).of_quiet args
      (hpolls (keeps_unsubscribeFromResource href)) h
    exact ⟨⟨hrecv _, hl⟩, by rwa [List.append_assoc] at ht⟩
  | @waits command hsub hwaits => exact ⟨⟨hrecv _, trivial⟩, hkept.take command⟩
  | @attempts command l r t hattempts h =>
    obtain ⟨hl, ht⟩ := of_attempt (hkept.take command) (Trusted.of_attempts hattempts) h
    exact ⟨⟨hrecv _, hl⟩, by rwa [List.append_assoc] at ht⟩

/-- **The law of a checked run.** When every attempt starts without a kept registration of another
PIN, every report is covered by the last registration. -/
theorem pin_checked_of_startsChecked {log : List (Moment R)} (h : Log args log)
    (hchecked : ∀ e ∈ log, StartsChecked args e) : Always (PinChecked args) [] log := by
  have hlaw : Always (Law args) [] log :=
    h.always (I := Kept) rfl fun past s l r t hkept hturn =>
      Kept.turn (s := s.beginTurn) hkept hturn
  refine always_iff.2 fun pre e post hlog => always_iff.1 hlaw pre e post hlog fun e' he' => ?_
  have hmem : e' ∈ log := by
    rw [hlog]
    exact List.mem_append_left _ he'
  exact hchecked e' hmem

/-! ## A mismatch, and the retry after it -/

section Mismatch

/-- A server that knows the device under the given PIN. -/
def pinServer (pin : PINType) (commands : List (Command NoReports))
    (past : List (Moment NoReports)) : (m : Loop NoReports × Query NoReports) → m.2.Answer
  | (_, .get .registration _) => .ok ⟨pin⟩
  | m => scripted commands past m

/-- A first attempt, a control response, and a second attempt. -/
def twoAttempts : List (Command NoReports) :=
  [.wake, .sendControlResponse ⟨1, .eventReceived, "/rsps", 0⟩, .wake]

/-- With the PIN the server knows, the response is sent, and covered. -/
theorem pin_checked_of_startsChecked_matching :
    ∃ log : List (Moment NoReports), Log ourArgs log ∧
      log.any (fun e => e.question.2.sendsReport) = true ∧
      Always (PinChecked ourArgs) [] log := by
  obtain ⟨log, hlog, hsends, hchecked⟩ :
      ∃ log : List (Moment NoReports), Log ourArgs log ∧
      log.any (fun e => e.question.2.sendsReport) = true ∧
        ∀ e ∈ log, StartsChecked ourArgs e := by
    refine exists_log_of_turns (pinServer 111115 twoAttempts) 3 ?_
    decide +kernel
  exact ⟨log, hlog, hsends, pin_checked_of_startsChecked hlog hchecked⟩

/-- With another PIN the second attempt sends the response all the same. -/
theorem unchecked_after_mismatch :
    ¬ ∀ log : List (Moment NoReports), Log ourArgs log → Always (PinChecked ourArgs) [] log := by
  obtain ⟨log, hlog, hbroken⟩ :
      ∃ log : List (Moment NoReports), Log ourArgs log ∧ ¬ Always (PinChecked ourArgs) [] log := by
    refine exists_log_of_turns (pinServer 111116 twoAttempts) 3 ?_
    decide +kernel
  exact fun h => hbroken (h log hlog)

end Mismatch

end Sep2Bridge.Connection
