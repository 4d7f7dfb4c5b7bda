import Sep2Bridge.Connection.Broadcasts
import Sep2Bridge.Connection.Commands

/-!
# What ends the connection task

A request that fails, a resource that is missing or a PIN that differs only ends the turn: the task
goes on and tries again. What ends the task is a channel that is closed, or a server whose list of
devices has another device, or more than one.

**Theorem (`ends_iteration`).** From whatever state, a turn ends the task exactly if there is such
an answer among those it gets, and with the error that this answer stands for.
-/

namespace Sep2Bridge.Connection

open Lib Proc

variable {R : Reports} {args : Args} {s t : Loop R} {l : List (Moment R)} {r : Except Exit Unit}

/-! ## The answers that end the task -/

def Exit.isFatal : Exit → Bool
  | .again => false
  | .stop | .error _ => true

/-- Why the devices that the server lists are not just ours. An empty list is, as our device is then
registered. -/
def unexpected? (args : Args) (list : EndDeviceList) : Option Exit :=
  if list.all = 0 then none
  else if list.all = 1 then
    match list.endDevice with
    | [] => some (.error (.invalidInput "EndDeviceList is missing an item"))
    | device :: _ =>
      if device.lfdi = some args.deviceToRegister.lfdi then none
      else some (.error .unexpectedDevice)
  else some (.error .unexpectedDevice)

/-- The error that an answer ends an attempt with. -/
def ending? (args : Args) : Moment R → Option Exit
  | ⟨(_, .recv), none⟩ => some .stop
  | ⟨(_, .broadcast _), false⟩ => some (.error .channelClosed)
  | ⟨(_, .get .endDeviceList _), .ok list⟩ => unexpected? args list
  | _ => none

/-- A part of an attempt. -/
abbrev EndsBy {α : Type} (args : Args) (p : Task R α) : Prop := Ends (ending? args) Exit.isFatal p

/-! ## Connecting -/

theorem ends_lookupIfNone {α : Type} (resource : Loop R → Option α) {lookup : Task R Unit}
    (h : EndsBy args lookup) : EndsBy args (lookupIfNone resource lookup) :=
  ends_bind ends_get fun _ => ends_ite h (ends_pure _)

theorem ends_require {α : Type} (resource : Loop R → Option α) :
    EndsBy args (require resource) := by
  refine ends_bind ends_get fun s => ?_
  cases resource s with
  | some found => exact ends_pure _
  | none => exact ends_throw rfl

theorem ends_announceDcap (dcap : DeviceCapability) :
    EndsBy args (announceDcap dcap : Task R Unit) := by
  refine ends_ask_bind fun sent s l r t hrun => ?_
  cases sent with
  | true =>
    obtain ⟨rfl, rfl, -⟩ := runs_modify.1 hrun
    rfl
  | false =>
    obtain ⟨rfl, rfl, -⟩ := runs_throw.1 hrun
    rfl

theorem ends_ensureDcap : EndsBy args (ensureDcap args : Task R DeviceCapability) := by
  refine ends_bind (ends_lookupIfNone _ ?_) fun _ => ends_require _
  refine ends_bind (ends_modify _) fun _ => ends_bind ?_ fun dcap => ?_
  · refine ends_bind (ends_ask fun _ _ => rfl) fun response => ?_
    cases response <;> exact ends_pure _
  · refine ends_bind (ends_modify _) fun _ => ?_
    cases dcap with
    | none => exact ends_pure _
    | some dcap => exact ends_announceDcap dcap

theorem ends_edevLink (dcap : DeviceCapability) : EndsBy args (edevLink dcap : Task R Link) := by
  unfold edevLink
  cases dcap.endDeviceListLink with
  | some link => exact ends_pure _
  | none => exact ends_bind (ends_modify _) fun _ => ends_throw rfl

theorem ends_registerNewDevice (link : String) (device : SEDevice) :
    EndsBy args (registerNewDevice link device : Task R (Except Error EndDevice)) := by
  refine ends_bind (ends_ask fun _ _ => rfl) fun response => ?_
  rcases response with err | (_ | loc) | _
  · exact ends_pure _
  · exact ends_pure _
  · refine ends_bind (ends_ask fun _ _ => rfl) fun device => ?_
    cases device <;> exact ends_pure _
  · exact ends_pure _

/-- Here a list of devices ends the task. -/
theorem ends_ensureDeviceRegistered (edevUri : String) :
    EndsBy args (ensureDeviceRegistered args edevUri : Task R (Option EndDevice)) := by
  refine ends_ask_bind fun response s l r t hrun => ?_
  rcases response with err | list
  · obtain ⟨rfl, rfl, -⟩ := runs_pure.1 hrun
    rfl
  · dsimp only at hrun
    show (unexpected? args list).toList ++ _ = _
    unfold unexpected?
    by_cases hnone : list.all = 0
    · rw [if_pos hnone] at hrun ⊢
      refine ends_bind (ends_registerNewDevice _ _) (fun device => ?_) s l r t hrun
      cases device <;> exact ends_pure _
    · rw [if_neg hnone] at hrun ⊢
      by_cases hone : list.all = 1
      · rw [if_pos hone] at hrun ⊢
        cases hdevices : list.endDevice with
        | nil =>
          rw [hdevices] at hrun
          obtain ⟨rfl, rfl, -⟩ := runs_throw.1 hrun
          rfl
        | cons device rest =>
          rw [hdevices] at hrun
          by_cases hours : device.lfdi = some args.deviceToRegister.lfdi
          · dsimp only at hrun
            rw [if_neg (not_not_intro hours)] at hrun
            obtain ⟨rfl, rfl, -⟩ := runs_pure.1 hrun
            dsimp only
            rw [if_pos hours]
            rfl
          · dsimp only at hrun
            rw [if_pos hours] at hrun
            obtain ⟨rfl, rfl, -⟩ := runs_throw.1 hrun
            dsimp only
            rw [if_neg hours]
            rfl
      · rw [if_neg hone] at hrun ⊢
        obtain ⟨rfl, rfl, -⟩ := runs_throw.1 hrun
        rfl

theorem ends_ensureServerDevice (edevUri : String) :
    EndsBy args (ensureServerDevice args edevUri : Task R EndDevice) := by
  refine ends_bind (ends_lookupIfNone _ ?_) fun _ => ends_require _
  exact ends_bind (ends_ensureDeviceRegistered edevUri) fun _ => ends_modify _

theorem ends_checkRegistration (serverDevice : EndDevice) :
    EndsBy args (checkRegistration args serverDevice : Task R Unit) := by
  refine ends_bind ends_get fun s => ?_
  rcases s.serverRegistrationInfo, serverDevice.registrationLink, args.expectedPin with
    ⟨_ | reg, _ | regLink, _ | expectedPin⟩
  all_goals try exact ends_pure _
  refine ends_bind (ends_ask fun _ _ => rfl) fun response => ?_
  cases response with
  | error err => exact ends_throw rfl
  | ok regInfo => exact ends_bind (ends_modify _) fun _ => ends_ite (ends_throw rfl) (ends_pure _)

theorem ends_connect :
    EndsBy args (connect args : Task R (DeviceCapability × EndDevice)) := by
  refine ends_bind (ends_bind ends_ensureDcap fun dcap => ?_) fun found => ?_
  · refine ends_bind (ends_edevLink dcap) fun link => ?_
    exact ends_bind (ends_ensureServerDevice link.href) fun _ => ends_pure _
  · exact ends_bind (ends_checkRegistration found.2) fun _ => ends_pure _

/-! ## Sending -/

theorem ends_sendControlResponses (queue : List ControlResponse) :
    EndsBy args (sendControlResponses args queue : Task R Bool) := by
  induction queue with
  | nil => exact ends_pure _
  | cons response queue ih =>
    refine ends_bind (ends_modify _) fun _ => ends_bind (ends_ask fun _ _ => rfl) fun result => ?_
    exact ends_ite (ends_bind (ends_modify _) fun _ => ends_pure _) ih

theorem ends_ensureDer (serverDevice : EndDevice) :
    EndsBy args (ensureDer args serverDevice : Task R DER) := by
  refine ends_bind (ends_lookupIfNone _ (ends_bind ?_ fun _ => ends_modify _)) fun _ =>
    ends_require _
  unfold lookupDer
  cases serverDevice.derListLink with
  | none => exact ends_pure _
  | some link =>
    refine ends_bind (ends_ask fun _ _ => rfl) fun response => ?_
    rcases response with err | derlResponse
    · exact ends_pure _
    · dsimp only
      rcases derlResponse.der with _ | ⟨der, _ | ⟨_, _⟩⟩ <;> exact ends_pure _

theorem ends_isDue (lastSent : Option Nat) (postRate : Nat) :
    EndsBy args (isDue lastSent postRate : Task R Bool) := by
  unfold isDue
  cases lastSent with
  | none => exact ends_pure _
  | some time => exact ends_bind (ends_ask fun _ _ => rfl) fun _ => ends_pure _

theorem ends_sendReport (lastSent : Option Nat) (postRate : Nat) (report : Option (Document R))
    (link : Option Link) (sent : Nat → Loop R → Loop R) :
    EndsBy args (sendReport lastSent postRate report link sent) := by
  refine ends_bind (ends_isDue lastSent postRate) fun due => ends_ite ?_ (ends_pure _)
  rcases report, link with ⟨_ | document, _ | link⟩
  all_goals try exact ends_pure _
  refine ends_bind (ends_ask fun _ _ => rfl) fun response => ?_
  cases response with
  | error err => exact ends_throw rfl
  | ok _ => exact ends_bind (ends_ask fun _ _ => rfl) fun now => ends_modify _

theorem ends_lookupMup (muplHref : String) :
    EndsBy args (lookupMup args muplHref : Task R (Option MirrorUsagePoint)) := by
  refine ends_bind (ends_ask fun _ _ => rfl) fun response => ?_
  cases response <;> exact ends_pure _

theorem ends_ensureMup (muplHref : String) (reading : MirrorMeterReading) :
    EndsBy args (ensureMup args muplHref reading : Task R (Option String)) := by
  refine ends_bind (ends_lookupMup muplHref) fun mup => ?_
  rcases mup with _ | mup
  · refine ends_bind (ends_ask fun _ _ => rfl) fun mrid => ?_
    refine ends_bind (ends_ask fun _ _ => rfl) fun response => ?_
    rcases response with err | (_ | location) | _ <;> exact ends_pure _
  · dsimp only
    cases mup.href with
    | none => exact ends_pure _
    | some href =>
      refine ends_bind (ends_ask fun _ _ => rfl) fun response => ?_
      cases response <;> exact ends_pure _

theorem ends_sendReading (dcap : DeviceCapability) (reading : MirrorMeterReading) :
    EndsBy args (sendReading args dcap reading : Task R Bool) := by
  refine ends_bind ends_get fun s => ?_
  rcases s.mirrorUsagePoint, dcap.mirrorUsagePointListLink with ⟨_ | mup, _ | link⟩
  · exact ends_pure _
  · refine ends_bind (ends_ensureMup _ _) fun mup => ?_
    exact ends_bind (ends_modify _) fun _ => ends_pure _
  all_goals
    refine ends_bind (ends_ask fun _ _ => rfl) fun response => ?_
    cases response <;> exact ends_pure _

theorem ends_fillCache (dcap : DeviceCapability) :
    EndsBy args (fillCache args dcap : Task R Unit) := by
  refine ends_bind ends_get fun s => ends_ite ?_ (ends_pure _)
  refine ends_bind ?_ fun cache => ends_modify _
  unfold initialiseReadingMridCache
  cases dcap.mirrorUsagePointListLink with
  | none => exact ends_pure _
  | some link =>
    refine ends_bind (ends_lookupMup _) fun mup => ?_
    cases mup <;> exact ends_pure _

theorem ends_cachedMrid (key : CacheKey) :
    EndsBy args (cachedMrid key : Task R MRIDType) := by
  refine ends_bind ends_get fun s => ?_
  cases s.readingMridCache.get? key with
  | some mrid => exact ends_pure _
  | none =>
    refine ends_bind (ends_ask fun _ _ => rfl) fun mrid => ?_
    exact ends_bind (ends_modify _) fun _ => ends_pure _

theorem ends_sendReadings (dcap : DeviceCapability) (readings : List MirrorMeterReading) :
    EndsBy args (sendReadings args dcap readings : Task R Bool) := by
  induction readings with
  | nil => exact ends_pure _
  | cons reading readings ih =>
    unfold sendReadings
    cases readingKey reading with
    | none => exact ih
    | some key =>
      refine ends_bind (ends_cachedMrid key) fun mrid => ?_
      refine ends_bind (ends_sendReading dcap _) fun retry => ?_
      exact ends_ite (ends_pure _) ih

theorem ends_sendLatestMeterReadings (dcap : DeviceCapability) :
    EndsBy args (sendLatestMeterReadings args dcap : Task R Unit) := by
  refine ends_bind ends_get fun s => ?_
  cases s.latestMeterReadings with
  | none => exact ends_pure _
  | some readings =>
    refine ends_bind (ends_isDue _ _) fun due => ends_ite ?_ (ends_pure _)
    refine ends_bind (ends_bind (ends_fillCache dcap) fun _ => ends_sendReadings dcap readings)
      fun retry => ends_ite (ends_throw rfl) ?_
    exact ends_bind (ends_ask fun _ _ => rfl) fun now => ends_modify _

theorem ends_deliver (dcap : DeviceCapability) (serverDevice : EndDevice) :
    EndsBy args (deliver args dcap serverDevice : Task R Unit) := by
  refine ends_bind ends_get fun s => ends_bind (ends_sendControlResponses _) fun retry =>
    ends_ite (ends_throw rfl) ?_
  refine ends_bind (ends_ensureDer serverDevice) fun der => ?_
  refine ends_bind (ends_bind ends_get fun s => ends_sendReport _ _ _ _ _) fun _ => ?_
  refine ends_bind (ends_bind ends_get fun s => ends_sendReport _ _ _ _ _) fun _ => ?_
  refine ends_bind (ends_bind ends_get fun s => ends_sendReport _ _ _ _ _) fun _ => ?_
  exact ends_sendLatestMeterReadings dcap

theorem ends_attempt : EndsBy args (attempt args : Task R Unit) :=
  ends_bind (ends_modify _) fun _ => ends_bind ends_connect fun found =>
    ends_bind (ends_deliver found.1 found.2) fun _ => ends_modify _

/-! ## A turn -/

/-- A command about a poll is received. -/
def subscribes : Moment R → Bool
  | ⟨(_, .recv), some command⟩ => command.isSubscription
  | _ => false

/-- The errors that the answers in a turn stand for. What a poll is answered ends nothing. -/
def endings (args : Args) (l : List (Moment R)) : List Exit :=
  if l.any subscribes = true then [] else l.filterMap (ending? args)

theorem goesOn_iff : goesOn r = true ↔ fatalOf Exit.isFatal r = [] := by
  rcases r with (_ | _ | _) | _ <;> simp [goesOn, fatalOf, Exit.isFatal]

theorem endings_of_not_isSubscription {command : Command R}
    (hsub : command.isSubscription = false) (hl : ∀ e ∈ l, e.question.2.isRecv = false) :
    endings args (⟨(s, .recv), some command⟩ :: l) = l.filterMap (ending? args) := by
  have hsilent : (⟨(s, .recv), some command⟩ :: l).any subscribes = false := by
    refine List.any_eq_false.2 fun e he hsubscribes => ?_
    rcases List.mem_cons.1 he with rfl | he
    · exact absurd (hsub.symm.trans hsubscribes) Bool.false_ne_true
    · have hrecv := hl e he
      obtain ⟨⟨u, q⟩, answer⟩ := e
      cases q with
      | recv => cases hrecv
      | _ => cases hsubscribes
  rw [endings, hsilent, if_neg Bool.false_ne_true]
  rfl

theorem endings_of_isSubscription {command : Command R} (hsub : command.isSubscription = true) :
    endings args (⟨(s, .recv), some command⟩ :: l) = [] := by
  have hsubscribes : subscribes (⟨(s, .recv), some command⟩ : Moment R) = true := hsub
  exact if_pos (List.any_eq_true.2 ⟨_, List.mem_cons_self, hsubscribes⟩)

variable [DecidableEq R.DERCapability]

theorem endings_eq (h : Runs (iteration args) s l r t) :
    endings args l = fatalOf Exit.isFatal r := by
  have hturn := turn_of_runs h
  have hsubscription {command : Command R} {l : List (Moment R)}
      (hsub : command.isSubscription = true)
      (hturn : Turn args s.beginTurn (⟨(s.beginTurn, .recv), some command⟩ :: l) r t) :
      endings args (⟨(s.beginTurn, .recv), some command⟩ :: l) = fatalOf Exit.isFatal r := by
    obtain ⟨rfl, -⟩ := fetches_subscription hsub hturn []
    exact endings_of_isSubscription hsub
  cases hturn with
  | closed => rfl
  | subscribes hrun => exact hsubscription rfl (.subscribes hrun)
  | unsubscribes hrun => exact hsubscription rfl (.unsubscribes hrun)
  | waits hsub =>
    exact endings_of_not_isSubscription hsub fun e he => absurd he List.not_mem_nil
  | attempts hattempts hrun =>
    rw [endings_of_not_isSubscription hattempts.1 (turn_of_command (.attempts hattempts hrun)).1]
    exact ends_attempt _ _ _ _ hrun

/-- **What ends the task.** -/
theorem ends_iteration (h : Runs (iteration args) s l r t) :
    (goesOn r = true ↔ endings args l = []) ∧
      ∀ exit, exit.isFatal = true → (r = .error exit ↔ exit ∈ endings args l) := by
  rw [endings_eq h]
  refine ⟨goesOn_iff, fun exit hfatal => ?_⟩
  rcases r with e | _
  · by_cases he : e.isFatal = true
    · simp [fatalOf, he, eq_comm]
    · have hne : e ≠ exit := by
        rintro rfl
        exact he hfatal
      simp [fatalOf, he, hne]
  · simp [fatalOf]

/-! ## Two devices -/

/-- A server that lists two devices. -/
def crowded (past : List (Moment NoReports)) : (m : Loop NoReports × Query NoReports) → m.2.Answer
  | (_, .get .deviceCapability _) => .ok { endDeviceListLink := some ⟨"/edev"⟩ }
  | (_, .get .endDeviceList _) => .ok { all := 2, endDevice := [ourDevice, {}] }
  | m => unreachable [.wake] past m

theorem ends_iteration_crowded : ∃ (l : List (Moment NoReports)) (r : Except Exit Unit)
    (t : Loop NoReports), Runs (iteration ourArgs) {} l r t ∧
      endings ourArgs l = [.error .unexpectedDevice] ∧
      (goesOn r = true ↔ endings ourArgs l = []) ∧
        ∀ exit, exit.isFatal = true → (r = .error exit ↔ exit ∈ endings ourArgs l) := by
  let turn := ((iteration (R := NoReports) ourArgs).run.run {}).exec crowded []
  have hrun : Runs (iteration (R := NoReports) ourArgs) {} turn.1 turn.2.1 turn.2.2 :=
    Interaction.runs_exec _ _ _
  have hending : endings ourArgs turn.1 = [.error .unexpectedDevice] := by
    decide +kernel
  exact ⟨_, _, _, hrun, hending, ends_iteration hrun⟩

end Sep2Bridge.Connection
