import Sep2Bridge.Connection.Endings

/-!
# The watch on the dcap

The task shares the dcap that it fetches with a poll, which asks for a reset when the server has
another one. A reset drops all that is known from the dcap.

**Theorem (`dcap_watched`).** After any number of turns, the poll asks for a reset exactly when the
dcap of the server is not the one that the task goes by. The turn that takes in a reset asks for the
dcap first, and goes by the answer or by none.
-/

namespace Sep2Bridge.Connection

open Lib Proc

variable {R : Reports} {args : Args} {s t u : Loop R} {l log : List (Moment R)}
  {r : Except Exit Unit} {α β : Type}

/-- `dcap_polling`, when it is time: what it broadcasts, and what it tells the task. A request that
fails is reported to the metrics only. -/
def dcapPolling (knownDcap : DeviceCapability) :
    ClientResult DeviceCapability → List Sep2ResourceEvent × List (Command R)
  | .ok dcap =>
    ([.deviceCapability dcap], if knownDcap ≠ dcap then [.resetConnection] else [])
  | .error _ => ([], [])

/-- The poll that runs, if one does. -/
def Loop.dcapPolling (s : Loop R) (result : ClientResult DeviceCapability) :
    List Sep2ResourceEvent × List (Command R) :=
  s.dcapPollHandle.elim ([], []) fun knownDcap => Connection.dcapPolling knownDcap result

/-! ## What the task knows of the dcap -/

/-- The dcap that the task goes by, and the one that its poll knows. -/
def Loop.dcapKnown (s : Loop R) : Option DeviceCapability × Option DeviceCapability :=
  (s.dcapOption, s.dcapPollHandle)

/-- The dcap that the task goes by is the one that its poll knows. -/
def Watched (s : Loop R) : Prop :=
  ∀ dcap, s.dcapOption = some dcap → s.dcapPollHandle = some dcap

/-- The task goes by the dcap of this response, if by any, and watches it. -/
def GoesBy (response : ClientResult DeviceCapability) (s : Loop R) : Prop :=
  ∀ dcap, s.dcapOption = some dcap → response = .ok dcap ∧ s.dcapPollHandle = some dcap

/-- All that is known of the dcap stays, or the dcap is dropped. -/
def Stays (s t : Loop R) : Prop := t.dcapKnown = s.dcapKnown ∨ t.dcapOption = none

theorem Stays.trans (h₁ : Stays s t) (h₂ : Stays t u) : Stays s u := by
  rcases h₂ with h₂ | h₂
  · rcases h₁ with h₁ | h₁
    · exact .inl (h₂.trans h₁)
    · exact .inr ((Prod.mk.inj h₂).1.trans h₁)
  · exact .inr h₂

theorem Stays.watched (h : Stays s t) (hs : Watched s) : Watched t := by
  intro dcap hdcap
  rcases h with h | h
  · obtain ⟨hoption, hhandle⟩ := Prod.mk.inj h
    rw [hhandle]
    exact hs dcap (hoption ▸ hdcap)
  · rw [h] at hdcap
    cases hdcap

theorem Stays.goesBy {response : ClientResult DeviceCapability} (h : Stays s t)
    (hs : GoesBy response s) : GoesBy response t := by
  intro dcap hdcap
  rcases h with h | h
  · obtain ⟨hoption, hhandle⟩ := Prod.mk.inj h
    rw [hhandle]
    exact hs dcap (hoption ▸ hdcap)
  · rw [h] at hdcap
    cases hdcap

/-- A part that fetches no dcap. -/
def LeavesDcap (p : Task R α) : Prop := ∀ s l r t, Runs p s l r t → Stays s t

/-- The dcap is fetched first, if none is known. -/
def Fetched (args : Args) (s : Loop R) (l : List (Moment R)) (t : Loop R) : Prop :=
  ∃ u response l', l = ⟨(u, .get .deviceCapability args.dcapUri), response⟩ :: l' ∧
    u.dcapOption = s.dcapOption ∧ GoesBy response t

/-- A part that fetches the dcap if none is known, and else fetches none. -/
def FetchesDcap (args : Args) (p : Task R α) : Prop :=
  ∀ s l r t, Runs p s l r t → fatalOf Exit.isFatal r = [] →
    if s.dcapOption = none then Fetched args s l t else Stays s t

theorem leavesDcap_of_keeps {p : Task R α} (h : Keeps Loop.dcapKnown (fun _ => True) p) :
    LeavesDcap p := fun s l r t hrun => .inl (h s l r t hrun).2

theorem leavesDcap_bind {p : Task R α} {f : α → Task R β} (hp : LeavesDcap p)
    (hf : ∀ a, LeavesDcap (f a)) : LeavesDcap (p >>= f) := by
  intro s l r t hrun
  rcases runs_bind.1 hrun with ⟨e, h, -⟩ | ⟨l₁, l₂, a, u, -, h₁, h₂⟩
  · exact hp s l _ t h
  · exact (hp s l₁ _ u h₁).trans (hf a u l₂ r t h₂)

theorem fetchesDcap_bind {p : Task R α} {f : α → Task R β} (hp : FetchesDcap args p)
    (hf : ∀ a, LeavesDcap (f a)) : FetchesDcap args (p >>= f) := by
  intro s l r t hrun hr
  rcases runs_bind.1 hrun with ⟨e, h, rfl⟩ | ⟨l₁, l₂, a, u, rfl, h₁, h₂⟩
  · exact hp s l _ t h hr
  · have hstays := hf a u l₂ r t h₂
    have hfirst := hp s l₁ _ u h₁ rfl
    split_ifs at hfirst ⊢ with hnone
    · obtain ⟨v, response, l', rfl, hv, hu⟩ := hfirst
      exact ⟨v, response, l' ++ l₂, rfl, hv, hstays.goesBy hu⟩
    · exact hfirst.trans hstays

/-! ## The parts of an attempt -/

/-- A dcap that is fetched is watched, since the task ends otherwise. -/
theorem fetched_of_refetchDcap (hrun : Runs (refetchDcap args) s l r t)
    (hr : fatalOf Exit.isFatal r = []) : Fetched args s l t := by
  rcases runs_bind.1 (runs_modify_bind.1 hrun) with
    ⟨e, h, -⟩ | ⟨l₁, l₂, dcap, u, rfl, hget, hrest⟩
  · obtain ⟨response, l', -, h⟩ := runs_ask_bind.1 h
    cases response <;> · obtain ⟨-, h, -⟩ := runs_pure.1 h; cases h
  · obtain ⟨response, l', rfl, h⟩ := runs_ask_bind.1 hget
    refine ⟨_, response, l' ++ l₂, rfl, rfl, ?_⟩
    have hrest := runs_modify_bind.1 hrest
    cases response with
    | error err =>
      obtain ⟨-, hdcap, rfl⟩ := runs_pure.1 h
      cases hdcap
      obtain ⟨-, -, rfl⟩ := runs_pure.1 hrest
      exact fun dcap hdcap => by cases hdcap
    | ok response =>
      obtain ⟨-, hdcap, rfl⟩ := runs_pure.1 h
      cases hdcap
      obtain ⟨sent, l, -, hsent⟩ := runs_ask_bind.1 hrest
      cases sent with
      | true =>
        obtain ⟨-, -, rfl⟩ := runs_modify.1 hsent
        intro dcap hdcap
        cases hdcap
        exact ⟨rfl, rfl⟩
      | false =>
        obtain ⟨-, rfl, -⟩ := runs_throw.1 hsent
        cases hr

theorem fetchesDcap_ensureDcap :
    FetchesDcap args (ensureDcap args : Task R DeviceCapability) := by
  refine fetchesDcap_bind (fun s l r t hrun hr => ?_) fun _ =>
    leavesDcap_of_keeps (keeps_require _)
  have hrun := runs_get_bind.1 hrun
  by_cases hnone : s.dcapOption = none
  · rw [if_pos (Option.isNone_iff_eq_none.2 hnone)] at hrun
    rw [if_pos hnone]
    exact fetched_of_refetchDcap hrun hr
  · rw [if_neg (mt Option.isNone_iff_eq_none.1 hnone)] at hrun
    obtain ⟨-, -, rfl⟩ := runs_pure.1 hrun
    rw [if_neg hnone]
    exact .inl rfl

/-- Without the link to the devices the task no longer goes by the dcap. -/
theorem leavesDcap_edevLink (dcap : DeviceCapability) :
    LeavesDcap (edevLink dcap : Task R Link) := by
  unfold edevLink
  cases dcap.endDeviceListLink with
  | some link => exact leavesDcap_of_keeps (keeps_pure _)
  | none =>
    refine leavesDcap_bind (fun s l r t hrun => ?_) fun _ => leavesDcap_of_keeps (keeps_throw _)
    obtain ⟨-, -, rfl⟩ := runs_modify.1 hrun
    exact .inr rfl

theorem fetchesDcap_connect :
    FetchesDcap args (connect args : Task R (DeviceCapability × EndDevice)) := by
  refine fetchesDcap_bind (fetchesDcap_bind fetchesDcap_ensureDcap fun dcap =>
    leavesDcap_bind (leavesDcap_edevLink dcap) fun link => leavesDcap_bind ?_ fun _ =>
      leavesDcap_of_keeps (keeps_pure _)) fun found => leavesDcap_bind ?_ fun _ =>
        leavesDcap_of_keeps (keeps_pure _)
  · exact leavesDcap_of_keeps ((keeps_ensureServerDevice args link.href).weaken
      Loop.dcapKnown (fun _ => rfl) fun _ _ => trivial)
  · exact leavesDcap_of_keeps ((keeps_checkRegistration args found.2).weaken
      Loop.dcapKnown (fun _ => rfl) fun _ _ => trivial)

theorem fetchesDcap_attempt (hrun : Runs (attempt args) s l r t)
    (hr : fatalOf Exit.isFatal r = []) :
    if s.dcapOption = none then Fetched args s l t else Stays s t := by
  have hfetches : FetchesDcap args (connect args >>= fun found =>
      deliver args found.1 found.2 >>= fun _ => (modify Loop.endAttempt : Task R Unit)) := by
    refine fetchesDcap_bind fetchesDcap_connect fun found => leavesDcap_bind ?_ fun _ =>
      leavesDcap_of_keeps (keeps_modify fun _ => rfl)
    exact leavesDcap_of_keeps ((keeps_deliver args found.1 found.2).weaken
      Loop.dcapKnown (fun _ => rfl) fun _ _ => trivial)
  exact hfetches s.beginAttempt l r t (runs_modify_bind.1 hrun) hr

/-! ## Turns -/

variable [DecidableEq R.DERCapability]

theorem stays_take (s : Loop R) (command : Command R) : Stays s (s.take command) := by
  cases command with
  | resetConnection => exact .inr rfl
  | sendDeviceCapability capabilities =>
    simp only [Loop.take]
    split_ifs <;> exact .inl rfl
  | _ => exact .inl rfl

theorem Watched.turn (hs : Watched s) (h : Turn args s l r t) (hr : fatalOf Exit.isFatal r = []) :
    Watched t := by
  have hpolls {p : Task R Unit} {l : List (Moment R)}
      (hp : Keeps Loop.exceptPolls (fun q => q.isPolling = true) p)
      (hrun : Runs (p >>= fun _ => throw .again : Task R Unit) s l r t) : Watched t := by
    have hkeeps := leavesDcap_bind (leavesDcap_of_keeps (hp.weaken Loop.dcapKnown (fun _ => rfl)
      fun _ _ => trivial)) fun _ => leavesDcap_of_keeps (keeps_throw (α := Unit) Exit.again)
    exact (hkeeps s l r t hrun).watched hs
  cases h with
  | closed => exact hs
  | subscribes hrun => exact hpolls (keeps_subscribeToResource args _ _ _) hrun
  | unsubscribes hrun => exact hpolls (keeps_unsubscribeFromResource _) hrun
  | waits => exact (stays_take s _).watched hs
  | @attempts command l r t _ hrun =>
    have hattempt := fetchesDcap_attempt hrun hr
    split_ifs at hattempt
    · obtain ⟨u, response, l', hl, hu, ht⟩ := hattempt
      exact fun dcap hdcap => (ht dcap hdcap).2
    · exact ((stays_take s command).trans hattempt).watched hs

theorem watched_of_iterates (h : Iterates (iteration args) goesOn {} log t) : Watched t := by
  induction h with
  | start => exact fun dcap hdcap => by cases hdcap
  | @turn s t l l' r _ hrun hgoes ih =>
    have hs : Watched s.beginTurn := ih
    exact hs.turn (turn_of_runs hrun) (goesOn_iff.1 hgoes)

/-- **The dcap is watched.** -/
theorem dcap_watched (h : Iterates (iteration args) goesOn {} log t) :
    (∀ known result, t.dcapOption = some known → (.resetConnection ∈ (t.dcapPolling result).2 ↔
      ∃ dcap, result = .ok dcap ∧ dcap ≠ known)) ∧
    ∀ s l r u, Runs (iteration args) t (⟨(s, .recv), some .resetConnection⟩ :: l) r u →
      goesOn r = true → ∃ v response l',
        l = ⟨(v, .get .deviceCapability args.dcapUri), response⟩ :: l' ∧
          v.dcapOption = none ∧ GoesBy response u := by
  refine ⟨fun known result hknown => ?_, fun s l r u hrun hgoes => ?_⟩
  · rw [Loop.dcapPolling, watched_of_iterates h known hknown, Option.elim_some]
    cases result with
    | error err => simp [dcapPolling]
    | ok dcap =>
      by_cases hne : known = dcap
      · simp [dcapPolling, hne]
      · simp [dcapPolling, hne, Ne.symm hne]
  · cases turn_of_runs hrun with
    | waits hsub hwaits => exact absurd ⟨rfl, fun _ => rfl⟩ hwaits
    | attempts hattempts hattempt =>
      have hfetch := fetchesDcap_attempt hattempt (goesOn_iff.1 hgoes)
      have hnone : (t.beginTurn.take .resetConnection).dcapOption = none := rfl
      rw [if_pos hnone] at hfetch
      obtain ⟨v, response, l', hl, hv, hu⟩ := hfetch
      exact ⟨v, response, l', hl, hv, hu⟩

/-! ## A reset while the server is down -/

/-- A reset is asked for, and then the dcap can no longer be fetched. -/
def unplugged (past : List (Moment NoReports)) :
    (m : Loop NoReports × Query NoReports) → m.2.Answer
  | (_, .recv) => some .resetConnection
  | m => unreachable [] past m

theorem dcap_watched_reset : ∃ log t known, Iterates (iteration (R := NoReports) ourArgs) goesOn {}
    log t ∧ t.dcapOption = some known ∧ (∃ s l r u, Runs (iteration ourArgs) t
      (⟨(s, .recv), some .resetConnection⟩ :: l) r u ∧ goesOn r = true) ∧
    .resetConnection ∈ (t.dcapPolling (.ok { known with
      others := ("ResponseSetListLink", "/rsps") :: known.others })).2 ∧
    (∀ known result, t.dcapOption = some known → (.resetConnection ∈ (t.dcapPolling result).2 ↔
      ∃ dcap, result = .ok dcap ∧ dcap ≠ known)) ∧
    ∀ s l r u, Runs (iteration ourArgs) t (⟨(s, .recv), some .resetConnection⟩ :: l) r u →
      goesOn r = true → ∃ v response l',
        l = ⟨(v, .get .deviceCapability ourArgs.dcapUri), response⟩ :: l' ∧
          v.dcapOption = none ∧ GoesBy response u := by
  have hturn : (execTurns (scripted [.wake]) (iteration ourArgs) goesOn {} 1).any (fun out =>
      out.2.dcapOption.isSome &&
        goesOn (((iteration (R := NoReports) ourArgs).run.run out.2).exec unplugged out.1).2.1) =
        true := by
    decide +kernel
  obtain ⟨⟨log, t⟩, hturns, h⟩ := (Option.any_eq_true _ _).1 hturn
  obtain ⟨hknown, hgoes⟩ := Bool.and_eq_true_iff.1 h
  obtain ⟨known, hknown⟩ := Option.isSome_iff_exists.1 hknown
  have hlog := iterates_execTurns hturns
  have hrun : Runs (iteration (R := NoReports) ourArgs) t _ _ _ :=
    Interaction.runs_exec unplugged _ log
  have hother : ({ known with others := ("ResponseSetListLink", "/rsps") :: known.others } :
      DeviceCapability) ≠ known := fun h =>
    List.cons_ne_self _ _ (congrArg DeviceCapability.others h)
  exact ⟨log, t, known, hlog, hknown, ⟨_, _, _, _, hrun, hgoes⟩,
    ((dcap_watched hlog).1 known _ hknown).2 ⟨_, rfl, hother⟩, dcap_watched hlog⟩

end Sep2Bridge.Connection
