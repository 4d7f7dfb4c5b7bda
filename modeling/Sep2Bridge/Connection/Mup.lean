import Mathlib.Data.List.Induction
import Sep2Bridge.Connection.Turn

/-!
# The registration of the `MirrorUsagePoint`

A client without a `MirrorUsagePoint` looks for its own in the server's list, and creates one if
there is none. `lookup_mup` answers `None` both when the list has none for us and when the list
could not be read, so a failed lookup creates a second one.

`mup_created_once` is the law of every run in which no such lookup fails: one is created only when
the list was just read and has none, and so a server that keeps them never holds two.
`mup_created_twice` is a run with one failed lookup, after a reset.
-/

namespace Sep2Bridge.Connection

open Lib Proc

variable {R : Reports} {args : Args}

/-! ## The law -/

/-- The `MirrorUsagePoint` that is created at a moment. -/
def postedMup? : Moment R → Option MirrorUsagePoint
  | ⟨(_, .post _ (.mirrorUsagePoint mup)), _⟩ => some mup
  | _ => none

/-- The list that is read at a moment. -/
def readMupl? : Moment R → Option MirrorUsagePointList
  | ⟨(_, .get .mirrorUsagePointList _), .ok mupl⟩ => some mupl
  | _ => none

/-- The last request to the server. -/
def lastRequest? (past : List (Moment R)) : Option (Moment R) :=
  past.reverse.find? fun e => e.question.2.isRequest

/-- A `MirrorUsagePoint` is created for ourselves, when the server's list was just read and has
none for us. -/
def MupChecked (args : Args) (past : List (Moment R)) (e : Moment R) : Prop :=
  ∀ mup ∈ postedMup? e, mup.deviceLfdi = args.deviceToRegister.lfdi ∧
    ∃ mupl ∈ (lastRequest? past).bind readMupl?,
      ∀ known ∈ mupl.mirrorUsagePoint, known.deviceLfdi ≠ args.deviceToRegister.lfdi

/-- The last command received. -/
def lastCommand? (past : List (Moment R)) : Option (Command R) :=
  (past.filterMap received?).getLast?.map Prod.snd

/-- An attempt reads the list with the cache of the mRIDs filled: it is looking for its own
`MirrorUsagePoint`. -/
def looksUp (past : List (Moment R)) (e : Moment R) : Bool :=
  e.question.2.gets .mirrorUsagePointList && !e.question.1.readingMridCache.entries.isEmpty &&
    (lastCommand? past).any fun command => !command.isSubscription

/-- The lookup, if this is one, succeeds. -/
def LookupSucceeds (past : List (Moment R)) (e : Moment R) : Prop :=
  looksUp past e = true → (readMupl? e).isSome = true

instance (past : List (Moment R)) : DecidablePred (LookupSucceeds past) := fun _ =>
  inferInstanceAs (Decidable (_ = true → _ = true))

section Server

variable (stored : List (Moment R) → Moment R → Bool)

/-- The `MirrorUsagePoint`s the client has created, those the server stored: it may store one and
fail to say so. -/
def created : List (Moment R) → List (Moment R) → List MirrorUsagePoint
  | _, [] => []
  | past, e :: l =>
    (if stored past e = true then (postedMup? e).toList else []) ++ created (past ++ [e]) l

/-- The list contains all that were created before. -/
def ReturnsAll (past : List (Moment R)) (e : Moment R) : Prop :=
  ∀ mupl ∈ readMupl? e, ∀ mup ∈ created stored [] past,
    ∃ known ∈ mupl.mirrorUsagePoint, known.mrid = mup.mrid ∧ known.deviceLfdi = mup.deviceLfdi

instance (past : List (Moment R)) : DecidablePred (ReturnsAll stored past) := fun e =>
  inferInstanceAs (Decidable (∀ mupl ∈ readMupl? e, ∀ mup ∈ created stored [] past,
    ∃ known ∈ mupl.mirrorUsagePoint, _ ∧ _))

theorem created_append (past l l' : List (Moment R)) :
    created stored past (l ++ l') = created stored past l ++ created stored (past ++ l) l' := by
  induction l generalizing past with
  | nil => rw [List.append_nil]; rfl
  | cons e l ih => rw [List.cons_append, created, created, ih, List.append_assoc, List.append_assoc,
      List.singleton_append]

theorem created_eq_nil {past l : List (Moment R)} (h : ∀ e ∈ l, postedMup? e = none) :
    created stored past l = [] := by
  induction l generalizing past with
  | nil => rfl
  | cons e l ih =>
    rw [created, h e (by simp), ih fun e he => h e (by simp [he])]
    split_ifs <;> rfl

theorem mem_created {past l : List (Moment R)} {mup : MirrorUsagePoint}
    (h : mup ∈ created stored past l) : ∃ pre e post,
      l = pre ++ e :: post ∧ mup ∈ postedMup? e := by
  induction l generalizing past with
  | nil => cases h
  | cons e l ih =>
    rcases List.mem_append.1 h with h | h
    · split_ifs at h
      · exact ⟨[], e, l, rfl, Option.mem_toList.1 h⟩
      · cases h
    · obtain ⟨pre, e', post, rfl, he'⟩ := ih h
      exact ⟨e :: pre, e', post, rfl, he'⟩

end Server

/-! ## Attempts -/

/-- The law, for a log in which no lookup failed. -/
def MupLaw (args : Args) (past : List (Moment R)) (e : Moment R) : Prop :=
  Always LookupSucceeds [] past → MupChecked args past e

/-- The last command received was not a subscription. -/
def InAttempt (past : List (Moment R)) : Prop :=
  (lastCommand? past).any (fun command => !command.isSubscription) = true

/-- Neither a receive nor the creation of a `MirrorUsagePoint`. -/
def IsPlain (q : Query R) : Prop :=
  q.isRecv = false ∧ ∀ href mup, q ≠ .post href (.mirrorUsagePoint mup)

theorem postedMup?_of_isPlain {e : Moment R} (h : IsPlain e.question.2) : postedMup? e = none := by
  obtain ⟨⟨s, q⟩, answer⟩ := e
  cases q with
  | post href document =>
    cases document with
    | mirrorUsagePoint mup => exact absurd rfl (h.2 href mup)
    | _ => rfl
  | _ => rfl

theorem received?_of_isPlain {e : Moment R} (h : IsPlain e.question.2) : received? e = none := by
  obtain ⟨⟨s, q⟩, answer⟩ := e
  cases q with
  | recv => cases h.1
  | _ => rfl

theorem mupLaw_of_isPlain {past : List (Moment R)} {e : Moment R} (h : IsPlain e.question.2) :
    MupLaw args past e := by
  intro _ mup hmup
  rw [postedMup?_of_isPlain h] at hmup
  cases hmup

theorem InAttempt.concat {past : List (Moment R)} {e : Moment R} (h : InAttempt past)
    (he : received? e = none) : InAttempt (past ++ [e]) := by
  unfold InAttempt lastCommand?
  rw [List.filterMap_append, List.filterMap_cons_none he, List.filterMap_nil, List.append_nil]
  exact h

theorem inAttempt_recv {past : List (Moment R)} {s : Loop R} {command : Command R}
    (h : command.isSubscription = false) : InAttempt (past ++ [⟨(s, .recv), some command⟩]) := by
  have hlast : lastCommand? (past ++ [⟨(s, .recv), some command⟩]) = some command := by
    unfold lastCommand?
    rw [List.filterMap_append]
    show (List.filterMap received? past ++ [(s, command)]).getLast?.map Prod.snd = some command
    rw [List.getLast?_concat]
    rfl
  unfold InAttempt
  rw [hlast, Option.any_some, h]
  rfl

section Parts

variable {past : List (Moment R)} {s : Loop R} {α : Type}

/-- What an attempt does besides looking up its `MirrorUsagePoint`. -/
theorem wp_plain {p : Task R α} (h : Keeps (fun _ => ()) IsPlain p) (hpast : InAttempt past) :
    Wp (MupLaw args) p (fun _ past _ => InAttempt past) past s :=
  h.wp (I := fun past _ => InAttempt past) hpast fun _ _ hpast _ he =>
    ⟨mupLaw_of_isPlain he, hpast.concat (received?_of_isPlain he)⟩

theorem plain_lookupMup (args : Args) (muplHref : String) :
    Keeps (fun _ => ()) IsPlain (lookupMup (R := R) args muplHref) := by
  refine keeps_bind (keeps_ask ⟨rfl, nofun⟩) fun response => ?_
  cases response <;> exact keeps_pure _

/-- The list was just read, if it could be read at all, and has none for us. -/
def NoneKnown (args : Args) (past : List (Moment R)) : Prop :=
  Always LookupSucceeds [] past → ∃ mupl ∈ (lastRequest? past).bind readMupl?,
    ∀ known ∈ mupl.mirrorUsagePoint, known.deviceLfdi ≠ args.deviceToRegister.lfdi

theorem lastRequest?_concat (past : List (Moment R)) (e : Moment R) :
    lastRequest? (past ++ [e]) =
      if e.question.2.isRequest = true then some e else lastRequest? past := by
  unfold lastRequest?
  rw [List.reverse_append, List.reverse_singleton, List.singleton_append, List.find?_cons]
  cases e.question.2.isRequest <;> rfl

theorem wp_registerMup (muplHref : String) (reading : MirrorMeterReading) (hpast : InAttempt past)
    (hnone : NoneKnown args past) :
    Wp (MupLaw args) (registerMup args muplHref reading) (fun _ past _ => InAttempt past)
      past s := by
  refine wp_ask_bind fun mrid => ⟨mupLaw_of_isPlain ⟨rfl, nofun⟩, ?_⟩
  refine wp_ask_bind fun response => ⟨fun hlookups mup hmup => ?_, ?_⟩
  · cases hmup
    refine ⟨rfl, ?_⟩
    rw [lastRequest?_concat]
    exact hnone (always_append.1 hlookups).1
  · have hpast' := (hpast.concat (e := ⟨(s, .mridGen), mrid⟩) rfl).concat
      (e := ⟨(s, .post muplHref (.mirrorUsagePoint _)), response⟩) rfl
    rcases response with err | (_ | location) | _ <;> exact wp_pure hpast'

/-- One is created only after a successful lookup that found none. -/
theorem wp_ensureMup (muplHref : String) (reading : MirrorMeterReading) (hpast : InAttempt past)
    (hcache : s.readingMridCache.entries.isEmpty = false) :
    Wp (MupLaw args) (ensureMup args muplHref reading) (fun _ past _ => InAttempt past) past s := by
  let uri := paginatedUri muplHref args.maxListSize
  -- the lookup, with its answer: a failed one and one that finds none give the same result
  have hlookup : Wp (MupLaw args) (lookupMup args muplHref) (fun r past' _ =>
      ∃ answer, past' = past ++ [⟨(s, .get .mirrorUsagePointList uri), answer⟩] ∧
        (r = .ok none → ∀ mupl, answer = .ok mupl →
          ∀ known ∈ mupl.mirrorUsagePoint, known.deviceLfdi ≠ args.deviceToRegister.lfdi))
      past s := by
    refine wp_ask_bind fun answer => ⟨mupLaw_of_isPlain ⟨rfl, nofun⟩, ?_⟩
    cases answer with
    | error err => exact wp_pure ⟨.error err, rfl, nofun⟩
    | ok mupl =>
      refine wp_pure ⟨.ok mupl, rfl, fun hfind mupl' hmupl' known hknown => ?_⟩
      cases hmupl'
      have hnone := List.find?_eq_none.1 (Except.ok.inj hfind) known hknown
      simpa using hnone
  refine wp_bind hlookup (fun found past' s' h => ?_) fun e past' s' h => ?_
  · obtain ⟨answer, rfl, hanswer⟩ := h
    have hpast' := hpast.concat (e := ⟨(s, .get .mirrorUsagePointList uri), answer⟩) rfl
    cases found with
    | none =>
      refine wp_registerMup muplHref reading hpast' fun hlookups => ?_
      have hsucceeds : LookupSucceeds past ⟨(s, .get .mirrorUsagePointList uri), answer⟩ :=
        (always_append.1 hlookups).2.1
      have hlooks : looksUp past ⟨(s, .get .mirrorUsagePointList uri), answer⟩ = true := by
        show (true && !s.readingMridCache.entries.isEmpty && _) = true
        rw [hcache]
        exact hpast
      rw [lastRequest?_concat]
      cases answer with
      | error err => cases hsucceeds hlooks
      | ok mupl => exact ⟨mupl, rfl, hanswer rfl mupl rfl⟩
    | some mup =>
      dsimp only
      cases mup.href with
      | none => exact wp_pure hpast'
      | some href =>
        refine wp_ask_bind fun response => ⟨mupLaw_of_isPlain ⟨rfl, nofun⟩, ?_⟩
        have hpast'' := hpast'.concat
          (e := ⟨(s', .post href (.mirrorMeterReading reading)), response⟩) rfl
        cases response <;> exact wp_pure hpast''
  · obtain ⟨answer, rfl, -⟩ := h
    exact hpast.concat rfl

/-- Before a reading is sent its key is in the cache. -/
theorem wp_cachedMrid (key : CacheKey) (hpast : InAttempt past) :
    Wp (MupLaw args) (cachedMrid key) (fun _ past s =>
      InAttempt past ∧ s.readingMridCache.entries.isEmpty = false) past s := by
  refine wp_get_bind ?_
  cases hkey : s.readingMridCache.get? key with
  | some mrid =>
    refine wp_pure ⟨hpast, ?_⟩
    have hmem := List.ne_nil_of_mem (HashMap.mem_entries_iff.2 hkey)
    simpa using hmem
  | none =>
    refine wp_ask_bind fun mrid => ⟨mupLaw_of_isPlain ⟨rfl, nofun⟩, wp_modify_bind ?_⟩
    refine wp_pure ⟨hpast.concat rfl, ?_⟩
    have hmem := List.ne_nil_of_mem
      (HashMap.mem_entries_iff.2 (HashMap.get?_insert_self s.readingMridCache key mrid))
    simpa using hmem

theorem wp_sendReading (dcap : DeviceCapability) (reading : MirrorMeterReading)
    (hpast : InAttempt past) (hcache : s.readingMridCache.entries.isEmpty = false) :
    Wp (MupLaw args) (sendReading args dcap reading) (fun _ past _ => InAttempt past) past s := by
  refine wp_get_bind ?_
  cases s.mirrorUsagePoint with
  | some mup =>
    refine wp_ask_bind fun response => ⟨mupLaw_of_isPlain ⟨rfl, nofun⟩, ?_⟩
    have hpast' := hpast.concat (e := ⟨(s, .post mup (.mirrorMeterReading reading)), response⟩) rfl
    cases response <;> exact wp_pure hpast'
  | none =>
    cases dcap.mirrorUsagePointListLink with
    | none => exact wp_pure hpast
    | some link =>
      refine wp_bind (wp_ensureMup link.href reading hpast hcache) (fun mup past s h => ?_)
        fun _ _ _ h => h
      exact wp_modify_bind (wp_pure h)

theorem wp_sendReadings (dcap : DeviceCapability) (readings : List MirrorMeterReading)
    (hpast : InAttempt past) :
    Wp (MupLaw args) (sendReadings args dcap readings) (fun _ past _ => InAttempt past) past s := by
  induction readings generalizing past s with
  | nil => exact wp_pure hpast
  | cons reading readings ih =>
    unfold sendReadings
    cases readingKey reading with
    | none => exact ih hpast
    | some key =>
      refine wp_bind (wp_cachedMrid key hpast) (fun mrid past s h => ?_) fun _ _ _ h => h.1
      refine wp_bind (wp_sendReading dcap _ h.1 h.2) (fun retry past s h => ?_) fun _ _ _ h => h
      exact wp_ite (fun _ => wp_pure h) fun _ => ih h

theorem plain_fillCache (args : Args) (dcap : DeviceCapability) :
    Keeps (fun _ => ()) IsPlain (fillCache (R := R) args dcap) := by
  refine keeps_bind keeps_get fun s => keeps_ite ?_ (keeps_pure _)
  refine keeps_bind ?_ fun cache => keeps_modify fun _ => rfl
  unfold initialiseReadingMridCache
  cases dcap.mirrorUsagePointListLink with
  | none => exact keeps_pure _
  | some link =>
    refine keeps_bind (plain_lookupMup args _) fun mup => ?_
    cases mup <;> exact keeps_pure _

theorem plain_isDue (lastSent : Option Nat) (postRate : Nat) :
    Keeps (fun _ => ()) IsPlain (isDue lastSent postRate : Task R Bool) :=
  keeps_isDue ⟨rfl, nofun⟩ lastSent postRate

theorem wp_sendLatestMeterReadings (dcap : DeviceCapability) (hpast : InAttempt past) :
    Wp (MupLaw args) (sendLatestMeterReadings args dcap) (fun _ past _ => InAttempt past)
      past s := by
  refine wp_get_bind ?_
  cases s.latestMeterReadings with
  | none => exact wp_pure hpast
  | some readings =>
    refine wp_bind (wp_plain (plain_isDue _ _) hpast) (fun due past s hpast => ?_)
      fun _ _ _ h => h
    refine wp_ite (fun _ => ?_) fun _ => wp_pure hpast
    refine wp_bind (wp_bind (wp_plain (plain_fillCache args dcap) hpast)
      (fun _ past s h => wp_sendReadings dcap readings h) fun _ _ _ h => h)
      (fun retry past s h => ?_) fun _ _ _ h => h
    refine wp_ite (fun _ => wp_throw h) fun _ => ?_
    exact wp_ask_bind fun now => ⟨mupLaw_of_isPlain ⟨rfl, nofun⟩, wp_modify (h.concat rfl)⟩

/-- What is asked besides the metering and receiving creates no `MirrorUsagePoint`. -/
theorem isPlain_of {q : Query R} (h : q.isPolling = true ∨ q.isConnecting = true ∨
    q.isResponding = true ∨ q.isDer = true ∨ q.isSettings = true ∨ q.isStatus = true ∨
    q.isCapability = true) : IsPlain q := by
  cases q with
  | recv => obtain h | h | h | h | h | h | h := h <;> cases h
  | post href document =>
    cases document with
    | mirrorUsagePoint mup => obtain h | h | h | h | h | h | h := h <;> cases h
    | _ => exact ⟨rfl, nofun⟩
  | _ => exact ⟨rfl, nofun⟩

/-- A part that does no metering is plain. -/
theorem plain_of_keeps {γ : Type} {view : Loop R → γ} {φ : Query R → Prop} {p : Task R α}
    (h : Keeps view φ p) (hφ : ∀ q, φ q → q.isPolling = true ∨ q.isConnecting = true ∨
      q.isResponding = true ∨ q.isDer = true ∨ q.isSettings = true ∨ q.isStatus = true ∨
      q.isCapability = true) : Keeps (fun _ => ()) IsPlain p :=
  h.weaken (fun _ => ()) (fun _ => rfl) fun q hq => isPlain_of (hφ q hq)

end Parts

/-! ## The server -/

theorem lastRequest?_eq_some {past : List (Moment R)} {e : Moment R}
    (h : lastRequest? past = some e) :
    ∃ pre post, past = pre ++ e :: post ∧ ∀ e' ∈ post, e'.question.2.isRequest = false := by
  obtain ⟨-, after, before, hpast, hafter⟩ := List.find?_eq_some_iff_append.1 h
  refine ⟨before.reverse, after.reverse, ?_, fun e' he' => ?_⟩
  · rw [← List.reverse_inj, hpast]
    simp
  · simpa using hafter e' (List.mem_reverse.1 he')

theorem postedMup?_of_not_isRequest {e : Moment R} (h : e.question.2.isRequest = false) :
    postedMup? e = none := by
  obtain ⟨⟨s, q⟩, answer⟩ := e
  cases q with
  | post href document => cases h
  | _ => rfl

theorem postedMup?_of_readMupl? {e : Moment R} {mupl : MirrorUsagePointList}
    (h : readMupl? e = some mupl) : postedMup? e = none := by
  obtain ⟨⟨s, q⟩, answer⟩ := e
  cases q with
  | post href document => cases h
  | _ => rfl

/-- A server that returns all that were created holds at most one from us. -/
theorem length_created_le_one (stored : List (Moment R) → Moment R → Bool) (log : List (Moment R))
    (hchecked : Always (MupChecked args) [] log) (hserver : Always (ReturnsAll stored) [] log) :
    (created stored [] log).length ≤ 1 := by
  induction log using List.reverseRecOn with
  | nil => exact Nat.zero_le 1
  | append_singleton l e ih =>
    obtain ⟨hl, he, -⟩ := always_append.1 hchecked
    obtain ⟨hlserver, -⟩ := always_append.1 hserver
    rw [created_append]
    cases hposted : postedMup? e with
    | none =>
      rw [created_eq_nil stored (l := [e]) (by simpa using hposted), List.append_nil]
      exact ih hl hlserver
    | some mup =>
      -- the list was read after all earlier creations, and has none for us
      obtain ⟨-, mupl, hmupl, hnone⟩ := he mup hposted
      obtain ⟨g, hg, hread⟩ := Option.bind_eq_some_iff.1 hmupl
      obtain ⟨pre, post, rfl, hpost⟩ := lastRequest?_eq_some hg
      have hrest : created stored ([] ++ pre) (g :: post) = [] := by
        refine created_eq_nil stored fun e' he' => ?_
        rcases List.mem_cons.1 he' with rfl | he'
        · exact postedMup?_of_readMupl? hread
        · exact postedMup?_of_not_isRequest (hpost e' he')
      have hpre : created stored [] pre = [] := by
        rw [List.eq_nil_iff_forall_not_mem]
        intro mup' hmup'
        obtain ⟨known, hknown, -, hlfdi⟩ :=
          always_iff.1 hlserver pre g post rfl mupl hread mup' hmup'
        obtain ⟨before, e', after, rfl, hposted'⟩ := mem_created stored hmup'
        have hours := always_iff.1 (always_append.1 hl).1 before e' after rfl mup' hposted'
        exact hnone known hknown (hlfdi.trans hours.1)
      rw [created_append, hpre, hrest, List.nil_append, List.nil_append, created, created,
        List.append_nil, hposted]
      split_ifs <;> simp

/-! ## The runs of the task -/

variable [DecidableEq R.DERCapability]

theorem parts_mupLaw :
    Parts args (MupLaw (R := R) args) (fun _ _ => True) (fun past _ => InAttempt past) where
  beginTurn _ := trivial
  recv _ _ := by
    refine ⟨fun _ mup hmup => ?_, trivial⟩
    cases hmup
  polls hp _ := by
    intro l r t hrun
    refine ⟨always_of_forall (hp _ l r t hrun).1 fun pre e _ he => ?_, trivial⟩
    exact mupLaw_of_isPlain (isPlain_of (.inl he.2))
  beginAttempt _ hattempts := inAttempt_recv hattempts.1
  connect h := wp_plain (plain_of_keeps (keeps_connect args) fun _ hq => by simp [hq]) h
  responses h :=
    wp_plain (plain_of_keeps (keeps_sendControlResponses args _) fun _ hq => by simp [hq]) h
  der serverDevice h :=
    wp_plain (plain_of_keeps (keeps_ensureDer args serverDevice) fun _ hq => by simp [hq]) h
  settings der h :=
    wp_plain (plain_of_keeps (keeps_sendDeviceSettings der) fun _ hq => by simp [hq]) h
  status der h := wp_plain (plain_of_keeps (keeps_sendDeviceStatus der) fun _ hq => by simp [hq]) h
  capabilities der h :=
    wp_plain (plain_of_keeps (keeps_sendDeviceCapabilities der) fun _ hq => by simp [hq]) h
  readings dcap h := (wp_sendLatestMeterReadings dcap h).mono fun _ _ _ _ => trivial
  leave _ := trivial
  endAttempt _ := trivial

theorem mupChecked_of_log {log : List (Moment R)} (h : Log args log)
    (hlookups : Always LookupSucceeds [] log) : Always (MupChecked args) [] log := by
  have hlaw : Always (MupLaw args) [] log := parts_mupLaw.log h trivial
  refine always_iff.2 fun pre e post hlog => always_iff.1 hlaw pre e post hlog ?_
  rw [hlog] at hlookups
  exact (always_append.1 hlookups).1

/-- **One `MirrorUsagePoint`.** When no lookup fails, one is created only after the list was just
read and has none for us, and a server that keeps and returns them never holds two. -/
theorem mup_created_once {log : List (Moment R)} (h : Log args log)
    (hlookups : Always LookupSucceeds [] log) : Always (MupChecked args) [] log ∧
      ∀ stored, Always (ReturnsAll stored) [] log → (created stored [] log).length ≤ 1 := by
  have hchecked := mupChecked_of_log h hlookups
  exact ⟨hchecked, fun stored hserver => length_created_le_one stored log hchecked hserver⟩

section FailedLookup

/-- A server that keeps all created and returns them, except that after the first its list cannot
be read if `fails`. -/
def mupServer (fails : Bool) (commands : List (Command NoReports))
    (past : List (Moment NoReports)) : (m : Loop NoReports × Query NoReports) → m.2.Answer
  | (_, .get .mirrorUsagePointList _) =>
    let mups := past.filterMap postedMup?
    if fails && !mups.isEmpty then .error "timeout"
    else .ok { mirrorUsagePoint := mups.map fun mup => { mup with href := some "/mup/1" } }
  | (_, .post _ (.mirrorUsagePoint _)) => .ok (.created (some "/mup/1"))
  | m => scripted commands past m

/-- Readings, a reset, and readings again. -/
def twoReadings : List (Command NoReports) :=
  let readings := [{ readingType := some { uom := some .w } }]
  [.sendMeterReadings readings, .resetConnection, .sendMeterReadings readings]

/-- When the lookups succeed, one is created for both batches. -/
theorem mup_created_once_readable :
    ∃ log : List (Moment NoReports), Log ourArgs log ∧
      (created (fun _ _ => true) [] log).length = 1 ∧ Always (MupChecked ourArgs) [] log := by
  obtain ⟨log, hlog, hcreated, hlookups⟩ :
      ∃ log : List (Moment NoReports), Log ourArgs log ∧
        (created (fun _ _ => true) [] log).length = 1 ∧ Always LookupSucceeds [] log := by
    refine exists_log_of_turns (mupServer false twoReadings) 3 ?_
    decide +kernel
  exact ⟨log, hlog, hcreated, (mup_created_once hlog hlookups).1⟩

/-- When the lookup after the reset fails, a second is created, by a server that keeps the first
and returns it whenever its list can be read. -/
theorem mup_created_twice :
    ¬ ∀ log : List (Moment NoReports), Log ourArgs log → Always (MupChecked ourArgs) [] log ∧
      ∀ stored, Always (ReturnsAll stored) [] log → (created stored [] log).length ≤ 1 := by
  obtain ⟨log, hlog, hserver, hcreated⟩ :
      ∃ log : List (Moment NoReports), Log ourArgs log ∧
        Always (ReturnsAll fun _ _ => true) [] log ∧
        (created (fun _ _ => true) [] log).length = 2 := by
    refine exists_log_of_turns (mupServer true twoReadings) 3 ?_
    decide +kernel
  intro h
  have hone := (h log hlog).2 (fun _ _ => true) hserver
  omega

end FailedLookup

end Sep2Bridge.Connection
