import Sep2Bridge.Connection.Mup
import Sep2Bridge.Lib.Naming
import Sep2Bridge.Modbus.Metering

/-!
# The mRIDs of the readings

A series of readings on the server is told from the others by its mRID. The task keeps one for each
key in a cache, which it fills from the server while it is empty, and from `mrid_gen` after that.
A key is put into the cache before its first reading is sent, and only a reset empties the cache.

**Assumptions** (`DistinctMrids`). An identifier of `mrid_gen` was not seen before, and the readings
that the server has for a `MirrorUsagePoint` have different mRIDs.

**Theorem (`readings_keep_mrids`).** Between two resets, readings have the same mRID if and only if
they have the same key, and the readings of one batch have different keys.
-/

namespace Sep2Bridge.Connection

open Lib Proc

variable {R : Reports} {args : Args}

/-! ## What is sent, and what is known -/

/-- The readings that a request carries. -/
def Query.readings : Query R → List MirrorMeterReading
  | post _ (.mirrorMeterReading reading) => [reading]
  | post _ (.mirrorUsagePoint mup) => mup.mirrorMeterReading
  | _ => []

def sentReadings (e : Moment R) : List MirrorMeterReading := e.question.2.readings

def resets (e : Moment R) : Bool := (received? e).any fun received => received.2.isReset

/-- The readings sent since the last reset. -/
def sentSince (past : List (Moment R)) : List MirrorMeterReading :=
  past.foldl (fun sent e => if resets e = true then [] else sent ++ sentReadings e) []

def generated? : Moment R → Option MRIDType
  | ⟨(_, .mridGen), mrid⟩ => some mrid
  | _ => none

/-- The mRIDs of the readings the server has. -/
def stored (e : Moment R) : List MRIDType :=
  (readMupl? e).toList.flatMap fun mupl =>
    mupl.mirrorUsagePoint.flatMap fun mup => mup.mirrorMeterReading.map MirrorMeterReading.mrid

/-- The mRIDs that were seen so far. -/
def known (past : List (Moment R)) : List MRIDType :=
  past.flatMap fun e => (generated? e).toList ++ stored e

/-- An identifier is fresh, and readings on the server have different ones. -/
def DistinctMrids (past : List (Moment R)) (e : Moment R) : Prop :=
  (∀ mrid ∈ generated? e, mrid ∉ known past) ∧
    ∀ mupl ∈ readMupl? e, ∀ mup ∈ mupl.mirrorUsagePoint,
      (mup.mirrorMeterReading.map MirrorMeterReading.mrid).Nodup

instance (past : List (Moment R)) : DecidablePred (DistinctMrids past) := fun e =>
  inferInstanceAs (Decidable ((∀ mrid ∈ generated? e, _) ∧
    ∀ mupl ∈ readMupl? e, ∀ mup ∈ mupl.mirrorUsagePoint, _))

/-- The readings sent, with those since the last reset, have the same mRIDs as they have keys. -/
def Consistent (past : List (Moment R)) (e : Moment R) : Prop :=
  Always DistinctMrids [] past → ∀ r ∈ sentReadings e, ∀ r' ∈ sentSince past ++ sentReadings e,
    readingKey r = readingKey r' ↔ r.mrid = r'.mrid

theorem sentSince_concat (past : List (Moment R)) (e : Moment R) : sentSince (past ++ [e]) =
    if resets e = true then [] else sentSince past ++ sentReadings e := by
  unfold sentSince
  rw [List.foldl_append]
  rfl

theorem known_concat (past : List (Moment R)) (e : Moment R) :
    known (past ++ [e]) = known past ++ ((generated? e).toList ++ stored e) := by
  unfold known
  rw [List.flatMap_append, List.flatMap_singleton]

/-! ## The cache -/

/-- The keys have names of their own, and those of the readings since the last reset are kept. -/
structure Cached (past : List (Moment R)) (cache : HashMap CacheKey MRIDType) : Prop where
  naming : Naming cache (known past)
  sent : ∀ r ∈ sentSince past, ∃ key, readingKey r = some key ∧ cache.get? key = some r.mrid

/-- The invariant, for a log that meets the assumptions. -/
def Caches (past : List (Moment R)) (cache : HashMap CacheKey MRIDType) : Prop :=
  Always DistinctMrids [] past → Cached past cache

/-- Neither a receive nor a reading. -/
def NoReading (q : Query R) : Prop := q.isRecv = false ∧ q.readings = []

section Steps

variable {past : List (Moment R)} {cache : HashMap CacheKey MRIDType} {e : Moment R}

theorem not_resets_of_isRecv (h : e.question.2.isRecv = false) : resets e = false := by
  obtain ⟨⟨s, q⟩, answer⟩ := e
  cases q with
  | recv => cases h
  | _ => rfl

theorem Caches.before (h : Always DistinctMrids [] (past ++ [e])) :
    Always DistinctMrids [] past ∧ DistinctMrids past e := by
  obtain ⟨hpast, he, -⟩ := always_append.1 h
  exact ⟨hpast, he⟩

theorem consistent_of_noReading (h : NoReading e.question.2) : Consistent past e := by
  intro _ r hr
  unfold sentReadings at hr
  rw [h.2] at hr
  cases hr

theorem Caches.noReading (h : Caches past cache) (he : NoReading e.question.2) :
    Caches (past ++ [e]) cache := by
  intro hdistinct
  obtain ⟨hnaming, hsent⟩ := h (Caches.before hdistinct).1
  refine ⟨hnaming.mono ?_, ?_⟩
  · rw [known_concat]
    exact List.subset_append_left _ _
  · rw [sentSince_concat, not_resets_of_isRecv he.1, sentReadings, he.2, List.append_nil]
    exact hsent

/-- A reading is sent under the name of its key. -/
theorem Caches.send {reading : MirrorMeterReading} {key : CacheKey} (h : Caches past cache)
    (hrecv : e.question.2.isRecv = false) (he : e.question.2.readings = [reading])
    (hkey : readingKey reading = some key) (hcache : cache.get? key = some reading.mrid) :
    Consistent past e ∧ Caches (past ++ [e]) cache := by
  have hsent : sentReadings e = [reading] := he
  constructor
  · intro hdistinct r hr r' hr'
    rw [hsent] at hr hr'
    cases List.mem_singleton.1 hr
    obtain hr' | hr' := List.mem_append.1 hr'
    · obtain ⟨hnaming, hall⟩ := h hdistinct
      obtain ⟨key', hkey', hcache'⟩ := hall r' hr'
      rw [hkey, hkey', Option.some_inj]
      constructor
      · intro hkeys
        cases hkeys
        exact Option.some.inj (hcache.symm.trans hcache')
      · intro hmrids
        rw [← hmrids] at hcache'
        exact hnaming.injective _ _ _ hcache hcache'
    · cases List.mem_singleton.1 hr'
      exact iff_of_true rfl rfl
  · intro hdistinct
    obtain ⟨hnaming, hall⟩ := h (Caches.before hdistinct).1
    refine ⟨hnaming.mono ?_, fun r hr => ?_⟩
    · rw [known_concat]
      exact List.subset_append_left _ _
    · rw [sentSince_concat, not_resets_of_isRecv hrecv, hsent] at hr
      obtain hr | hr := List.mem_append.1 hr
      · exact hall r hr
      · cases List.mem_singleton.1 hr
        exact ⟨key, hkey, hcache⟩

/-- A key that has no name gets the generated one. -/
theorem Caches.generate {s : Loop R} {key : CacheKey} {mrid : MRIDType} (h : Caches past cache)
    (hkey : cache.get? key = none) :
    Caches (past ++ [⟨(s, .mridGen), mrid⟩]) (cache.insert key mrid) := by
  intro hdistinct
  obtain ⟨hpast, hfresh, -⟩ := Caches.before hdistinct
  obtain ⟨hnaming, hall⟩ := h hpast
  refine ⟨?_, fun r hr => ?_⟩
  · rw [known_concat]
    exact hnaming.insert (hfresh mrid rfl)
  · rw [sentSince_concat] at hr
    have hr : r ∈ sentSince past ++ [] := hr
    rw [List.append_nil] at hr
    obtain ⟨key', hkey', hcache'⟩ := hall r hr
    have hne : key' ≠ key := by
      intro heq
      rw [heq, hkey] at hcache'
      cases hcache'
    exact ⟨key', hkey', by rw [HashMap.get?_insert_ne _ _ hne, hcache']⟩

/-- While the cache is empty nothing was sent, so it may be filled from the server. -/
theorem Caches.fill {cache' : HashMap CacheKey MRIDType} (h : Caches past cache)
    (hempty : cache.entries.isEmpty = true)
    (hnaming : Always DistinctMrids [] past → Naming cache' (known past)) : Caches past cache' := by
  intro hdistinct
  refine ⟨hnaming hdistinct, fun r hr => ?_⟩
  obtain ⟨key, -, hcache⟩ := (h hdistinct).sent r hr
  have hmem := HashMap.mem_entries_iff.2 hcache
  rw [List.isEmpty_iff.1 hempty] at hmem
  cases hmem

theorem naming_mridsOf {mup : MirrorUsagePoint} {mupl : MirrorUsagePointList}
    (hmup : mup ∈ mupl.mirrorUsagePoint) (he : readMupl? e = some mupl)
    (hdistinct : DistinctMrids past e) : Naming (mridsOf mup) (known (past ++ [e])) := by
  have hsnd : (mup.mirrorMeterReading.filterMap fun reading =>
      (readingKey reading).map fun key => (key, reading.mrid)).map Prod.snd =
        (mup.mirrorMeterReading.filter fun reading => (readingKey reading).isSome).map
          MirrorMeterReading.mrid := by
    induction mup.mirrorMeterReading with
    | nil => rfl
    | cons reading readings ih =>
      rw [List.filterMap_cons, List.filter_cons]
      cases readingKey reading with
      | none => exact ih
      | some key => exact congrArg (reading.mrid :: ·) ih
  refine naming_ofEntries ?_ ?_
  · rw [hsnd]
    exact (hdistinct.2 mupl he mup hmup).sublist (List.filter_sublist.map _)
  · rw [hsnd, known_concat]
    intro mrid hmrid
    have hstored : mrid ∈ stored e := by
      unfold stored
      rw [he]
      refine List.mem_flatMap.2 ⟨mupl, List.mem_singleton_self _, ?_⟩
      refine List.mem_flatMap.2 ⟨mup, hmup, ?_⟩
      exact (List.filter_sublist.map _).subset hmrid
    exact List.mem_append_right _ (List.mem_append_right _ hstored)

end Steps

/-! ## Sending the readings -/

section Parts

variable {past : List (Moment R)} {s : Loop R} {α : Type}

/-- The invariant on the local variables. -/
def Keyed (past : List (Moment R)) (s : Loop R) : Prop := Caches past s.readingMridCache

/-- What an attempt does besides the readings. -/
theorem Keyed.wp_noReading {p : Task R α} (h : Keeps Loop.readingMridCache NoReading p)
    (hkept : Keyed past s) : Wp Consistent p (fun _ => Keyed) past s :=
  h.wp (I := Caches) hkept fun _ _ hcaches _ he =>
    ⟨consistent_of_noReading he, hcaches.noReading he⟩

/-- The `MirrorUsagePoint` that is found is one of the list that was just read. -/
theorem Keyed.wp_lookupMup (muplHref : String) (hkept : Keyed past s) :
    Wp Consistent (lookupMup args muplHref) (fun r past' s' => Keyed past' s' ∧ s' = s ∧
      ∀ mup, r = .ok (some mup) → Always DistinctMrids [] past' →
        Naming (mridsOf mup) (known past')) past s := by
  refine wp_ask_bind fun answer => ⟨consistent_of_noReading ⟨rfl, rfl⟩, ?_⟩
  have hkept' : Keyed (past ++ [⟨(s, .get .mirrorUsagePointList _), answer⟩]) s :=
    hkept.noReading ⟨rfl, rfl⟩
  cases answer with
  | error err => exact wp_pure ⟨hkept', rfl, fun mup h => by cases h⟩
  | ok mupl =>
    refine wp_pure ⟨hkept', rfl, fun mup h hdistinct => ?_⟩
    have hmem := List.mem_of_find?_eq_some (Except.ok.inj h)
    exact naming_mridsOf hmem rfl (Caches.before hdistinct).2

theorem Keyed.wp_initialiseReadingMridCache (dcap : DeviceCapability) (hkept : Keyed past s) :
    Wp Consistent (initialiseReadingMridCache args dcap) (fun r past' s' =>
      Keyed past' s' ∧ s' = s ∧ ∀ cache, r = .ok cache → Always DistinctMrids [] past' →
        Naming cache (known past')) past s := by
  unfold initialiseReadingMridCache
  cases dcap.mirrorUsagePointListLink with
  | none =>
    refine wp_pure ⟨hkept, rfl, fun cache h _ => ?_⟩
    cases h
    exact naming_empty
  | some link =>
    refine wp_bind (Keyed.wp_lookupMup link.href hkept) (fun found past s h => ?_)
      fun e past s h => ?_
    · obtain ⟨hkept', rfl, hnaming⟩ := h
      cases found with
      | none =>
        refine wp_pure ⟨hkept', rfl, fun cache h _ => ?_⟩
        cases h
        exact naming_empty
      | some mup =>
        refine wp_pure ⟨hkept', rfl, fun cache h hdistinct => ?_⟩
        cases h
        exact hnaming mup rfl hdistinct
    · exact ⟨h.1, h.2.1, fun cache h => by cases h⟩

theorem Keyed.wp_fillCache (dcap : DeviceCapability) (hkept : Keyed past s) :
    Wp Consistent (fillCache args dcap) (fun _ => Keyed) past s := by
  refine wp_get_bind (wp_ite (fun hempty => ?_) fun _ => wp_pure hkept)
  refine wp_bind (Keyed.wp_initialiseReadingMridCache dcap hkept) (fun cache past s h => ?_)
    fun _ _ _ h => h.1
  obtain ⟨hkept', rfl, hnaming⟩ := h
  exact wp_modify (hkept'.fill hempty (hnaming cache rfl))

/-- A key has a name before its reading is sent. -/
theorem Keyed.wp_cachedMrid (key : CacheKey) (hkept : Keyed past s) :
    Wp Consistent (cachedMrid key) (fun r past s => Keyed past s ∧
      ∀ mrid, r = .ok mrid → s.readingMridCache.get? key = some mrid) past s := by
  refine wp_get_bind ?_
  cases hkey : s.readingMridCache.get? key with
  | some mrid =>
    refine wp_pure ⟨hkept, fun mrid' h => ?_⟩
    cases h
    exact hkey
  | none =>
    refine wp_ask_bind fun mrid => ⟨consistent_of_noReading ⟨rfl, rfl⟩, wp_modify_bind ?_⟩
    refine wp_pure ⟨hkept.generate hkey, fun mrid' h => ?_⟩
    cases h
    exact HashMap.get?_insert_self _ _ _

/-- A reading under the name of its key. -/
def Named (s : Loop R) (reading : MirrorMeterReading) : Prop :=
  ∃ key, readingKey reading = some key ∧ s.readingMridCache.get? key = some reading.mrid

theorem Keyed.wp_post {href : String} {document : Document R} {reading : MirrorMeterReading}
    {f : ClientResult SEPResponse → Task R α} (hkept : Keyed past s) (hnamed : Named s reading)
    (hdocument : (Query.post href document).readings = [reading])
    (hf : ∀ response past, Keyed past s → Wp Consistent (f response) (fun _ => Keyed) past s) :
    Wp Consistent (post href document >>= f) (fun _ => Keyed) past s := by
  obtain ⟨key, hkey, hcache⟩ := hnamed
  refine wp_ask_bind fun response => ?_
  have hsend := hkept.send (e := ⟨(s, .post href document), response⟩) rfl hdocument hkey hcache
  exact ⟨hsend.1, hf response _ hsend.2⟩

theorem Keyed.wp_registerMup (muplHref : String) {reading : MirrorMeterReading}
    (hkept : Keyed past s) (hnamed : Named s reading) :
    Wp Consistent (registerMup args muplHref reading) (fun _ => Keyed) past s := by
  refine wp_ask_bind fun mrid => ⟨consistent_of_noReading ⟨rfl, rfl⟩, ?_⟩
  refine Keyed.wp_post (hkept.noReading ⟨rfl, rfl⟩) hnamed rfl fun response past hkept => ?_
  rcases response with err | (_ | location) | _ <;> exact wp_pure hkept

theorem Keyed.wp_ensureMup (muplHref : String) {reading : MirrorMeterReading}
    (hkept : Keyed past s) (hnamed : Named s reading) :
    Wp Consistent (ensureMup args muplHref reading) (fun _ => Keyed) past s := by
  refine wp_bind (Keyed.wp_lookupMup muplHref hkept) (fun found past s h => ?_) fun _ _ _ h => h.1
  obtain ⟨hkept', rfl, -⟩ := h
  cases found with
  | none => exact Keyed.wp_registerMup muplHref hkept' hnamed
  | some mup =>
    dsimp only
    cases mup.href with
    | none => exact wp_pure hkept'
    | some href =>
      refine Keyed.wp_post hkept' hnamed rfl fun response past hkept => ?_
      cases response <;> exact wp_pure hkept

theorem Keyed.wp_sendReading (dcap : DeviceCapability) {reading : MirrorMeterReading}
    (hkept : Keyed past s) (hnamed : Named s reading) :
    Wp Consistent (sendReading args dcap reading) (fun _ => Keyed) past s := by
  refine wp_get_bind ?_
  cases s.mirrorUsagePoint with
  | some mup =>
    refine Keyed.wp_post hkept hnamed rfl fun response past hkept => ?_
    cases response <;> exact wp_pure hkept
  | none =>
    cases dcap.mirrorUsagePointListLink with
    | none => exact wp_pure hkept
    | some link =>
      refine wp_bind (Keyed.wp_ensureMup link.href hkept hnamed) (fun mup past s h => ?_)
        fun _ _ _ h => h
      exact wp_modify_bind (wp_pure h)

theorem Keyed.wp_sendReadings (dcap : DeviceCapability) (readings : List MirrorMeterReading)
    (hkept : Keyed past s) :
    Wp Consistent (sendReadings args dcap readings) (fun _ => Keyed) past s := by
  induction readings generalizing past s with
  | nil => exact wp_pure hkept
  | cons reading readings ih =>
    unfold sendReadings
    cases hkey : readingKey reading with
    | none => exact ih hkept
    | some key =>
      refine wp_bind (Keyed.wp_cachedMrid key hkept) (fun mrid past s h => ?_) fun _ _ _ h => h.1
      have hnamed : Named s { reading with mrid } := ⟨key, hkey, h.2 mrid rfl⟩
      refine wp_bind (Keyed.wp_sendReading dcap h.1 hnamed) (fun retry past s h => ?_)
        fun _ _ _ h => h
      exact wp_ite (fun _ => wp_pure h) fun _ => ih h

theorem Keyed.wp_sendLatestMeterReadings (dcap : DeviceCapability) (hkept : Keyed past s) :
    Wp Consistent (sendLatestMeterReadings args dcap) (fun _ => Keyed) past s := by
  refine wp_get_bind ?_
  cases s.latestMeterReadings with
  | none => exact wp_pure hkept
  | some readings =>
    have hnow : NoReading (.instantNow : Query R) := ⟨rfl, rfl⟩
    refine wp_bind (Keyed.wp_noReading (keeps_isDue hnow _ _) hkept) (fun due past s h => ?_)
      fun _ _ _ h => h
    refine wp_ite (fun _ => ?_) fun _ => wp_pure h
    refine wp_bind (wp_bind (Keyed.wp_fillCache dcap h)
      (fun _ past s h => Keyed.wp_sendReadings dcap readings h) fun _ _ _ h => h)
      (fun retry past s h => ?_) fun _ _ _ h => h
    refine wp_ite (fun _ => wp_throw h) fun _ => ?_
    exact wp_ask_bind fun now => ⟨consistent_of_noReading hnow, wp_modify (h.noReading hnow)⟩

/-- What is asked besides the metering and receiving carries no reading. -/
theorem noReading_of {q : Query R} (h : q.isPolling = true ∨ q.isConnecting = true ∨
    q.isResponding = true ∨ q.isDer = true ∨ q.isSettings = true ∨ q.isStatus = true ∨
    q.isCapability = true) : NoReading q := by
  have hplain := isPlain_of h
  refine ⟨hplain.1, ?_⟩
  cases q with
  | post href document =>
    cases document with
    | mirrorMeterReading reading => obtain h | h | h | h | h | h | h := h <;> cases h
    | mirrorUsagePoint mup => exact absurd rfl (hplain.2 href mup)
    | _ => rfl
  | _ => rfl

/-- A part that does no metering keeps the cache. -/
theorem Keyed.wp_unmetered {view : Loop R → Loop R} {φ : Query R → Prop} {p : Task R α}
    (h : Keeps view φ p) (hview : ∀ s, s.readingMridCache = (view s).readingMridCache)
    (hφ : ∀ q, φ q → q.isPolling = true ∨ q.isConnecting = true ∨ q.isResponding = true ∨
      q.isDer = true ∨ q.isSettings = true ∨ q.isStatus = true ∨ q.isCapability = true)
    (hkept : Keyed past s) : Wp Consistent p (fun _ => Keyed) past s :=
  Keyed.wp_noReading (h.weaken Loop.readingMridCache hview fun q hq => noReading_of (hφ q hq)) hkept

end Parts

/-! ## The runs of the task -/

variable [DecidableEq R.DERCapability] {log : List (Moment R)}

theorem readingMridCache_take (s : Loop R) (command : Command R) :
    (s.take command).readingMridCache =
      if command.isReset = true then ∅ else s.readingMridCache := by
  cases command <;> simp only [Loop.take] <;> (try split_ifs) <;> first | rfl | contradiction

theorem Keyed.recv {past : List (Moment R)} {s : Loop R} (answer : Option (Command R))
    (hkept : Keyed past s) : Keyed (past ++ [⟨(s, .recv), answer⟩]) (s.hear answer) := by
  intro hdistinct
  obtain ⟨hnaming, hall⟩ := hkept (Caches.before hdistinct).1
  have hknown : known (past ++ [⟨(s, .recv), answer⟩]) = known past := by
    rw [known_concat]
    exact List.append_nil _
  have hsent : sentSince (past ++ [⟨(s, .recv), answer⟩]) =
      if answer.any Command.isReset = true then [] else sentSince past := by
    rw [sentSince_concat]
    cases answer with
    | none => exact List.append_nil _
    | some command => exact congrArg (ite (command.isReset = true) []) (List.append_nil _)
  have hcache : (s.hear answer).readingMridCache =
      if answer.any Command.isReset = true then ∅ else s.readingMridCache := by
    cases answer with
    | none => rfl
    | some command => exact readingMridCache_take s command
  rw [hcache]
  constructor
  · rw [hknown]
    split_ifs
    · exact naming_empty
    · exact hnaming
  · rw [hsent]
    intro r hr
    split_ifs at hr ⊢
    · cases hr
    · exact hall r hr

theorem parts_consistent : Parts args (Consistent (R := R)) Keyed Keyed where
  beginTurn h := h
  recv answer h := ⟨fun _ r hr => (List.not_mem_nil hr).elim, Keyed.recv answer h⟩
  polls hp h := Keyed.wp_unmetered hp (fun _ => rfl) (fun _ hq => .inl hq) h
  beginAttempt h _ := Keyed.recv (some _) h
  connect h := Keyed.wp_unmetered (keeps_connect args) (fun _ => rfl) (fun _ hq => by simp [hq]) h
  responses h := Keyed.wp_unmetered (keeps_sendControlResponses args _) (fun _ => rfl)
    (fun _ hq => by simp [hq]) h
  der serverDevice h := Keyed.wp_unmetered (keeps_ensureDer args serverDevice) (fun _ => rfl)
    (fun _ hq => by simp [hq]) h
  settings der h := Keyed.wp_unmetered (keeps_sendDeviceSettings der) (fun _ => rfl)
    (fun _ hq => by simp [hq]) h
  status der h := Keyed.wp_unmetered (keeps_sendDeviceStatus der) (fun _ => rfl)
    (fun _ hq => by simp [hq]) h
  capabilities der h := Keyed.wp_unmetered (keeps_sendDeviceCapabilities der) (fun _ => rfl)
    (fun _ hq => by simp [hq]) h
  readings dcap h := Keyed.wp_sendLatestMeterReadings dcap h
  leave h := h
  endAttempt h := h

omit [DecidableEq R.DERCapability] in
/-- Without a reset all that is sent is remembered. -/
theorem sentSince_append {pre mid : List (Moment R)} (h : ∀ e ∈ mid, resets e = false) :
    sentSince (pre ++ mid) = sentSince pre ++ mid.flatMap sentReadings := by
  induction mid using List.reverseRecOn with
  | nil => rw [List.append_nil]; exact (List.append_nil _).symm
  | append_singleton mid e ih =>
    have hmid := ih fun e he => h e (List.mem_append_left _ he)
    have he := h e (List.mem_append_right _ (List.mem_singleton_self e))
    rw [← List.append_assoc, sentSince_concat, hmid, he, List.flatMap_append,
      List.flatMap_singleton, List.append_assoc]
    rfl

/-- Between two resets the readings are told apart by their keys. -/
theorem consistent_between (h : Log args log) (hdistinct : Always DistinctMrids [] log)
    {pre mid post : List (Moment R)} (hlog : log = pre ++ mid ++ post)
    (hresets : ∀ e ∈ mid, resets e = false) : ∀ r ∈ mid.flatMap sentReadings,
      ∀ r' ∈ mid.flatMap sentReadings, readingKey r = readingKey r' ↔ r.mrid = r'.mrid := by
  have hall : Always Consistent [] log :=
    parts_consistent.log h fun _ => ⟨naming_empty, fun r hr => (List.not_mem_nil hr).elim⟩
  induction mid using List.reverseRecOn generalizing post with
  | nil =>
    intro r hr
    cases hr
  | append_singleton mid e ih =>
    have hlog' : log = pre ++ mid ++ (e :: post) := by rw [hlog]; simp
    have hmid := ih hlog' fun e he => hresets e (List.mem_append_left _ he)
    have hpast : Always DistinctMrids [] (pre ++ mid) := by
      rw [hlog'] at hdistinct
      exact (always_append.1 hdistinct).1
    have he := always_iff.1 hall (pre ++ mid) e post hlog' hpast
    rw [List.nil_append, sentSince_append fun e he => hresets e (List.mem_append_left _ he)] at he
    rw [List.flatMap_append, List.flatMap_singleton]
    intro r hr r' hr'
    obtain hr | hr := List.mem_append.1 hr
    · obtain hr' | hr' := List.mem_append.1 hr'
      · exact hmid r hr r' hr'
      · have hswap := he r' hr' r (by simp [List.mem_append, hr])
        rw [eq_comm, hswap, eq_comm]
    · refine he r hr r' ?_
      obtain hr' | hr' := List.mem_append.1 hr' <;> simp [List.mem_append, hr']

/-! ## The batches of the device -/

/-- The readings that are received at a moment. -/
def batch? (e : Moment R) : Option (List MirrorMeterReading) :=
  (received? e).bind fun received =>
    match received.2 with
    | .sendMeterReadings readings => some readings
    | _ => none

/-- The readings of a model 701, translated at some time. -/
def IsBatch (readings : List MirrorMeterReading) : Prop :=
  ∃ m701 metering now, Modbus.Metering.ofModel701 m701 = some metering ∧
    Modbus.toMirrorMeterReadings metering now = .ok readings

theorem slot_eq_readingKey (reading : MirrorMeterReading) :
    Modbus.slot reading = (readingKey reading).map fun key => (key.uom, key.phase) := by
  unfold Modbus.slot readingKey
  cases reading.readingType with
  | none => rfl
  | some readingType =>
    rw [Option.bind_some, Option.bind_some, Option.map_map]
    rfl

/-- The readings of a batch have keys, and different ones. -/
theorem IsBatch.keys {readings : List MirrorMeterReading} (h : IsBatch readings) :
    (∀ reading ∈ readings, (readingKey reading).isSome = true) ∧
      (readings.map readingKey).Nodup := by
  obtain ⟨m701, metering, now, hmetering, hreadings⟩ := h
  have hslots := Modbus.slots_sublist hmetering hreadings
  constructor
  · intro reading hreading
    have hmem := hslots.subset (List.mem_map_of_mem hreading)
    obtain ⟨slot, -, hslot⟩ := List.mem_map.1 hmem
    rw [slot_eq_readingKey] at hslot
    cases hkey : readingKey reading with
    | none =>
      rw [hkey] at hslot
      cases hslot
    | some key => rfl
  · have hnodup : (readings.map Modbus.slot).Nodup :=
      List.Nodup.sublist hslots (by decide)
    have hmap : readings.map Modbus.slot =
        (readings.map readingKey).map (Option.map fun key => (key.uom, key.phase)) := by
      rw [List.map_map]
      exact List.map_congr_left fun reading _ => slot_eq_readingKey reading
    rw [hmap] at hnodup
    exact hnodup.of_map

/-- **Readings keep their mRIDs.** The readings of a batch have different keys, and between two
resets readings have the same mRID if and only if they have the same key. -/
theorem readings_keep_mrids (h : Log args log) (hdistinct : Always DistinctMrids [] log)
    (hbatches : ∀ e ∈ log, ∀ readings ∈ batch? e, IsBatch readings) :
    (∀ e ∈ log, ∀ readings ∈ batch? e,
      (∀ reading ∈ readings, (readingKey reading).isSome = true) ∧
        (readings.map readingKey).Nodup) ∧
    ∀ pre mid post, log = pre ++ mid ++ post → (∀ e ∈ mid, resets e = false) →
      ∀ r ∈ mid.flatMap sentReadings, ∀ r' ∈ mid.flatMap sentReadings,
        readingKey r = readingKey r' ↔ r.mrid = r'.mrid := by
  constructor
  · intro e he readings hreadings
    exact (hbatches e he readings hreadings).keys
  · intro pre mid post hlog hresets
    exact consistent_between h hdistinct hlog hresets

/-- Two powers and a voltage on one phase. -/
def threeReadings : Modbus.Model701 where
  wl1 := some 100
  wl2 := some 100
  vl1 := some 2300
  vSf := some (-1)

def threeReadingsBatch : List MirrorMeterReading :=
  ((Modbus.Metering.ofModel701 (some threeReadings)).bind fun metering =>
    (Modbus.toMirrorMeterReadings metering 0).toOption).getD []

/-- All three are sent twice, with a reset in between. -/
theorem readings_keep_mrids_reset : ∃ log : List (Moment NoReports), Log ourArgs log ∧
    ((log.flatMap sentReadings).map MirrorMeterReading.mrid).length = 6 ∧
      ∀ pre mid post, log = pre ++ mid ++ post → (∀ e ∈ mid, resets e = false) →
        ∀ r ∈ mid.flatMap sentReadings, ∀ r' ∈ mid.flatMap sentReadings,
          readingKey r = readingKey r' ↔ r.mrid = r'.mrid := by
  obtain ⟨log, hlog, hlength, hdistinct, hall⟩ :
      ∃ log : List (Moment NoReports), Log ourArgs log ∧
        ((log.flatMap sentReadings).map MirrorMeterReading.mrid).length = 6 ∧
          Always DistinctMrids [] log ∧
            ∀ e ∈ log, ∀ readings ∈ batch? e, readings = threeReadingsBatch := by
    refine exists_log_of_turns (mupServer false [.sendMeterReadings threeReadingsBatch,
      .resetConnection, .sendMeterReadings threeReadingsBatch]) 3 ?_
    decide +kernel
  have hbatch : IsBatch threeReadingsBatch :=
    ⟨some threeReadings, _, 0, rfl, by decide +kernel⟩
  refine ⟨log, hlog, hlength, (readings_keep_mrids hlog hdistinct fun e he readings hr => ?_).2⟩
  rw [hall e he readings hr]
  exact hbatch

end Sep2Bridge.Connection
