import Mathlib.Data.List.ReduceOption
import Sep2Bridge.Connection.Commands
import Sep2Bridge.Connection.ReadingMrids
import Sep2Bridge.Lib.Provenance

/-!
# Where the requests go

All that the task knows in advance is where the dcap is. Every other address it is told: by the
server, in a link of a resource or in the location of what was created; by the scheduler, with a
control to respond to or a resource to poll. A reset means that the links can no longer be trusted.

**Theorem (`requests_sourced`).** No request goes to an address that the server has not given since
the last reset, but for the dcap, the resource whose poll was just asked for, and the responses to
controls, each of which goes where the control says.
-/

namespace Sep2Bridge.Connection

open Lib Proc

variable {R : Reports} {args : Args} {s t : Loop R} {l log past : List (Moment R)}
  {r : Except Exit Unit} {known : Set Place} {α : Type}

/-! ## Addresses in resources -/

def hrefsOf (links : List (Option Link)) : List String := links.reduceOption.map Link.href

def dcapHrefs (dcap : DeviceCapability) : List String :=
  hrefsOf [dcap.timeLink, dcap.endDeviceListLink, dcap.mirrorUsagePointListLink]

def deviceHrefs (device : EndDevice) : List String :=
  hrefsOf [device.functionSetAssignmentsListLink, device.derListLink, device.registrationLink]

def derHrefs (der : DER) : List String :=
  hrefsOf [der.derSettingsLink, der.derStatusLink, der.derCapabilityLink]

/-- The addresses in a resource that the task itself may go to. -/
def Resource.hrefs : (resource : Resource) → resource.Body → List String
  | deviceCapability, dcap => dcapHrefs dcap
  | endDeviceList, list => list.endDevice.flatMap deviceHrefs
  | endDevice, device => deviceHrefs device
  | derList, list => list.der.flatMap derHrefs
  | mirrorUsagePointList, list => list.mirrorUsagePoint.filterMap MirrorUsagePoint.href
  | _, _ => []

/-- Where a request goes: to the server, or where a control asks for a response. -/
inductive Place
  | server (href : String)
  | reply (href : String)

/-- An address stands for the list at this address as well, a page at a time. -/
def offered (args : Args) (hrefs : List String) : Set Place :=
  {place | ∃ href ∈ hrefs, place = .server href ∨
    place = .server (paginatedUri href args.maxListSize)}

def replies (queue : List ControlResponse) : Set Place :=
  {place | ∃ response ∈ queue, place = .reply response.replyTo}

/-- Where a question goes. -/
def goesTo : Query R → Set Place
  | .get _ href | .put href _ | .post href _ | .startPoll _ href _ => {.server href}
  | .postTimeout href _ => {.reply href}
  | _ => ∅

/-- The places that the server gives in an answer. -/
def given (args : Args) : (q : Query R) → q.Answer → Set Place
  | .get resource _, .ok body => offered args (resource.hrefs body)
  | .post _ _, .ok (.created location) => offered args location.toList
  | _, _ => ∅

/-- The places that the task holds. -/
def held (args : Args) (s : Loop R) : Set Place :=
  offered args (s.dcapOption.elim [] dcapHrefs) ∪
    offered args (s.serverDevice.elim [] deviceHrefs) ∪
    offered args (s.derOption.elim [] derHrefs) ∪
    offered args s.mirrorUsagePoint.toList ∪ replies s.controlResponseQueue

def names (args : Args) : Names (Query R) Query.Answer (Loop R) Place where
  uses := goesTo
  tells := given args
  holds := held args

theorem offered_mono {hrefs hrefs' : List String} (h : ∀ href ∈ hrefs, href ∈ hrefs') :
    offered args hrefs ⊆ offered args hrefs' := by
  rintro place ⟨href, hhref, hplace⟩
  exact ⟨href, h href hhref, hplace⟩

@[simp] theorem offered_nil : offered args [] = ∅ := by
  simp [offered]

theorem server_mem_offered {hrefs : List String} {href : String} (h : href ∈ hrefs) :
    .server href ∈ offered args hrefs := ⟨href, h, .inl rfl⟩

theorem paginated_mem_offered {hrefs : List String} {href : String} (h : href ∈ hrefs) :
    .server (paginatedUri href args.maxListSize) ∈ offered args hrefs := ⟨href, h, .inr rfl⟩

theorem mem_hrefsOf {links : List (Option Link)} {link : Link} (h : some link ∈ links) :
    link.href ∈ hrefsOf links :=
  List.mem_map_of_mem (List.reduceOption_mem_iff.2 h)

theorem offered_singleton {hrefs : List String} {href : String} (h : href ∈ hrefs) :
    offered args [href] ⊆ offered args hrefs :=
  offered_mono fun _ hhref => List.mem_singleton.1 hhref ▸ h

/-! Keeping what was found. -/

theorem held_dcap (dcapOption : Option DeviceCapability) : held args { s with dcapOption } ⊆
    offered args (dcapOption.elim [] dcapHrefs) ∪ held args s := by
  rintro place ((((h | h) | h) | h) | h)
  · exact .inl h
  all_goals simp only [held, Set.mem_union]; tauto

theorem held_device (serverDevice : Option EndDevice) : held args { s with serverDevice } ⊆
    offered args (serverDevice.elim [] deviceHrefs) ∪ held args s := by
  rintro place ((((h | h) | h) | h) | h) <;> simp only [held, Set.mem_union] <;> tauto

theorem held_der (derOption : Option DER) : held args { s with derOption } ⊆
    offered args (derOption.elim [] derHrefs) ∪ held args s := by
  rintro place ((((h | h) | h) | h) | h) <;> simp only [held, Set.mem_union] <;> tauto

theorem held_mup (mirrorUsagePoint : Option String) : held args { s with mirrorUsagePoint } ⊆
    offered args mirrorUsagePoint.toList ∪ held args s := by
  rintro place ((((h | h) | h) | h) | h) <;> simp only [held, Set.mem_union] <;> tauto

theorem held_queue (controlResponseQueue : List ControlResponse) :
    held args { s with controlResponseQueue } ⊆ replies controlResponseQueue ∪ held args s := by
  rintro place ((((h | h) | h) | h) | h) <;> simp only [held, Set.mem_union] <;> tauto

/-- A reset keeps the responses only. -/
theorem held_reset : held args s.resetConnection ⊆ replies s.controlResponseQueue := by
  rintro place ((((h | h) | h) | h) | h)
  all_goals first | exact h | (obtain ⟨href, hnone, -⟩ := h; cases hnone)

/-! ## The parts of an attempt -/

/-- A part goes to known places only, and to those it is told of. -/
abbrev Goes (args : Args) (known : Set Place) (p : Task R α) (out : α → Set Place) : Prop :=
  Sourced (names args) known p out

/-- A part whose result is no place. -/
abbrev GoesOnly (args : Args) (known : Set Place) (p : Task R α) : Prop :=
  Goes args known p fun _ => ∅

theorem goesOnly_pure (a : α) : GoesOnly args known (pure a : Task R α) :=
  sourced_pure (Set.empty_subset _)

/-- The variables changed here hold no places. -/
theorem goesOnly_modify {g : Loop R → Loop R} (h : ∀ s, held args (g s) = held args s) :
    GoesOnly args known (modify g : Task R PUnit) :=
  sourced_modify fun s => (h s).le.trans Set.subset_union_right

theorem goesOnly_lookupIfNone (resource : Loop R → Option α) {lookup : Task R Unit}
    (h : GoesOnly args known lookup) : GoesOnly args known (lookupIfNone resource lookup) :=
  sourced_get_bind fun _ => sourced_ite (h.mono Set.subset_union_left) (goesOnly_pure _)

theorem goes_require {resource : Loop R → Option α} {out : α → Set Place}
    (h : ∀ s found, resource s = some found → out found ⊆ held args s) :
    Goes args known (require resource) out := by
  refine sourced_get_bind fun s => ?_
  cases hfound : resource s with
  | some found => exact sourced_pure ((h s found hfound).trans Set.subset_union_right)
  | none => exact sourced_throw

/-- What a resource is answered with may be gone to. -/
theorem goes_fetch {resource : Resource} {href : String} {f : ClientResult resource.Body → Task R α}
    {out : α → Set Place} (hhref : .server href ∈ known)
    (hok : ∀ body, Goes args (known ∪ offered args (resource.hrefs body)) (f (.ok body)) out)
    (herror : ∀ err, Goes args known (f (.error err)) out) :
    Goes args known (fetch resource href >>= f) out := by
  refine sourced_bind (sourced_ask (Set.singleton_subset_iff.2 hhref) fun _ => le_rfl) fun a => ?_
  cases a with
  | ok body => exact hok body
  | error err => exact (herror err).mono Set.subset_union_left

theorem goes_post {href : String} {document : Document R} {f : ClientResult SEPResponse → Task R α}
    {out : α → Set Place} (hhref : .server href ∈ known)
    (h : ∀ response, Goes args (known ∪ given args (.post href document) response)
      (f response) out) :
    Goes args known (post href document >>= f) out :=
  sourced_bind (sourced_ask (Set.singleton_subset_iff.2 hhref) fun _ => le_rfl) h

/-- Questions that go nowhere. -/
theorem goesOnly_ask {q : Query R} {f : q.Answer → Task R α} {out : α → Set Place}
    (hq : goesTo q = ∅) (h : ∀ a, Goes args known (f a) out) :
    Goes args known (Proc.ask q >>= f) out :=
  sourced_seq (sourced_ask (hq.le.trans (Set.empty_subset _)) fun _ => Set.empty_subset _) h

theorem goes_ensureDcap (hdcap : .server args.dcapUri ∈ known) :
    Goes args known (ensureDcap args : Task R DeviceCapability)
      fun dcap => offered args (dcapHrefs dcap) := by
  refine sourced_seq (goesOnly_lookupIfNone _ ?_) fun _ => goes_require fun s dcap hs => ?_
  · have hget : Goes args known (getDcap args : Task R (Option DeviceCapability))
        fun dcap => offered args (dcap.elim [] dcapHrefs) :=
      goes_fetch hdcap (fun dcap => sourced_pure Set.subset_union_right)
        fun err => sourced_pure (by simp)
    refine sourced_seq (goesOnly_modify fun _ => rfl) fun _ => sourced_bind hget fun dcap => ?_
    · refine sourced_seq (sourced_modify fun s => (held_dcap dcap).trans ?_) fun _ => ?_
      · exact Set.union_subset_union_left _ Set.subset_union_right
      · cases dcap with
        | none => exact goesOnly_pure _
        | some dcap =>
          refine goesOnly_ask rfl fun sent => ?_
          cases sent with
          | true => exact goesOnly_modify fun _ => rfl
          | false => exact sourced_throw
  · rintro place hplace
    exact .inl (.inl (.inl (.inl (by simpa [hs] using hplace))))

theorem goes_edevLink {dcap : DeviceCapability} (hdcap : offered args (dcapHrefs dcap) ⊆ known) :
    Goes args known (edevLink dcap : Task R Link) fun link => offered args [link.href] := by
  unfold edevLink
  cases hlink : dcap.endDeviceListLink with
  | some link =>
    exact sourced_pure ((offered_singleton (mem_hrefsOf (by simp [hlink]))).trans hdcap)
  | none =>
    refine sourced_seq (sourced_modify fun s => (held_dcap none).trans ?_) fun _ => sourced_throw
    exact Set.union_subset_union_left _ (by simp)

theorem goes_ensureServerDevice {edevUri : String} (huri : offered args [edevUri] ⊆ known) :
    Goes args known (ensureServerDevice args edevUri : Task R EndDevice)
      fun device => offered args (deviceHrefs device) := by
  have hregister : Goes args known
      (registerNewDevice edevUri args.deviceToRegister : Task R (Except Error EndDevice))
      fun device => offered args (device.toOption.elim [] deviceHrefs) := by
    refine goes_post (huri (server_mem_offered (by simp))) fun response => ?_
    rcases response with err | (_ | location) | _
    · exact sourced_pure (by simp [Except.toOption])
    · exact sourced_pure (by simp [Except.toOption])
    · exact goes_fetch (.inr (server_mem_offered (by simp)))
        (fun device => sourced_pure Set.subset_union_right)
        fun err => sourced_pure (by simp [Except.toOption])
    · exact sourced_pure (by simp [Except.toOption])
  have hlookup : Goes args known (ensureDeviceRegistered args edevUri : Task R (Option EndDevice))
      fun device => offered args (device.elim [] deviceHrefs) := by
    refine goes_fetch (huri (paginated_mem_offered (by simp))) (fun list => ?_)
      fun err => sourced_pure (by simp)
    refine sourced_ite (sourced_bind (hregister.mono Set.subset_union_left) fun device => ?_)
      (sourced_ite ?_ sourced_throw)
    · cases device with
      | error err => exact sourced_pure (by simp)
      | ok device => exact sourced_pure Set.subset_union_right
    · cases hdevices : list.endDevice with
      | nil => exact sourced_throw
      | cons device rest =>
        refine sourced_ite sourced_throw (sourced_pure ?_)
        refine (offered_mono fun href hhref => ?_).trans Set.subset_union_right
        simp only [Resource.hrefs, hdevices, List.flatMap_cons]
        exact List.mem_append_left _ (by simpa using hhref)
  refine sourced_seq (goesOnly_lookupIfNone _ (sourced_bind hlookup fun device => ?_)) fun _ =>
    goes_require fun s device hs => ?_
  · refine sourced_modify fun s => (held_device device).trans ?_
    exact Set.union_subset_union_left _ Set.subset_union_right
  · rintro place hplace
    exact .inl (.inl (.inl (.inr (by simpa [hs] using hplace))))

theorem goes_checkRegistration {serverDevice : EndDevice}
    (hdevice : offered args (deviceHrefs serverDevice) ⊆ known) :
    GoesOnly args known (checkRegistration args serverDevice : Task R Unit) := by
  refine sourced_get_bind fun s => ?_
  rcases s.serverRegistrationInfo, hlink : serverDevice.registrationLink, args.expectedPin with
    ⟨_ | reg, _ | regLink, _ | expectedPin⟩
  all_goals try exact goesOnly_pure _
  refine goes_fetch (.inl (hdevice (server_mem_offered (mem_hrefsOf (by simp [hlink])))))
    (fun regInfo => ?_) fun err => sourced_throw
  exact sourced_seq (goesOnly_modify fun _ => rfl) fun _ =>
    sourced_ite sourced_throw (goesOnly_pure _)

/-- What connecting finds may be gone to. -/
theorem goes_connect (hdcap : .server args.dcapUri ∈ known) :
    Goes args known (connect args : Task R (DeviceCapability × EndDevice)) fun found =>
      offered args (dcapHrefs found.1) ∪ offered args (deviceHrefs found.2) := by
  have hfind : Goes args known (findDevice args : Task R (DeviceCapability × EndDevice))
      fun found => offered args (dcapHrefs found.1) ∪ offered args (deviceHrefs found.2) := by
    refine sourced_bind (goes_ensureDcap hdcap) fun dcap =>
      sourced_bind (goes_edevLink Set.subset_union_right) fun link =>
        sourced_bind (goes_ensureServerDevice Set.subset_union_right) fun device =>
          sourced_pure (Set.union_subset ?_ Set.subset_union_right)
    exact fun place hplace => .inl (.inl (.inr hplace))
  refine sourced_bind hfind fun found => sourced_seq (goes_checkRegistration ?_) fun _ =>
    sourced_pure Set.subset_union_right
  exact fun place hplace => .inr (.inr hplace)

theorem goes_sendControlResponses {queue : List ControlResponse} (hqueue : replies queue ⊆ known) :
    GoesOnly args known (sendControlResponses args queue : Task R Bool) := by
  induction queue with
  | nil => exact goesOnly_pure _
  | cons response queue ih =>
    have hrest : replies queue ⊆ known := by
      rintro place ⟨queued, hqueued, hplace⟩
      exact hqueue ⟨queued, List.mem_cons_of_mem _ hqueued, hplace⟩
    have hresponse : Place.reply response.replyTo ∈ known :=
      hqueue ⟨response, List.mem_cons_self, rfl⟩
    have hset {queue : List ControlResponse} (hqueue : replies queue ⊆ known) :
        GoesOnly args known (setQueue queue : Task R Unit) :=
      sourced_modify fun s => (held_queue queue).trans (Set.union_subset_union_left _ hqueue)
    refine sourced_seq (hset hrest) fun _ => sourced_seq
      (sourced_ask (Set.singleton_subset_iff.2 hresponse) fun _ => Set.empty_subset _) fun _ => ?_
    exact sourced_ite (sourced_seq (hset hqueue) fun _ => goesOnly_pure _) (ih hrest)

theorem goes_ensureDer {serverDevice : EndDevice}
    (hdevice : offered args (deviceHrefs serverDevice) ⊆ known) :
    Goes args known (ensureDer args serverDevice : Task R DER)
      fun der => offered args (derHrefs der) := by
  have hlookup : Goes args known (lookupDer args serverDevice : Task R (Option DER))
      fun der => offered args (der.elim [] derHrefs) := by
    unfold lookupDer
    cases hlink : serverDevice.derListLink with
    | none => exact sourced_pure (by simp)
    | some link =>
      refine goes_fetch (hdevice (paginated_mem_offered (mem_hrefsOf (by simp [hlink]))))
        (fun list => ?_) fun err => sourced_pure (by simp)
      dsimp only
      rcases hder : list.der with _ | ⟨der, _ | ⟨_, _⟩⟩
      · exact sourced_pure (by simp)
      · refine sourced_pure ((offered_mono fun href hhref => ?_).trans Set.subset_union_right)
        simp only [Resource.hrefs, hder, List.flatMap_cons]
        exact List.mem_append_left _ hhref
      · exact sourced_pure (by simp)
  refine sourced_seq (goesOnly_lookupIfNone _ (sourced_bind hlookup fun der => ?_)) fun _ =>
    goes_require fun s der hs => ?_
  · refine sourced_modify fun s => (held_der der).trans ?_
    exact Set.union_subset_union_left _ Set.subset_union_right
  · rintro place hplace
    exact .inl (.inl (.inr (by simpa [hs] using hplace)))

theorem goesOnly_isDue (lastSent : Option Nat) (postRate : Nat) :
    GoesOnly args known (isDue lastSent postRate : Task R Bool) := by
  unfold isDue
  cases lastSent with
  | none => exact goesOnly_pure _
  | some time => exact goesOnly_ask rfl fun _ => goesOnly_pure _

theorem goes_sendReport {lastSent : Option Nat} {postRate : Nat} {report : Option (Document R)}
    {link : Option Link} {sent : Nat → Loop R → Loop R}
    (hlink : ∀ found, link = some found → .server found.href ∈ known)
    (hsent : ∀ now s, held args (sent now s) = held args s) :
    GoesOnly args known (sendReport lastSent postRate report link sent) := by
  refine sourced_seq (goesOnly_isDue lastSent postRate) fun due => ?_
  cases due with
  | false => exact goesOnly_pure _
  | true =>
    rcases report, link with ⟨_ | document, _ | link⟩
    all_goals try exact goesOnly_pure _
    refine sourced_seq (sourced_ask (Set.singleton_subset_iff.2 (hlink link rfl))
      fun _ => Set.empty_subset _) fun response => ?_
    cases response with
    | error err => exact sourced_throw
    | ok _ => exact goesOnly_ask rfl fun now => goesOnly_modify (hsent now)

theorem goes_lookupMup {muplHref : String} (hmupl : offered args [muplHref] ⊆ known) :
    Goes args known (lookupMup args muplHref : Task R (Option MirrorUsagePoint))
      fun mup => offered args ((mup.bind MirrorUsagePoint.href).toList) := by
  refine goes_fetch (hmupl (paginated_mem_offered (by simp))) (fun list => sourced_pure ?_)
    fun err => sourced_pure (by simp)
  refine (offered_mono fun href hhref => ?_).trans Set.subset_union_right
  obtain ⟨mup, hmup, hhref⟩ := Option.bind_eq_some_iff.1 (Option.mem_toList.1 hhref)
  exact List.mem_filterMap.2 ⟨mup, List.mem_of_find?_eq_some hmup, hhref⟩

theorem goes_ensureMup {muplHref : String} (reading : MirrorMeterReading)
    (hmupl : offered args [muplHref] ⊆ known) :
    Goes args known (ensureMup args muplHref reading : Task R (Option String))
      fun mup => offered args mup.toList := by
  refine sourced_bind (goes_lookupMup hmupl) fun mup => ?_
  cases mup with
  | none =>
    refine goesOnly_ask rfl fun mrid => goes_post (.inl (hmupl (server_mem_offered (by simp))))
      fun response => ?_
    rcases response with err | (_ | location) | _
    · exact sourced_pure (by simp)
    · exact sourced_pure (by simp)
    · exact sourced_pure Set.subset_union_right
    · exact sourced_pure (by simp)
  | some mup =>
    dsimp only
    cases hhref : mup.href with
    | none => exact sourced_pure (by simp)
    | some href =>
      refine goes_post (.inr (server_mem_offered (by simp [hhref]))) fun response => ?_
      cases response with
      | error err => exact sourced_pure (by simp)
      | ok _ =>
        refine sourced_pure fun place hplace => .inl (.inr ?_)
        simpa [hhref] using hplace

theorem goes_sendReading {dcap : DeviceCapability} (reading : MirrorMeterReading)
    (hdcap : offered args (dcapHrefs dcap) ⊆ known) :
    GoesOnly args known (sendReading args dcap reading : Task R Bool) := by
  refine sourced_get_bind fun s => ?_
  cases hmup : s.mirrorUsagePoint with
  | some mup =>
    have hheld : Place.server mup ∈ held args s :=
      .inl (.inr (server_mem_offered (by simp [hmup])))
    refine goes_post (.inr hheld) fun response => ?_
    cases response <;> exact goesOnly_pure _
  | none =>
    dsimp only
    cases hlink : dcap.mirrorUsagePointListLink with
    | none => exact goesOnly_pure _
    | some link =>
      have hmupl : offered args [link.href] ⊆ known :=
        (offered_singleton (mem_hrefsOf (by simp [hlink]))).trans hdcap
      refine sourced_bind (goes_ensureMup reading (hmupl.trans Set.subset_union_left)) fun mup => ?_
      refine sourced_seq (sourced_modify fun s => (held_mup mup).trans ?_) fun _ => goesOnly_pure _
      exact Set.union_subset_union_left _ Set.subset_union_right

theorem goes_fillCache {dcap : DeviceCapability} (hdcap : offered args (dcapHrefs dcap) ⊆ known) :
    GoesOnly args known (fillCache args dcap : Task R Unit) := by
  refine sourced_get_bind fun s => sourced_ite (sourced_seq ?_ fun cache =>
    goesOnly_modify fun _ => rfl) (goesOnly_pure _)
  unfold initialiseReadingMridCache
  cases hlink : dcap.mirrorUsagePointListLink with
  | none => exact goesOnly_pure _
  | some link =>
    have hmupl : offered args [link.href] ⊆ known :=
      (offered_singleton (mem_hrefsOf (by simp [hlink]))).trans hdcap
    refine sourced_bind (goes_lookupMup (hmupl.trans Set.subset_union_left)) fun mup => ?_
    cases mup <;> exact goesOnly_pure _

theorem goesOnly_cachedMrid (key : CacheKey) :
    GoesOnly args known (cachedMrid key : Task R MRIDType) := by
  refine sourced_get_bind fun s => ?_
  cases s.readingMridCache.get? key with
  | some mrid => exact goesOnly_pure _
  | none =>
    exact goesOnly_ask rfl fun mrid => sourced_seq (goesOnly_modify fun _ => rfl) fun _ =>
      goesOnly_pure _

theorem goes_sendReadings {dcap : DeviceCapability} (readings : List MirrorMeterReading)
    (hdcap : offered args (dcapHrefs dcap) ⊆ known) :
    GoesOnly args known (sendReadings args dcap readings : Task R Bool) := by
  induction readings with
  | nil => exact goesOnly_pure _
  | cons reading readings ih =>
    unfold sendReadings
    cases readingKey reading with
    | none => exact ih
    | some key =>
      refine sourced_seq (goesOnly_cachedMrid key) fun mrid =>
        sourced_seq (goes_sendReading _ hdcap) fun retry => ?_
      cases retry with
      | true => exact goesOnly_pure _
      | false => exact ih

theorem goes_sendLatestMeterReadings {dcap : DeviceCapability}
    (hdcap : offered args (dcapHrefs dcap) ⊆ known) :
    GoesOnly args known (sendLatestMeterReadings args dcap : Task R Unit) := by
  refine sourced_get_bind fun s => ?_
  have hdcap := hdcap.trans (Set.subset_union_left (t := held args s))
  cases s.latestMeterReadings with
  | none => exact goesOnly_pure _
  | some readings =>
    refine sourced_seq (goesOnly_isDue _ _) fun due => ?_
    cases due with
    | false => exact goesOnly_pure _
    | true =>
      refine sourced_seq (sourced_seq (goes_fillCache hdcap) fun _ =>
        goes_sendReadings readings hdcap) fun retry => ?_
      cases retry with
      | true => exact sourced_throw
      | false => exact goesOnly_ask rfl fun now => goesOnly_modify fun _ => rfl

theorem goes_deliver {dcap : DeviceCapability} {serverDevice : EndDevice}
    (hdcap : offered args (dcapHrefs dcap) ⊆ known)
    (hdevice : offered args (deviceHrefs serverDevice) ⊆ known) :
    GoesOnly args known (deliver args dcap serverDevice : Task R Unit) := by
  refine sourced_get_bind fun s => sourced_seq (goes_sendControlResponses ?_) fun retry => ?_
  · exact Set.subset_union_of_subset_right Set.subset_union_right _
  cases retry with
  | true => exact sourced_throw
  | false =>
    refine Sourced.mono ?_ (Set.subset_union_left (s := known))
    refine sourced_bind (goes_ensureDer hdevice) fun der => ?_
    have hreport {value : Loop R → Option (Document R)} {link : Option Link}
        {lastSent : Loop R → Option Nat} {postRate : Loop R → Nat} {sent : Nat → Loop R → Loop R}
        (hlink : link ∈ [der.derSettingsLink, der.derStatusLink, der.derCapabilityLink])
        (hsent : ∀ now s, held args (sent now s) = held args s) :
        GoesOnly args (known ∪ offered args (derHrefs der))
          (get >>= fun s => sendReport (lastSent s) (postRate s) (value s) link sent) := by
      refine sourced_get_bind fun s => goes_sendReport (fun found hfound => ?_) hsent
      exact .inl (.inr (server_mem_offered (mem_hrefsOf (hfound ▸ hlink))))
    refine sourced_seq (hreport (by simp) fun _ _ => rfl) fun _ =>
      sourced_seq (hreport (by simp) fun _ _ => rfl) fun _ =>
        sourced_seq (hreport (by simp) fun _ _ => rfl) fun _ => ?_
    exact goes_sendLatestMeterReadings (hdcap.trans Set.subset_union_left)

theorem goes_attempt : GoesOnly args {.server args.dcapUri} (attempt args : Task R Unit) := by
  refine sourced_seq (goesOnly_modify fun _ => rfl) fun _ =>
    sourced_bind (goes_connect rfl) fun found => sourced_seq (goes_deliver ?_ ?_) fun _ =>
      goesOnly_modify fun _ => rfl
  · exact fun place hplace => .inr (.inl hplace)
  · exact fun place hplace => .inr (.inr hplace)

/-! ## Polls -/

theorem goes_getThenPoll {resource : Resource} {callback : resource.Body → Sep2ResourceEvent}
    {href : String} {pollRate : UInt32} (hhref : .server href ∈ known) :
    GoesOnly args known (getThenPoll resource callback href pollRate : Task R Nat) := by
  have hpoll : GoesOnly args known
      (Connection.ask (Query.startPoll resource href pollRate : Query R) : Task R Nat) :=
    sourced_ask (Set.singleton_subset_iff.2 hhref) fun _ => Set.empty_subset _
  refine goes_fetch hhref (fun body => ?_) fun err => hpoll
  exact sourced_seq (goesOnly_ask rfl fun _ => goesOnly_pure _) fun _ =>
    hpoll.mono Set.subset_union_left

theorem goes_subscribeToResource (href : String) (kind : ResourceKind)
    (pollRate : Option UInt32) :
    GoesOnly args (offered args [href])
      (subscribeToResource args href kind pollRate : Task R Unit) := by
  refine sourced_get_bind fun s => ?_
  cases s.establishedPolls.get? href with
  | some establishedPoll =>
    exact sourced_ite (goesOnly_ask rfl fun _ => goesOnly_modify fun _ => rfl) (goesOnly_pure _)
  | none =>
    have hhref : .server (kindHref kind href args.maxListSize) ∈ offered args [href] := by
      cases kind <;> simp [kindHref, offered]
    refine sourced_seq (Sourced.mono ?_ Set.subset_union_left) fun poll => ?_
    · unfold startPollFor
      cases pollOf kind with
      | none => exact goesOnly_pure _
      | some poll => exact sourced_seq (goes_getThenPoll hhref) fun _ => goesOnly_pure _
    · cases poll with
      | none => exact goesOnly_pure _
      | some poll => exact goesOnly_modify fun _ => rfl

theorem goes_unsubscribeFromResource (href : String) :
    GoesOnly args ∅ (unsubscribeFromResource href : Task R Unit) := by
  refine sourced_get_bind fun s => ?_
  cases s.establishedPolls.get? href with
  | none => exact goesOnly_pure _
  | some poll =>
    exact sourced_seq (goesOnly_modify fun _ => rfl) fun _ =>
      sourced_ask (Set.empty_subset _) fun _ => Set.empty_subset _

/-! ## Turns -/

/-- What happened since the last reset. -/
def sinceReset (past : List (Moment R)) : List (Moment R) :=
  past.foldl (fun kept e => if resets e = true then [] else kept ++ [e]) []

/-- Where the task was asked to respond to a control. -/
def repliesAsked (past : List (Moment R)) : Set Place :=
  {place | ∃ response, .sendControlResponse response ∈ commandsIn past ∧
    place = .reply response.replyTo}

/-- The resource whose poll the last command asks for. -/
def pollAsked (args : Args) (past : List (Moment R)) : Set Place :=
  {place | ∃ href kind pollRate,
    (commandsIn past).getLast? = some (.subscribeToResource href kind pollRate) ∧
      place ∈ offered args [href]}

/-- What the task was told. -/
def toldOf (args : Args) (past : List (Moment R)) : Set Place :=
  {.server args.dcapUri} ∪ (names args).told (sinceReset past) ∪ repliesAsked past

/-- A request goes where the task was told. -/
def GoesWhereTold (args : Args) (past : List (Moment R)) (e : Moment R) : Prop :=
  goesTo e.question.2 ⊆ toldOf args past ∪ pollAsked args past

theorem resets_eq_false {e : Moment R} (he : e.question.2.isRecv = false) : resets e = false := by
  obtain ⟨⟨s, q⟩, answer⟩ := e
  cases q with
  | recv => cases he
  | _ => rfl

theorem sinceReset_append (hl : ∀ e ∈ l, resets e = false) :
    sinceReset (past ++ l) = sinceReset past ++ l := by
  induction l using List.reverseRecOn with
  | nil => simp
  | append_singleton l e ih =>
    rw [← List.append_assoc, sinceReset, List.foldl_append, ← sinceReset,
      ih fun e' he' => hl e' (List.mem_append_left _ he')]
    simp [hl e (by simp)]

/-- Without a reset, what was told stays. -/
theorem toldOf_append (args : Args) (past : List (Moment R)) (hl : ∀ e ∈ l, resets e = false) :
    toldOf args past ∪ (names args).told l ⊆ toldOf args (past ++ l) := by
  rw [toldOf, toldOf, sinceReset_append hl, told_append, repliesAsked, repliesAsked,
    commandsIn_append]
  rintro place (((h | h) | ⟨response, hresponse, rfl⟩) | h)
  · exact .inl (.inl h)
  · exact .inl (.inr (.inl h))
  · exact .inr ⟨response, List.mem_append_left _ hresponse, rfl⟩
  · exact .inl (.inr (.inr h))

theorem reply_not_mem_told {href : String} (l : List (Moment R)) :
    .reply href ∉ (names args).told l := by
  rintro ⟨⟨⟨s, q⟩, answer⟩, -, h⟩
  have hgiven : .reply href ∈ given args q answer := h
  unfold given at hgiven
  split at hgiven <;> simp [offered] at hgiven

variable [DecidableEq R.DERCapability]

/-- What the task holds, it was told. -/
def Holds (args : Args) (past : List (Moment R)) (s : Loop R) : Prop :=
  held args s ⊆ toldOf args past

theorem Holds.recv (hs : Holds args past s) (command : Command R) :
    Holds args (past ++ [⟨(s, .recv), some command⟩]) (s.take command) := by
  have hmore (hreset : command.isReset = false) :
      toldOf args past ⊆ toldOf args (past ++ [⟨(s, .recv), some command⟩]) := by
    refine Set.subset_union_left.trans (toldOf_append args past fun e he => ?_)
    obtain rfl := List.mem_singleton.1 he
    exact hreset
  cases command with
  | resetConnection =>
    intro place hplace
    obtain ⟨response, hresponse, rfl⟩ := held_reset hplace
    rcases hs (.inr ⟨response, hresponse, rfl⟩) with (h | h) | ⟨asked, hasked, h⟩
    · cases h
    · exact absurd h (reply_not_mem_told _)
    · refine .inr ⟨asked, ?_, h⟩
      rw [commandsIn_append]
      exact List.mem_append_left _ hasked
  | sendControlResponse response =>
    intro place hplace
    rcases held_queue (limitQueue (s.controlResponseQueue ++ [response])) hplace with
      ⟨queued, hqueued, rfl⟩ | h
    · rcases List.mem_append.1 (List.mem_of_mem_drop hqueued) with hqueued | hqueued
      · exact hmore rfl (hs (.inr ⟨queued, hqueued, rfl⟩))
      · obtain rfl := List.mem_singleton.1 hqueued
        refine .inr ⟨queued, ?_, rfl⟩
        rw [commandsIn_append]
        exact List.mem_append_right _ (by simp [commandsIn, received?])
    · exact hmore rfl (hs h)
  | sendDeviceCapability capabilities =>
    have hheld : held args (s.take (.sendDeviceCapability capabilities)) = held args s := by
      simp only [Loop.take]
      split_ifs <;> rfl
    exact hheld.le.trans (hs.trans (hmore rfl))
  | _ => exact hs.trans (hmore rfl)

omit [DecidableEq R.DERCapability] in
/-- What follows a command goes where the task was told. -/
theorem Holds.go {command : Command R} {p : Task R α} {r : Except Exit α}
    (hs : Holds args (past ++ [⟨(s, .recv), some command⟩]) t)
    (hl : ∀ e ∈ l, e.question.2.isRecv = false)
    (hknown : known ⊆ toldOf args (past ++ [⟨(s, .recv), some command⟩]) ∪
      pollAsked args (past ++ [⟨(s, .recv), some command⟩]))
    (hp : GoesOnly args known p) {u : Loop R} (hrun : Runs p t l r u) :
    Always (GoesWhereTold args) past (⟨(s, .recv), some command⟩ :: l) := by
  refine ⟨Set.empty_subset _, always_iff.2 fun pre e rest hsplit => ?_⟩
  have hpre : ∀ e ∈ pre, e.question.2.isRecv = false := fun e he =>
    hl e (hsplit ▸ List.mem_append_left _ he)
  have htold := toldOf_append args (past ++ [⟨(s, .recv), some command⟩])
    fun e he => resets_eq_false (hpre e he)
  have hcommands : commandsIn (past ++ [⟨(s, .recv), some command⟩] ++ pre) =
      commandsIn (past ++ [⟨(s, .recv), some command⟩]) := by
    rw [commandsIn_append, commandsIn_eq_nil hpre, List.append_nil]
  refine (((hp t l r u hrun).1 pre e rest hsplit).trans ?_)
  rintro place ((h | h) | h)
  · rcases hknown h with h | h
    · exact .inl (htold (.inl h))
    · refine .inr ?_
      unfold pollAsked
      rw [hcommands]
      exact h
  · exact .inl (htold (.inl (hs h)))
  · exact .inl (htold (.inr h))

theorem Holds.turn (hs : Holds args past s) (h : Turn args s l r t) :
    Always (GoesWhereTold args) past l ∧ Holds args (past ++ l) t := by
  have hmore {e : Moment R} {l : List (Moment R)} (hl : ∀ e ∈ l, e.question.2.isRecv = false) :
      toldOf args (past ++ [e]) ∪ (names args).told l ⊆ toldOf args (past ++ e :: l) := by
    have htold := toldOf_append args (past ++ [e])
      fun e he => resets_eq_false (hl e he)
    rwa [List.append_assoc, List.singleton_append] at htold
  have hpolls {command : Command R} {p : Task R Unit} {l : List (Moment R)}
      (hcommand : s.take command = s) (hl : ∀ e ∈ l, e.question.2.isRecv = false)
      (hkeeps : Keeps Loop.exceptPolls (fun q => q.isPolling = true) p)
      (hgoes : GoesOnly args (pollAsked args (past ++ [⟨(s, .recv), some command⟩])) p)
      (hrun : Runs (p >>= fun _ => throw .again : Task R Unit) s l r t) :
      Always (GoesWhereTold args) past (⟨(s, .recv), some command⟩ :: l) ∧
        Holds args (past ++ ⟨(s, .recv), some command⟩ :: l) t := by
    have hrecv := hs.recv command
    rw [hcommand] at hrecv
    refine ⟨hrecv.go hl Set.subset_union_right (sourced_seq hgoes fun _ => sourced_throw) hrun, ?_⟩
    have hheld := keeps_bind (hkeeps.weaken (ψ := fun _ => True) (held args) (fun _ => rfl)
      fun _ _ => trivial) fun _ => keeps_throw (α := Unit) Exit.again
    exact (hheld s l r t hrun).2.le.trans (hrecv.trans (Set.subset_union_left.trans (hmore hl)))
  cases h with
  | closed =>
    refine ⟨⟨Set.empty_subset _, trivial⟩, hs.trans (Set.subset_union_left.trans
      (toldOf_append args past fun e he => ?_))⟩
    obtain rfl := List.mem_singleton.1 he
    rfl
  | @subscribes href kind pollRate l r t hrun =>
    have hl := (turn_of_command (.subscribes hrun)).1
    refine hpolls rfl hl (keeps_subscribeToResource args _ _ _)
      ((goes_subscribeToResource href kind pollRate).mono fun place hplace => ?_) hrun
    refine ⟨href, kind, pollRate, ?_, hplace⟩
    rw [commandsIn_append]
    exact List.getLast?_concat
  | @unsubscribes href l r t hrun =>
    have hturn : Turn args s (⟨(s, .recv), some (.unsubscribeFromResource href)⟩ :: l) r t :=
      .unsubscribes hrun
    exact hpolls rfl (turn_of_command hturn).1 (keeps_unsubscribeFromResource _)
      ((goes_unsubscribeFromResource href).mono (Set.empty_subset _)) hrun
  | waits => exact ⟨⟨Set.empty_subset _, trivial⟩, hs.recv _⟩
  | @attempts command l r t hattempts hrun =>
    have hl := (turn_of_command (.attempts hattempts hrun)).1
    have hrecv := hs.recv command
    have hdcap : {.server args.dcapUri} ⊆ toldOf args (past ++ [⟨(s, .recv), some command⟩]) :=
      fun place hplace => .inl (.inl hplace)
    refine ⟨hrecv.go hl (hdcap.trans Set.subset_union_left) goes_attempt hrun, ?_⟩
    refine ((goes_attempt _ _ _ _ hrun).2.1).trans (Set.Subset.trans ?_ (hmore hl))
    exact Set.union_subset_union_left _ (Set.union_subset hdcap hrecv)

/-- **Where the requests go.** -/
theorem requests_sourced (h : Log args log) : Always (GoesWhereTold args) [] log := by
  refine h.always (I := Holds args) (fun place hplace => ?_) fun past s l r t hs hturn => ?_
  · obtain ⟨response, hnone, -⟩ := held_reset (s := {}) hplace
    cases hnone
  · exact Holds.turn (s := s.beginTurn) hs hturn

/-- Settings are sent before a reset and after it. -/
theorem requests_sourced_reset : ∃ log : List (Moment NoReports), Log ourArgs log ∧
    (log.countP resets = 1 ∧ log.countP (fun e => e.question.2.sendsReport) = 2) ∧
      Always (GoesWhereTold ourArgs) [] log := by
  obtain ⟨log, hlog, hsent⟩ : ∃ log : List (Moment NoReports), Log ourArgs log ∧
      (log.countP resets = 1 ∧ log.countP (fun e => e.question.2.sendsReport) = 2) := by
    refine exists_log_of_turns (scripted [.sendDeviceSettings (), .resetConnection,
      .sendDeviceSettings ()]) 3 ?_
    decide +kernel
  exact ⟨log, hlog, hsent, requests_sourced hlog⟩

end Sep2Bridge.Connection
