import Sep2Bridge.Lib.HashMap
import Sep2Bridge.Lib.Ranking
import Sep2Bridge.Scheduler.Event

/-!
# The cached server state

`scheduler/sep2_model.rs`: the resources received so far, how an update is merged into them,
which links the bridge must follow because of them, and which controls they give a device.

An update takes three things from outside the model, collected in `Surroundings`: the random
draws, the clock, and the order in which the curve table is iterated afterwards. Drawing from an
empty range panics, so an update is partial: `none` stands for the panic.
-/

namespace Sep2Bridge

open Lib

/-! ## The model -/

/-- A control with its realised interval. -/
structure ScheduledControl where
  derControl : DERControl
  startTime : Int
  duration : UInt32
  deriving DecidableEq

def ScheduledControl.endTime (c : ScheduledControl) : Int :=
  wrapI64 (c.startTime + c.duration.toNat)

/-- The ids of the items of a list resource. -/
structure IDList (T : Type) where
  href : String
  items : List T
  pollRate : Option UInt32
  deriving DecidableEq

abbrev MRIDList := IDList MRIDType

abbrev LFDIList := IDList HexBinary160

/-- A resource to be kept up to date, and the poll rate that applies to it. -/
structure ResourceLink where
  kind : ResourceKind
  pollRate : Option UInt32
  deriving DecidableEq

abbrev ResourceLinks := Std.ExtTreeMap String ResourceLink

inductive ControlRef
  | scheduled (control : ScheduledControl)
  | default (control : DefaultDERControl)
  deriving DecidableEq

structure Sep2Model where
  time : Time := {}
  functionSetAssignmentsLists : HashMap String MRIDList := ∅
  programLists : HashMap String MRIDList := ∅
  controlLists : HashMap String MRIDList := ∅
  curveLists : HashMap String MRIDList := ∅
  endDeviceList : Option LFDIList := none
  dcap : Option DeviceCapability := none
  mirrorUsagePointList : Option MirrorUsagePointList := none
  derLists : HashMap String DERList := ∅
  endDevices : HashMap HexBinary160 EndDevice := ∅
  functionSetAssignments : HashMap MRIDType FunctionSetAssignments := ∅
  programs : HashMap MRIDType DERProgram := ∅
  controls : HashMap MRIDType ScheduledControl := ∅
  curves : HashMap MRIDType DERCurve := ∅
  defaultControls : HashMap String DefaultDERControl := ∅
  deriving DecidableEq, Inhabited

/-- What one insertion of a control takes from outside: the two random draws, and the clock. -/
structure Draw where
  startSeed : Nat
  durationSeed : Nat
  now : Int
  deriving DecidableEq

/-- What an update takes from outside the model. -/
structure Surroundings where
  /-- The draws and the clock for each control of the update, by position. -/
  draws : Nat → Draw
  /-- The iteration order of the curve table after the update. -/
  curveOrder : List (MRIDType × DERCurve)

/-- A draw from `lo..=hi`; an empty range panics. -/
def randomRange (lo hi : Int) (seed : Nat) : Option Int :=
  if lo ≤ hi then some (lo + (seed : Int) % (hi - lo + 1)) else none

namespace Sep2Model

/-! ## Merging a resource into the model -/

def setDcap (m : Sep2Model) (dcap : DeviceCapability) : Sep2Model :=
  { m with dcap := some dcap }

/-- A device without an LFDI is ignored. -/
def setEndDevice (m : Sep2Model) (incoming : EndDevice) : Sep2Model :=
  match incoming.lfdi with
  | none => m
  | some lfdi => { m with endDevices := m.endDevices.insert lfdi incoming }

def setEndDeviceList (m : Sep2Model) (incoming : EndDeviceList) : Sep2Model :=
  match incoming.href with
  | none => m
  | some href =>
    let list : LFDIList :=
      { href, items := incoming.endDevice.filterMap EndDevice.lfdi, pollRate := incoming.pollRate }
    incoming.endDevice.foldl setEndDevice { m with endDeviceList := some list }

def setFunctionSetAssignments (m : Sep2Model) (incoming : FunctionSetAssignments) : Sep2Model :=
  { m with functionSetAssignments := m.functionSetAssignments.insert incoming.mrid incoming }

def setFunctionSetAssignmentsList (m : Sep2Model) (incoming : FunctionSetAssignmentsList) :
    Sep2Model :=
  match incoming.href with
  | none => m
  | some href =>
    let list : MRIDList :=
      { href, items := incoming.functionSetAssignments.map FunctionSetAssignments.mrid,
        pollRate := incoming.pollRate }
    incoming.functionSetAssignments.foldl setFunctionSetAssignments
      { m with functionSetAssignmentsLists := m.functionSetAssignmentsLists.insert href list }

def setDerProgram (m : Sep2Model) (incoming : DERProgram) : Sep2Model :=
  { m with programs := m.programs.insert incoming.mrid incoming }

def setDerProgramList (m : Sep2Model) (incoming : DERProgramList) : Sep2Model :=
  match incoming.href with
  | none => m
  | some href =>
    let list : MRIDList :=
      { href, items := incoming.derProgram.map DERProgram.mrid, pollRate := incoming.pollRate }
    incoming.derProgram.foldl setDerProgram
      { m with programLists := m.programLists.insert href list }

/-- The response to a control whose status changed while it was stored. -/
def statusChangeEvent (priorStatus : EventStatusType) (incoming : DERControl) : Option Event :=
  if priorStatus = incoming.currentStatus then none
  else match incoming.currentStatus with
    | .cancelled => (replyToIfRequired incoming ResponseRequired.specificResponse).map
        (Event.derControlStatusChanged incoming.mrid .eventCancelled)
    | .superseded => (replyToIfRequired incoming ResponseRequired.specificResponse).map
        (Event.derControlStatusChanged incoming.mrid .eventSuperseded)
    | _ => none

/-- Realise the interval of a control received for the first time. -/
def realise (draw : Draw) (incoming : DERControl) : Option ScheduledControl := do
  let randomizeStart := (incoming.randomizeStart.getD 0).toInt
  let randomizeDuration := (incoming.randomizeDuration.getD 0).toInt
  let startShift ← randomRange (-randomizeStart) randomizeStart draw.startSeed
  let durationShift ← randomRange (-randomizeDuration) randomizeDuration draw.durationSeed
  return {
    derControl := incoming
    startTime := wrapI64 (incoming.interval.start + startShift)
    duration := UInt32.ofNat (incoming.interval.duration.toNat + durationShift).toNat }

/-- The responses to a control received for the first time. -/
def firstEvents (now : Int) (control : ScheduledControl) : List Event :=
  let incoming := control.derControl
  let alreadyStarted := incoming.currentStatus = .active ∧ control.startTime ≤ now ∧
    now < control.endTime
  ((replyToIfRequired incoming ResponseRequired.messageReceived).map
    (Event.derControlStatusChanged incoming.mrid .eventReceived)).toList ++
  (if alreadyStarted then
    ((replyToIfRequired incoming ResponseRequired.specificResponse).map
      (Event.derControlStatusChanged incoming.mrid .eventStarted)).toList
  else [])

/-- Upsert a control. A stored control keeps its realised interval. -/
def setDerControl (draw : Draw) (m : Sep2Model) (incoming : DERControl) :
    Option (Sep2Model × List Event) :=
  match m.controls.get? incoming.mrid with
  | some stored =>
    some ({ m with
        controls := m.controls.insert incoming.mrid { stored with derControl := incoming } },
      (statusChangeEvent stored.derControl.currentStatus incoming).toList)
  | none => do
    let control ← realise draw incoming
    return ({ m with controls := m.controls.insert incoming.mrid control },
      firstEvents draw.now control)

def setDerControls : (Nat → Draw) → Sep2Model → List DERControl → Option (Sep2Model × List Event)
  | _, m, [] => some (m, [])
  | draws, m, c :: cs => do
    let (m', events) ← m.setDerControl (draws 0) c
    let (m'', events') ← setDerControls (fun i => draws (i + 1)) m' cs
    return (m'', events ++ events')

def setDerControlList (draws : Nat → Draw) (m : Sep2Model) (incoming : DERControlList) :
    Option (Sep2Model × List Event) :=
  match incoming.href with
  | none => some (m, [])
  | some href =>
    -- The poll rate of a control list is that of the program list above it.
    let list : MRIDList :=
      { href, items := incoming.derControl.map DERControl.mrid, pollRate := none }
    setDerControls draws { m with controlLists := m.controlLists.insert href list }
      incoming.derControl

def setDefaultDerControl (m : Sep2Model) (incoming : DefaultDERControl) : Sep2Model :=
  match incoming.href with
  | none => m
  | some href => { m with defaultControls := m.defaultControls.insert href incoming }

def setDerList (m : Sep2Model) (incoming : DERList) : Sep2Model :=
  match incoming.href with
  | none => m
  | some href => { m with derLists := m.derLists.insert href incoming }

def setMirrorUsagePointList (m : Sep2Model) (incoming : MirrorUsagePointList) : Sep2Model :=
  { m with mirrorUsagePointList := some incoming }

def setDerCurve (m : Sep2Model) (incoming : DERCurve) : Sep2Model :=
  { m with curves := m.curves.insert incoming.mrid incoming }

def setDerCurveList (m : Sep2Model) (incoming : DERCurveList) : Sep2Model :=
  match incoming.href with
  | none => m
  | some href =>
    let list : MRIDList :=
      { href, items := incoming.derCurve.map DERCurve.mrid, pollRate := none }
    incoming.derCurve.foldl setDerCurve { m with curveLists := m.curveLists.insert href list }

def setTime (m : Sep2Model) (time : Time) : Sep2Model :=
  { m with time := time }

/-- The merge of one resource, with the control responses it gives rise to. -/
def setResource (draws : Nat → Draw) (m : Sep2Model) :
    Sep2ResourceEvent → Option (Sep2Model × List Event)
  | .deviceCapability dcap => some (m.setDcap dcap, [])
  | .time time => some (m.setTime time, [])
  | .endDeviceList edl => some (m.setEndDeviceList edl, [])
  | .functionSetAssignmentsList fsal => some (m.setFunctionSetAssignmentsList fsal, [])
  | .derProgramList derpl => some (m.setDerProgramList derpl, [])
  | .derControlList dercl => m.setDerControlList draws dercl
  | .derCurveList curves => some (m.setDerCurveList curves, [])
  | .defaultDerControl dderc => some (m.setDefaultDerControl dderc, [])
  | .derList derl => some (m.setDerList derl, [])
  | .mirrorUsagePointList mupl => some (m.setMirrorUsagePointList mupl, [])

/-! ## The links to follow -/

/-- The stored items of a list, skipping those not yet received. -/
def listItems {K V : Type} [DecidableEq K] (list : Option (IDList K)) (items : HashMap K V) :
    List V :=
  (list.toList.flatMap IDList.items).filterMap items.get?

/-- A list of entries as a map; of two entries for one href the later counts. -/
def collectLinks (entries : List (String × ResourceLink)) : ResourceLinks :=
  entries.foldl (fun links e => links.insert e.1 e.2) ∅

/-- The links for a list and each of its items, all with one poll rate, and below each item
those given by `itemLinks`. -/
def listLinks {T : Type} (href : String) (kind itemKind : ResourceKind) (pollRate : Option UInt32)
    (itemHref : T → Option String) (items : List T) (itemLinks : T → ResourceLinks) :
    ResourceLinks :=
  collectLinks ((href, ⟨kind, pollRate⟩) :: items.flatMap fun item =>
    (itemHref item).toList.map (fun href => (href, ⟨itemKind, pollRate⟩)) ++
      (itemLinks item).toList)

/-- The links below a program, all with the poll rate of its list. -/
def derProgramLinks (m : Sep2Model) (pollRate : Option UInt32) (derp : DERProgram) :
    ResourceLinks :=
  collectLinks <|
    derp.defaultDerControlLink.toList.map
      (fun link => (link.href, ⟨.defaultDerControl, pollRate⟩)) ++
    derp.derControlListLink.toList.flatMap (fun link =>
      (listLinks link.href .derControlList .derControl pollRate (·.derControl.href)
        (listItems (m.controlLists.get? link.href) m.controls) fun _ => ∅).toList) ++
    derp.derCurveListLink.toList.flatMap (fun link =>
      (listLinks link.href .derCurveList .derCurve pollRate DERCurve.href
        (listItems (m.curveLists.get? link.href) m.curves) fun _ => ∅).toList)

/-- The links for a program list and everything below it. -/
def derProgramListLinks (m : Sep2Model) (href : String) : ResourceLinks :=
  let derpl := m.programLists.get? href
  let pollRate := derpl.bind IDList.pollRate
  listLinks href .derProgramList .derProgram pollRate DERProgram.href
    (listItems derpl m.programs) (m.derProgramLinks pollRate)

/-- The links below one function set assignment. -/
def functionSetAssignmentsLinks (m : Sep2Model) (fsa : FunctionSetAssignments) : ResourceLinks :=
  collectLinks (fsa.derProgramListLink.toList.flatMap fun link =>
    (m.derProgramListLinks link.href).toList)

/-- The links for a list of function set assignments and everything below it. -/
def functionSetAssignmentsListLinks (m : Sep2Model) (href : String) : ResourceLinks :=
  let fsal := m.functionSetAssignmentsLists.get? href
  listLinks href .functionSetAssignmentsList .functionSetAssignments (fsal.bind IDList.pollRate)
    FunctionSetAssignments.href (listItems fsal m.functionSetAssignments)
    m.functionSetAssignmentsLinks

/-- The links below one device. -/
def endDeviceLinks (m : Sep2Model) (edev : EndDevice) : ResourceLinks :=
  collectLinks <|
    edev.functionSetAssignmentsListLink.toList.flatMap (fun link =>
      (m.functionSetAssignmentsListLinks link.href).toList) ++
    edev.derListLink.toList.map (fun link =>
      (link.href, ⟨.derList, (m.derLists.get? link.href).bind DERList.pollRate⟩))

/-- The links of the `DeviceCapability`; their poll rates stand on the linked resources. -/
def dcapLinks (m : Sep2Model) : List (String × ResourceLink) :=
  m.dcap.toList.flatMap fun dcap =>
    dcap.timeLink.toList.map (fun link => (link.href, ⟨.time, m.time.pollRate⟩)) ++
    dcap.endDeviceListLink.toList.map (fun link =>
      (link.href, ⟨.endDeviceList, m.endDeviceList.bind IDList.pollRate⟩)) ++
    dcap.mirrorUsagePointListLink.toList.map (fun link =>
      (link.href, ⟨.mirrorUsagePointList,
        m.mirrorUsagePointList.bind MirrorUsagePointList.pollRate⟩))

/-- All resources the model needs to be kept up to date with. -/
def resourceLinks (m : Sep2Model) : ResourceLinks :=
  collectLinks <| m.dcapLinks ++ m.endDeviceList.toList.flatMap fun edl =>
    (listLinks edl.href .endDeviceList .endDevice edl.pollRate EndDevice.href
      (listItems (some edl) m.endDevices) m.endDeviceLinks).toList

/-! ## Collecting what is no longer linked -/

/-- The entity's own href is among the links. -/
def isTracked (links : ResourceLinks) (href : Option String) : Bool :=
  href.any fun href => links.contains href

/-- Drop every list and entity that does not appear in the links. -/
def dropUntrackedResources (m : Sep2Model) (links : ResourceLinks) : Sep2Model :=
  { m with
    functionSetAssignmentsLists :=
      m.functionSetAssignmentsLists.retain fun key _ => links.contains key
    programLists := m.programLists.retain fun key _ => links.contains key
    controlLists := m.controlLists.retain fun key _ => links.contains key
    curveLists := m.curveLists.retain fun key _ => links.contains key
    derLists := m.derLists.retain fun key _ => links.contains key
    mirrorUsagePointList := m.mirrorUsagePointList.filter fun mupl => isTracked links mupl.href
    endDevices := m.endDevices.retain fun _ val => isTracked links val.href
    functionSetAssignments := m.functionSetAssignments.retain fun _ val => isTracked links val.href
    programs := m.programs.retain fun _ val => isTracked links val.href
    controls := m.controls.retain fun _ val => isTracked links val.derControl.href
    curves := m.curves.retain fun _ val => isTracked links val.href
    defaultControls := m.defaultControls.retain fun _ val => isTracked links val.href }

/-! ## Applying an update -/

/-- The events that lead from one set of links to another. -/
def resourceLinkEvents (prior post : ResourceLinks) : List Event :=
  let removed := (prior.toList.filter fun e => !post.contains e.1).map fun e =>
    Event.linkRemoved e.1 e.2.kind
  let addedOrUpdated := (post.toList.filter fun e => prior[e.1]? ≠ some e.2).map fun e =>
    Event.linkAddedOrUpdated e.1 e.2.kind e.2.pollRate
  removed ++ addedOrUpdated

/-- Merge a resource into the model. The links are compared before the sweep. -/
def applyUpdate (env : Surroundings) (m : Sep2Model) (update : Sep2ResourceEvent) :
    Option (Sep2Model × List Event) := do
  let resourceLinksBefore := m.resourceLinks
  let (merged, controlEvents) ← m.setResource env.draws update
  let resourceLinksAfter := merged.resourceLinks
  let swept := merged.dropUntrackedResources resourceLinksAfter
  return ({ swept with curves := swept.curves.reorder env.curveOrder },
    resourceLinkEvents resourceLinksBefore resourceLinksAfter ++ controlEvents)

/-- All known resources, as links to be added. -/
def refreshKnownLinks (m : Sep2Model) : List Event :=
  resourceLinkEvents ∅ m.resourceLinks

/-! ## Queries -/

def derListPollRate (m : Sep2Model) (lfdi : HexBinary160) : Option UInt32 := do
  let edev ← m.endDevices.get? lfdi
  let link ← edev.derListLink
  let derl ← m.derLists.get? link.href
  derl.pollRate

def mirrorUsagePointPostRate (m : Sep2Model) (lfdi : HexBinary160) : Option UInt32 := do
  let mupl ← m.mirrorUsagePointList
  let mup ← mupl.mirrorUsagePoint.find? fun mup => mup.deviceLfdi = lfdi
  mup.postRate

def getEndDevice (m : Sep2Model) (lfdi : HexBinary160) : Option EndDevice :=
  m.endDevices.get? lfdi

/-- The first curve, in the table's iteration order, that carries the href. -/
def getCurveByHref (m : Sep2Model) (href : String) : Option DERCurve :=
  m.curves.values.find? fun curve => curve.href = some href

/-- The programs of a device, through its assignments and their program lists. -/
def devicePrograms (m : Sep2Model) (lfdi : HexBinary160) : List DERProgram :=
  match (m.getEndDevice lfdi).bind EndDevice.functionSetAssignmentsListLink with
  | none => []
  | some fsalLink =>
    match m.functionSetAssignmentsLists.get? fsalLink.href with
    | none => []
    | some fsal =>
      ((fsal.items.filterMap m.functionSetAssignments.get?).filterMap fun fsa =>
          fsa.derProgramListLink.bind fun link => m.programLists.get? link.href).flatMap
        fun derpl => derpl.items.filterMap m.programs.get?

/-- The stored controls on the control list of a program. -/
def programControls (m : Sep2Model) (program : DERProgram) : List ScheduledControl :=
  match program.derControlListLink.bind fun link => m.controlLists.get? link.href with
  | none => []
  | some dercl => dercl.items.filterMap m.controls.get?

/-- Neither cancelled nor superseded. -/
def isLive (control : ScheduledControl) : Bool :=
  control.derControl.currentStatus = .scheduled ∨ control.derControl.currentStatus = .active

/-- The controls and the default of a program, annotated with its primacy. -/
def annotatedControls (m : Sep2Model) (now : Int) (program : DERProgram) :
    List (PrimacyType × ControlRef) :=
  let scheduledControls := ((m.programControls program).filter isLive).filter fun control =>
    now < control.endTime
  let dderc := program.defaultDerControlLink.bind fun link => m.defaultControls.get? link.href
  (scheduledControls.map ControlRef.scheduled ++ dderc.toList.map ControlRef.default).map
    fun control => (program.primacy, control)

/-- By primacy, then scheduled before default, then the later creation time first. -/
def compareControls (a b : PrimacyType × ControlRef) : Ordering :=
  (compare a.1 b.1).then <| match a.2, b.2 with
    | .default _, _ => .gt
    | .scheduled _, .default _ => .lt
    | .scheduled a, .scheduled b =>
      (compare a.derControl.creationTime b.derControl.creationTime).swap

/-- All controls of a device that are neither withdrawn nor over, the strongest first. -/
def allControlsForDevice (m : Sep2Model) (lfdi : HexBinary160) (now : Int) : List ControlRef :=
  (sortBy compareControls ((m.devicePrograms lfdi).flatMap (m.annotatedControls now))).map Prod.snd

end Sep2Model

end Sep2Bridge
