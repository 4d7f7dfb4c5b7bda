import Sep2Bridge.Modbus.CurveGroup
import Sep2Bridge.Modbus.Send
import Sep2Bridge.Modbus.TripSend

/-!
# Everything a full send writes to scaled points

The senders of models 705 to 711, point by point, and with those of models 703 and 704 the scaled
values of `send_new_parameters` (`scaledWrites`). A sender is again the list of its writes, given
the points it reads. Where the points of a curve lie is a matter of `CurveModels`; here a
coordinate has the index of its point.

**Two views of one curve** (`writeVoltCurve_encoded`, `writeTripCurve_encoded`). The curves that
are written are the same, and each coordinate has a block of its own.
-/

namespace Sep2Bridge.Modbus

open Lib ScaledValueInner

/-! ## Scaled points -/

inductive VoltModel
  | m705 | m706
  deriving DecidableEq

inductive TripId
  | m707 | m708 | m709 | m710
  deriving DecidableEq

/-- The points that hold scaled values. -/
inductive ScaledPoint
  -- model 703
  | esvHi | esvLo | esHzHi | esHzLo
  -- model 704
  | pfwInjPf | pfwAbsPf | varSetPct | wMaxLimPct | wSetPct | wSet
  -- models 705 and 706
  | voltX (model : VoltModel) (i : Nat) | voltY (model : VoltModel) (i : Nat)
  | rspTms (model : VoltModel) | vRef
  -- models 707 to 710
  | tripX (model : TripId) (curve : TripCurve) (i : Nat)
  | tripY (model : TripId) (curve : TripCurve) (i : Nat)
  -- model 711
  | dbOf | dbUf | kOf | kUf | ctlRspTms
  deriving DecidableEq

/-- The integer types of scaled points. -/
inductive Width
  | u16 | i16 | u32 | i32
  deriving DecidableEq

def ScaledPoint.width : ScaledPoint → Width
  | .esvHi | .esvLo => .u16
  | .esHzHi | .esHzLo => .u32
  | .pfwInjPf | .pfwAbsPf | .wMaxLimPct => .u16
  | .varSetPct | .wSetPct => .i16
  | .wSet => .i32
  | .voltX _ _ | .vRef => .u16
  | .voltY _ _ => .i16
  | .rspTms _ => .u32
  | .tripX .m707 _ _ | .tripX .m708 _ _ => .u16
  | .tripX .m709 _ _ | .tripX .m710 _ _ => .u32
  | .tripY _ _ _ => .u32
  | .dbOf | .dbUf | .ctlRspTms => .u32
  | .kOf | .kUf => .u16

/-- A write to a scaled point, with the number that its registers are to hold. -/
structure ScaledWrite where
  point : ScaledPoint
  value : Int
  deriving DecidableEq

/-- A write to one of models 705 to 711. -/
inductive CurveWrite
  | scaled (w : ScaledWrite)
  | voltActPt (model : VoltModel) (n : UInt16)
  | tripActPt (model : TripId) (curve : TripCurve) (n : UInt16)
  | voltVarDeptRef (deptRef : VoltVarDeptRef)
  | voltWattDeptRef (deptRef : VoltWattDeptRef)
  | vRefAutoEna (ena : CrvVRefAutoEna)
  | vRefAutoTms (tms : UInt16)
  | adptReq (model : Nat) (target : UInt16)
  | ena (model : Nat) (ena : Ena)
  deriving DecidableEq

def CurveWrite.scaled? : CurveWrite → Option ScaledWrite
  | .scaled w => some w
  | _ => none

@[simp] theorem filterMap_map_scaled (ws : List ScaledWrite) :
    (ws.map CurveWrite.scaled).filterMap CurveWrite.scaled? = ws := by
  rw [List.filterMap_map]
  exact List.filterMap_some

/-- The scaled values among the writes to models 703 and 704. -/
def scaledOf : Sigma Point.Value → Option ScaledWrite
  | ⟨.esvHi, value⟩ => some ⟨.esvHi, toInt (value : UInt16)⟩
  | ⟨.esvLo, value⟩ => some ⟨.esvLo, toInt (value : UInt16)⟩
  | ⟨.esHzHi, value⟩ => some ⟨.esHzHi, toInt (value : UInt32)⟩
  | ⟨.esHzLo, value⟩ => some ⟨.esHzLo, toInt (value : UInt32)⟩
  | ⟨.pfwInjPf, value⟩ => some ⟨.pfwInjPf, toInt (value : UInt16)⟩
  | ⟨.pfwAbsPf, value⟩ => some ⟨.pfwAbsPf, toInt (value : UInt16)⟩
  | ⟨.varSetPct, value⟩ => some ⟨.varSetPct, toInt (value : Int16)⟩
  | ⟨.wMaxLimPct, value⟩ => some ⟨.wMaxLimPct, toInt (value : UInt16)⟩
  | ⟨.wSetPct, value⟩ => some ⟨.wSetPct, toInt (value : Int16)⟩
  | ⟨.wSet, value⟩ => some ⟨.wSet, toInt (value : Int32)⟩
  | _ => none

/-! ## The device -/

/-- What the sender of a curve model reads. -/
structure CurveSupport where
  /-- `N_CRV`, or `N_CRV_SET` of a trip model. -/
  nCrv : UInt16
  nPt : UInt16
  xSf : Int16
  ySf : Int16

structure VoltSupport extends CurveSupport where
  rspTmsSf : Int16

/-- The points read by the senders of all models. -/
structure CurveDevice extends Device where
  volt : VoltModel → VoltSupport
  trip : TripId → CurveSupport
  nCtl : UInt16
  dbSf : Int16
  kSf : Int16
  ctlRspTmsSf : Int16

def VoltModel.id : VoltModel → Nat
  | .m705 => 705
  | .m706 => 706

def TripId.id : TripId → Nat
  | .m707 => 707
  | .m708 => 708
  | .m709 => 709
  | .m710 => 710

/-! ## The senders -/

/-- A scaled value on the scale of the device. -/
def rescaled {T : Type} [ScaledValueInner T] (point : ScaledPoint) (value : ScaledValue T)
    (sf : Int16) : ScaledWrite :=
  ⟨point, toInt (value.rescale sf).value⟩

/-- The coordinates of the points of a curve. -/
def coords {TX TY : Type} [ScaledValueInner TX] [ScaledValueInner TY] (x y : Nat → ScaledPoint)
    (curve : Curve TX TY) (s : CurveSupport) : List ScaledWrite :=
  (scaledPoints curve s.xSf s.ySf).zipIdx.flatMap fun point =>
    [⟨x point.2, toInt point.1.1⟩, ⟨y point.2, toInt point.1.2⟩]

namespace CurveDevice

variable (device : CurveDevice) (p : Parameters)

/-- `VoltCurveModel::write_curve`. -/
def writeVoltCurve (model : VoltModel) (curve : Curve UInt16 Int16) : Option (List CurveWrite) :=
  let s := (device.volt model).toCurveSupport
  if s.nCrv < VoltCurveModel.targetCurve then none
  else if curve.len > s.nPt then none
  else
    some (.voltActPt model curve.len ::
      (coords (.voltX model) (.voltY model) curve s).map .scaled)

def sendModel705Parameters : List CurveWrite :=
  if 705 ∉ device.supportedModelIds then []
  else
    match p.derVoltVar.bind (device.writeVoltCurve .m705) with
    | none => [.ena 705 .disabled]
    | some ws =>
      let s := device.volt .m705
      ws ++
      (p.derVoltVarTms.map fun tms => .scaled (rescaled (.rspTms .m705) tms s.rspTmsSf)).toList ++
      (p.derVoltVarDeptRef.map .voltVarDeptRef).toList ++
      (p.vref.map fun vref => .scaled (rescaled .vRef vref s.xSf)).toList ++
      (p.vrefAutoEna.map .vRefAutoEna).toList ++
      (p.vrefAutoTms.map .vRefAutoTms).toList ++
      [.adptReq 705 VoltCurveModel.targetCurve, .ena 705 .enabled]

def sendModel706Parameters : List CurveWrite :=
  if 706 ∉ device.supportedModelIds then []
  else
    match p.derVoltWatt.bind (device.writeVoltCurve .m706) with
    | none => [.ena 706 .disabled]
    | some ws =>
      ws ++
      (p.derVoltWattTms.map fun tms =>
        .scaled (rescaled (.rspTms .m706) tms (device.volt .m706).rspTmsSf)).toList ++
      (p.derVoltWattDeptRef.map .voltWattDeptRef).toList ++
      [.adptReq 706 VoltCurveModel.targetCurve, .ena 706 .enabled]

section Trip

variable {TX : Type} [ScaledValueInner TX] (model : TripId)

/-- `TripCurveModel::write_curve`, if there is a curve. -/
def writeTripCurve (curve : TripCurve) : Option (Curve TX UInt32) → List CurveWrite × Bool
  | none => ([], false)
  | some data =>
    if data.len > (device.trip model).nPt then ([], false)
    else
      (.tripActPt model curve data.len ::
        (coords (.tripX model curve) (.tripY model curve) data (device.trip model)).map .scaled,
        true)

/-- `TripCurveModel::write_curves`. -/
def writeTripCurves (curves : TripCurves TX UInt32) : List CurveWrite × Bool :=
  if (device.trip model).nCrv.toNat < TripCurveModel.targetCurveSet then ([], false)
  else
    let mustTrip := device.writeTripCurve model .mustTrip curves.mustTrip
    let mayTrip := device.writeTripCurve model .mayTrip curves.mayTrip
    let momCess := device.writeTripCurve model .momCess curves.momCess
    let wroteAny := mustTrip.2 || mayTrip.2 || momCess.2
    (mustTrip.1 ++ mayTrip.1 ++ momCess.1 ++
      if wroteAny then [.adptReq model.id (.ofNat TripCurveModel.targetCurveSet)] else [], wroteAny)

def sendTripParameters (curves : TripCurves TX UInt32) : List CurveWrite :=
  if model.id ∉ device.supportedModelIds then []
  else
    let wrote := device.writeTripCurves model curves
    wrote.1 ++ [.ena model.id (if wrote.2 then .enabled else .disabled)]

end Trip

def sendModel707Parameters : List CurveWrite :=
  device.sendTripParameters .m707
    { mustTrip := p.derTripLvMust, mayTrip := p.derTripLvMay, momCess := p.derTripLvMomCess }

def sendModel708Parameters : List CurveWrite :=
  device.sendTripParameters .m708
    { mustTrip := p.derTripHvMust, mayTrip := p.derTripHvMay, momCess := p.derTripHvMomCess }

def sendModel709Parameters : List CurveWrite :=
  device.sendTripParameters .m709 { mustTrip := p.derTripLfMust, mayTrip := p.derTripLfMay }

def sendModel710Parameters : List CurveWrite :=
  device.sendTripParameters .m710 { mustTrip := p.derTripHfMust, mayTrip := p.derTripHfMay }

def sendModel711Parameters : List CurveWrite :=
  if 711 ∉ device.supportedModelIds then []
  else
    match p.droopCtl with
    | none => [.ena 711 .disabled]
    | some droopCtl =>
      -- The first control is read-only.
      if device.nCtl ≥ 2 then
        [.scaled (rescaled .dbOf droopCtl.dbOf device.dbSf),
          .scaled (rescaled .dbUf droopCtl.dbUf device.dbSf),
          .scaled (rescaled .kOf droopCtl.kOf device.kSf),
          .scaled (rescaled .kUf droopCtl.kUf device.kSf),
          .scaled (rescaled .ctlRspTms droopCtl.rspTms device.ctlRspTmsSf),
          .adptReq 711 2, .ena 711 .enabled]
      else [.ena 711 .disabled]

/-- What a full send writes to models 705 to 711. -/
def curveWrites : List CurveWrite :=
  device.sendModel705Parameters p ++ device.sendModel706Parameters p ++
    device.sendModel707Parameters p ++ device.sendModel708Parameters p ++
    device.sendModel709Parameters p ++ device.sendModel710Parameters p ++
    device.sendModel711Parameters p

/-- The scaled values that a full send writes. -/
def scaledWrites : List ScaledWrite :=
  (device.toDevice.sendModel703Parameters p ++
    (device.toDevice.sendModel704Parameters p).1).filterMap scaledOf ++
  (device.curveWrites p).filterMap CurveWrite.scaled?

end CurveDevice

/-! ## The same curves as blocks -/

section Blocks

variable {TA TX TY : Type} [Value TA] [FixedSize TX] [FixedSize TY] [ScaledValueInner TX]
  [ScaledValueInner TY]

/-- A block holds the coordinate of a write, in the place of its point. -/
inductive Encodes (g : CurveGroup TA TX TY) (start : Nat) (x y : Nat → ScaledPoint) :
    Block UInt16 → ScaledWrite → Prop
  | x (i : Nat) (value : TX) : Encodes g start x y
      ⟨g.pointAddr start i + g.xPt.offset, Value.encode (some value)⟩ ⟨x i, toInt value⟩
  | y (i : Nat) (value : TY) : Encodes g start x y
      ⟨g.pointAddr start i + g.yPt.offset, Value.encode (some value)⟩ ⟨y i, toInt value⟩

theorem encodes_coords (g : CurveGroup TA TX TY) (start : Nat) (act : TA)
    (x y : Nat → ScaledPoint) (data : Curve TX TY) (s : CurveSupport) :
    List.Forall₂ (Encodes g start x y)
      ((g.blocks start act (scaledPoints data s.xSf s.ySf)).drop 1) (coords x y data s) := by
  unfold CurveGroup.blocks
  rw [List.drop_one, List.tail_cons]
  refine List.rel_flatMap (R := Eq) (List.forall₂_refl _) fun point _ hpoint => ?_
  subst hpoint
  exact .cons (.x _ _) (.cons (.y _ _) .nil)

end Blocks

namespace CurveDevice

variable (device : CurveDevice) {addr off : Nat}

/-- The volt curve that is written is the one that is written in blocks. -/
theorem writeVoltCurve_encoded {model : VoltCurveModel UInt16 Int16} (h : model.WellFormed)
    {id : VoltModel} {m : Memory} {data : Curve UInt16 Int16}
    (hsupport : (device.volt id).toCurveSupport = ⟨readPoint m addr model.nCrv,
      readPoint m addr model.nPt, readPoint m addr model.xSf, readPoint m addr model.ySf⟩)
    (hlen : data.points.length < 2 ^ 16)
    (hoff : model.curveOffset VoltCurveModel.targetCurve.toNat
      (readPoint m addr model.nPt).toNat = some off)
    (hend : addr + off + (model.gCrv + model.gPt * (readPoint m addr model.nPt).toNat) ≤ 2 ^ 16) :
    (device.writeVoltCurve id data = none → model.writeCurve addr m data = some ([], none)) ∧
    ∀ ws, device.writeVoltCurve id data = some ws → ∃ blocks,
      model.writeCurve addr m data = some (blocks, some (addr + off)) ∧
        List.Forall₂ (Encodes (model.group h) (addr + off) (.voltX id) (.voltY id))
          (blocks.drop 1) (ws.filterMap CurveWrite.scaled?) := by
  unfold writeVoltCurve
  rw [hsupport]
  by_cases hcrv : readPoint m addr model.nCrv < VoltCurveModel.targetCurve
  · simp [hcrv, VoltCurveModel.writeCurve]
  by_cases hpt : data.len > readPoint m addr model.nPt
  · simp [hcrv, hpt, VoltCurveModel.writeCurve]
  simp only [hcrv, hpt, ↓reduceIte]
  refine ⟨fun hnone => absurd hnone (Option.some_ne_none _), fun ws hws => ?_⟩
  cases hws
  have hfits : data.points.length ≤ (readPoint m addr model.nPt).toNat := by
    rw [← Curve.toNat_len hlen]
    exact UInt16.not_lt.1 hpt
  refine ⟨_, VoltCurveModel.writeCurve_eq h hcrv hoff hfits hend, ?_⟩
  rw [List.filterMap_cons_none rfl, filterMap_map_scaled]
  exact encodes_coords _ _ _ _ _ data ⟨_, _, readPoint m addr model.xSf, readPoint m addr model.ySf⟩

/-- And so is each trip curve. -/
theorem writeTripCurve_encoded {TX : Type} [ScaledValueInner TX] [FixedSize TX]
    {model : TripCurveModel TX UInt32} (h : model.WellFormed) {id : TripId} {curve : TripCurve}
    {data : Curve TX UInt32} (hlen : data.points.length < 2 ^ 16)
    (hoff : model.curveOffset curve TripCurveModel.targetCurveSet (device.trip id).nPt.toNat =
      some off)
    (hend : addr + off + (model.curveStaticLen curve + model.gPt * (device.trip id).nPt.toNat) ≤
      2 ^ 16) :
    ∃ blocks, model.writeCurve addr curve data (device.trip id).nPt (device.trip id).xSf
        (device.trip id).ySf =
          some (blocks, (device.writeTripCurve id curve (some data)).2) ∧
      List.Forall₂ (Encodes (model.group h curve) (addr + off) (.tripX id curve) (.tripY id curve))
        (blocks.drop 1)
        ((device.writeTripCurve id curve (some data)).1.filterMap CurveWrite.scaled?) := by
  by_cases hpt : data.len > (device.trip id).nPt
  · have hwrite : device.writeTripCurve id curve (some data) = ([], false) := if_pos hpt
    rw [hwrite]
    exact ⟨[], by simp [hpt, TripCurveModel.writeCurve], .nil⟩
  have hwrite : device.writeTripCurve id curve (some data) =
      (.tripActPt id curve data.len :: (coords (.tripX id curve) (.tripY id curve) data
        (device.trip id)).map .scaled, true) := if_neg hpt
  have hfits : data.points.length ≤ (device.trip id).nPt.toNat := by
    rw [← Curve.toNat_len hlen]
    exact UInt16.not_lt.1 hpt
  rw [hwrite]
  refine ⟨_, TripCurveModel.writeCurve_eq h hoff hfits hend, ?_⟩
  rw [List.filterMap_cons_none rfl, filterMap_map_scaled]
  exact encodes_coords _ _ _ _ _ data (device.trip id)

end CurveDevice

end Sep2Bridge.Modbus
