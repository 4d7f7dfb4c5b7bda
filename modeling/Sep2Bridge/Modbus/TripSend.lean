import Sep2Bridge.Modbus.Curves

/-!
# Sending trip curves

`write_curves` of `modbus_connection.rs` and the senders of models 707 to 710. The three curves of a
model share one set. Those that a parameter set carries, and that fit, are written, and then the
device is asked to adopt the set.

A sender that succeeds has overflowed no address, so what it wrote can be told from its result
(`writeCurve_inv`).
-/

namespace Sep2Bridge.Modbus

open Lib

/-! ## Sending trip curves -/

/-- What stands in a register that enables a function. -/
instance : Value Ena where
  size := 1
  encode
    | .disabled => [0]
    | .enabled => [1]
    | .other bits => [bits]
  decode words :=
    match words.headD 0 with
    | 0 => .disabled
    | 1 => .enabled
    | bits => .other bits
  length_encode ena := by cases ena <;> rfl

/-- The trip curves that a parameter set carries for one model. -/
structure TripCurves (TX TY : Type) where
  mustTrip : Option (Curve TX TY) := none
  mayTrip : Option (Curve TX TY) := none
  momCess : Option (Curve TX TY) := none

def TripCurves.get {TX TY : Type} (curves : TripCurves TX TY) : TripCurve → Option (Curve TX TY)
  | .mustTrip => curves.mustTrip
  | .mayTrip => curves.mayTrip
  | .momCess => curves.momCess

/-- A trip curve model with the points that turn it on. -/
structure TripModel (TX TY : Type) extends TripCurveModel TX TY where
  adptCrvReq : OffsetPoint UInt16
  ena : OffsetPoint Ena

namespace TripModel

variable {TX TY : Type} (self : TripModel TX TY)

section Send

variable [ScaledValueInner TX] [ScaledValueInner TY] [FixedSize TX] [FixedSize TY]

/-- Write a curve if there is one. -/
def writeCurveIfSome (addr : Nat) (curve : TripCurve) (curveData : Option (Curve TX TY))
    (nPt : UInt16) (xSf ySf : Int16) : Option (List (Block UInt16) × Bool) :=
  match curveData with
  | some data => self.writeCurve addr curve data nPt xSf ySf
  | none => some ([], false)

/-- Write up to three curves, and whether any was written. No point is read if there is none. -/
def writePresentCurves (addr : Nat) (m : Memory) (mustTripData mayTripData momCessData :
    Option (Curve TX TY)) : Option (List (Block UInt16) × Bool) :=
  if mustTripData.isNone ∧ mayTripData.isNone ∧ momCessData.isNone then some ([], false)
  else
    let nCurves := readPoint m addr self.nCrvSet
    let nPt := readPoint m addr self.nPt
    if nCurves.toNat < TripCurveModel.targetCurveSet then some ([], false)
    else do
      let xSf := readPoint m addr self.xSf
      let ySf := readPoint m addr self.ySf
      let (mustTrip, wroteMustTrip) ← self.writeCurveIfSome addr .mustTrip mustTripData nPt xSf ySf
      let (mayTrip, wroteMayTrip) ← self.writeCurveIfSome addr .mayTrip mayTripData nPt xSf ySf
      let (momCess, wroteMomCess) ← self.writeCurveIfSome addr .momCess momCessData nPt xSf ySf
      return (mustTrip ++ mayTrip ++ momCess, wroteMustTrip || wroteMayTrip || wroteMomCess)

/-- Write the curves that are present, and ask for them to be adopted if any was written. -/
def writeCurves (addr : Nat) (m : Memory) (mustTripData mayTripData momCessData :
    Option (Curve TX TY)) : Option (List (Block UInt16) × Bool) := do
  let (curves, wroteAny) ← self.writePresentCurves addr m mustTripData mayTripData momCessData
  if wroteAny then
    let request ← writeOffsetPoint addr self.adptCrvReq (.ofNat TripCurveModel.targetCurveSet)
    return (curves ++ [request], wroteAny)
  else return (curves, wroteAny)

/-- Send the trip curves of a parameter set to the model at `addr`. -/
def sendTripCurves (addr : Nat) (m : Memory) (curves : TripCurves TX TY) :
    Option (List (Block UInt16)) := do
  let (blocks, wroteCurve) ← self.writeCurves addr m curves.mustTrip curves.mayTrip curves.momCess
  let ena ← writeOffsetPoint addr self.ena (if wroteCurve then .enabled else .disabled)
  return blocks ++ [ena]

/-- The device after one parameter set. -/
def step (addr : Nat) (m : Memory) (curves : TripCurves TX TY) : Option Memory :=
  (self.sendTripCurves addr m curves).map (storeAll m)

end Send

end TripModel

/-! ## The models -/

/-- What sunspec generates for models 707 and 708, with the points that turn them on. -/
structure VoltageTripPoints extends VoltageTripLayout where
  adptCrvReq : OffsetPoint UInt16
  ena : OffsetPoint Ena

/-- What sunspec generates for models 709 and 710, with the points that turn them on. -/
structure FrequencyTripPoints extends FrequencyTripLayout where
  adptCrvReq : OffsetPoint UInt16
  ena : OffsetPoint Ena

def tripModel707 (s : VoltageTripPoints) : TripModel UInt16 UInt32 where
  toTripCurveModel := model707 s.toVoltageTripLayout
  adptCrvReq := s.adptCrvReq
  ena := s.ena

def tripModel709 (s : FrequencyTripPoints) : TripModel UInt32 UInt32 where
  toTripCurveModel := model709 s.toFrequencyTripLayout
  adptCrvReq := s.adptCrvReq
  ena := s.ena

/-- A sender of trip curves: the model, and the curves it is sent. -/
structure TripSender (TX TY : Type) where
  model : TripModel TX TY
  curves : Parameters → TripCurves TX TY

def sendModel707Parameters (s : VoltageTripPoints) : TripSender UInt16 UInt32 where
  model := tripModel707 s
  curves parameters := ⟨parameters.derTripLvMust, parameters.derTripLvMay,
    parameters.derTripLvMomCess⟩

def sendModel708Parameters (s : VoltageTripPoints) : TripSender UInt16 UInt32 where
  model := tripModel707 s
  curves parameters := ⟨parameters.derTripHvMust, parameters.derTripHvMay,
    parameters.derTripHvMomCess⟩

def sendModel709Parameters (s : FrequencyTripPoints) : TripSender UInt32 UInt32 where
  model := tripModel709 s
  curves parameters := ⟨parameters.derTripLfMust, parameters.derTripLfMay, none⟩

def sendModel710Parameters (s : FrequencyTripPoints) : TripSender UInt32 UInt32 where
  model := tripModel709 s
  curves parameters := ⟨parameters.derTripHfMust, parameters.derTripHfMay, none⟩

/-! ## What was written, from what succeeded -/

theorem u16_inv {n k : Nat} (h : u16 n = some k) : k = n ∧ n < 2 ^ 16 := by
  unfold u16 at h
  split_ifs at h with hn
  exact ⟨(Option.some.inj h).symm, hn⟩

theorem writeOffsetPoint_inv {T : Type} [Value T] {offset : Nat} {p : OffsetPoint T} {value : T}
    {b : Block UInt16} (h : writeOffsetPoint offset p value = some b) :
    b = ⟨offset + p.offset, Value.encode value⟩ := by
  obtain ⟨a, ha, h⟩ := Option.bind_eq_some_iff.1 h
  cases h
  rw [(u16_inv ha).1]

namespace TripCurveModel

section Arithmetic

variable {TX TY : Type} {model : TripCurveModel TX TY} {nPt : Nat}

theorem curveLen_inv {curve : TripCurve} {len : Nat} (h : model.curveLen curve nPt = some len) :
    len = model.curveStaticLen curve + model.gPt * nPt ∧ model.gPt * nPt < 2 ^ 16 := by
  obtain ⟨points, hpoints, h⟩ := Option.bind_eq_some_iff.1 h
  obtain ⟨rfl, hlt⟩ := u16_inv hpoints
  exact ⟨(u16_inv h).1, hlt⟩

theorem curveSetLen_inv {len : Nat} (h : model.curveSetLen nPt = some len) :
    len = model.setLen nPt ∧ model.gPt * nPt < 2 ^ 16 := by
  obtain ⟨must, hmust, h⟩ := Option.bind_eq_some_iff.1 h
  obtain ⟨len₁, hlen₁, h⟩ := Option.bind_eq_some_iff.1 h
  obtain ⟨may, hmay, h⟩ := Option.bind_eq_some_iff.1 h
  obtain ⟨len₂, hlen₂, h⟩ := Option.bind_eq_some_iff.1 h
  obtain ⟨mom, hmom, h⟩ := Option.bind_eq_some_iff.1 h
  obtain ⟨hmust, hlt⟩ := curveLen_inv hmust
  refine ⟨?_, hlt⟩
  rw [(u16_inv h).1, (u16_inv hlen₂).1, (u16_inv hlen₁).1, hmust, (curveLen_inv hmay).1,
    (curveLen_inv hmom).1]
  rfl

theorem curveOffset_inv {curve : TripCurve} {off : Nat}
    (h : model.curveOffset curve targetCurveSet nPt = some off) :
    off = model.len + model.setLen nPt + model.offsetInSet nPt curve ∧
      model.gPt * nPt < 2 ^ 16 := by
  obtain ⟨setLen, hset, h⟩ := Option.bind_eq_some_iff.1 h
  obtain ⟨rfl, hlt⟩ := curveSetLen_inv hset
  obtain ⟨sets, hsets, h⟩ := Option.bind_eq_some_iff.1 h
  obtain ⟨start, hstart, h⟩ := Option.bind_eq_some_iff.1 h
  have hbegin : start = model.len + model.setLen nPt := by
    rw [(u16_inv hstart).1, (u16_inv hsets).1, targetCurveSet, Nat.mul_one]
  refine ⟨?_, hlt⟩
  cases curve with
  | mustTrip =>
    rw [(u16_inv h).1, hbegin]
    rfl
  | mayTrip =>
    obtain ⟨must, hmust, h⟩ := Option.bind_eq_some_iff.1 h
    obtain ⟨additional, hadditional, h⟩ := Option.bind_eq_some_iff.1 h
    rw [(u16_inv h).1, hbegin, (u16_inv hadditional).1, (curveLen_inv hmust).1]
    rfl
  | momCess =>
    obtain ⟨must, hmust, h⟩ := Option.bind_eq_some_iff.1 h
    obtain ⟨offset, hoffset, h⟩ := Option.bind_eq_some_iff.1 h
    obtain ⟨may, hmay, h⟩ := Option.bind_eq_some_iff.1 h
    obtain ⟨additional, hadditional, h⟩ := Option.bind_eq_some_iff.1 h
    rw [(u16_inv h).1, hbegin, (u16_inv hadditional).1, (u16_inv hoffset).1,
      (curveLen_inv hmust).1, (curveLen_inv hmay).1]
    rfl

end Arithmetic

variable {TX TY : Type} [ScaledValueInner TX] [ScaledValueInner TY] [FixedSize TX] [FixedSize TY]
  {model : TripCurveModel TX TY}

/-- A curve is written unless it is too long, and then as the group of its place in the set. -/
theorem writeCurve_inv (h : model.WellFormed) {addr : Nat} {curve : TripCurve} {data : Curve TX TY}
    {nPt : UInt16} {xSf ySf : Int16} {bs : List (Block UInt16)} {wrote : Bool}
    (hwrite : model.writeCurve addr curve data nPt xSf ySf = some (bs, wrote)) :
    if data.len > nPt then bs = [] ∧ wrote = false
    else wrote = true ∧ data.points.length ≤ nPt.toNat ∧
      bs = (model.group h curve).blocks
        (addr + (model.len + model.setLen nPt.toNat + model.offsetInSet nPt.toNat curve))
        (some data.len) (scaledPoints data xSf ySf) := by
  unfold writeCurve at hwrite
  by_cases hlen : data.len > nPt
  · rw [if_pos hlen] at hwrite ⊢
    cases hwrite
    exact ⟨rfl, rfl⟩
  · rw [if_neg hlen] at hwrite ⊢
    obtain ⟨off, hoff, hwrite⟩ := Option.bind_eq_some_iff.1 hwrite
    obtain ⟨curveAddr, haddr, hwrite⟩ := Option.bind_eq_some_iff.1 hwrite
    obtain ⟨actPt, hactPt, hwrite⟩ := Option.bind_eq_some_iff.1 hwrite
    obtain ⟨points, hpoints, hwrite⟩ := Option.bind_eq_some_iff.1 hwrite
    cases hwrite
    obtain ⟨hoff, hgroups⟩ := curveOffset_inv hoff
    obtain ⟨rfl, -⟩ := u16_inv haddr
    -- with two registers a point there are too few points for the length to be capped
    have hbound := Nat.mul_le_mul_right nPt.toNat (model.group h curve).two_le_ptLen
    have hnPt : 2 * nPt.toNat ≤ model.gPt * nPt.toNat := hbound
    have hfits : data.points.length ≤ nPt.toNat := by
      rw [gt_iff_lt, UInt16.lt_iff_toNat_lt, Curve.len] at hlen
      split_ifs at hlen with hcap
      · rw [UInt16.toNat_ofNat', Nat.mod_eq_of_lt hcap] at hlen
        omega
      · have htop : (65535 : UInt16).toNat = 65535 := rfl
        omega
    refine ⟨rfl, hfits, ?_⟩
    have hblocks : points = (scaledPoints data xSf ySf).zipIdx.map
        ((model.group h curve).pointBlocks (addr + off)) := by
      rw [scaledPoints, List.zipIdx_map, List.map_map]
      refine eq_map_of_mapM (fun point hpoint b hb => ?_) hpoints
      have hi : point.2 < nPt.toNat := by
        have hlt := CurveGroup.snd_lt_of_mem_zipIdx hpoint
        rw [Curve.length_iterScaled] at hlt
        omega
      obtain ⟨groups, hgroups, hb⟩ := Option.bind_eq_some_iff.1 hb
      obtain ⟨static, hstatic, hb⟩ := Option.bind_eq_some_iff.1 hb
      obtain ⟨pointAddr, hpointAddr, hb⟩ := Option.bind_eq_some_iff.1 hb
      obtain ⟨x, hx, hb⟩ := Option.bind_eq_some_iff.1 hb
      obtain ⟨y, hy, hb⟩ := Option.bind_eq_some_iff.1 hb
      cases hb
      rw [writeOffsetPoint_inv hx, writeOffsetPoint_inv hy, (u16_inv hpointAddr).1,
        (u16_inv hstatic).1, (u16_inv hgroups).1, Nat.mod_eq_of_lt (hi.trans nPt.toNat_lt)]
      rfl
    rw [hblocks, writeOffsetPoint_inv hactPt, hoff]
    rfl

end TripCurveModel

end Sep2Bridge.Modbus
