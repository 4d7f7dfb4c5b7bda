import Sep2Bridge.Modbus.CurveGroup

/-!
# A curve reads back as it was written

The models lay their curves out as pieces one behind the other. The address arithmetic of
`write_curve` finds the piece of the target curve (`curveOffset_eq`), and what is written there is
the curve group of that piece (`writeCurve_eq`), so that the curve reads back, and the other pieces
are as they were.
-/

namespace Sep2Bridge.Modbus

open Lib ScaledValueInner

/-! ## Where the curves lie -/

/-- The blocks lie in one piece of the model, and leave the other pieces as they are. -/
structure Confined (sizes : List Nat) (k addr : Nat) (m : Memory) (bs : List (Block UInt16)) :
    Prop where
  within : ∀ b ∈ bs, b.Within (addr + startOf sizes k) (addr + startOf sizes k + sizeOf sizes k)
  others : ∀ j ≠ k, load (storeAll m bs) (addr + startOf sizes j) (sizeOf sizes j) =
    load m (addr + startOf sizes j) (sizeOf sizes j)

theorem confined_of_within {sizes : List Nat} {k addr : Nat} {m : Memory}
    {bs : List (Block UInt16)}
    (h : ∀ b ∈ bs, b.Within (addr + startOf sizes k) (addr + startOf sizes k + sizeOf sizes k)) :
    Confined sizes k addr m bs where
  within := h
  others _ hj := load_congr fun _ hlo hhi =>
    storeAll_apply fun b hb => (h b hb).not_covers hj hlo hhi

namespace TripCurveModel

section Arithmetic

variable {TX TY : Type} {model : TripCurveModel TX TY} {nCrvSet nPt : Nat}

variable (model) in
/-- The model: its fixed points, and for each curve set the points of the set and three curves. -/
def pieces (nCrvSet nPt : Nat) : List Nat :=
  model.len :: (List.replicate nCrvSet [model.gCrv, model.gMustTrip + model.gPt * nPt,
    model.gMayTrip + model.gPt * nPt, model.gMomCess + model.gPt * nPt]).flatten

/-- Which piece is the curve of the target set: those of set 1 come before it. -/
def position : TripCurve → Nat
  | .mustTrip => 6
  | .mayTrip => 7
  | .momCess => 8

theorem sizeOf_pieces (hsets : 2 ≤ nCrvSet) (curve : TripCurve) :
    sizeOf (model.pieces nCrvSet nPt) (position curve) =
      model.curveStaticLen curve + model.gPt * nPt := by
  obtain ⟨n, rfl⟩ := Nat.exists_eq_add_of_le' hsets
  cases curve <;> rfl

variable (model) in
/-- The length of a curve set, as a number. -/
def setLen (nPt : Nat) : Nat :=
  model.gCrv + (model.gMustTrip + model.gPt * nPt) + (model.gMayTrip + model.gPt * nPt) +
    (model.gMomCess + model.gPt * nPt)

variable (model) in
/-- Where a curve starts in its set, as a number. -/
def offsetInSet (nPt : Nat) : TripCurve → Nat
  | .mustTrip => model.gCrv
  | .mayTrip => model.gCrv + (model.gMustTrip + model.gPt * nPt)
  | .momCess =>
    model.gCrv + (model.gMustTrip + model.gPt * nPt) + (model.gMayTrip + model.gPt * nPt)

theorem startOf_pieces (hsets : 2 ≤ nCrvSet) (curve : TripCurve) :
    startOf (model.pieces nCrvSet nPt) (position curve) =
      model.len + model.setLen nPt + model.offsetInSet nPt curve := by
  obtain ⟨n, rfl⟩ := Nat.exists_eq_add_of_le' hsets
  cases curve <;>
    · simp only [startOf, pieces, position, setLen, offsetInSet, List.replicate_succ,
        List.flatten_cons, List.cons_append, List.nil_append, List.take_succ_cons, List.take_zero,
        List.sum_cons, List.sum_nil]
      omega

/-- Two sets fit. -/
theorem setLen_le (hsets : 2 ≤ nCrvSet) :
    model.len + 2 * model.setLen nPt ≤ (model.pieces nCrvSet nPt).sum := by
  obtain ⟨n, rfl⟩ := Nat.exists_eq_add_of_le' hsets
  simp only [pieces, setLen, List.replicate_succ, List.flatten_cons, List.sum_cons, List.sum_append,
    List.sum_nil]
  omega

theorem curveLen_eq (hfits : model.setLen nPt < 2 ^ 16) (curve : TripCurve) :
    model.curveLen curve nPt = some (model.curveStaticLen curve + model.gPt * nPt) := by
  have hlt : model.curveStaticLen curve + model.gPt * nPt < 2 ^ 16 := by
    unfold setLen at hfits
    cases curve <;> simp only [curveStaticLen] <;> omega
  rw [curveLen, u16_eq_some (show model.gPt * nPt < 2 ^ 16 by omega)]
  exact u16_eq_some hlt

theorem curveSetLen_eq (hfits : model.setLen nPt < 2 ^ 16) :
    model.curveSetLen nPt = some (model.setLen nPt) := by
  have hlen := curveLen_eq hfits
  unfold setLen at hfits
  simp only [curveSetLen, hlen, Option.bind_eq_bind, Option.bind_some, curveStaticLen]
  rw [u16_eq_some (by omega), Option.bind_some, u16_eq_some (by omega)]
  exact u16_eq_some hfits

/-- The address arithmetic finds the target piece, without an overflow. -/
theorem curveOffset_eq (hact : ∀ curve, 0 < model.curveStaticLen curve) (hsets : 2 ≤ nCrvSet)
    (hfits : (model.pieces nCrvSet nPt).sum ≤ 2 ^ 16) (curve : TripCurve) :
    model.curveOffset curve targetCurveSet nPt =
      some (startOf (model.pieces nCrvSet nPt) (position curve)) := by
  have hsum : model.len + 2 * model.setLen nPt ≤ (model.pieces nCrvSet nPt).sum :=
    setLen_le hsets
  have hmust : 0 < model.gMustTrip := hact .mustTrip
  have hmay : 0 < model.gMayTrip := hact .mayTrip
  have hmom : 0 < model.gMomCess := hact .momCess
  have hpos : 0 < model.setLen nPt := by
    unfold setLen
    omega
  have hlt : model.setLen nPt < 2 ^ 16 := by omega
  have hlen := curveLen_eq hlt
  have hset : u16 (model.setLen nPt * (2 - 1)) = some (model.setLen nPt) := by
    rw [Nat.mul_one]
    exact u16_eq_some hlt
  have hstart : u16 (model.len + model.setLen nPt) = some (model.len + model.setLen nPt) :=
    u16_eq_some (by omega)
  have hdef : model.setLen nPt = model.gCrv + (model.gMustTrip + model.gPt * nPt) +
      (model.gMayTrip + model.gPt * nPt) + (model.gMomCess + model.gPt * nPt) := rfl
  rw [startOf_pieces hsets]
  cases curve with
  | mustTrip =>
    simp only [curveOffset, curveSetLen_eq hlt, targetCurveSet, offsetInSet, hset, hstart,
      Option.bind_eq_bind, Option.bind_some]
    exact u16_eq_some (by omega)
  | mayTrip =>
    simp only [curveOffset, curveSetLen_eq hlt, targetCurveSet, offsetInSet, hset, hstart, hlen,
      curveStaticLen, Option.bind_eq_bind, Option.bind_some]
    rw [u16_eq_some (by omega)]
    exact u16_eq_some (by omega)
  | momCess =>
    simp only [curveOffset, curveSetLen_eq hlt, targetCurveSet, offsetInSet, hset, hstart, hlen,
      curveStaticLen, Option.bind_eq_bind, Option.bind_some]
    rw [u16_eq_some (by omega), Option.bind_some, u16_eq_some (by omega)]
    exact u16_eq_some (by omega)

end Arithmetic

variable {TX TY : Type} [FixedSize TX] [FixedSize TY]

/-- What sunspec guarantees: the points of a group lie in it, and those of a curve point apart. -/
structure WellFormed (model : TripCurveModel TX TY) : Prop where
  actPt_stop_le (curve : TripCurve) : model.crvActPt.stop ≤ model.curveStaticLen curve
  xPt_stop_le : model.xPt.stop ≤ model.gPt
  yPt_stop_le : model.yPt.stop ≤ model.gPt
  apart : model.xPt.stop ≤ model.yPt.offset ∨ model.yPt.stop ≤ model.xPt.offset

variable {model : TripCurveModel TX TY}

theorem WellFormed.staticLen_pos (h : model.WellFormed) (curve : TripCurve) :
    0 < model.curveStaticLen curve := by
  have hstop := h.actPt_stop_le curve
  have hsize := size_pos UInt16
  unfold OffsetPoint.stop at hstop
  omega

def group (h : model.WellFormed) (curve : TripCurve) : CurveGroup (Option UInt16) TX TY where
  staticLen := model.curveStaticLen curve
  ptLen := model.gPt
  actPt := model.crvActPt
  xPt := model.xPt
  yPt := model.yPt
  actPt_stop_le := h.actPt_stop_le curve
  xPt_stop_le := h.xPt_stop_le
  yPt_stop_le := h.yPt_stop_le
  apart := h.apart

variable [ScaledValueInner TX] [ScaledValueInner TY] {curve : TripCurve} {data : Curve TX TY}
  {addr off : Nat} {nPt : UInt16} {xSf ySf : Int16}

/-- What `write_curve` writes when its curve fits. -/
theorem writeCurve_eq (h : model.WellFormed)
    (hoff : model.curveOffset curve targetCurveSet nPt.toNat = some off)
    (hlen : data.points.length ≤ nPt.toNat)
    (hend : addr + off + (model.curveStaticLen curve + model.gPt * nPt.toNat) ≤ 2 ^ 16) :
    model.writeCurve addr curve data nPt xSf ySf =
      some ((model.group h curve).blocks (addr + off) (some data.len) (scaledPoints data xSf ySf),
        true) := by
  have hact := h.actPt_stop_le curve
  have hsize := size_pos UInt16
  have hx := h.xPt_stop_le
  have hy := h.yPt_stop_le
  unfold OffsetPoint.stop at hact hx hy
  have hX := size_pos TX
  have hY := size_pos TY
  have hpoints : data.iterScaled.zipIdx.mapM (fun point => do
      let groups ← u16 (model.gPt * (point.2 % 2 ^ 16))
      let pointAddr ← u16 ((← u16 (addr + off + model.curveStaticLen curve)) + groups)
      let x ← writeOffsetPoint pointAddr model.xPt (some (point.1.1.rescale xSf).value)
      let y ← writeOffsetPoint pointAddr model.yPt (some (point.1.2.rescale ySf).value)
      return [x, y]) = some ((scaledPoints data xSf ySf).zipIdx.map
        ((model.group h curve).pointBlocks (addr + off))) := by
    refine mapM_scaledPoints fun point hpoint => ?_
    have hi : point.2 < nPt.toNat := by
      have hlt := CurveGroup.snd_lt_of_mem_zipIdx hpoint
      rw [Curve.length_iterScaled] at hlt
      omega
    have hmul := Nat.mul_le_mul_left model.gPt (Nat.succ_le_of_lt hi)
    rw [Nat.mul_succ] at hmul
    have hmod : point.2 % 2 ^ 16 = point.2 := Nat.mod_eq_of_lt (hi.trans nPt.toNat_lt)
    simp only [hmod]
    rw [u16_eq_some (by omega), u16_eq_some (by omega)]
    simp only [Option.bind_eq_bind, Option.bind_some]
    rw [u16_eq_some (by omega), Option.bind_some, writeOffsetPoint_eq (by omega),
      Option.bind_some, writeOffsetPoint_eq (by omega)]
    rfl
  simp only [writeCurve, Curve.not_len_gt hlen, ↓reduceIte, hoff, Option.bind_eq_bind,
    Option.bind_some]
  rw [u16_eq_some (by omega), Option.bind_some, writeOffsetPoint_eq (by omega), Option.bind_some]
  erw [hpoints]
  rfl

end TripCurveModel

/-! ## Volt curves -/

namespace VoltCurveModel

section Arithmetic

variable {TX TY : Type} {model : VoltCurveModel TX TY} {nCrv nPt : Nat}

variable (model) in
/-- The model: its fixed points and its curves. -/
def pieces (nCrv nPt : Nat) : List Nat :=
  model.len :: List.replicate nCrv (model.gCrv + model.gPt * nPt)

/-- Which piece is the target curve: curve 1 comes before it. -/
def position : Nat := 2

theorem sizeOf_pieces (hcurves : 2 ≤ nCrv) :
    sizeOf (model.pieces nCrv nPt) position = model.gCrv + model.gPt * nPt := by
  obtain ⟨n, rfl⟩ := Nat.exists_eq_add_of_le' hcurves
  rfl

/-- The address arithmetic finds the target piece, without an overflow. -/
theorem curveOffset_eq (hact : 0 < model.gCrv) (hcurves : 2 ≤ nCrv)
    (hfits : (model.pieces nCrv nPt).sum ≤ 2 ^ 16) :
    model.curveOffset targetCurve.toNat nPt = some (startOf (model.pieces nCrv nPt) position) := by
  obtain ⟨n, rfl⟩ := Nat.exists_eq_add_of_le' hcurves
  have hstart : startOf (model.pieces (n + 2) nPt) position =
      model.len + (model.gCrv + model.gPt * nPt) := by
    simp only [startOf, pieces, position, List.replicate_succ, List.take_succ_cons, List.take_zero,
      List.sum_cons, List.sum_nil]
    omega
  simp only [pieces, List.replicate_succ, List.sum_cons] at hfits
  have hlen : model.curveLen nPt = some (model.gCrv + model.gPt * nPt) := by
    rw [curveLen, u16_eq_some (show model.gPt * nPt < 2 ^ 16 by omega)]
    exact u16_eq_some (by omega)
  have hcurve : u16 ((model.gCrv + model.gPt * nPt) * (targetCurve.toNat - 1)) =
      some (model.gCrv + model.gPt * nPt) := by
    rw [show targetCurve.toNat - 1 = 1 from rfl, Nat.mul_one]
    exact u16_eq_some (by omega)
  simp only [curveOffset, hlen, hcurve, hstart, Option.bind_eq_bind, Option.bind_some]
  exact u16_eq_some (by omega)

end Arithmetic

variable {TX TY : Type} [FixedSize TX] [FixedSize TY]

/-- What sunspec guarantees: the points of a group lie in it, and those of a curve point apart. -/
structure WellFormed (model : VoltCurveModel TX TY) : Prop where
  actPt_stop_le : model.crvActPt.stop ≤ model.gCrv
  xPt_stop_le : model.xPt.stop ≤ model.gPt
  yPt_stop_le : model.yPt.stop ≤ model.gPt
  apart : model.xPt.stop ≤ model.yPt.offset ∨ model.yPt.stop ≤ model.xPt.offset

variable {model : VoltCurveModel TX TY}

theorem WellFormed.gCrv_pos (h : model.WellFormed) : 0 < model.gCrv := by
  have hstop := h.actPt_stop_le
  have hsize : 0 < Value.size UInt16 := size_pos UInt16
  unfold OffsetPoint.stop at hstop
  omega

def group (h : model.WellFormed) : CurveGroup UInt16 TX TY where
  staticLen := model.gCrv
  ptLen := model.gPt
  actPt := model.crvActPt
  xPt := model.xPt
  yPt := model.yPt
  actPt_stop_le := h.actPt_stop_le
  xPt_stop_le := h.xPt_stop_le
  yPt_stop_le := h.yPt_stop_le
  apart := h.apart

variable [ScaledValueInner TX] [ScaledValueInner TY] {data : Curve TX TY} {m : Memory}
  {addr off : Nat}

/-- What `write_curve` writes when its curve fits. -/
theorem writeCurve_eq (h : model.WellFormed) (hcurves : ¬readPoint m addr model.nCrv < targetCurve)
    (hoff : model.curveOffset targetCurve.toNat (readPoint m addr model.nPt).toNat = some off)
    (hlen : data.points.length ≤ (readPoint m addr model.nPt).toNat)
    (hend : addr + off + (model.gCrv + model.gPt * (readPoint m addr model.nPt).toNat) ≤ 2 ^ 16) :
    model.writeCurve addr m data =
      some ((model.group h).blocks (addr + off) data.len
        (scaledPoints data (readPoint m addr model.xSf) (readPoint m addr model.ySf)),
        some (addr + off)) := by
  have hact := h.actPt_stop_le
  have hx := h.xPt_stop_le
  have hy := h.yPt_stop_le
  unfold OffsetPoint.stop at hact hx hy
  have hsize : 0 < Value.size UInt16 := size_pos UInt16
  have hX := size_pos TX
  have hY := size_pos TY
  have hpoints : data.iterScaled.zipIdx.mapM (fun point => do
      let dataPointOffset ← model.dataPointOffset (addr + off) (point.2 % 2 ^ 16)
      let x ← writeOffsetPoint dataPointOffset model.xPt
        (some (point.1.1.rescale (readPoint m addr model.xSf)).value)
      let y ← writeOffsetPoint dataPointOffset model.yPt
        (some (point.1.2.rescale (readPoint m addr model.ySf)).value)
      return [x, y]) = some ((scaledPoints data (readPoint m addr model.xSf)
        (readPoint m addr model.ySf)).zipIdx.map ((model.group h).pointBlocks (addr + off))) := by
    refine mapM_scaledPoints fun point hpoint => ?_
    have hi : point.2 < (readPoint m addr model.nPt).toNat := by
      have hlt := CurveGroup.snd_lt_of_mem_zipIdx hpoint
      rw [Curve.length_iterScaled] at hlt
      omega
    have hmul := Nat.mul_le_mul_left model.gPt (Nat.succ_le_of_lt hi)
    rw [Nat.mul_succ] at hmul
    have hmod : point.2 % 2 ^ 16 = point.2 :=
      Nat.mod_eq_of_lt (hi.trans (readPoint m addr model.nPt).toNat_lt)
    simp only [hmod, dataPointOffset]
    rw [u16_eq_some (by omega), u16_eq_some (by omega)]
    simp only [Option.bind_eq_bind, Option.bind_some]
    rw [u16_eq_some (by omega), Option.bind_some, writeOffsetPoint_eq (by omega),
      Option.bind_some, writeOffsetPoint_eq (by omega)]
    rfl
  simp only [writeCurve, hcurves, Curve.not_len_gt hlen, ↓reduceIte, hoff, Option.bind_eq_bind,
    Option.bind_some]
  rw [u16_eq_some (by omega), Option.bind_some, writeOffsetPoint_eq (by omega), Option.bind_some]
  erw [hpoints]
  rfl

end VoltCurveModel

/-! ## Curves read back -/

theorem decode_encode_count {n : Nat} (h : n < 2 ^ 16 - 1) :
    (Value.decode (Value.encode (some (UInt16.ofNat n))) : Option UInt16) = some (.ofNat n) := by
  rw [decode_encode_some]
  refine implemented_of_ne fun hn => ?_
  have htoNat := congrArg UInt16.toNat hn
  rw [UInt16.toNat_ofNat', Nat.mod_eq_of_lt (by omega)] at htoNat
  exact absurd htoNat (by show ¬n = 65535; omega)

namespace TripCurveModel

variable {TX TY : Type}

/-- The pieces the model has on a device. -/
def sizes (model : TripCurveModel TX TY) (m : Memory) (addr : Nat) : List Nat :=
  model.pieces (readPoint m addr model.nCrvSet).toNat (readPoint m addr model.nPt).toNat

/-- The coordinates of a curve on the scales of a device. The axes are the other way round. -/
def coords (model : TripCurveModel TX TY) [ScaledValueInner TX] [ScaledValueInner TY] (m : Memory)
    (addr : Nat) (input : DERCurve) : List (Int × Int) :=
  coordinates TX TY input (readPoint m addr model.xSf) (readPoint m addr model.ySf) .flipped

/-- The device has a curve set to write and room for the points, at addresses of 16 bits. -/
structure Supports (model : TripCurveModel TX TY) (m : Memory) (addr : Nat) (input : DERCurve) :
    Prop where
  nCrvSet : 2 ≤ (readPoint m addr model.nCrvSet).toNat
  nPt : input.curveData.length ≤ (readPoint m addr model.nPt).toNat
  fits : addr + (model.sizes m addr).sum ≤ 2 ^ 16

end TripCurveModel

namespace VoltCurveModel

variable {TX TY : Type}

/-- The pieces the model has on a device. -/
def sizes (model : VoltCurveModel TX TY) (m : Memory) (addr : Nat) : List Nat :=
  model.pieces (readPoint m addr model.nCrv).toNat (readPoint m addr model.nPt).toNat

/-- The coordinates of a curve on the scales of a device. -/
def coords (model : VoltCurveModel TX TY) [ScaledValueInner TX] [ScaledValueInner TY] (m : Memory)
    (addr : Nat) (input : DERCurve) : List (Int × Int) :=
  coordinates TX TY input (readPoint m addr model.xSf) (readPoint m addr model.ySf) .same

/-- The device has a curve to write and room for the points, at addresses of 16 bits. -/
structure Supports (model : VoltCurveModel TX TY) (m : Memory) (addr : Nat) (input : DERCurve) :
    Prop where
  nCrv : 2 ≤ (readPoint m addr model.nCrv).toNat
  nPt : input.curveData.length ≤ (readPoint m addr model.nPt).toNat
  fits : addr + (model.sizes m addr).sum ≤ 2 ^ 16

end VoltCurveModel

section ReadsBack

variable {TX TY : Type} [ScaledValueInner TX] [ScaledValueInner TY] [FixedSize TX] [FixedSize TY]
  [LawfulScaledValueInner TX] [LawfulScaledValueInner TY] [TryConvert Int32 TX]
  [TryConvert Int32 TY] [LawfulTryConvert TX] [LawfulTryConvert TY]

omit [FixedSize TX] [FixedSize TY] in
theorem Curve.len_eq {input : DERCurve} {order : AxisOrder} {data : Curve TX TY}
    (h : convertCurve input order = .ok data) {nPt : UInt16}
    (hnPt : input.curveData.length ≤ nPt.toNat) :
    data.len = .ofNat input.curveData.length := by
  have hlen := length_points h
  have hlt := nPt.toNat_lt
  rw [Curve.len, if_pos (by omega), hlen]

theorem tripCurve_reads_back {model : TripCurveModel TX TY} (hmodel : model.WellFormed)
    {curve : TripCurve} {input : DERCurve} {data : Curve TX TY} {m : Memory} {addr : Nat}
    (hdata : convertCurve input .flipped = .ok data) (hdev : model.Supports m addr input) :
    ∃ bs, model.writeCurve addr curve data (readPoint m addr model.nPt)
        (readPoint m addr model.xSf) (readPoint m addr model.ySf) = some (bs, true) ∧
      Confined (model.sizes m addr) (TripCurveModel.position curve) addr m bs ∧
      ((model.group hmodel curve).Holds (storeAll m bs)
          (addr + startOf (model.sizes m addr) (TripCurveModel.position curve))
          (some (.ofNat input.curveData.length)) (model.coords m addr input) ↔
        NoneInvalid TX TY (model.coords m addr input)) := by
  obtain ⟨hsets, hnPt, hfits⟩ := hdev
  have hlen := length_points hdata
  have hsize : sizeOf (model.sizes m addr) (TripCurveModel.position curve) =
      model.curveStaticLen curve + model.gPt * (readPoint m addr model.nPt).toNat :=
    TripCurveModel.sizeOf_pieces hsets curve
  have hstop := stop_le_sum (model.sizes m addr) (TripCurveModel.position curve)
  have hsum : (model.sizes m addr).sum ≤ 2 ^ 16 := by omega
  have hoff : model.curveOffset curve TripCurveModel.targetCurveSet
      (readPoint m addr model.nPt).toNat =
        some (startOf (model.sizes m addr) (TripCurveModel.position curve)) :=
    TripCurveModel.curveOffset_eq (fun curve => hmodel.staticLen_pos curve) hsets hsum curve
  refine ⟨_, TripCurveModel.writeCurve_eq hmodel hoff (hlen ▸ hnPt) (by omega), ?_, ?_⟩
  · refine confined_of_within fun b hb => (CurveGroup.within_of_mem_blocks hb).mono le_rfl ?_
    rw [hsize, length_scaledPoints, hlen]
    exact Nat.add_le_add_left (Nat.add_le_add_left (Nat.mul_le_mul_left _ hnPt) _) _
  · rw [Curve.len_eq hdata hnPt]
    refine CurveGroup.holds_iff ?_ (map_toInt_scaledPoints hdata _ _)
    -- with two registers a point there are fewer points than stand for "not implemented"
    have hmul := Nat.mul_le_mul (model.group hmodel curve).two_le_ptLen hnPt
    have hle : 2 * input.curveData.length ≤
      model.gPt * (readPoint m addr model.nPt).toNat := hmul
    exact decode_encode_count (by omega)

theorem voltCurve_reads_back {model : VoltCurveModel TX TY} (hmodel : model.WellFormed)
    {input : DERCurve} {data : Curve TX TY} {m : Memory} {addr : Nat}
    (hdata : convertCurve input .same = .ok data) (hdev : model.Supports m addr input) :
    ∃ bs, model.writeCurve addr m data =
        some (bs, some (addr + startOf (model.sizes m addr) VoltCurveModel.position)) ∧
      Confined (model.sizes m addr) VoltCurveModel.position addr m bs ∧
      ((model.group hmodel).Holds (storeAll m bs)
          (addr + startOf (model.sizes m addr) VoltCurveModel.position)
          (.ofNat input.curveData.length) (model.coords m addr input) ↔
        NoneInvalid TX TY (model.coords m addr input)) := by
  obtain ⟨hcurves, hnPt, hfits⟩ := hdev
  have hlen := length_points hdata
  have hsize : sizeOf (model.sizes m addr) VoltCurveModel.position =
      model.gCrv + model.gPt * (readPoint m addr model.nPt).toNat :=
    VoltCurveModel.sizeOf_pieces hcurves
  have hstop := stop_le_sum (model.sizes m addr) VoltCurveModel.position
  have hsum : (model.sizes m addr).sum ≤ 2 ^ 16 := by omega
  have hoff : model.curveOffset VoltCurveModel.targetCurve.toNat
      (readPoint m addr model.nPt).toNat =
        some (startOf (model.sizes m addr) VoltCurveModel.position) :=
    VoltCurveModel.curveOffset_eq hmodel.gCrv_pos hcurves hsum
  have hnot : ¬readPoint m addr model.nCrv < VoltCurveModel.targetCurve := by
    rw [UInt16.lt_iff_toNat_lt]
    exact not_lt.2 hcurves
  refine ⟨_, VoltCurveModel.writeCurve_eq hmodel hnot hoff (hlen ▸ hnPt) (by omega), ?_, ?_⟩
  · refine confined_of_within fun b hb => (CurveGroup.within_of_mem_blocks hb).mono le_rfl ?_
    rw [hsize, length_scaledPoints, hlen]
    exact Nat.add_le_add_left (Nat.add_le_add_left (Nat.mul_le_mul_left _ hnPt) _) _
  · rw [Curve.len_eq hdata hnPt]
    exact CurveGroup.holds_iff (FixedSize.decode_encode _) (map_toInt_scaledPoints hdata _ _)

/-- Writing a curve of any model overflows no address and stays in the piece of the target curve.
The curve then reads back, each coordinate rounded and capped to its register, exactly if none of
them is the value that stands for "not implemented". -/
theorem curves_read_back_iff :
    (∀ (model : TripCurveModel TX TY) (hmodel : model.WellFormed) (curve : TripCurve)
      (input : DERCurve) (data : Curve TX TY) (m : Memory) (addr : Nat),
      convertCurve input .flipped = .ok data → model.Supports m addr input →
      ∃ bs, model.writeCurve addr curve data (readPoint m addr model.nPt)
          (readPoint m addr model.xSf) (readPoint m addr model.ySf) = some (bs, true) ∧
        Confined (model.sizes m addr) (TripCurveModel.position curve) addr m bs ∧
        ((model.group hmodel curve).Holds (storeAll m bs)
            (addr + startOf (model.sizes m addr) (TripCurveModel.position curve))
            (some (.ofNat input.curveData.length)) (model.coords m addr input) ↔
          NoneInvalid TX TY (model.coords m addr input))) ∧
    ∀ (model : VoltCurveModel TX TY) (hmodel : model.WellFormed) (input : DERCurve)
      (data : Curve TX TY) (m : Memory) (addr : Nat),
      convertCurve input .same = .ok data → model.Supports m addr input →
      ∃ bs, model.writeCurve addr m data =
          some (bs, some (addr + startOf (model.sizes m addr) VoltCurveModel.position)) ∧
        Confined (model.sizes m addr) VoltCurveModel.position addr m bs ∧
        ((model.group hmodel).Holds (storeAll m bs)
            (addr + startOf (model.sizes m addr) VoltCurveModel.position)
            (.ofNat input.curveData.length) (model.coords m addr input) ↔
          NoneInvalid TX TY (model.coords m addr input)) :=
  ⟨fun _ hmodel _ _ _ _ _ hdata hdev => tripCurve_reads_back hmodel hdata hdev,
    fun _ hmodel _ _ _ _ hdata hdev => voltCurve_reads_back hmodel hdata hdev⟩

end ReadsBack

/-! ## A curve on model 707 -/

/-- Model 707, with its points one behind the other. -/
def layout707 : VoltageTripLayout where
  len := 7
  crv := 1
  mustTrip := 1
  mayTrip := 1
  momCess := 1
  pt := 3
  nCrvSet := ⟨4⟩
  nPt := ⟨3⟩
  vSf := ⟨5⟩
  tmsSf := ⟨6⟩
  actPt := ⟨0⟩
  v := ⟨0⟩
  tms := ⟨1⟩

/-- A device with model 707 at address 40: two sets of two points, no scale factors. -/
def memory707 : Memory := fun a => if a = 43 ∨ a = 44 then 2 else 0

/-- Trip after 2 seconds at this voltage. -/
def voltageCurve (voltage : Int32) : DERCurve :=
  { mrid := 1, curveData := [⟨2, voltage⟩] }

theorem wellFormed_layout707 : (model707 layout707).WellFormed where
  actPt_stop_le curve := by cases curve <;> decide
  xPt_stop_le := by decide
  yPt_stop_le := by decide
  apart := by decide

theorem supports_memory707 {voltage : Int32} :
    (model707 layout707).Supports memory707 40 (voltageCurve voltage) where
  nCrvSet := by decide
  nPt := by
    show 1 ≤ (readPoint memory707 40 (model707 layout707).nPt).toNat
    decide
  fits := by decide

/-- A voltage of 65535 is written as it is, and reads back as not implemented. -/
theorem largest_voltage_not_read_back :
    convertCurve (voltageCurve 65535) .flipped = .ok ⟨[((65535 : UInt16), (2 : UInt32))], 0, 0⟩ ∧
      (model707 layout707).Supports memory707 40 (voltageCurve 65535) ∧
      ∃ bs, (model707 layout707).writeCurve 40 .mustTrip ⟨[(65535, 2)], 0, 0⟩ 2 0 0 =
          some (bs, true) ∧
        (((model707 layout707).group wellFormed_layout707 .mustTrip).read
          (storeAll memory707 bs) 70 1).2 = [(none, some 2)] ∧
        ¬((model707 layout707).group wellFormed_layout707 .mustTrip).Holds (storeAll memory707 bs)
          70 (some 1) ((model707 layout707).coords memory707 40 (voltageCurve 65535)) := by
  refine ⟨by decide, supports_memory707, [⟨70, [1]⟩, ⟨71, [65535]⟩, ⟨72, [0, 2]⟩], by decide,
    by decide, fun h => ?_⟩
  have hread : [(none, some 2)] =
      ((model707 layout707).coords memory707 40 (voltageCurve 65535)).map (Prod.map some some) :=
    h.2
  cases hread

/-! ## Two points on models 707 and 705 -/

/-- Model 705, with its points one behind the other. -/
def layout705 : VoltLayout where
  len := 7
  crv := 3
  pt := 2
  nCrv := ⟨4⟩
  nPt := ⟨3⟩
  vSf := ⟨5⟩
  deptRefSf := ⟨6⟩
  actPt := ⟨0⟩
  v := ⟨0⟩
  varOrW := ⟨1⟩

/-- Either model at address 40, with two curves of two points, voltages in volts and the other
coordinates in tenths. -/
def scaledMemory : Memory := fun a => if a = 43 ∨ a = 44 then 2 else if a = 46 then 0xffff else 0

/-- Trip after 0.16 s at 230.5 V and after 2 s at 253 V. -/
def tripCurve : DERCurve :=
  { mrid := 1
    curveData := [⟨16, 2305⟩, ⟨200, 2530⟩]
    xMultiplier := .centi
    yMultiplier := .deci }

/-- From 44 % at 207 V to -44 % at 258.5 V. -/
def voltVarCurve : DERCurve :=
  { mrid := 2, curveData := [⟨2070, 44⟩, ⟨2585, -44⟩], xMultiplier := .deci }

theorem wellFormed_layout705 : (model705 layout705).WellFormed where
  actPt_stop_le := by decide
  xPt_stop_le := by decide
  yPt_stop_le := by decide
  apart := by decide

theorem supports_tripCurve : (model707 layout707).Supports scaledMemory 40 tripCurve where
  nCrvSet := by decide
  nPt := by decide
  fits := by decide

theorem supports_voltVarCurve : (model705 layout705).Supports scaledMemory 40 voltVarCurve where
  nCrv := by decide
  nPt := by decide
  fits := by decide

theorem curves_read_back_two_points :
    (∃ bs, (model707 layout707).writeCurve 40 .mayTrip
        ⟨[(2305, 16), (2530, 200)], -1, -2⟩ 2 0 (-1) = some (bs, true) ∧
      Confined ((model707 layout707).sizes scaledMemory 40) 7 40 scaledMemory bs ∧
      ((model707 layout707).group wellFormed_layout707 .mayTrip).Holds (storeAll scaledMemory bs) 77
        (some 2) [(231, 2), (253, 20)]) ∧
    ∃ bs, (model705 layout705).writeCurve 40 scaledMemory ⟨[(2070, 44), (2585, -44)], -1, 0⟩ =
        some (bs, some 54) ∧
      Confined ((model705 layout705).sizes scaledMemory 40) 2 40 scaledMemory bs ∧
      ((model705 layout705).group wellFormed_layout705).Holds (storeAll scaledMemory bs) 54 2
        [(207, 440), (259, -440)] := by
  have htrip : (model707 layout707).coords scaledMemory 40 tripCurve = [(231, 2), (253, 20)] := by
    decide +kernel
  have hvolt : (model705 layout705).coords scaledMemory 40 voltVarCurve =
      [(207, 440), (259, -440)] := by
    decide +kernel
  obtain ⟨bs, hwrite, hconfined, hholds⟩ := curves_read_back_iff.1 (model707 layout707)
    wellFormed_layout707 .mayTrip tripCurve ⟨[(2305, 16), (2530, 200)], -1, -2⟩ scaledMemory 40
    (by decide) supports_tripCurve
  obtain ⟨bs', hwrite', hconfined', hholds'⟩ := curves_read_back_iff.2 (model705 layout705)
    wellFormed_layout705 voltVarCurve ⟨[(2070, 44), (2585, -44)], -1, 0⟩ scaledMemory 40
    (by decide) supports_voltVarCurve
  rw [htrip] at hholds
  rw [hvolt] at hholds'
  exact ⟨⟨bs, hwrite, hconfined, hholds.2 (by decide)⟩, bs', hwrite', hconfined',
    hholds'.2 (by decide)⟩

end Sep2Bridge.Modbus
