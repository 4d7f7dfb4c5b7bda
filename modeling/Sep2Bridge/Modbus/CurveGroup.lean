import Sep2Bridge.Modbus.CurveModels
import Sep2Bridge.Modbus.Translation
import Sep2Bridge.Rescale

/-!
# Curve groups

What the curves of all the models have in common: some fixed points, the number of active points
among them, and then the points of the curve, all of one length. The blocks of a group are what
`write_curve` writes, and reading them back gives the points, except those whose value is the one
that stands for "not implemented" (`CurveGroup.holds_iff`).
-/

namespace Sep2Bridge.Modbus

open Lib ScaledValueInner

/-! ## Points -/

variable {T : Type}

/-- The value that stands for "not implemented" is not read back. -/
theorem decode_encode_some [FixedSize T] (value : T) :
    (Value.decode (Value.encode (some value)) : Option T) = implemented value :=
  congrArg FixedSize.decodeOption (FixedSize.encodeOption_some value)

theorem size_pos (T : Type) [FixedSize T] : 0 < Value.size (Option T) :=
  FixedSize.size_pos

theorem writeOffsetPoint_eq [Value T] {offset : Nat} {p : OffsetPoint T} {value : T}
    (h : offset + p.offset < 2 ^ 16) :
    writeOffsetPoint offset p value = some ⟨offset + p.offset, Value.encode value⟩ := by
  rw [writeOffsetPoint, u16_eq_some h]
  rfl

/-! ## Curve groups -/

/-- A group of fixed points followed by the points of a curve. -/
structure CurveGroup (TA TX TY : Type) [Value TA] [FixedSize TX] [FixedSize TY] where
  staticLen : Nat
  ptLen : Nat
  actPt : OffsetPoint TA
  xPt : OffsetPoint (Option TX)
  yPt : OffsetPoint (Option TY)
  actPt_stop_le : actPt.stop ≤ staticLen
  xPt_stop_le : xPt.stop ≤ ptLen
  yPt_stop_le : yPt.stop ≤ ptLen
  apart : xPt.stop ≤ yPt.offset ∨ yPt.stop ≤ xPt.offset

namespace CurveGroup

variable {TA TX TY : Type} [Value TA] [FixedSize TX] [FixedSize TY] (g : CurveGroup TA TX TY)

theorem two_le_ptLen : 2 ≤ g.ptLen := by
  have hx := g.xPt_stop_le
  have hy := g.yPt_stop_le
  have hsep := g.apart
  have hX := size_pos TX
  have hY := size_pos TY
  unfold OffsetPoint.stop at hx hy hsep
  omega

/-- Where the points with index `i` of a curve at `start` begin. -/
def pointAddr (start i : Nat) : Nat := start + g.staticLen + g.ptLen * i

def pointBlocks (start : Nat) (point : (TX × TY) × Nat) : List (Block UInt16) :=
  [⟨g.pointAddr start point.2 + g.xPt.offset, Value.encode (some point.1.1)⟩,
    ⟨g.pointAddr start point.2 + g.yPt.offset, Value.encode (some point.1.2)⟩]

/-- The blocks of a curve: the number of active points, and the points in order. -/
def blocks (start : Nat) (act : TA) (points : List (TX × TY)) : List (Block UInt16) :=
  ⟨start + g.actPt.offset, Value.encode act⟩ :: points.zipIdx.flatMap (g.pointBlocks start)

/-- The number of active points of a curve, and its first `n` points. -/
def read (m : Memory) (start n : Nat) : TA × List (Option TX × Option TY) :=
  (readPoint m start g.actPt, (List.range n).map fun i =>
    (readPoint m (g.pointAddr start i) g.xPt, readPoint m (g.pointAddr start i) g.yPt))

variable {g} {start : Nat} {act : TA} {points : List (TX × TY)} {b : Block UInt16}

theorem pointAddr_mono {i j : Nat} (h : i < j) :
    g.pointAddr start i + g.ptLen ≤ g.pointAddr start j := by
  have hmul := Nat.mul_le_mul_left g.ptLen (Nat.succ_le_of_lt h)
  rw [Nat.mul_succ] at hmul
  unfold pointAddr
  omega

theorem within_of_mem_pointBlocks {point : (TX × TY) × Nat} (hb : b ∈ g.pointBlocks start point) :
    b.Within (g.pointAddr start point.2) (g.pointAddr start point.2 + g.ptLen) := by
  have hx := g.xPt_stop_le
  have hy := g.yPt_stop_le
  unfold OffsetPoint.stop at hx hy
  simp only [pointBlocks, List.mem_cons, List.not_mem_nil, or_false] at hb
  unfold Block.Within Block.stop
  obtain rfl | rfl := hb
  · simp only [Value.length_encode]
    omega
  · simp only [Value.length_encode]
    omega

theorem mem_blocks : b ∈ g.blocks start act points ↔
    b = ⟨start + g.actPt.offset, Value.encode act⟩ ∨
      ∃ point ∈ points.zipIdx, b ∈ g.pointBlocks start point := by
  rw [blocks, List.mem_cons, List.mem_flatMap]

theorem within_actPt :
    (⟨start + g.actPt.offset, Value.encode act⟩ : Block UInt16).Within start
      (start + g.staticLen) := by
  have hstop := g.actPt_stop_le
  unfold OffsetPoint.stop at hstop
  unfold Block.Within Block.stop
  simp only [Value.length_encode]
  omega

theorem snd_lt_of_mem_zipIdx {α : Type} {l : List α} {p : α × Nat} (h : p ∈ l.zipIdx) :
    p.2 < l.length := by
  simpa using List.snd_lt_of_mem_zipIdx h

/-- The blocks lie in the curve's own region. -/
theorem within_of_mem_blocks (hb : b ∈ g.blocks start act points) :
    b.Within start (start + (g.staticLen + g.ptLen * points.length)) := by
  obtain rfl | ⟨point, hpoint, hb⟩ := mem_blocks.1 hb
  · exact within_actPt.mono (by omega) (by omega)
  · have hle : g.pointAddr start point.2 + g.ptLen ≤ g.pointAddr start points.length :=
      pointAddr_mono (snd_lt_of_mem_zipIdx hpoint)
    refine (within_of_mem_pointBlocks hb).mono (by unfold pointAddr; omega) ?_
    unfold pointAddr at hle ⊢
    omega

theorem pairwise_zipIdx {α : Type} (l : List α) : l.zipIdx.Pairwise fun p q => p.2 < q.2 := by
  refine List.pairwise_iff_getElem.2 fun i j hi hj hij => ?_
  simpa using hij

theorem pairwise_pointBlocks (point : (TX × TY) × Nat) :
    (g.pointBlocks start point).Pairwise Block.Apart := by
  have hsep := g.apart
  unfold OffsetPoint.stop at hsep
  rw [pointBlocks, List.pairwise_pair]
  unfold Block.Apart Block.stop
  simp only [Value.length_encode]
  omega

/-- No two blocks overlap. -/
theorem pairwise_blocks : (g.blocks start act points).Pairwise Block.Apart := by
  refine List.pairwise_cons.2 ⟨fun b hb => ?_, List.pairwise_flatMap.2
    ⟨fun point _ => pairwise_pointBlocks point, (pairwise_zipIdx points).imp ?_⟩⟩
  · obtain ⟨point, -, hb⟩ := List.mem_flatMap.1 hb
    exact within_actPt.apart
      ((within_of_mem_pointBlocks hb).mono (by unfold pointAddr; omega) le_rfl)
  · intro p q hpq b hb c hc
    exact (within_of_mem_pointBlocks hb).apart
      ((within_of_mem_pointBlocks hc).mono (pointAddr_mono hpq) le_rfl)

/-- A point written by one of the blocks reads as what was written. -/
theorem readPoint_storeAll {T : Type} [Value T] {m : Memory} {offset : Nat} {p : OffsetPoint T}
    {value : T}
    (hb : (⟨offset + p.offset, Value.encode value⟩ : Block UInt16) ∈ g.blocks start act points) :
    readPoint (storeAll m (g.blocks start act points)) offset p =
      Value.decode (Value.encode value) := by
  have hload := load_storeAll (m := m) pairwise_blocks hb
  rw [Value.length_encode] at hload
  rw [readPoint, hload]

/-- Reading a curve after its blocks were stored. -/
theorem read_storeAll (m : Memory) :
    g.read (storeAll m (g.blocks start act points)) start points.length =
      (Value.decode (Value.encode act), points.map fun point =>
        (Value.decode (Value.encode (some point.1)),
          Value.decode (Value.encode (some point.2)))) := by
  refine Prod.ext (readPoint_storeAll (mem_blocks.2 (.inl rfl))) ?_
  refine List.ext_getElem (by simp [read]) fun i hi hi' => ?_
  have hlt : i < points.length := by simpa using hi'
  have hpoint : (points[i], i) ∈ points.zipIdx := by
    rw [List.mem_zipIdx_iff_getElem?]
    simp
  simp only [read, List.getElem_map, List.getElem_range]
  refine Prod.ext (readPoint_storeAll (mem_blocks.2 (.inr ⟨_, hpoint, ?_⟩)))
    (readPoint_storeAll (mem_blocks.2 (.inr ⟨_, hpoint, ?_⟩)))
  · exact List.mem_cons_self
  · exact List.mem_cons_of_mem _ List.mem_cons_self

end CurveGroup

/-! ## Coordinates -/

section Coordinates

/-- A coordinate of a SEP2 curve on the scale of the device, rounded and capped to its register. -/
def coordinate (T : Type) [ScaledValueInner T] (value : Int32)
    (multiplier : PowerOfTenMultiplierType) (sf : Int16) : Int :=
  clampTo T (roundHalfAway (value.toInt * powTen (convert multiplier) sf))

/-- The coordinates a device is to hold for a curve. -/
def coordinates (TX TY : Type) [ScaledValueInner TX] [ScaledValueInner TY] (input : DERCurve)
    (xSf ySf : Int16) : AxisOrder → List (Int × Int)
  | .same => input.curveData.map fun point =>
      (coordinate TX point.xvalue input.xMultiplier xSf,
        coordinate TY point.yvalue input.yMultiplier ySf)
  | .flipped => input.curveData.map fun point =>
      (coordinate TX point.yvalue input.yMultiplier xSf,
        coordinate TY point.xvalue input.xMultiplier ySf)

theorem length_coordinates {TX TY : Type} [ScaledValueInner TX] [ScaledValueInner TY]
    {input : DERCurve} {xSf ySf : Int16} {order : AxisOrder} :
    (coordinates TX TY input xSf ySf order).length = input.curveData.length := by
  cases order <;> simp [coordinates]

/-- A conversion that keeps the value. -/
class LawfulTryConvert (T : Type) [ScaledValueInner T] [TryConvert Int32 T] : Prop where
  toInt_of_tryConvert {v : Int32} {x : T} : tryConvert v = .ok x → toInt x = v.toInt

open LawfulTryConvert

instance : LawfulTryConvert UInt16 where
  toInt_of_tryConvert {v x} h := by
    simp only [tryConvert] at h
    split at h
    · cases h
    · split at h
      · cases h
        simp only [toInt, UInt16.toNat_ofNat']
        omega
      · cases h

instance : LawfulTryConvert UInt32 where
  toInt_of_tryConvert {v x} h := by
    have hlt := v.toInt_lt
    simp only [tryConvert] at h
    split at h
    · cases h
    · cases h
      simp only [toInt, UInt32.toNat_ofNat']
      omega

instance : LawfulTryConvert Int16 where
  toInt_of_tryConvert {v x} h := by
    simp only [tryConvert] at h
    split at h
    · next hv =>
      cases h
      exact Int16.toInt_ofInt_of_le hv.1 hv.2
    · cases h

variable {TX TY : Type} [ScaledValueInner TX] [ScaledValueInner TY]

/-- The points of a curve on the scales of a device. -/
def scaledPoints (data : Curve TX TY) (xSf ySf : Int16) : List (TX × TY) :=
  data.iterScaled.map fun point => ((point.1.rescale xSf).value, (point.2.rescale ySf).value)

theorem length_scaledPoints {data : Curve TX TY} {xSf ySf : Int16} :
    (scaledPoints data xSf ySf).length = data.points.length := by
  simp [scaledPoints, Curve.iterScaled]

omit [ScaledValueInner TX] [ScaledValueInner TY] in
theorem Curve.length_iterScaled {data : Curve TX TY} :
    data.iterScaled.length = data.points.length := by
  simp [Curve.iterScaled]

omit [ScaledValueInner TX] [ScaledValueInner TY] in
theorem Curve.toNat_len {data : Curve TX TY} (h : data.points.length < 2 ^ 16) :
    data.len.toNat = data.points.length := by
  rw [Curve.len, if_pos h, UInt16.toNat_ofNat']
  omega

omit [ScaledValueInner TX] [ScaledValueInner TY] in
theorem Curve.not_len_gt {data : Curve TX TY} {nPt : UInt16}
    (h : data.points.length ≤ nPt.toNat) : ¬data.len > nPt := by
  have hlt := nPt.toNat_lt
  rw [gt_iff_lt, UInt16.lt_iff_toNat_lt, Curve.toNat_len (by omega)]
  omega

/-- Writing the points one by one. -/
theorem mapM_scaledPoints {β : Type} {f : (ScaledValue TX × ScaledValue TY) × Nat → Option β}
    {g : (TX × TY) × Nat → β} {data : Curve TX TY} {xSf ySf : Int16}
    (h : ∀ point ∈ data.iterScaled.zipIdx, f point =
      some (g (((point.1.1.rescale xSf).value, (point.1.2.rescale ySf).value), point.2))) :
    data.iterScaled.zipIdx.mapM f = some ((scaledPoints data xSf ySf).zipIdx.map g) := by
  rw [mapM_eq_some h, scaledPoints, List.zipIdx_map, List.map_map]
  rfl

variable [LawfulScaledValueInner TX] [LawfulScaledValueInner TY] [TryConvert Int32 TX]
  [TryConvert Int32 TY] [LawfulTryConvert TX] [LawfulTryConvert TY]

theorem toInt_rescale_of_tryConvert {T : Type} [ScaledValueInner T] [LawfulScaledValueInner T]
    [TryConvert Int32 T] [LawfulTryConvert T] {v : Int32} {x : T} (h : tryConvert v = .ok x)
    (multiplier : PowerOfTenMultiplierType) (sf : Int16) :
    toInt ((⟨x, convert multiplier⟩ : ScaledValue T).rescale sf).value =
      coordinate T v multiplier sf := by
  rw [ScaledValue.toInt_value_rescale, toInt_of_tryConvert h, coordinate]

theorem map_toInt_of_mapM {fx fy : CurveData → Int32} {l : List CurveData}
    {points : List (TX × TY)}
    (h : (l.mapM fun point => do
      let x ← tryConvert (fx point)
      let y ← tryConvert (fy point)
      return (x, y) : Except TranslationError (List (TX × TY))) = .ok points)
    (mx my : PowerOfTenMultiplierType) (xSf ySf : Int16) :
    (scaledPoints ⟨points, convert mx, convert my⟩ xSf ySf).map (Prod.map toInt toInt) =
      l.map fun point => (coordinate TX (fx point) mx xSf, coordinate TY (fy point) my ySf) := by
  simp only [scaledPoints, Curve.iterScaled, List.map_map]
  refine map_eq_of_mapM h fun point xy hxy => ?_
  obtain ⟨x, hx, hxy⟩ := bind_eq_ok.1 hxy
  obtain ⟨y, hy, hxy⟩ := bind_eq_ok.1 hxy
  cases hxy
  exact Prod.ext (toInt_rescale_of_tryConvert hx _ _) (toInt_rescale_of_tryConvert hy _ _)

/-- What `convert_curve` accepts is scaled to the coordinates of the curve. -/
theorem map_toInt_scaledPoints {input : DERCurve} {order : AxisOrder} {data : Curve TX TY}
    (h : convertCurve input order = .ok data) (xSf ySf : Int16) :
    (scaledPoints data xSf ySf).map (Prod.map toInt toInt) =
      coordinates TX TY input xSf ySf order := by
  cases order with
  | same =>
    obtain ⟨points, hpoints, h⟩ := bind_eq_ok.1 h
    cases h
    exact map_toInt_of_mapM hpoints _ _ _ _
  | flipped =>
    obtain ⟨points, hpoints, h⟩ := bind_eq_ok.1 h
    cases h
    exact map_toInt_of_mapM hpoints _ _ _ _

theorem length_points {input : DERCurve} {order : AxisOrder} {data : Curve TX TY}
    (h : convertCurve input order = .ok data) : data.points.length = input.curveData.length := by
  have hmap := congrArg List.length (map_toInt_scaledPoints h 0 0)
  rwa [List.length_map, length_scaledPoints, length_coordinates] at hmap

end Coordinates

/-! ## Reading back -/

section ReadBack

variable {TX TY : Type} [ScaledValueInner TX] [ScaledValueInner TY] [FixedSize TX] [FixedSize TY]

/-- The points that were read are implemented, with these coordinates. -/
def ReadsAs (points : List (Option TX × Option TY)) (coords : List (Int × Int)) : Prop :=
  points.map (Prod.map (Option.map toInt) (Option.map toInt)) = coords.map (Prod.map some some)

/-- No coordinate is the value that stands for "not implemented". -/
def NoneInvalid (TX TY : Type) [ScaledValueInner TX] [ScaledValueInner TY] [FixedSize TX]
    [FixedSize TY] (coords : List (Int × Int)) : Prop :=
  ∀ c ∈ coords, c.1 ≠ toInt (FixedSize.invalid : TX) ∧ c.2 ≠ toInt (FixedSize.invalid : TY)

instance (coords : List (Int × Int)) : Decidable (NoneInvalid TX TY coords) :=
  inferInstanceAs (Decidable (∀ c ∈ coords, _ ≠ _ ∧ _ ≠ _))

theorem map_toInt_implemented_iff {T : Type} [ScaledValueInner T] [LawfulScaledValueInner T]
    [FixedSize T] (value : T) :
    (implemented value).map toInt = some (toInt value) ↔
      toInt value ≠ toInt (FixedSize.invalid : T) := by
  rw [(LawfulScaledValueInner.toInt_injective (T := T)).ne_iff]
  by_cases h : value = FixedSize.invalid
  · simp [h, implemented_invalid]
  · simp [h, implemented_of_ne]

variable [LawfulScaledValueInner TX] [LawfulScaledValueInner TY]

theorem readsAs_iff (points : List (TX × TY)) :
    ReadsAs (points.map fun point => (implemented point.1, implemented point.2))
        (points.map (Prod.map toInt toInt)) ↔
      NoneInvalid TX TY (points.map (Prod.map toInt toInt)) := by
  rw [ReadsAs, List.map_map, List.map_map, List.map_inj_left, NoneInvalid, List.forall_mem_map]
  refine forall₂_congr fun point _ => ?_
  exact Prod.ext_iff.trans
    (and_congr (map_toInt_implemented_iff point.1) (map_toInt_implemented_iff point.2))

/-- The curve at `start` has these coordinates, and as many active points. -/
def CurveGroup.Holds {TA : Type} [Value TA] (g : CurveGroup TA TX TY) (m : Memory) (start : Nat)
    (act : TA) (coords : List (Int × Int)) : Prop :=
  (g.read m start coords.length).1 = act ∧ ReadsAs (g.read m start coords.length).2 coords

/-- A curve that was stored is held exactly if each of its coordinates can be read. -/
theorem CurveGroup.holds_iff {TA : Type} [Value TA] {g : CurveGroup TA TX TY} {m : Memory}
    {start : Nat} {act : TA} {points : List (TX × TY)} {coords : List (Int × Int)}
    (hact : Value.decode (Value.encode act) = act)
    (hcoords : points.map (Prod.map toInt toInt) = coords) :
    g.Holds (storeAll m (g.blocks start act points)) start act coords ↔
      NoneInvalid TX TY coords := by
  subst hcoords
  rw [Holds, List.length_map, g.read_storeAll, and_iff_right hact]
  simp only [decode_encode_some]
  exact readsAs_iff points

end ReadBack

end Sep2Bridge.Modbus
