import Sep2Bridge.Modbus.SendCurves
import Sep2Bridge.Modbus.Translation

/-!
# What SEP2 requests of scaled points

`requested` says which number SEP2 asks a point to hold, exactly rescaled to the device. A list of
writes `Realises` what is requested of some points if each of them gets the number asked for,
rounded and capped, or a number that is harmless: one that does not read as "not implemented".

Of each integer type one value says that a point is not implemented, and it is one of the bounds
at which rescaling caps. `Realises.avoids_iff` turns this into a condition on what is requested.
-/

namespace Sep2Bridge.Modbus

open Lib ScaledValueInner

/-! ## Widths -/

namespace Width

def minValue : Width → Int
  | .u16 | .u32 => 0
  | .i16 => -2 ^ 15
  | .i32 => -2 ^ 31

def maxValue : Width → Int
  | .u16 => 2 ^ 16 - 1
  | .i16 => 2 ^ 15 - 1
  | .u32 => 2 ^ 32 - 1
  | .i32 => 2 ^ 31 - 1

/-- The value that stands for "not implemented". -/
def invalid : Width → Int
  | .u16 => 0xffff
  | .i16 => -0x8000
  | .u32 => 0xffffffff
  | .i32 => -0x80000000

def cap (w : Width) (x : Int) : Int := max w.minValue (min w.maxValue x)

/-- A number that is `invalid` itself, or is more than half a step short of it. -/
def Clear : Width → ℚ → Prop
  | .u16, q => q = 0xffff ∨ q < 0xffff - 1 / 2
  | .i16, q => q = -0x8000 ∨ -0x8000 + 1 / 2 < q
  | .u32, q => q = 0xffffffff ∨ q < 0xffffffff - 1 / 2
  | .i32, q => q = -0x80000000 ∨ -0x80000000 + 1 / 2 < q

end Width

/-- Rounding reaches an integer above zero from half a step below. -/
theorem le_roundHalfAway_iff {n : ℤ} (hn : 0 < n) (q : ℚ) :
    n ≤ roundHalfAway q ↔ (n : ℚ) - 1 / 2 ≤ q := by
  by_cases hq : q < 0
  · have hle := roundHalfAway_nonpos hq.le
    have hnq : (1 : ℚ) ≤ n := by exact_mod_cast hn
    constructor
    · intro h
      omega
    · intro h
      linarith
  · rw [roundHalfAway, if_neg hq, Int.le_floor, sub_le_iff_le_add]

theorem roundHalfAway_le_neg_iff {n : ℤ} (hn : 0 < n) (q : ℚ) :
    roundHalfAway q ≤ -n ↔ q ≤ -(n : ℚ) + 1 / 2 := by
  have h := le_roundHalfAway_iff hn (-q)
  rw [roundHalfAway_neg] at h
  constructor
  · intro hle
    have := h.1 (by omega)
    linarith
  · intro hle
    have := h.2 (by linarith)
    omega

namespace Width

theorem cap_u16_eq_iff (x : Int) : cap .u16 x = invalid .u16 ↔ 65535 ≤ x := by
  show max 0 (min 65535 x) = 65535 ↔ _
  omega

theorem cap_u32_eq_iff (x : Int) : cap .u32 x = invalid .u32 ↔ 4294967295 ≤ x := by
  show max 0 (min 4294967295 x) = 4294967295 ↔ _
  omega

theorem cap_i16_eq_iff (x : Int) : cap .i16 x = invalid .i16 ↔ x ≤ -32768 := by
  show max (-32768) (min 32767 x) = -32768 ↔ _
  omega

theorem cap_i32_eq_iff (x : Int) : cap .i32 x = invalid .i32 ↔ x ≤ -2147483648 := by
  show max (-2147483648) (min 2147483647 x) = -2147483648 ↔ _
  omega

/-- Being clear of `invalid` is what keeps a number from being rounded and capped to it. -/
theorem clear_iff (w : Width) (q : ℚ) :
    w.Clear q ↔ (w.cap (roundHalfAway q) = w.invalid → q = w.invalid) := by
  cases w with
  | u16 =>
    rw [cap_u16_eq_iff, le_roundHalfAway_iff (by decide), Clear, or_comm, ← not_le,
      ← imp_iff_not_or]
    norm_num [invalid]
  | u32 =>
    rw [cap_u32_eq_iff, le_roundHalfAway_iff (by decide), Clear, or_comm, ← not_le,
      ← imp_iff_not_or]
    norm_num [invalid]
  | i16 =>
    rw [cap_i16_eq_iff, roundHalfAway_le_neg_iff (by decide), Clear, or_comm, ← not_le,
      ← imp_iff_not_or]
    norm_num [invalid]
  | i32 =>
    rw [cap_i32_eq_iff, roundHalfAway_le_neg_iff (by decide), Clear, or_comm, ← not_le,
      ← imp_iff_not_or]
    norm_num [invalid]

end Width

/-! ## What is requested of each point -/

/-- A number of SEP2 on the scale of the device. -/
def exactly (value : Int) (sf deviceSf : Int16) : ℚ := value * powTen sf deviceSf

/-- The device has a curve to write and room for the points. -/
def CurveSupport.Accepts (s : CurveSupport) (curve : DERCurve) : Prop :=
  2 ≤ s.nCrv.toNat ∧ min curve.curveData.length 65535 ≤ s.nPt.toNat

instance (s : CurveSupport) (curve : DERCurve) : Decidable (s.Accepts curve) := instDecidableAnd

/-- The link to the curve of a trip model. -/
def tripLink (base : DERControlBase) : TripId → TripCurve → Option Link
  | .m707, .mustTrip => base.opModLvrtMustTrip
  | .m707, .mayTrip => base.opModLvrtMayTrip
  | .m707, .momCess => base.opModLvrtMomentaryCessation
  | .m708, .mustTrip => base.opModHvrtMustTrip
  | .m708, .mayTrip => base.opModHvrtMayTrip
  | .m708, .momCess => base.opModHvrtMomentaryCessation
  | .m709, .mustTrip => base.opModLfrtMustTrip
  | .m709, .mayTrip => base.opModLfrtMayTrip
  | .m709, .momCess => none
  | .m710, .mustTrip => base.opModHfrtMustTrip
  | .m710, .mayTrip => base.opModHfrtMayTrip
  | .m710, .momCess => none

def voltLink (base : DERControlBase) : VoltModel → Option Link
  | .m705 => base.opModVoltVar
  | .m706 => base.opModVoltWatt

/-- The curve that a link refers to. -/
def linked (attrs : ControlAttributes) (link : Option Link) : Option DERCurve :=
  link.bind fun link => attrs.curves[link.href]?

namespace CurveDevice

variable (device : CurveDevice) (mapSiteLimits : Bool) (attrs : ControlAttributes)

/-- A request to a model that the device has. -/
def ifSupported {α : Type} (model : Nat) (request : Option α) : Option α :=
  if model ∈ device.supportedModelIds then request else none

/-- The curve that SEP2 asks for, if the device takes it. -/
def requestedVolt (model : VoltModel) : Option DERCurve :=
  device.ifSupported model.id
    ((linked attrs (voltLink attrs.inner.derControlBase model)).filter
      fun curve => (device.volt model).Accepts curve)

def requestedTrip (model : TripId) (curve : TripCurve) : Option DERCurve :=
  device.ifSupported model.id
    ((linked attrs (tripLink attrs.inner.derControlBase model curve)).filter
      fun curve => (device.trip model).Accepts curve)

def requestedDroop : Option FreqDroopType :=
  device.ifSupported 711
    (attrs.inner.derControlBase.opModFreqDroop.filter fun _ => 2 ≤ device.nCtl.toNat)

/-- The number that a point is to hold for the attributes. A site limit is no such number: what is
derived from it is capped short of `invalid`, and a percentage beside it is at most that. -/
def requested : ScaledPoint → Option ℚ
  | .esvHi => device.ifSupported 703 (attrs.inner.setEsHighVolt.map fun val =>
      exactly val.toInt sep2HundredthsSf (device.vSf.getD 0))
  | .esvLo => device.ifSupported 703 (attrs.inner.setEsLowVolt.map fun val =>
      exactly val.toInt sep2HundredthsSf (device.vSf.getD 0))
  | .esHzHi => device.ifSupported 703 (attrs.inner.setEsHighFreq.map fun val =>
      exactly val.toNat sep2HundredthsSf (device.hzSf.getD 0))
  | .esHzLo => device.ifSupported 703 (attrs.inner.setEsLowFreq.map fun val =>
      exactly val.toNat sep2HundredthsSf (device.hzSf.getD 0))
  | .pfwInjPf => device.ifSupported 704
      (attrs.inner.derControlBase.opModFixedPfInjectW.map fun pfw =>
        exactly pfw.displacement.toNat (convert pfw.multiplier) (device.pfSf.getD 0))
  | .pfwAbsPf => device.ifSupported 704
      (attrs.inner.derControlBase.opModFixedPfAbsorbW.map fun pfw =>
        exactly pfw.displacement.toNat (convert pfw.multiplier) (device.pfSf.getD 0))
  | .varSetPct => device.ifSupported 704 (attrs.inner.derControlBase.opModFixedVar.map fun var =>
      exactly var.value.toInt sep2HundredthsSf (device.varSetPctSf.getD 0))
  | .wMaxLimPct => device.ifSupported 704
      (if mapSiteLimits ∧ attrs.inner.derControlBase.opModExpLimW.isSome then none
        else attrs.inner.derControlBase.opModMaxLimW.map fun val =>
          exactly val.toNat sep2HundredthsSf (device.wMaxLimPctSf.getD 0))
  | .wSetPct => device.ifSupported 704 (attrs.inner.derControlBase.opModFixedW.map fun val =>
      exactly val.toInt sep2HundredthsSf (device.wSetPctSf.getD 0))
  | .wSet => device.ifSupported 704 (attrs.inner.derControlBase.opModTargetW.map fun power =>
      exactly power.value.toInt (convert power.multiplier) (device.wSetSf.getD 0))
  | .voltX model i => (device.requestedVolt attrs model).bind fun curve =>
      curve.curveData[i]?.map fun point =>
        exactly point.xvalue.toInt (convert curve.xMultiplier) (device.volt model).xSf
  | .voltY model i => (device.requestedVolt attrs model).bind fun curve =>
      curve.curveData[i]?.map fun point =>
        exactly point.yvalue.toInt (convert curve.yMultiplier) (device.volt model).ySf
  | .rspTms model => (device.requestedVolt attrs model).bind fun curve =>
      curve.openLoopTms.map fun val =>
        exactly val.toNat sep2HundredthsSf (device.volt model).rspTmsSf
  | .vRef => (device.requestedVolt attrs .m705).bind fun curve =>
      curve.vRef.map fun val => exactly val.toNat sep2HundredthsSf (device.volt .m705).xSf
  | .tripX model tripCurve i => (device.requestedTrip attrs model tripCurve).bind fun curve =>
      curve.curveData[i]?.map fun point =>
        exactly point.yvalue.toInt (convert curve.yMultiplier) (device.trip model).xSf
  | .tripY model tripCurve i => (device.requestedTrip attrs model tripCurve).bind fun curve =>
      curve.curveData[i]?.map fun point =>
        exactly point.xvalue.toInt (convert curve.xMultiplier) (device.trip model).ySf
  | .dbOf => (device.requestedDroop attrs).map fun droop =>
      exactly droop.dBof.toNat sep2ThousandthsSf device.dbSf
  | .dbUf => (device.requestedDroop attrs).map fun droop =>
      exactly droop.dBuf.toNat sep2ThousandthsSf device.dbSf
  | .kOf => (device.requestedDroop attrs).map fun droop =>
      exactly droop.kOf.toNat sep2ThousandthsSf device.kSf
  | .kUf => (device.requestedDroop attrs).map fun droop =>
      exactly droop.kUf.toNat sep2ThousandthsSf device.kSf
  | .ctlRspTms => (device.requestedDroop attrs).map fun droop =>
      exactly droop.openLoopTms.toNat sep2HundredthsSf device.ctlRspTmsSf

end CurveDevice

/-! ## Lists of writes that do what is requested -/

/-- The number requested of each point, `none` where nothing of SEP2 is to be held unchanged. -/
abbrev Request := ScaledPoint → Option ℚ

/-- What a write leaves in a point: the number requested, rounded and capped, or one that does not
read as not implemented. -/
def Apt (request : Request) (w : ScaledWrite) : Prop :=
  (∃ q, request w.point = some q ∧ w.value = w.point.width.cap (roundHalfAway q)) ∨
    w.value ≠ w.point.width.invalid

/-- The writes are apt, and none is missing that is requested of the points in `S`. -/
structure Realises (request : Request) (S : ScaledPoint → Prop) (ws : List ScaledWrite) : Prop where
  apt : ∀ w ∈ ws, Apt request w
  complete : ∀ r, S r → ∀ q, request r = some q → ⟨r, r.width.cap (roundHalfAway q)⟩ ∈ ws

section Realises

variable {request : Request} {S S' : ScaledPoint → Prop} {ws ws' : List ScaledWrite}

theorem Realises.append (h : Realises request S ws) (h' : Realises request S' ws') :
    Realises request (fun r => S r ∨ S' r) (ws ++ ws') where
  apt w hw := (List.mem_append.1 hw).elim (h.apt w) (h'.apt w)
  complete r hr q hq := List.mem_append.2
    (hr.imp (fun hr => h.complete r hr q hq) fun hr => h'.complete r hr q hq)

theorem Realises.mono (h : Realises request S ws) (hle : ∀ r, S' r → S r) :
    Realises request S' ws where
  apt := h.apt
  complete r hr := h.complete r (hle r hr)

/-- Nothing is requested, and what is written does not read as not implemented. -/
theorem realises_harmless (hws : ∀ w ∈ ws, w.value ≠ w.point.width.invalid)
    (h : ∀ r, S r → request r = none) : Realises request S ws where
  apt w hw := .inr (hws w hw)
  complete r hr q hq := by
    rw [h r hr] at hq
    cases hq

theorem realises_nil (h : ∀ r, S r → request r = none) : Realises request S [] :=
  realises_harmless (fun _ hw => absurd hw List.not_mem_nil) h

/-- A value that is rescaled to the device. -/
theorem realises_rescaled {T : Type} [ScaledValueInner T] [LawfulScaledValueInner T]
    {r : ScaledPoint} {value : Option (ScaledValue T)} {sf : Int16}
    (hwidth : ∀ x, clampTo T x = r.width.cap x)
    (h : request r = value.map fun v => exactly (toInt v.value) v.sf sf) :
    Realises request (· = r) (value.map fun v => rescaled r v sf).toList := by
  cases value with
  | none =>
    refine realises_nil fun r' hr' => ?_
    rw [hr', h]
    rfl
  | some v =>
    have hvalue : (rescaled r v sf).value =
        r.width.cap (roundHalfAway (exactly (toInt v.value) v.sf sf)) := by
      rw [rescaled, ScaledValue.toInt_value_rescale, hwidth, exactly]
    constructor
    · intro w hw
      obtain rfl := List.mem_singleton.1 hw
      exact .inl ⟨_, h, hvalue⟩
    · intro r' hr' q hq
      obtain rfl := hr'
      rw [h, Option.map_some, Option.some.injEq] at hq
      rw [← hq, ← hvalue]
      exact List.mem_singleton_self _

/-- The exact coordinates of a curve on the scales of a device. -/
def exactCoordinates (input : DERCurve) (xSf ySf : Int16) : AxisOrder → List (ℚ × ℚ)
  | .same => input.curveData.map fun point =>
      (exactly point.xvalue.toInt (convert input.xMultiplier) xSf,
        exactly point.yvalue.toInt (convert input.yMultiplier) ySf)
  | .flipped => input.curveData.map fun point =>
      (exactly point.yvalue.toInt (convert input.yMultiplier) xSf,
        exactly point.xvalue.toInt (convert input.xMultiplier) ySf)

theorem coordinates_eq_map {TX TY : Type} [ScaledValueInner TX] [ScaledValueInner TY]
    {input : DERCurve} {xSf ySf : Int16} {order : AxisOrder} :
    coordinates TX TY input xSf ySf order = (exactCoordinates input xSf ySf order).map fun q =>
      (clampTo TX (roundHalfAway q.1), clampTo TY (roundHalfAway q.2)) := by
  cases order with
  | same => rw [coordinates, exactCoordinates, List.map_map]; rfl
  | flipped => rw [coordinates, exactCoordinates, List.map_map]; rfl

/-- The coordinates of a curve that was translated. -/
theorem realises_coords {TX TY : Type} [ScaledValueInner TX] [ScaledValueInner TY]
    [LawfulScaledValueInner TX] [LawfulScaledValueInner TY] [TryConvert Int32 TX]
    [TryConvert Int32 TY] [LawfulTryConvert TX] [LawfulTryConvert TY] {x y : Nat → ScaledPoint}
    {s : CurveSupport} {input : DERCurve} {order : AxisOrder} {data : Curve TX TY}
    (hdata : convertCurve input order = .ok data)
    (hxWidth : ∀ i v, clampTo TX v = (x i).width.cap v)
    (hyWidth : ∀ i v, clampTo TY v = (y i).width.cap v)
    (hx : ∀ i, request (x i) = (exactCoordinates input s.xSf s.ySf order)[i]?.map Prod.fst)
    (hy : ∀ i, request (y i) = (exactCoordinates input s.xSf s.ySf order)[i]?.map Prod.snd) :
    Realises request (fun r => ∃ i, r = x i ∨ r = y i) (coords x y data s) := by
  have hmap := (map_toInt_scaledPoints hdata s.xSf s.ySf).trans coordinates_eq_map
  have hget : ∀ i : Nat, (scaledPoints data s.xSf s.ySf)[i]?.map (Prod.map toInt toInt) =
      (exactCoordinates input s.xSf s.ySf order)[i]?.map fun q : ℚ × ℚ =>
        (clampTo TX (roundHalfAway q.1), clampTo TY (roundHalfAway q.2)) := by
    intro i
    rw [← List.getElem?_map, hmap, List.getElem?_map]
  constructor
  · intro w hw
    obtain ⟨⟨point, i⟩, hpoint, hw⟩ := List.mem_flatMap.1 hw
    have hi := hget i
    rw [List.mem_zipIdx_iff_getElem?.1 hpoint, Option.map_some, eq_comm,
      Option.map_eq_some_iff] at hi
    obtain ⟨q, hq, heq⟩ := hi
    obtain ⟨hq1, hq2⟩ := Prod.mk.inj heq
    simp only [List.mem_cons, List.not_mem_nil, or_false] at hw
    obtain rfl | rfl := hw
    · refine .inl ⟨q.1, ?_, ?_⟩
      · rw [hx, hq, Option.map_some]
      · rw [← hxWidth]
        exact hq1.symm
    · refine .inl ⟨q.2, ?_, ?_⟩
      · rw [hy, hq, Option.map_some]
      · rw [← hyWidth]
        exact hq2.symm
  · intro r hr q hq
    obtain ⟨i, hr⟩ := hr
    have hsome : ∃ exact', (exactCoordinates input s.xSf s.ySf order)[i]? = some exact' := by
      obtain rfl | rfl := hr
      · rw [hx, Option.map_eq_some_iff] at hq
        exact hq.imp fun _ h => h.1
      · rw [hy, Option.map_eq_some_iff] at hq
        exact hq.imp fun _ h => h.1
    obtain ⟨exact', hexact⟩ := hsome
    have hi := hget i
    rw [hexact, Option.map_some, Option.map_eq_some_iff] at hi
    obtain ⟨point, hpoint, heq⟩ := hi
    obtain ⟨hx', hy'⟩ := Prod.mk.inj heq
    refine List.mem_flatMap.2 ⟨(point, i), List.mem_zipIdx_iff_getElem?.2 hpoint, ?_⟩
    obtain rfl | rfl := hr
    · rw [hx, hexact, Option.map_some, Option.some.injEq] at hq
      rw [← hq, ← hxWidth, ← hx']
      exact List.mem_cons_self
    · rw [hy, hexact, Option.map_some, Option.some.injEq] at hq
      rw [← hq, ← hyWidth, ← hy']
      exact List.mem_cons_of_mem _ List.mem_cons_self

/-- Only a point that is asked to hold the invalid value is written with it, exactly if every
request stays clear of that value. -/
theorem Realises.avoids_iff (h : Realises request (fun _ => True) ws) :
    (∀ w ∈ ws, w.value = w.point.width.invalid → request w.point = some (w.value : ℚ)) ↔
      ∀ r q, request r = some q → r.width.Clear q := by
  constructor
  · intro hws r q hq
    refine (Width.clear_iff _ _).2 fun hinvalid => ?_
    have hmem := h.complete r trivial q hq
    have hrequest := hws _ hmem hinvalid
    rw [hinvalid] at hrequest
    exact Option.some.inj (hq.symm.trans hrequest)
  · intro hclear w hw hinvalid
    obtain ⟨q, hq, hvalue⟩ | hne := h.apt w hw
    · have hexact := (Width.clear_iff _ _).1 (hclear _ q hq) (hvalue.symm.trans hinvalid)
      rw [hq, hexact, hinvalid]
    · exact absurd hinvalid hne

end Realises

end Sep2Bridge.Modbus
