import Sep2Bridge.Lib.Blocks
import Sep2Bridge.Modbus.Parameters

/-!
# Writing curves

`TripCurveModel` and `VoltCurveModel` of `modbus_connection.rs`: where a curve of models 705 to 710
lies, and what `write_curve` writes there. The model block repeats a group whose length depends on
`N_PT`, so the addresses are computed rather than taken from sunspec.

What sunspec generates for the models (the lengths of the groups, the offsets of the points) is
data of each model. A `u16` of an address is a `Nat`, and `u16` is where an overflow would panic.
-/

namespace Sep2Bridge.Modbus

open Lib

/-! ## Points -/

/-- The values of a fixed size, as words. One of them says that a point is not implemented: where
a point need not be, any other is written as it is and read back. -/
class FixedSize (T : Type) where
  size : Nat
  invalid : T
  encode : T → List UInt16
  decode : List UInt16 → T
  encodeOption : Option T → List UInt16
  decodeOption : List UInt16 → Option T
  size_pos : 0 < size
  length_encode (value : T) : (encode value).length = size
  decode_encode (value : T) : decode (encode value) = value
  length_encodeOption (value : Option T) : (encodeOption value).length = size
  encodeOption_some (value : T) : encodeOption (some value) = encode value
  decodeOption_invalid : decodeOption (encode invalid) = none
  decodeOption_encode {value : T} : value ≠ invalid → decodeOption (encode value) = some value

/-- The codec of an integer type. -/
@[reducible] def FixedSize.of {T : Type} [DecidableEq T] (size : Nat) (invalid : T)
    (encode : T → List UInt16) (decode : List UInt16 → T) (size_pos : 0 < size)
    (length_encode : ∀ value, (encode value).length = size)
    (decode_encode : ∀ value, decode (encode value) = value) : FixedSize T where
  size := size
  invalid := invalid
  encode := encode
  decode := decode
  encodeOption value := encode (value.getD invalid)
  decodeOption words := if decode words = invalid then none else some (decode words)
  size_pos := size_pos
  length_encode := length_encode
  decode_encode := decode_encode
  length_encodeOption _ := length_encode _
  encodeOption_some _ := rfl
  decodeOption_invalid := by rw [decode_encode, if_pos rfl]
  decodeOption_encode h := by rw [decode_encode, if_neg h]

instance : FixedSize UInt16 :=
  .of 1 0xffff (fun value => [value]) (fun words => words.headD 0) Nat.one_pos (fun _ => rfl)
    fun _ => rfl

instance : FixedSize Int16 :=
  .of 1 Int16.minValue (fun value => [value.toUInt16]) (fun words => (words.headD 0).toInt16)
    Nat.one_pos (fun _ => rfl) fun _ => rfl

/-- The high word comes first. -/
def wordsOf (value : UInt32) : List UInt16 :=
  [.ofNat (value.toNat / 2 ^ 16), .ofNat (value.toNat % 2 ^ 16)]

def ofWords (words : List UInt16) : UInt32 :=
  .ofNat ((words.headD 0).toNat * 2 ^ 16 + ((words.drop 1).headD 0).toNat)

theorem ofWords_wordsOf (value : UInt32) : ofWords (wordsOf value) = value := by
  have hlt := value.toNat_lt
  apply UInt32.toNat_inj.1
  simp only [ofWords, wordsOf, List.headD_cons, List.drop_succ_cons, List.drop_zero,
    UInt16.toNat_ofNat', UInt32.toNat_ofNat']
  omega

instance : FixedSize UInt32 :=
  .of 2 0xffffffff wordsOf ofWords Nat.two_pos (fun _ => rfl) ofWords_wordsOf

/-- What is written to a point and read from it. -/
class Value (T : Type) where
  size : Nat
  encode : T → List UInt16
  decode : List UInt16 → T
  length_encode (value : T) : (encode value).length = size

instance {T : Type} [FixedSize T] : Value T where
  size := FixedSize.size T
  encode := FixedSize.encode
  decode := FixedSize.decode
  length_encode := FixedSize.length_encode

instance {T : Type} [FixedSize T] : Value (Option T) where
  size := FixedSize.size T
  encode := FixedSize.encodeOption
  decode := FixedSize.decodeOption
  length_encode := FixedSize.length_encodeOption

/-- What is read of a point that holds a value and need not be implemented. -/
def implemented {T : Type} [FixedSize T] (value : T) : Option T :=
  FixedSize.decodeOption (FixedSize.encode value)

theorem implemented_invalid {T : Type} [FixedSize T] :
    implemented (FixedSize.invalid : T) = none :=
  FixedSize.decodeOption_invalid

theorem implemented_of_ne {T : Type} [FixedSize T] {value : T} (h : value ≠ FixedSize.invalid) :
    implemented value = some value :=
  FixedSize.decodeOption_encode h

/-- A point, by its offset in the group it belongs to. -/
structure OffsetPoint (T : Type) where
  offset : Nat
  deriving DecidableEq

/-- The first offset after the point. -/
def OffsetPoint.stop {T : Type} [Value T] (p : OffsetPoint T) : Nat := p.offset + Value.size T

/-- The registers of the device, by address. -/
abbrev Memory := Nat → UInt16

def readPoint {T : Type} [Value T] (m : Memory) (offset : Nat) (p : OffsetPoint T) : T :=
  Value.decode (load m (offset + p.offset) (Value.size T))

/-- A `u16` that was computed, if it did not overflow. -/
def u16 (n : Nat) : Option Nat := if n < 2 ^ 16 then some n else none

theorem u16_eq_some {n : Nat} (h : n < 2 ^ 16) : u16 n = some n := if_pos h

/-- The registers that writing a point of a group at `offset` writes. -/
def writeOffsetPoint {T : Type} [Value T] (offset : Nat) (p : OffsetPoint T) (value : T) :
    Option (Block UInt16) := do
  let addr ← u16 (offset + p.offset)
  return ⟨addr, Value.encode value⟩

namespace Curve

variable {TX TY : Type}

def iterScaled (self : Curve TX TY) : List (ScaledValue TX × ScaledValue TY) :=
  self.points.map fun point => (⟨point.1, self.sfX⟩, ⟨point.2, self.sfY⟩)

/-- The number of points, at most `u16::MAX`. -/
def len (self : Curve TX TY) : UInt16 :=
  if self.points.length < 2 ^ 16 then .ofNat self.points.length else 65535

end Curve

/-! ## Trip curves -/

inductive TripCurve
  | mustTrip | mayTrip | momCess
  deriving DecidableEq

/-- A trip curve model: the lengths of its groups and the points of it that are used. -/
structure TripCurveModel (TX TY : Type) where
  len : Nat
  gCrv : Nat
  gMustTrip : Nat
  gMayTrip : Nat
  gMomCess : Nat
  gPt : Nat
  nCrvSet : OffsetPoint UInt16
  nPt : OffsetPoint UInt16
  xSf : OffsetPoint Int16
  ySf : OffsetPoint Int16
  -- the same in all three curves
  crvActPt : OffsetPoint (Option UInt16)
  xPt : OffsetPoint (Option TX)
  yPt : OffsetPoint (Option TY)

namespace TripCurveModel

variable {TX TY : Type} (self : TripCurveModel TX TY)

/-- Curve set 1 is read-only. -/
def targetCurveSet : Nat := 2

def curveStaticLen : TripCurve → Nat
  | .mustTrip => self.gMustTrip
  | .mayTrip => self.gMayTrip
  | .momCess => self.gMomCess

def curveLen (curve : TripCurve) (nPt : Nat) : Option Nat := do
  u16 (self.curveStaticLen curve + (← u16 (self.gPt * nPt)))

def curveSetLen (nPt : Nat) : Option Nat := do
  let len ← u16 (self.gCrv + (← self.curveLen .mustTrip nPt))
  let len ← u16 (len + (← self.curveLen .mayTrip nPt))
  u16 (len + (← self.curveLen .momCess nPt))

/-- The offset of a curve inside the model. The index of a set is 1-based. -/
def curveOffset (curve : TripCurve) (curveSetIndex nPt : Nat) : Option Nat := do
  let sets ← u16 ((← self.curveSetLen nPt) * (curveSetIndex - 1))
  let curveSetOffset ← u16 (self.len + sets)
  let additionalOffset ←
    match curve with
    | .mustTrip => some self.gCrv
    | .mayTrip => do u16 (self.gCrv + (← self.curveLen .mustTrip nPt))
    | .momCess => do
      let offset ← u16 (self.gCrv + (← self.curveLen .mustTrip nPt))
      u16 (offset + (← self.curveLen .mayTrip nPt))
  u16 (curveSetOffset + additionalOffset)

variable [ScaledValueInner TX] [ScaledValueInner TY] [FixedSize TX] [FixedSize TY]

/-- Write a curve of the target set of a model at `addr`, and whether it was written. -/
def writeCurve (addr : Nat) (curve : TripCurve) (curveData : Curve TX TY) (nPt : UInt16)
    (xSf ySf : Int16) : Option (List (Block UInt16) × Bool) := do
  if curveData.len > nPt then return ([], false)
  let curveAddr ← u16 (addr + (← self.curveOffset curve targetCurveSet nPt.toNat))
  -- The number of active points comes first.
  let actPt ← writeOffsetPoint curveAddr self.crvActPt (some curveData.len)
  let points ← curveData.iterScaled.zipIdx.mapM fun (point, i) => do
    let groups ← u16 (self.gPt * (i % 2 ^ 16))
    let pointAddr ← u16 ((← u16 (curveAddr + self.curveStaticLen curve)) + groups)
    let x ← writeOffsetPoint pointAddr self.xPt (some (point.1.rescale xSf).value)
    let y ← writeOffsetPoint pointAddr self.yPt (some (point.2.rescale ySf).value)
    return [x, y]
  return (actPt :: points.flatten, true)

end TripCurveModel

/-! ## Volt curves -/

/-- A volt curve model: the lengths of its groups and the points of it that are used. -/
structure VoltCurveModel (TX TY : Type) where
  len : Nat
  gCrv : Nat
  gPt : Nat
  nCrv : OffsetPoint UInt16
  nPt : OffsetPoint UInt16
  xSf : OffsetPoint Int16
  ySf : OffsetPoint Int16
  crvActPt : OffsetPoint UInt16
  xPt : OffsetPoint (Option TX)
  yPt : OffsetPoint (Option TY)

namespace VoltCurveModel

variable {TX TY : Type} (self : VoltCurveModel TX TY)

/-- Curve 1 is read-only. -/
def targetCurve : UInt16 := 2

def curveLen (nPt : Nat) : Option Nat := do
  u16 (self.gCrv + (← u16 (self.gPt * nPt)))

/-- The offset of a curve inside the model. The index is 1-based. -/
def curveOffset (curveIndex nPt : Nat) : Option Nat := do
  u16 (self.len + (← u16 ((← self.curveLen nPt) * (curveIndex - 1))))

def dataPointOffset (curveAddr dataPointIndex : Nat) : Option Nat := do
  let groups ← u16 (self.gPt * dataPointIndex)
  u16 ((← u16 (curveAddr + self.gCrv)) + groups)

variable [ScaledValueInner TX] [ScaledValueInner TY] [FixedSize TX] [FixedSize TY]

/-- Write the target curve of a model at `addr`, and its address if it was written. -/
def writeCurve (addr : Nat) (m : Memory) (curveData : Curve TX TY) :
    Option (List (Block UInt16) × Option Nat) := do
  let nCurves := readPoint m addr self.nCrv
  let nPt := readPoint m addr self.nPt
  if nCurves < targetCurve then return ([], none)
  if curveData.len > nPt then return ([], none)
  let xSf := readPoint m addr self.xSf
  let ySf := readPoint m addr self.ySf
  let curveAddr ← u16 (addr + (← self.curveOffset targetCurve.toNat nPt.toNat))
  -- The number of active points comes first.
  let actPt ← writeOffsetPoint curveAddr self.crvActPt curveData.len
  let points ← curveData.iterScaled.zipIdx.mapM fun (point, i) => do
    let dataPointOffset ← self.dataPointOffset curveAddr (i % 2 ^ 16)
    let x ← writeOffsetPoint dataPointOffset self.xPt (some (point.1.rescale xSf).value)
    let y ← writeOffsetPoint dataPointOffset self.yPt (some (point.2.rescale ySf).value)
    return [x, y]
  return (actPt :: points.flatten, some curveAddr)

end VoltCurveModel

/-! ## The models -/

/-- What sunspec generates for the trip models of voltage, 707 and 708. -/
structure VoltageTripLayout where
  len : Nat
  crv : Nat
  mustTrip : Nat
  mayTrip : Nat
  momCess : Nat
  pt : Nat
  nCrvSet : OffsetPoint UInt16
  nPt : OffsetPoint UInt16
  vSf : OffsetPoint Int16
  tmsSf : OffsetPoint Int16
  actPt : OffsetPoint (Option UInt16)
  v : OffsetPoint (Option UInt16)
  tms : OffsetPoint (Option UInt32)

/-- What sunspec generates for the trip models of frequency, 709 and 710. -/
structure FrequencyTripLayout where
  len : Nat
  crv : Nat
  mustTrip : Nat
  mayTrip : Nat
  momCess : Nat
  pt : Nat
  nCrvSet : OffsetPoint UInt16
  nPt : OffsetPoint UInt16
  hzSf : OffsetPoint Int16
  tmsSf : OffsetPoint Int16
  actPt : OffsetPoint (Option UInt16)
  hz : OffsetPoint (Option UInt32)
  tms : OffsetPoint (Option UInt32)

/-- What sunspec generates for the volt models, 705 with `VAR` and 706 with `W` as `yPt`. -/
structure VoltLayout where
  len : Nat
  crv : Nat
  pt : Nat
  nCrv : OffsetPoint UInt16
  nPt : OffsetPoint UInt16
  vSf : OffsetPoint Int16
  deptRefSf : OffsetPoint Int16
  actPt : OffsetPoint UInt16
  v : OffsetPoint (Option UInt16)
  varOrW : OffsetPoint (Option Int16)

def model705 (s : VoltLayout) : VoltCurveModel UInt16 Int16 where
  len := s.len
  gCrv := s.crv
  gPt := s.pt
  nCrv := s.nCrv
  nPt := s.nPt
  xSf := s.vSf
  ySf := s.deptRefSf
  crvActPt := s.actPt
  xPt := s.v
  yPt := s.varOrW

def model706 (s : VoltLayout) : VoltCurveModel UInt16 Int16 := model705 s

def model707 (s : VoltageTripLayout) : TripCurveModel UInt16 UInt32 where
  len := s.len
  gCrv := s.crv
  gMustTrip := s.mustTrip
  gMayTrip := s.mayTrip
  gMomCess := s.momCess
  gPt := s.pt
  nCrvSet := s.nCrvSet
  nPt := s.nPt
  xSf := s.vSf
  ySf := s.tmsSf
  crvActPt := s.actPt
  xPt := s.v
  yPt := s.tms

def model708 (s : VoltageTripLayout) : TripCurveModel UInt16 UInt32 := model707 s

def model709 (s : FrequencyTripLayout) : TripCurveModel UInt32 UInt32 where
  len := s.len
  gCrv := s.crv
  gMustTrip := s.mustTrip
  gMayTrip := s.mayTrip
  gMomCess := s.momCess
  gPt := s.pt
  nCrvSet := s.nCrvSet
  nPt := s.nPt
  xSf := s.hzSf
  ySf := s.tmsSf
  crvActPt := s.actPt
  xPt := s.hz
  yPt := s.tms

def model710 (s : FrequencyTripLayout) : TripCurveModel UInt32 UInt32 := model709 s

end Sep2Bridge.Modbus
