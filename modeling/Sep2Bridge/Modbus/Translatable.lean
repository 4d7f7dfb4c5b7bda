import Sep2Bridge.Lib.FirstError
import Sep2Bridge.Modbus.EnterService

/-!
# Which controls can be translated

The parameters for the device are translated as a whole: one value that the device cannot
represent, of whatever function, and there are no parameters at all.

**Theorem (`translatable_iff`).** `Translatable` says, of the SEP2 values themselves, when the
attributes have parameters: the coordinates of each known curve in use lie in the range of its
registers, the reference units have a counterpart, the time constant of the reference voltage is
short enough and the voltage limits for entering service are not negative.
-/

namespace Sep2Bridge.Modbus

open Lib

/-- The range of the numbers that a coordinate of a curve can have. -/
class CoordinateRange (T : Type) where
  min : Int
  max : Int

instance : CoordinateRange UInt16 := ⟨0, 2 ^ 16 - 1⟩

instance : CoordinateRange Int16 := ⟨-2 ^ 15, 2 ^ 15 - 1⟩

instance : CoordinateRange UInt32 := ⟨0, 2 ^ 31 - 1⟩

def InRange (T : Type) [CoordinateRange T] (x : Int32) : Prop :=
  CoordinateRange.min T ≤ x.toInt ∧ x.toInt ≤ CoordinateRange.max T

/-- A coordinate is converted exactly if it is in range. -/
class LawfulCoordinate (T : Type) [CoordinateRange T] [TryConvert Int32 T] : Prop where
  errorOf_eq_none (x : Int32) :
    errorOf (tryConvert x : Except TranslationError T) = none ↔ InRange T x

instance : LawfulCoordinate UInt16 where
  errorOf_eq_none x := by
    show errorOf (if x.toInt < 0 then .error TranslationError.unsignedNegative
      else if x.toInt < 2 ^ 16 then .ok (UInt16.ofNat x.toInt.toNat)
      else .error TranslationError.integerOverflow) = none ↔ 0 ≤ x.toInt ∧ x.toInt ≤ 2 ^ 16 - 1
    split_ifs <;> simp <;> omega

instance : LawfulCoordinate Int16 where
  errorOf_eq_none x := by
    show errorOf (if -2 ^ 15 ≤ x.toInt ∧ x.toInt < 2 ^ 15 then .ok (Int16.ofInt x.toInt)
      else .error TranslationError.integerOverflow) = none ↔
        -2 ^ 15 ≤ x.toInt ∧ x.toInt ≤ 2 ^ 15 - 1
    split_ifs <;> simp <;> omega

instance : LawfulCoordinate UInt32 where
  errorOf_eq_none x := by
    have hmax := x.toInt_lt
    show errorOf (if x.toInt < 0 then .error TranslationError.unsignedNegative
      else .ok (UInt32.ofNat x.toInt.toNat)) = none ↔ 0 ≤ x.toInt ∧ x.toInt ≤ 2 ^ 31 - 1
    split_ifs <;> simp <;> omega

/-- The coordinates of a curve, in the order of its axes, are in range. -/
def CurveInRange (TX TY : Type) [CoordinateRange TX] [CoordinateRange TY] (order : AxisOrder)
    (curve : DERCurve) : Prop :=
  ∀ point ∈ curve.curveData,
    match order with
    | .same => InRange TX point.xvalue ∧ InRange TY point.yvalue
    | .flipped => InRange TX point.yvalue ∧ InRange TY point.xvalue

/-- A sequence succeeds if its steps do. -/
theorem errorOf_bind_eq_none {ε α β : Type} {x : Except ε α} {f : α → Except ε β} {P Q : Prop}
    (hx : errorOf x = none ↔ P) (hf : ∀ a, x = .ok a → (errorOf (f a) = none ↔ Q)) :
    errorOf (x >>= f) = none ↔ P ∧ Q := by
  cases x with
  | error e =>
    have hP : ¬ P := fun hP => by cases hx.2 hP
    exact ⟨fun h => (by cases h), fun h => absurd h.1 hP⟩
  | ok a => exact (hf a rfl).trans ⟨fun h => ⟨hx.1 rfl, h⟩, fun h => h.2⟩

section Steps

variable {α β : Type} {name : String} {x : Option α} {f : α → Except TranslationError β}

theorem errorOf_named_eq_none {y : Except TranslationError β} :
    errorOf (named name y) = none ↔ errorOf y = none := by
  rw [named, errorOf_mapError, Option.map_eq_none_iff]

/-- A named conversion of what is there. -/
theorem errorOf_named_mapM_eq_none {P : α → Prop} (hP : ∀ a, errorOf (f a) = none ↔ P a) :
    errorOf (named name (x.mapM f)) = none ↔ ∀ a ∈ x, P a := by
  rw [errorOf_named_eq_none, errorOf_mapM_option]
  cases x with
  | none => simp
  | some a => simp [hP]

theorem errorOf_convertCurve {TX TY : Type} [CoordinateRange TX] [CoordinateRange TY]
    [TryConvert Int32 TX] [TryConvert Int32 TY] [LawfulCoordinate TX] [LawfulCoordinate TY]
    (order : AxisOrder) (curve : DERCurve) :
    errorOf (convertCurve curve order : Except _ (Curve TX TY)) = none ↔
      CurveInRange TX TY order curve := by
  have hpoints {f : CurveData → Except TranslationError (TX × TY)} {P : CurveData → Prop}
      (hf : ∀ point, errorOf (f point) = none ↔ P point) :
      errorOf (curve.curveData.mapM f) = none ↔ ∀ point ∈ curve.curveData, P point := by
    rw [errorOf_mapM_list, List.findSome?_eq_none_iff]
    exact forall₂_congr fun point _ => hf point
  have htrue {β : Type} (b : β) : errorOf (pure b : Except TranslationError β) = none ↔ True :=
    iff_true_intro rfl
  have hpair (x y : Int32) : errorOf (do
      let x : TX ← tryConvert x
      let y : TY ← tryConvert y
      return (x, y)) = none ↔ InRange TX x ∧ InRange TY y :=
    (errorOf_bind_eq_none (LawfulCoordinate.errorOf_eq_none x) fun _ _ =>
      errorOf_bind_eq_none (LawfulCoordinate.errorOf_eq_none y) fun _ _ => htrue _).trans (by simp)
  cases order with
  | same =>
    exact (errorOf_bind_eq_none (hpoints fun point => hpair point.xvalue point.yvalue)
      fun _ _ => htrue _).trans (and_true _ ▸ Iff.rfl)
  | flipped =>
    exact (errorOf_bind_eq_none (hpoints fun point => hpair point.yvalue point.xvalue)
      fun _ _ => htrue _).trans (and_true _ ▸ Iff.rfl)

end Steps

/-- The curve that a link leads to, if it is known. -/
def knownCurve (attrs : ControlAttributes) (link : Option Link) : Option DERCurve :=
  link.bind fun link => attrs.curves[link.href]?

/-- The links of the trip curves over a voltage. -/
def voltageTripLinks (base : DERControlBase) : List (Option Link) :=
  [base.opModLvrtMustTrip, base.opModLvrtMayTrip, base.opModLvrtMomentaryCessation,
    base.opModHvrtMustTrip, base.opModHvrtMayTrip, base.opModHvrtMomentaryCessation]

/-- The links of the trip curves over a frequency. -/
def frequencyTripLinks (base : DERControlBase) : List (Option Link) :=
  [base.opModLfrtMustTrip, base.opModLfrtMayTrip, base.opModHfrtMustTrip, base.opModHfrtMayTrip]

/-- The attributes are ones that the device can represent. -/
structure Translatable (attrs : ControlAttributes) : Prop where
  voltVar : ∀ c ∈ knownCurve attrs attrs.inner.derControlBase.opModVoltVar,
    CurveInRange UInt16 Int16 .same c ∧
      c.yRefType ∈ [DERUnitRefType.setMaxW, .setMaxVar, .statVarAvail] ∧
        ∀ tms ∈ c.autonomousVRefTimeConstant, tms.toNat < 6553550
  fixedVar : ∀ var ∈ attrs.inner.derControlBase.opModFixedVar,
    var.refType ∈ [DERUnitRefType.setMaxW, .setMaxVar, .statVarAvail]
  voltWatt : ∀ c ∈ knownCurve attrs attrs.inner.derControlBase.opModVoltWatt,
    CurveInRange UInt16 Int16 .same c ∧ c.yRefType ∈ [DERUnitRefType.setMaxW, .statWAvail]
  voltageTrips : ∀ link ∈ voltageTripLinks attrs.inner.derControlBase,
    ∀ c ∈ knownCurve attrs link, CurveInRange UInt16 UInt32 .flipped c
  frequencyTrips : ∀ link ∈ frequencyTripLinks attrs.inner.derControlBase,
    ∀ c ∈ knownCurve attrs link, CurveInRange UInt32 UInt32 .flipped c
  enterService : ∀ limit ∈ [attrs.inner.setEsHighVolt, attrs.inner.setEsLowVolt],
    ∀ x ∈ limit, 0 ≤ x.toInt

section Units

theorem errorOf_varSetMod (refType : DERUnitRefType) :
    errorOf (tryConvert refType : Except TranslationError VarSetMod) = none ↔
      refType ∈ [DERUnitRefType.setMaxW, .setMaxVar, .statVarAvail] := by
  cases refType <;> decide

theorem errorOf_voltVarDeptRef (refType : DERUnitRefType) :
    errorOf (tryConvert refType : Except TranslationError VoltVarDeptRef) = none ↔
      refType ∈ [DERUnitRefType.setMaxW, .setMaxVar, .statVarAvail] := by
  cases refType <;> decide

theorem errorOf_voltWattDeptRef (refType : DERUnitRefType) :
    errorOf (tryConvert refType : Except TranslationError VoltWattDeptRef) = none ↔
      refType ∈ [DERUnitRefType.setMaxW, .statWAvail] := by
  cases refType <;> decide

theorem errorOf_seconds (hundredths : UInt32) :
    errorOf (tryConvert (hundredthsToSeconds hundredths) : Except TranslationError UInt16) = none ↔
      hundredths.toNat < 6553550 := by
  have hseconds := toNat_hundredthsToSeconds hundredths
  show errorOf (if (hundredthsToSeconds hundredths).toNat < 2 ^ 16 then _ else _) = none ↔ _
  split_ifs <;> simp <;> omega

theorem errorOf_limit (limit : Int16) :
    errorOf (tryConvert limit : Except TranslationError UInt16) = none ↔ 0 ≤ limit.toInt := by
  show errorOf (if limit.toInt < 0 then _ else _) = none ↔ _
  split_ifs <;> simp <;> omega

end Units

/-- **What can be translated.** -/
theorem translatable_iff (mapSiteLimits : Bool) (attrs : ControlAttributes) :
    (∃ p, toParameters mapSiteLimits attrs = .ok p) ↔ Translatable attrs := by
  rw [← errorOf_eq_none]
  -- the steps of the translation, in order
  have hsteps : errorOf (toParameters mapSiteLimits attrs) = none ↔ _ :=
    errorOf_bind_eq_none (errorOf_named_mapM_eq_none (errorOf_convertCurve .same)) fun _ _ =>
    errorOf_bind_eq_none (errorOf_named_mapM_eq_none fun c => errorOf_voltVarDeptRef c.yRefType)
      fun _ _ =>
    errorOf_bind_eq_none (errorOf_named_mapM_eq_none errorOf_seconds) fun _ _ =>
    errorOf_bind_eq_none (errorOf_named_mapM_eq_none fun var => errorOf_varSetMod var.refType)
      fun _ _ =>
    errorOf_bind_eq_none (errorOf_named_mapM_eq_none (errorOf_convertCurve .same)) fun _ _ =>
    errorOf_bind_eq_none (errorOf_named_mapM_eq_none fun c => errorOf_voltWattDeptRef c.yRefType)
      fun _ _ =>
    errorOf_bind_eq_none (errorOf_named_mapM_eq_none (errorOf_convertCurve .flipped)) fun _ _ =>
    errorOf_bind_eq_none (errorOf_named_mapM_eq_none (errorOf_convertCurve .flipped)) fun _ _ =>
    errorOf_bind_eq_none (errorOf_named_mapM_eq_none (errorOf_convertCurve .flipped)) fun _ _ =>
    errorOf_bind_eq_none (errorOf_named_mapM_eq_none (errorOf_convertCurve .flipped)) fun _ _ =>
    errorOf_bind_eq_none (errorOf_named_mapM_eq_none (errorOf_convertCurve .flipped)) fun _ _ =>
    errorOf_bind_eq_none (errorOf_named_mapM_eq_none (errorOf_convertCurve .flipped)) fun _ _ =>
    errorOf_bind_eq_none (errorOf_named_mapM_eq_none (errorOf_convertCurve .flipped)) fun _ _ =>
    errorOf_bind_eq_none (errorOf_named_mapM_eq_none (errorOf_convertCurve .flipped)) fun _ _ =>
    errorOf_bind_eq_none (errorOf_named_mapM_eq_none (errorOf_convertCurve .flipped)) fun _ _ =>
    errorOf_bind_eq_none (errorOf_named_mapM_eq_none (errorOf_convertCurve .flipped)) fun _ _ =>
    errorOf_bind_eq_none (errorOf_named_mapM_eq_none errorOf_limit) fun _ _ =>
    errorOf_bind_eq_none (errorOf_named_mapM_eq_none errorOf_limit) fun _ _ =>
      iff_true_intro (errorOf_pure _)
  rw [hsteps]
  constructor
  · rintro ⟨hvv, hvvRef, htms, hvar, hvw, hvwRef, hlv₁, hlv₂, hlv₃, hhv₁, hhv₂, hhv₃, hlf₁, hlf₂,
      hhf₁, hhf₂, hhi, hlo, -⟩
    refine ⟨fun c hc => ⟨hvv c hc, hvvRef c hc, fun tms htms' => ?_⟩, hvar,
      fun c hc => ⟨hvw c hc, hvwRef c hc⟩, ?_, ?_, ?_⟩
    · exact htms tms (Option.bind_eq_some_iff.2 ⟨c, hc, htms'⟩)
    · simp only [voltageTripLinks, List.forall_mem_cons, List.not_mem_nil, false_implies,
        implies_true, and_true]
      exact ⟨hlv₁, hlv₂, hlv₃, hhv₁, hhv₂, hhv₃⟩
    · simp only [frequencyTripLinks, List.forall_mem_cons, List.not_mem_nil, false_implies,
        implies_true, and_true]
      exact ⟨hlf₁, hlf₂, hhf₁, hhf₂⟩
    · simp only [List.forall_mem_cons, List.not_mem_nil, false_implies, implies_true, and_true]
      exact ⟨hhi, hlo⟩
  · intro h
    have hv := h.voltageTrips
    have hf := h.frequencyTrips
    have he := h.enterService
    simp only [voltageTripLinks, frequencyTripLinks, List.forall_mem_cons] at hv hf he
    obtain ⟨hlv₁, hlv₂, hlv₃, hhv₁, hhv₂, hhv₃, -⟩ := hv
    obtain ⟨hlf₁, hlf₂, hhf₁, hhf₂, -⟩ := hf
    obtain ⟨hhi, hlo, -⟩ := he
    refine ⟨fun c hc => (h.voltVar c hc).1, fun c hc => (h.voltVar c hc).2.1, ?_, h.fixedVar,
      fun c hc => (h.voltWatt c hc).1, fun c hc => (h.voltWatt c hc).2, hlv₁, hlv₂, hlv₃, hhv₁,
      hhv₂, hhv₃, hlf₁, hlf₂, hhf₁, hhf₂, hhi, hlo, trivial⟩
    intro tms htms
    obtain ⟨c, hc, htms⟩ := Option.bind_eq_some_iff.1 htms
    exact (h.voltVar c hc).2.2 tms htms

end Sep2Bridge.Modbus
