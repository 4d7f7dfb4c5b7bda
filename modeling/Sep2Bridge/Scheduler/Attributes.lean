import Mathlib.Data.List.ReduceOption
import Mathlib.Tactic.Linarith
import Sep2Bridge.Packages

/-!
# Control attributes

`scheduler/attributes.rs`: the output of the scheduler, how one set of attributes is laid
over another, and the curves a set refers to.

`Attribute` names the 39 attributes, so that a statement about each of them is one statement.
`get_overlayControls` says that the overlay merges every field with its own counterpart.
-/

namespace Sep2Bridge

/-- The attributes to be applied at an instant, with the curves they link to that are known. -/
structure ControlAttributes where
  inner : DefaultDERControl := {}
  curves : Std.ExtTreeMap String DERCurve := ∅
  deriving DecidableEq, Inhabited

/-- Total distinct attributes that would be applied. -/
def ControlAttributes.numActive (c : ControlAttributes) : Nat :=
  c.inner.derControlBase.opModConnect.isSome.toNat +
    c.inner.derControlBase.opModEnergize.isSome.toNat +
    c.inner.derControlBase.opModFixedPfAbsorbW.isSome.toNat +
    c.inner.derControlBase.opModFixedPfInjectW.isSome.toNat +
    c.inner.derControlBase.opModFixedVar.isSome.toNat +
    c.inner.derControlBase.opModFixedW.isSome.toNat +
    c.inner.derControlBase.opModFreqDroop.isSome.toNat +
    c.inner.derControlBase.opModFreqWatt.isSome.toNat +
    c.inner.derControlBase.opModHfrtMayTrip.isSome.toNat +
    c.inner.derControlBase.opModHfrtMustTrip.isSome.toNat +
    c.inner.derControlBase.opModHvrtMayTrip.isSome.toNat +
    c.inner.derControlBase.opModHvrtMomentaryCessation.isSome.toNat +
    c.inner.derControlBase.opModHvrtMustTrip.isSome.toNat +
    c.inner.derControlBase.opModLfrtMayTrip.isSome.toNat +
    c.inner.derControlBase.opModLfrtMustTrip.isSome.toNat +
    c.inner.derControlBase.opModLvrtMayTrip.isSome.toNat +
    c.inner.derControlBase.opModLvrtMomentaryCessation.isSome.toNat +
    c.inner.derControlBase.opModLvrtMustTrip.isSome.toNat +
    c.inner.derControlBase.opModMaxLimW.isSome.toNat +
    c.inner.derControlBase.opModTargetVar.isSome.toNat +
    c.inner.derControlBase.opModTargetW.isSome.toNat +
    c.inner.derControlBase.opModVoltVar.isSome.toNat +
    c.inner.derControlBase.opModVoltWatt.isSome.toNat +
    c.inner.derControlBase.opModWattPf.isSome.toNat +
    c.inner.derControlBase.opModWattVar.isSome.toNat + c.inner.derControlBase.rampTms.isSome.toNat +
    c.inner.derControlBase.opModImpLimW.isSome.toNat +
    c.inner.derControlBase.opModExpLimW.isSome.toNat +
    c.inner.derControlBase.opModGenLimW.isSome.toNat +
    c.inner.derControlBase.opModLoadLimW.isSome.toNat + c.inner.setEsDelay.isSome.toNat +
    c.inner.setEsHighFreq.isSome.toNat + c.inner.setEsHighVolt.isSome.toNat +
    c.inner.setEsLowFreq.isSome.toNat + c.inner.setEsLowVolt.isSome.toNat +
    c.inner.setEsRampTms.isSome.toNat + c.inner.setEsRandomDelay.isSome.toNat +
    c.inner.setGradW.isSome.toNat + c.inner.setSoftGradW.isSome.toNat

/-- Combine `first` with `overlay`; where both define an attribute, `first` is preferred. -/
def overlayControls (first overlay : DefaultDERControl) : DefaultDERControl where
  derControlBase :=
    { opModConnect := first.derControlBase.opModConnect.or overlay.derControlBase.opModConnect
      opModEnergize := first.derControlBase.opModEnergize.or overlay.derControlBase.opModEnergize
      opModFixedPfAbsorbW :=
        first.derControlBase.opModFixedPfAbsorbW.or
          overlay.derControlBase.opModFixedPfAbsorbW
      opModFixedPfInjectW :=
        first.derControlBase.opModFixedPfInjectW.or
          overlay.derControlBase.opModFixedPfInjectW
      opModFixedVar := first.derControlBase.opModFixedVar.or overlay.derControlBase.opModFixedVar
      opModFixedW := first.derControlBase.opModFixedW.or overlay.derControlBase.opModFixedW
      opModFreqDroop := first.derControlBase.opModFreqDroop.or overlay.derControlBase.opModFreqDroop
      opModFreqWatt := first.derControlBase.opModFreqWatt.or overlay.derControlBase.opModFreqWatt
      opModHfrtMayTrip :=
        first.derControlBase.opModHfrtMayTrip.or
          overlay.derControlBase.opModHfrtMayTrip
      opModHfrtMustTrip :=
        first.derControlBase.opModHfrtMustTrip.or
          overlay.derControlBase.opModHfrtMustTrip
      opModHvrtMayTrip :=
        first.derControlBase.opModHvrtMayTrip.or
          overlay.derControlBase.opModHvrtMayTrip
      opModHvrtMomentaryCessation :=
        first.derControlBase.opModHvrtMomentaryCessation.or
          overlay.derControlBase.opModHvrtMomentaryCessation
      opModHvrtMustTrip :=
        first.derControlBase.opModHvrtMustTrip.or
          overlay.derControlBase.opModHvrtMustTrip
      opModLfrtMayTrip :=
        first.derControlBase.opModLfrtMayTrip.or
          overlay.derControlBase.opModLfrtMayTrip
      opModLfrtMustTrip :=
        first.derControlBase.opModLfrtMustTrip.or
          overlay.derControlBase.opModLfrtMustTrip
      opModLvrtMayTrip :=
        first.derControlBase.opModLvrtMayTrip.or
          overlay.derControlBase.opModLvrtMayTrip
      opModLvrtMomentaryCessation :=
        first.derControlBase.opModLvrtMomentaryCessation.or
          overlay.derControlBase.opModLvrtMomentaryCessation
      opModLvrtMustTrip :=
        first.derControlBase.opModLvrtMustTrip.or
          overlay.derControlBase.opModLvrtMustTrip
      opModMaxLimW := first.derControlBase.opModMaxLimW.or overlay.derControlBase.opModMaxLimW
      opModTargetVar := first.derControlBase.opModTargetVar.or overlay.derControlBase.opModTargetVar
      opModTargetW := first.derControlBase.opModTargetW.or overlay.derControlBase.opModTargetW
      opModVoltVar := first.derControlBase.opModVoltVar.or overlay.derControlBase.opModVoltVar
      opModVoltWatt := first.derControlBase.opModVoltWatt.or overlay.derControlBase.opModVoltWatt
      opModWattPf := first.derControlBase.opModWattPf.or overlay.derControlBase.opModWattPf
      opModWattVar := first.derControlBase.opModWattVar.or overlay.derControlBase.opModWattVar
      rampTms := first.derControlBase.rampTms.or overlay.derControlBase.rampTms
      opModImpLimW := first.derControlBase.opModImpLimW.or overlay.derControlBase.opModImpLimW
      opModExpLimW := first.derControlBase.opModExpLimW.or overlay.derControlBase.opModExpLimW
      opModGenLimW := first.derControlBase.opModGenLimW.or overlay.derControlBase.opModGenLimW
      opModLoadLimW := first.derControlBase.opModLoadLimW.or overlay.derControlBase.opModLoadLimW }
  setEsDelay := first.setEsDelay.or overlay.setEsDelay
  setEsHighFreq := first.setEsHighFreq.or overlay.setEsHighFreq
  setEsHighVolt := first.setEsHighVolt.or overlay.setEsHighVolt
  setEsLowFreq := first.setEsLowFreq.or overlay.setEsLowFreq
  setEsLowVolt := first.setEsLowVolt.or overlay.setEsLowVolt
  setEsRampTms := first.setEsRampTms.or overlay.setEsRampTms
  setEsRandomDelay := first.setEsRandomDelay.or overlay.setEsRandomDelay
  setGradW := first.setGradW.or overlay.setGradW
  setSoftGradW := first.setSoftGradW.or overlay.setSoftGradW

/-- The hrefs of the curves named by the attributes of a control. -/
def allCurveHrefs (control : DERControlBase) : List String :=
  [control.opModFreqWatt,
    control.opModHfrtMayTrip,
    control.opModHfrtMustTrip,
    control.opModLfrtMayTrip,
    control.opModLfrtMustTrip,
    control.opModHvrtMayTrip,
    control.opModHvrtMustTrip,
    control.opModHvrtMomentaryCessation,
    control.opModLvrtMayTrip,
    control.opModLvrtMustTrip,
    control.opModLvrtMomentaryCessation,
    control.opModVoltVar,
    control.opModVoltWatt,
    control.opModWattPf,
    control.opModWattVar].reduceOption.map Link.href

/-! ## The 39 attributes, by name -/

/-- The attributes of a control; the last 9 exist on default controls only. -/
inductive Attribute
  | opModConnect | opModEnergize | opModFixedPfAbsorbW | opModFixedPfInjectW | opModFixedVar
  | opModFixedW | opModFreqDroop | opModFreqWatt | opModHfrtMayTrip | opModHfrtMustTrip
  | opModHvrtMayTrip | opModHvrtMomentaryCessation | opModHvrtMustTrip | opModLfrtMayTrip
  | opModLfrtMustTrip | opModLvrtMayTrip | opModLvrtMomentaryCessation | opModLvrtMustTrip
  | opModMaxLimW | opModTargetVar | opModTargetW | opModVoltVar | opModVoltWatt | opModWattPf
  | opModWattVar | rampTms | opModImpLimW | opModExpLimW | opModGenLimW | opModLoadLimW
  | setEsDelay | setEsHighFreq | setEsHighVolt | setEsLowFreq | setEsLowVolt | setEsRampTms
  | setEsRandomDelay | setGradW | setSoftGradW
  deriving DecidableEq

namespace Attribute

/-- The type of an attribute's values. -/
def Value : Attribute → Type
  | .opModConnect | .opModEnergize => Bool
  | .opModFixedPfAbsorbW | .opModFixedPfInjectW => PowerFactorWithExcitation
  | .opModFixedVar => FixedVar
  | .opModFixedW | .setEsHighVolt | .setEsLowVolt => Int16
  | .opModFreqDroop => FreqDroopType
  | .opModFreqWatt | .opModHfrtMayTrip | .opModHfrtMustTrip | .opModHvrtMayTrip
  | .opModHvrtMomentaryCessation | .opModHvrtMustTrip | .opModLfrtMayTrip | .opModLfrtMustTrip
  | .opModLvrtMayTrip | .opModLvrtMomentaryCessation | .opModLvrtMustTrip | .opModVoltVar
  | .opModVoltWatt | .opModWattPf | .opModWattVar => Link
  | .opModMaxLimW | .rampTms | .setEsHighFreq | .setEsLowFreq | .setGradW | .setSoftGradW => UInt16
  | .opModTargetVar => ReactivePower
  | .opModTargetW | .opModImpLimW | .opModExpLimW | .opModGenLimW | .opModLoadLimW => ActivePower
  | .setEsDelay | .setEsRampTms | .setEsRandomDelay => UInt32

/-- The attributes a scheduled control can carry. -/
def IsBase : Attribute → Bool
  | .setEsDelay | .setEsHighFreq | .setEsHighVolt | .setEsLowFreq | .setEsLowVolt | .setEsRampTms
  | .setEsRandomDelay | .setGradW | .setSoftGradW => false
  | _ => true

end Attribute

/-- The value a set of attributes gives `a`, if it defines it. -/
def DefaultDERControl.get (c : DefaultDERControl) : (a : Attribute) → Option a.Value
  | .opModConnect => c.derControlBase.opModConnect
  | .opModEnergize => c.derControlBase.opModEnergize
  | .opModFixedPfAbsorbW => c.derControlBase.opModFixedPfAbsorbW
  | .opModFixedPfInjectW => c.derControlBase.opModFixedPfInjectW
  | .opModFixedVar => c.derControlBase.opModFixedVar
  | .opModFixedW => c.derControlBase.opModFixedW
  | .opModFreqDroop => c.derControlBase.opModFreqDroop
  | .opModFreqWatt => c.derControlBase.opModFreqWatt
  | .opModHfrtMayTrip => c.derControlBase.opModHfrtMayTrip
  | .opModHfrtMustTrip => c.derControlBase.opModHfrtMustTrip
  | .opModHvrtMayTrip => c.derControlBase.opModHvrtMayTrip
  | .opModHvrtMomentaryCessation => c.derControlBase.opModHvrtMomentaryCessation
  | .opModHvrtMustTrip => c.derControlBase.opModHvrtMustTrip
  | .opModLfrtMayTrip => c.derControlBase.opModLfrtMayTrip
  | .opModLfrtMustTrip => c.derControlBase.opModLfrtMustTrip
  | .opModLvrtMayTrip => c.derControlBase.opModLvrtMayTrip
  | .opModLvrtMomentaryCessation => c.derControlBase.opModLvrtMomentaryCessation
  | .opModLvrtMustTrip => c.derControlBase.opModLvrtMustTrip
  | .opModMaxLimW => c.derControlBase.opModMaxLimW
  | .opModTargetVar => c.derControlBase.opModTargetVar
  | .opModTargetW => c.derControlBase.opModTargetW
  | .opModVoltVar => c.derControlBase.opModVoltVar
  | .opModVoltWatt => c.derControlBase.opModVoltWatt
  | .opModWattPf => c.derControlBase.opModWattPf
  | .opModWattVar => c.derControlBase.opModWattVar
  | .rampTms => c.derControlBase.rampTms
  | .opModImpLimW => c.derControlBase.opModImpLimW
  | .opModExpLimW => c.derControlBase.opModExpLimW
  | .opModGenLimW => c.derControlBase.opModGenLimW
  | .opModLoadLimW => c.derControlBase.opModLoadLimW
  | .setEsDelay => c.setEsDelay
  | .setEsHighFreq => c.setEsHighFreq
  | .setEsHighVolt => c.setEsHighVolt
  | .setEsLowFreq => c.setEsLowFreq
  | .setEsLowVolt => c.setEsLowVolt
  | .setEsRampTms => c.setEsRampTms
  | .setEsRandomDelay => c.setEsRandomDelay
  | .setGradW => c.setGradW
  | .setSoftGradW => c.setSoftGradW

/-- The link of a curve-link attribute. -/
def DefaultDERControl.curveLink (c : DefaultDERControl) : Attribute → Option Link
  | .opModFreqWatt => c.derControlBase.opModFreqWatt
  | .opModHfrtMayTrip => c.derControlBase.opModHfrtMayTrip
  | .opModHfrtMustTrip => c.derControlBase.opModHfrtMustTrip
  | .opModHvrtMayTrip => c.derControlBase.opModHvrtMayTrip
  | .opModHvrtMomentaryCessation => c.derControlBase.opModHvrtMomentaryCessation
  | .opModHvrtMustTrip => c.derControlBase.opModHvrtMustTrip
  | .opModLfrtMayTrip => c.derControlBase.opModLfrtMayTrip
  | .opModLfrtMustTrip => c.derControlBase.opModLfrtMustTrip
  | .opModLvrtMayTrip => c.derControlBase.opModLvrtMayTrip
  | .opModLvrtMomentaryCessation => c.derControlBase.opModLvrtMomentaryCessation
  | .opModLvrtMustTrip => c.derControlBase.opModLvrtMustTrip
  | .opModVoltVar => c.derControlBase.opModVoltVar
  | .opModVoltWatt => c.derControlBase.opModVoltWatt
  | .opModWattPf => c.derControlBase.opModWattPf
  | .opModWattVar => c.derControlBase.opModWattVar
  | _ => none

theorem get_overlayControls (first overlay : DefaultDERControl) (a : Attribute) :
    (overlayControls first overlay).get a = (first.get a).or (overlay.get a) := by
  cases a <;> rfl

@[simp] theorem get_default (a : Attribute) : ({} : DefaultDERControl).get a = none := by
  cases a <;> rfl

/-- A control that has only base attributes defines no other. -/
theorem get_ofBase (base : DERControlBase) (a : Attribute) (h : a.IsBase = false) :
    ({ derControlBase := base } : DefaultDERControl).get a = none := by
  cases a <;> first | rfl | cases h

theorem curveLink_mem_allCurveHrefs {c : DefaultDERControl} {a : Attribute} {link : Link}
    (h : c.curveLink a = some link) : link.href ∈ allCurveHrefs c.derControlBase := by
  refine List.mem_map_of_mem (List.reduceOption_mem_iff.2 ?_)
  cases a <;> simp_all [DefaultDERControl.curveLink]

end Sep2Bridge
