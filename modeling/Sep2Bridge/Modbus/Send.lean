import Sep2Bridge.Lib.Registers
import Sep2Bridge.Modbus.Parameters

/-!
# Sending parameters

The senders of `modbus_connection.rs` for models 703 and 704. A sender is the list of the writes
it makes, given the points it reads: it reads no point that it writes.

What the senders of models 705 to 711 write is a parameter here, as addresses and words: those
are registers of other models, and the parameters are sent to them last.
-/

namespace Sep2Bridge.Modbus

open Lib

/-! ## The device -/

/-- The registers the bridge writes. -/
inductive Point
  -- model 703
  | es | esvHi | esvLo | esHzHi | esHzLo | esDlyTms | esRndTms | esRmpTms
  -- model 704
  | pfwInjEna | pfwInjExt | pfwInjPf | pfwAbsEna | pfwAbsExt | pfwAbsPf
  | varSetEna | varSetPct | varSetMod
  | wMaxLimPctEna | wMaxLimPct
  | wSetEna | wSetPct | wSet | wSetMod
  -- a register of models 705 to 711
  | curveModels (addr : UInt16)
  deriving DecidableEq

/-- The contents of a register. -/
abbrev Point.Value : Point → Type
  | .es => Es
  | .esvHi | .esvLo => UInt16
  | .esHzHi | .esHzLo | .esDlyTms | .esRndTms | .esRmpTms => UInt32
  | .pfwInjEna | .pfwAbsEna | .varSetEna | .wMaxLimPctEna | .wSetEna => Ena
  | .pfwInjExt | .pfwAbsExt => PfwExt
  | .pfwInjPf | .pfwAbsPf | .wMaxLimPct => UInt16
  | .varSetPct | .wSetPct => Int16
  | .varSetMod => VarSetMod
  | .wSet => Int32
  | .wSetMod => WSetMod
  | .curveModels _ => UInt16

/-- The contents of the writable registers. -/
abbrev Registers := ∀ r : Point, r.Value

/-- Registers that nobody has written: in service, with every function off and every value zero. -/
def Registers.initial : Registers
  | .es => .enabled
  | .esvHi | .esvLo => (0 : UInt16)
  | .esHzHi | .esHzLo | .esDlyTms | .esRndTms | .esRmpTms => (0 : UInt32)
  | .pfwInjEna | .pfwAbsEna | .varSetEna | .wMaxLimPctEna | .wSetEna => .disabled
  | .pfwInjExt | .pfwAbsExt => .overExcited
  | .pfwInjPf | .pfwAbsPf | .wMaxLimPct => (0 : UInt16)
  | .varSetPct | .wSetPct => (0 : Int16)
  | .varSetMod => .wMaxPct
  | .wSet => (0 : Int32)
  | .wSetMod => .wMaxPct
  | .curveModels _ => (0 : UInt16)

abbrev Writes := List (Sigma Point.Value)

/-- The points the bridge reads. A point the device does not implement reads as `none`. -/
structure Device where
  supportedModelIds : List Nat
  -- model 702
  wMaxRtg : Option UInt16
  wSf : Option Int16
  -- model 703
  vSf : Option Int16
  hzSf : Option Int16
  -- model 704
  pfSf : Option Int16
  varSetPctSf : Option Int16
  wMaxLimPctSf : Option Int16
  wSetPctSf : Option Int16
  wSetSf : Option Int16
  deriving DecidableEq

/-- A device with models 702, 703 and 704 in which every scale factor is zero. -/
def Device.plain (wMaxRtg : Option UInt16) : Device :=
  ⟨[702, 703, 704], wMaxRtg, some 0, some 0, some 0, some 0, some 0, some 0, some 0, some 0⟩

/-- Whether something is left to be applied later. -/
structure ApplyStatus where
  deferred : Bool := false
  deriving DecidableEq

inductive PendingApply
  | none | model704LimitDerivations
  deriving DecidableEq

def PendingApply.fromApplyStatus (status : ApplyStatus) : PendingApply :=
  if status.deferred then .model704LimitDerivations else .none

theorem PendingApply.fromApplyStatus_true {status : ApplyStatus} (h : status.deferred = true) :
    fromApplyStatus status = .model704LimitDerivations := if_pos h

theorem PendingApply.fromApplyStatus_false {status : ApplyStatus} (h : status.deferred = false) :
    fromApplyStatus status = .none := by
  rw [fromApplyStatus, h]
  rfl

/-! ## Writing values -/

/-- As `writeIfSome`, but with a scaled value and a target scale factor. -/
def writeRescaledIfSome (r : Point) [ScaledValueInner r.Value]
    (value : Option (ScaledValue r.Value)) (scaleFactor : Int16) : Writes :=
  writeIfSome r (value.map fun inner => (inner.rescale scaleFactor).value)

/-! ## Percentages of the rating -/

/-- The largest `i128`. -/
def i128Max : Int := 2 ^ 127 - 1

/-- Saturation to the range of `i128`. -/
def saturateI128 (x : Int) : Int := max (-(2 ^ 127)) (min i128Max x)

def divRoundHalfAwayFromZero (numerator denominator : Int) : Int :=
  let absNumerator := min i128Max numerator.natAbs
  let quotient := absNumerator.tdiv denominator
  let remainder := absNumerator.tmod denominator
  let threshold := denominator.tdiv 2 + denominator.tmod 2
  let rounded := if remainder ≥ threshold then saturateI128 (quotient + 1) else quotient
  if numerator < 0 then -rounded else rounded

def divRoundTowardZero (numerator denominator : Int) : Int := numerator.tdiv denominator

/-- `value` as a percentage of `rating`, on the scale `pctSf`. -/
def scaledPercentRaw (value : Int) (valueSf : Int16) (rating : Int) (ratingSf pctSf : Int16)
    (roundTowardZero : Bool) : Option Int :=
  if rating ≤ 0 then none
  else
    let exponent := valueSf.toInt - ratingSf.toInt - pctSf.toInt
    let baseNumerator := saturateI128 (value * 100)
    let baseDenominator := rating
    let factor := min i128Max (10 ^ exponent.natAbs)
    let numerator :=
      if exponent ≥ 0 then saturateI128 (baseNumerator * factor) else baseNumerator
    let denominator :=
      if exponent ≥ 0 then baseDenominator else saturateI128 (baseDenominator * factor)
    some (if roundTowardZero then divRoundTowardZero numerator denominator
      else divRoundHalfAwayFromZero numerator denominator)

def toWSetPctFromWSet (wSet : ScaledValue Int32) (wMaxRtg : ScaledValue UInt16) (pctSf : Int16)
    (roundTowardZero : Bool) : Option (ScaledValue Int16) :=
  if wMaxRtg.value = 0 then none
  else
    (scaledPercentRaw wSet.value.toInt wSet.sf wMaxRtg.value.toNat wMaxRtg.sf pctSf
      roundTowardZero).map fun wSetPct =>
        ⟨.ofInt (max (-(2 ^ 15) + 1) (min (2 ^ 15 - 1) wSetPct)), pctSf⟩

def toWMaxLimPctFromWMaxLim (wMaxLim : ScaledValue UInt32) (wMaxRtg : ScaledValue UInt16)
    (pctSf : Int16) : Option (ScaledValue UInt16) :=
  if wMaxRtg.value = 0 then none
  else
    (scaledPercentRaw wMaxLim.value.toNat wMaxLim.sf wMaxRtg.value.toNat wMaxRtg.sf pctSf
      true).map fun wMaxLimPct =>
        ⟨.ofNat (max 0 (min (2 ^ 16 - 2) wMaxLimPct)).toNat, pctSf⟩

/-! ## The senders -/

namespace Device

variable (device : Device) (p : Parameters)

def sendModel703Parameters : Writes :=
  if 703 ∉ device.supportedModelIds then []
  else
    writeIfSome .es p.es ++
    writeRescaledIfSome .esvHi p.esvHi (device.vSf.getD 0) ++
    writeRescaledIfSome .esvLo p.esvLo (device.vSf.getD 0) ++
    writeRescaledIfSome .esHzHi p.esHzHi (device.hzSf.getD 0) ++
    writeRescaledIfSome .esHzLo p.esHzLo (device.hzSf.getD 0) ++
    writeIfSome .esDlyTms p.esDlyTms ++
    writeIfSome .esRndTms p.esRndTms ++
    writeIfSome .esRmpTms p.esRmpTms

/-- The rated power, read only when a percentage is to be derived from it. -/
def readWMaxRtg : Option (ScaledValue UInt16) :=
  if (p.wMaxLim.isSome || (p.wSetPct.isNone && p.wSet.isSome)) ∧ 702 ∈ device.supportedModelIds then
    device.wMaxRtg.map fun wMaxRtg => ⟨wMaxRtg, device.wSf.getD 0⟩
  else none

/-- The export limit: `Table E.11` of `send_model704_pending_limit_derivations`. -/
def sendWMaxLimPct (retryOnly : Bool) : Writes × ApplyStatus :=
  let hasWMaxLimPct := p.wMaxLimPct.isSome
  let hasWMaxLim := p.wMaxLim.isSome
  let deriveWMaxLimPct := hasWMaxLim
  let deriveWMaxLimPctFromSiteOnly := !hasWMaxLimPct && hasWMaxLim
  let wMaxRtg := device.readWMaxRtg p
  let wMaxLimPctSf :=
    if hasWMaxLimPct || (deriveWMaxLimPct && wMaxRtg.isSome) then some (device.wMaxLimPctSf.getD 0)
    else none
  let explicitWMaxLimPct :=
    p.wMaxLimPct.bind fun wMaxLimPct => wMaxLimPctSf.map wMaxLimPct.rescale
  let derivedWMaxLimPct :=
    p.wMaxLim.bind fun wMaxLim => wMaxRtg.bind fun wMaxRtg => wMaxLimPctSf.bind fun pctSf =>
      toWMaxLimPctFromWMaxLim wMaxLim wMaxRtg pctSf
  let wMaxLimPct :=
    match explicitWMaxLimPct, derivedWMaxLimPct with
    | some explicit, some derived =>
      if derived.value < explicit.value then some derived else some explicit
    | some explicit, none => some explicit
    | none, some derived => some derived
    | none, none => none
  let shouldProcessWMaxLimPct := !retryOnly || deriveWMaxLimPct
  if !shouldProcessWMaxLimPct then ([], {})
  else if deriveWMaxLimPct && derivedWMaxLimPct.isNone then
    -- The existing protection stays until a percentage can be derived.
    ([], { deferred := true })
  else
    let wMaxLimPctEna :=
      match p.wMaxLimPctEna, wMaxLimPct with
      | some .disabled, some _ =>
        if deriveWMaxLimPctFromSiteOnly then some Ena.enabled else some .disabled
      | some ena, _ => some ena
      | none, some _ => some .enabled
      | none, none => none
    (writeIfSome .wMaxLimPctEna wMaxLimPctEna ++
      wMaxLimPctSf.elim [] fun pctSf => writeRescaledIfSome .wMaxLimPct wMaxLimPct pctSf, {})

/-- The set point: `Table E.12` of `send_model704_pending_limit_derivations`. -/
def sendWSet (retryOnly : Bool) : Writes × ApplyStatus :=
  let hasWSetPct := p.wSetPct.isSome
  let hasWSet := p.wSet.isSome
  let deriveWSetPct := !hasWSetPct && hasWSet
  let wMaxRtg := device.readWMaxRtg p
  let wSetPctSf :=
    if hasWSetPct || (deriveWSetPct && wMaxRtg.isSome) then some (device.wSetPctSf.getD 0)
    else none
  let wSetPct :=
    match p.wSetPct with
    | some wSetPct => some wSetPct
    | none =>
      p.wSet.bind fun wSet => wMaxRtg.bind fun wMaxRtg => wSetPctSf.bind fun pctSf =>
        toWSetPctFromWSet wSet wMaxRtg pctSf p.wSetIsImportSiteLimit
  let wSetPctDerivationPending := deriveWSetPct && wSetPct.isNone
  let importSiteLimitDerivationPending := p.wSetIsImportSiteLimit && wSetPctDerivationPending
  let shouldProcessWSetControls := !retryOnly || deriveWSetPct
  let importSiteLimitUsesPct := p.wSetIsImportSiteLimit && wSetPct.isSome
  let wSetMod := if importSiteLimitUsesPct then some .wMaxPct else p.wSetMod
  -- An explicit target in watts is written even while its percentage is pending.
  ((if shouldProcessWSetControls && !importSiteLimitDerivationPending then
      (if !retryOnly || p.wSetIsImportSiteLimit then writeIfSome .wSetEna p.wSetEna else []) ++
      wSetPctSf.elim [] fun pctSf => writeRescaledIfSome .wSetPct wSetPct pctSf
    else []) ++
    (if hasWSet && !retryOnly && !importSiteLimitUsesPct && !importSiteLimitDerivationPending then
      writeRescaledIfSome .wSet p.wSet (device.wSetSf.getD 0)
    else []) ++
    (if shouldProcessWSetControls && !importSiteLimitDerivationPending &&
        (!retryOnly || p.wSetIsImportSiteLimit) then
      writeIfSome .wSetMod wSetMod
    else []),
    { deferred := wSetPctDerivationPending })

def sendModel704PendingLimitDerivations (retryOnly : Bool) : Writes × ApplyStatus :=
  if 704 ∉ device.supportedModelIds then ([], {})
  else
    let lim := device.sendWMaxLimPct p retryOnly
    let set := device.sendWSet p retryOnly
    (lim.1 ++ set.1, ⟨lim.2.deferred || set.2.deferred⟩)

/-- Power factor and reactive power: `Tables E.3` and `E.5` of `send_model704_parameters`. -/
def sendModel704Functions : Writes :=
  writeIfSome .pfwInjEna p.pfwInjEna ++
  writeIfSome .pfwAbsEna p.pfwAbsEna ++
  writeIfSome .pfwInjExt p.pfwInjExt ++
  writeIfSome .pfwAbsExt p.pfwAbsExt ++
  writeRescaledIfSome .pfwInjPf p.pfwInjPf (device.pfSf.getD 0) ++
  writeRescaledIfSome .pfwAbsPf p.pfwAbsPf (device.pfSf.getD 0) ++
  writeIfSome .varSetEna p.varSetEna ++
  writeRescaledIfSome .varSetPct p.varSetPct (device.varSetPctSf.getD 0) ++
  writeIfSome .varSetMod p.varSetMod

def sendModel704Parameters : Writes × ApplyStatus :=
  if 704 ∉ device.supportedModelIds then ([], {})
  else
    let limits := device.sendModel704PendingLimitDerivations p false
    (device.sendModel704Functions p ++ limits.1, limits.2)

/-- A full send. `curveModels` is what is written to models 705 to 711. -/
def sendNewParameters (curveModels : Parameters → List (UInt16 × UInt16)) : Writes × ApplyStatus :=
  let model704 := device.sendModel704Parameters p
  (device.sendModel703Parameters p ++ model704.1 ++
    (curveModels p).map fun w => ⟨.curveModels w.1, w.2⟩, model704.2)

/-- What the loop does for parameters it has sent: a retry, while one is pending. -/
def retryPending : PendingApply → Option (Writes × ApplyStatus)
  | .none => none
  | .model704LimitDerivations => some (device.sendModel704PendingLimitDerivations p true)

/-- The registers after a full send, and what is then pending. -/
def send (curveModels : Parameters → List (UInt16 × UInt16)) (d : Registers) :
    Registers × PendingApply :=
  let sent := device.sendNewParameters p curveModels
  (writeAll d sent.1, .fromApplyStatus sent.2)

/-- The registers after the loop has looked for a pending retry, and what is then pending. -/
def retry (s : Registers × PendingApply) : Registers × PendingApply :=
  match device.retryPending p s.2 with
  | none => s
  | some sent => (writeAll s.1 sent.1, .fromApplyStatus sent.2)

end Device

/-! ## Which registers a sender writes -/

/-- The registers of the export limit. -/
def limitPoints : List Point := [.wMaxLimPctEna, .wMaxLimPct]

/-- The registers of the set point. -/
def setPoints : List Point := [.wSetEna, .wSetPct, .wSet, .wSetMod]

theorem not_mem_setPoints {r : Point} (h : r ∈ limitPoints) : r ∉ setPoints := by
  simp only [limitPoints, List.mem_cons, List.not_mem_nil, or_false] at h
  obtain rfl | rfl := h <;> decide

section Writes

variable {device : Device} {p : Parameters} {retryOnly : Bool} {r : Point}
  {curveModels : Parameters → List (UInt16 × UInt16)}

theorem lastWrite_sendWMaxLimPct (hr : r ∉ limitPoints) :
    lastWrite r (device.sendWMaxLimPct p retryOnly).1 = none := by
  have hne : Point.wMaxLimPctEna ≠ r ∧ Point.wMaxLimPct ≠ r := by
    constructor <;> rintro rfl <;> exact hr (by decide)
  simp [Device.sendWMaxLimPct, writeRescaledIfSome, apply_ite Prod.fst, hne]

theorem lastWrite_sendWSet (hr : r ∉ setPoints) :
    lastWrite r (device.sendWSet p retryOnly).1 = none := by
  have hne : Point.wSetEna ≠ r ∧ Point.wSetPct ≠ r ∧ Point.wSet ≠ r ∧ Point.wSetMod ≠ r := by
    refine ⟨?_, ?_, ?_, ?_⟩ <;> rintro rfl <;> exact hr (by decide)
  simp [Device.sendWSet, writeRescaledIfSome, hne]

theorem lastWrite_pendingLimitDerivations (hlim : r ∉ limitPoints) (hset : r ∉ setPoints) :
    lastWrite r (device.sendModel704PendingLimitDerivations p retryOnly).1 = none := by
  by_cases h704 : 704 ∈ device.supportedModelIds
  · simp [Device.sendModel704PendingLimitDerivations, h704, lastWrite_sendWMaxLimPct hlim,
      lastWrite_sendWSet hset]
  · simp [Device.sendModel704PendingLimitDerivations, h704]

theorem lastWrite_curveModels (hr : ∀ addr, r ≠ .curveModels addr) (ws : List (UInt16 × UInt16)) :
    lastWrite r (ws.map fun w => (⟨.curveModels w.1, w.2⟩ : Sigma Point.Value)) = none := by
  refine lastWrite_eq_none fun w hw => ?_
  obtain ⟨v, -, rfl⟩ := List.mem_map.1 hw
  exact (hr v.1).symm

/-- A full send: model 703, the functions and the limits of model 704, and the curve models. -/
theorem sendNewParameters_eq (device : Device) (p : Parameters) :
    device.sendNewParameters p curveModels =
      (device.sendModel703Parameters p ++
          (if 704 ∈ device.supportedModelIds then device.sendModel704Functions p else []) ++
          (device.sendModel704PendingLimitDerivations p false).1 ++
          (curveModels p).map fun w => ⟨.curveModels w.1, w.2⟩,
        (device.sendModel704PendingLimitDerivations p false).2) := by
  by_cases h704 : 704 ∈ device.supportedModelIds
  · simp [Device.sendNewParameters, Device.sendModel704Parameters, h704]
  · simp [Device.sendNewParameters, Device.sendModel704Parameters, h704,
      Device.sendModel704PendingLimitDerivations]

end Writes

end Sep2Bridge.Modbus
