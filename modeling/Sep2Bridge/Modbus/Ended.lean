import Sep2Bridge.Modbus.Send
import Sep2Bridge.Modbus.Translation

/-!
# What an ended control leaves behind

Two devices that start alike and are sent different parameters should be alike again once both
are sent the same ones. A value is written only where the parameters have one, so this rests on the
translation: for each register it must give a value, or an explicit disable of the function that
uses it.

It does so for the five functions of model 704 but not for `ES`: a control that set
`opModConnect` and has ended leaves the device as it set it. Within the set point, `W_SET` is left
as it was wherever the set point is a percentage. `history_forgotten_iff` says that nothing else
of an earlier set is left.
-/

namespace Sep2Bridge.Modbus

open Lib

/-! ## Histories -/

section Histories

variable (device : Device) (curveModels : Parameters → List (UInt16 × UInt16))

/-- The registers after full sends of the parameters `history`, the oldest first. -/
def Device.sendAll (history : List Parameters) (d : Registers) : Registers :=
  history.foldl (fun d p => (device.send p curveModels d).1) d

variable {device curveModels} {history : List Parameters} {d : Registers} {p : Parameters}
  {r : Point}

theorem sendAll_eq : device.sendAll curveModels history d =
    writeAll d (history.flatMap fun q => (device.sendNewParameters q curveModels).1) := by
  induction history generalizing d with
  | nil => rfl
  | cons q history ih =>
    rw [List.flatMap_cons, writeAll_append, ← ih]
    rfl

theorem sendAll_concat : device.sendAll curveModels (history ++ [p]) d =
    writeAll (device.sendAll curveModels history d) (device.sendNewParameters p curveModels).1 :=
  List.foldl_append

/-- A register holds what the latest parameters to write it gave it. -/
theorem sendAll_apply : device.sendAll curveModels history d r =
    (history.reverse.findSome? fun q =>
      lastWrite r (device.sendNewParameters q curveModels).1).getD (d r) := by
  rw [sendAll_eq, writeAll_apply, lastWrite_flatMap]

end Histories

/-! ## The functions of model 704 -/

inductive Function704
  | pfwInj | pfwAbs | varSet | wMaxLimPct | wSet
  deriving DecidableEq

namespace Function704

/-- The register that enables a function. -/
def ena : Function704 → Point
  | pfwInj => .pfwInjEna
  | pfwAbs => .pfwAbsEna
  | varSet => .varSetEna
  | wMaxLimPct => .wMaxLimPctEna
  | wSet => .wSetEna

/-- The registers for the value and the mode of a function. -/
def settings : Function704 → List Point
  | pfwInj => [.pfwInjPf, .pfwInjExt]
  | pfwAbs => [.pfwAbsPf, .pfwAbsExt]
  | varSet => [.varSetPct, .varSetMod]
  | wMaxLimPct => [.wMaxLimPct]
  | wSet => [.wSetPct, .wSet, .wSetMod]

/-- The content of the register that enables a function. -/
def readEna (d : Registers) : Function704 → Ena
  | pfwInj => d .pfwInjEna
  | pfwAbs => d .pfwAbsEna
  | varSet => d .varSetEna
  | wMaxLimPct => d .wMaxLimPctEna
  | wSet => d .wSetEna

/-- What some writes leave in the register that enables a function. -/
def writtenEna (ws : Writes) : Function704 → Option Ena
  | pfwInj => lastWrite .pfwInjEna ws
  | pfwAbs => lastWrite .pfwAbsEna ws
  | varSet => lastWrite .varSetEna ws
  | wMaxLimPct => lastWrite .wMaxLimPctEna ws
  | wSet => lastWrite .wSetEna ws

theorem readEna_writeAll (d : Registers) (ws : Writes) (f : Function704) :
    f.readEna (writeAll d ws) = (f.writtenEna ws).getD (f.readEna d) := by
  cases f <;> exact writeAll_apply d ws _

theorem isSome_writtenEna (ws : Writes) (f : Function704) :
    (f.writtenEna ws).isSome = (lastWrite f.ena ws).isSome := by
  cases f <;> rfl

end Function704

/-- The registers that decide what the device does. -/
def InEffect (d : Registers) (r : Point) : Prop :=
  r = .es ∨ (∃ f : Function704, r = f.ena) ∨
    ∃ f : Function704, f.readEna d = .enabled ∧ r ∈ f.settings

/-! ## What a translated set writes -/

section Writes

variable {device : Device} {curveModels : Parameters → List (UInt16 × UInt16)} {p : Parameters}
  {r : Point} {mapSiteLimits : Bool} {base : DERControlBase}

theorem lastWrite_es : lastWrite .es (device.sendNewParameters p curveModels).1 =
    if 703 ∈ device.supportedModelIds then p.es else none := by
  have hlim : lastWrite .es (device.sendModel704PendingLimitDerivations p false).1 = none :=
    lastWrite_pendingLimitDerivations (by decide) (by decide)
  have hcurve := lastWrite_curveModels (r := .es) (fun _ h => by cases h) (curveModels p)
  rw [sendNewParameters_eq]
  simp [hlim, hcurve, Device.sendModel703Parameters, Device.sendModel704Functions,
    writeRescaledIfSome]

/-- The registers of the functions other than the limits. -/
def functionPoints : List Point :=
  [.pfwInjEna, .pfwInjExt, .pfwInjPf, .pfwAbsEna, .pfwAbsExt, .pfwAbsPf, .varSetEna, .varSetPct,
    .varSetMod]

/-- Without model 704 none of its registers is written. -/
theorem lastWrite_without704 (h704 : 704 ∉ device.supportedModelIds)
    (hr : r ∈ functionPoints ++ limitPoints ++ setPoints) :
    lastWrite r (device.sendNewParameters p curveModels).1 = none := by
  rw [sendNewParameters_eq, if_neg h704, Device.sendModel704PendingLimitDerivations, if_pos h704]
  simp only [functionPoints, limitPoints, setPoints, List.cons_append, List.nil_append,
    List.mem_cons, List.not_mem_nil, or_false] at hr
  obtain rfl | rfl | rfl | rfl | rfl | rfl | rfl | rfl | rfl | rfl | rfl | rfl | rfl | rfl | rfl :=
    hr <;> simp [lastWrite_curveModels, Device.sendModel703Parameters, writeRescaledIfSome]

theorem ena_mem (f : Function704) : f.ena ∈ functionPoints ++ limitPoints ++ setPoints := by
  cases f <;> decide

theorem settings_mem (f : Function704) :
    ∀ r ∈ f.settings, r ∈ functionPoints ++ limitPoints ++ setPoints := by
  cases f <;> decide

theorem eq_wSet_of_mem_settings (f : Function704) (h : .wSet ∈ f.settings) : f = .wSet := by
  revert h
  cases f <;> decide

theorem lastWrite_functionPoints (h704 : 704 ∈ device.supportedModelIds) (hr : r ∈ functionPoints) :
    lastWrite r (device.sendNewParameters p curveModels).1 =
      lastWrite r (device.sendModel704Functions p) := by
  rw [sendNewParameters_eq, if_pos h704]
  simp only [functionPoints, List.mem_cons, List.not_mem_nil, or_false] at hr
  obtain rfl | rfl | rfl | rfl | rfl | rfl | rfl | rfl | rfl := hr <;>
    simp [lastWrite_curveModels, lastWrite_pendingLimitDerivations, limitPoints, setPoints,
      Device.sendModel703Parameters, writeRescaledIfSome]

theorem lastWrite_limitPoints (h704 : 704 ∈ device.supportedModelIds) (hr : r ∈ limitPoints) :
    lastWrite r (device.sendNewParameters p curveModels).1 =
      lastWrite r (device.sendWMaxLimPct p false).1 := by
  have hset : lastWrite r (device.sendWSet p false).1 = none :=
    lastWrite_sendWSet (not_mem_setPoints hr)
  rw [sendNewParameters_eq, if_pos h704, Device.sendModel704PendingLimitDerivations,
    if_neg (not_not.2 h704)]
  simp only [limitPoints, List.mem_cons, List.not_mem_nil, or_false] at hr
  obtain rfl | rfl := hr <;>
    simp [lastWrite_curveModels, hset, Device.sendModel703Parameters,
      Device.sendModel704Functions, writeRescaledIfSome]

theorem lastWrite_setPoints (h704 : 704 ∈ device.supportedModelIds) (hr : r ∈ setPoints) :
    lastWrite r (device.sendNewParameters p curveModels).1 =
      lastWrite r (device.sendWSet p false).1 := by
  have hlim : lastWrite r (device.sendWMaxLimPct p false).1 = none :=
    lastWrite_sendWMaxLimPct fun h => not_mem_setPoints h hr
  rw [sendNewParameters_eq, if_pos h704, Device.sendModel704PendingLimitDerivations,
    if_neg (not_not.2 h704)]
  simp only [setPoints, List.mem_cons, List.not_mem_nil, or_false] at hr
  obtain rfl | rfl | rfl | rfl := hr <;>
    simp [lastWrite_curveModels, hlim, Device.sendModel703Parameters,
      Device.sendModel704Functions, writeRescaledIfSome]

theorem not_deferred (h704 : 704 ∈ device.supportedModelIds)
    (hdone : (device.sendNewParameters p curveModels).2.deferred = false) :
    (device.sendWMaxLimPct p false).2.deferred = false ∧
      (device.sendWSet p false).2.deferred = false := by
  rw [sendNewParameters_eq, Device.sendModel704PendingLimitDerivations,
    if_neg (not_not.2 h704)] at hdone
  simpa using hdone

/-- Unless it is deferred the export limit is enabled or disabled, and enabled with a value. -/
theorem lastWrite_wMaxLimPct (hena : p.wMaxLimPctEna = some (convert p.wMaxLimPct.isSome))
    (hdone : (device.sendWMaxLimPct p false).2.deferred = false) :
    ∃ ena, lastWrite .wMaxLimPctEna (device.sendWMaxLimPct p false).1 = some ena ∧
      (ena = .enabled →
        (lastWrite .wMaxLimPct (device.sendWMaxLimPct p false).1).isSome = true) := by
  cases hlim : p.wMaxLim with
  | none =>
    cases hpct : p.wMaxLimPct with
    | none =>
      rw [hpct] at hena
      refine ⟨.disabled, ?_, fun h => by cases h⟩
      simp [Device.sendWMaxLimPct, hpct, hlim, hena, convert, writeRescaledIfSome]
    | some wMaxLimPct =>
      rw [hpct] at hena
      refine ⟨.enabled, ?_, fun _ => ?_⟩ <;>
        simp [Device.sendWMaxLimPct, hpct, hlim, hena, convert, writeRescaledIfSome]
  | some wMaxLim =>
    -- A percentage was derived, or the export limit would be deferred.
    cases hrtg : device.readWMaxRtg p with
    | none => simp [Device.sendWMaxLimPct, hlim, hrtg] at hdone
    | some rtg =>
      cases hderived : toWMaxLimPctFromWMaxLim wMaxLim rtg (device.wMaxLimPctSf.getD 0) with
      | none => simp [Device.sendWMaxLimPct, hlim, hrtg, hderived] at hdone
      | some derived =>
        refine ⟨.enabled, ?_, fun _ => ?_⟩
        · cases hpct : p.wMaxLimPct with
          | none =>
            rw [hpct] at hena
            simp [Device.sendWMaxLimPct, hpct, hlim, hrtg, hderived, hena, convert,
              writeRescaledIfSome]
          | some wMaxLimPct =>
            rw [hpct] at hena
            simp [Device.sendWMaxLimPct, hpct, hlim, hrtg, hderived, hena, convert,
              writeRescaledIfSome]
        · cases hpct : p.wMaxLimPct with
          | none => simp [Device.sendWMaxLimPct, hpct, hlim, hrtg, hderived, writeRescaledIfSome]
          | some wMaxLimPct =>
            simp only [Device.sendWMaxLimPct, hpct, hlim, hrtg]
            simp [hderived, writeRescaledIfSome]
            split_ifs <;> rfl

/-- The set point has a percentage and a mode wherever it is enabled. -/
theorem lastWrite_wSetPct (hmod : p.wSetMod.isSome = (p.wSetPct.isSome || p.wSet.isSome))
    (hdone : (device.sendWSet p false).2.deferred = false) :
    lastWrite .wSetEna (device.sendWSet p false).1 = p.wSetEna ∧
      (lastWrite .wSetPct (device.sendWSet p false).1).isSome =
        (p.wSetPct.isSome || p.wSet.isSome) ∧
      (lastWrite .wSetMod (device.sendWSet p false).1).isSome =
        (p.wSetPct.isSome || p.wSet.isSome) := by
  have hmode : p.wSetMod.isSome = true →
      (if p.wSetIsImportSiteLimit = true then some .wMaxPct else p.wSetMod).isSome = true := by
    intro h
    split_ifs
    · rfl
    · exact h
  cases hpct : p.wSetPct with
  | some wSetPct =>
    rw [hpct] at hmod
    simpa [Device.sendWSet, hpct, writeRescaledIfSome] using hmode hmod
  | none =>
    rw [hpct] at hmod
    cases hset : p.wSet with
    | none =>
      rw [hset] at hmod
      simpa [Device.sendWSet, hpct, hset, writeRescaledIfSome] using hmod
    | some wSet =>
      rw [hset] at hmod
      cases hrtg : device.readWMaxRtg p with
      | none => simp [Device.sendWSet, hpct, hset, hrtg] at hdone
      | some rtg =>
        cases hderived : toWSetPctFromWSet wSet rtg (device.wSetPctSf.getD 0)
            p.wSetIsImportSiteLimit with
        | none => simp [Device.sendWSet, hpct, hset, hrtg, hderived] at hdone
        | some derived =>
          simpa [Device.sendWSet, hpct, hset, hrtg, hderived, writeRescaledIfSome] using hmode hmod

/-- Watts are written for a target in watts only. -/
theorem lastWrite_wSet : lastWrite .wSet (device.sendWSet p false).1 =
    if p.wSetIsImportSiteLimit then none
    else p.wSet.map fun wSet => (wSet.rescale (device.wSetSf.getD 0)).value := by
  cases himp : p.wSetIsImportSiteLimit with
  | false => simp [Device.sendWSet, himp, writeRescaledIfSome]
  | true =>
    -- Either the percentage is used instead, or it is pending.
    cases hpct : p.wSetPct with
    | some wSetPct => simp [Device.sendWSet, himp, hpct, writeRescaledIfSome]
    | none =>
      cases hset : p.wSet with
      | none => simp [Device.sendWSet, himp, hpct, hset, writeRescaledIfSome]
      | some wSet =>
        simp [Device.sendWSet, himp, hpct, hset, writeRescaledIfSome]

end Writes

/-! ## What is forgotten -/

/-- The latest `ES` of a history, or what the register held before. -/
def esInForce (history : List Parameters) (d : Registers) : Es :=
  (history.reverse.findSome? fun p => p.es).getD (d .es)

/-- The latest watts of a history, as written, or what the register held before. -/
def wSetInForce (device : Device) (history : List Parameters) (d : Registers) : Int32 :=
  (history.reverse.findSome? fun p =>
    if p.wSetIsImportSiteLimit then none
    else p.wSet.map fun wSet => (wSet.rescale (device.wSetSf.getD 0)).value).getD (d .wSet)

/-- A set point, and none of it a target in watts. -/
def SetByPercentage (mapSiteLimits : Bool) (base : DERControlBase) : Prop :=
  base.opModTargetW = none ∧
    (base.opModFixedW.isSome = true ∨ (importSiteLimitToWset mapSiteLimits base).isSome = true)

section Forgotten

variable {device : Device} {curveModels : Parameters → List (UInt16 × UInt16)} {p : Parameters}
  {d : Registers} {r : Point} {mapSiteLimits : Bool} {attrs : ControlAttributes}
  {history h₁ h₂ : List Parameters}

theorem sendAll_es (h703 : 703 ∈ device.supportedModelIds) :
    device.sendAll curveModels history d .es = esInForce history d := by
  rw [sendAll_apply]
  simp only [lastWrite_es, if_pos h703]
  rfl

theorem sendAll_wSet (h704 : 704 ∈ device.supportedModelIds) :
    device.sendAll curveModels history d .wSet = wSetInForce device history d := by
  rw [sendAll_apply]
  simp only [lastWrite_setPoints h704 (r := .wSet) (by decide), lastWrite_wSet]
  rfl

/-- A register that is never written keeps what it held. -/
theorem sendAll_unwritten
    (h : ∀ q, lastWrite r (device.sendNewParameters q curveModels).1 = none) :
    device.sendAll curveModels history d r = d r := by
  rw [sendAll_apply]
  simp only [h, List.findSome?_eq_none_iff.2 fun _ _ => rfl]
  rfl

/-- After the same last set, two histories agree on a register exactly if the set settles it or
they agreed before. -/
theorem sendAll_concat_eq_iff :
    device.sendAll curveModels (h₁ ++ [p]) d r = device.sendAll curveModels (h₂ ++ [p]) d r ↔
      (lastWrite r (device.sendNewParameters p curveModels).1).isSome = true ∨
        device.sendAll curveModels h₁ d r = device.sendAll curveModels h₂ d r := by
  rw [sendAll_concat, sendAll_concat, writeAll_eq_iff]

theorem convert_eq_enabled {b : Bool} : (convert b : Ena) = .enabled ↔ b = true := by
  cases b <;> simp [convert]

section Translated

variable (ht : Translates mapSiteLimits attrs.inner.derControlBase p)
  (hdone : (device.sendNewParameters p curveModels).2.deferred = false)
  (h704 : 704 ∈ device.supportedModelIds)

/-- A function that the set enables has its value and mode written, but for the watts. -/
def Settles (ws : Writes) (f : Function704) (ena : Ena) : Prop :=
  f.writtenEna ws = some ena ∧
    (ena = .enabled → ∀ r ∈ f.settings, r ≠ .wSet → (lastWrite r ws).isSome = true)

include ht h704

theorem settles_pfwInj : Settles (device.sendNewParameters p curveModels).1 .pfwInj
    (convert attrs.inner.derControlBase.opModFixedPfInjectW.isSome) := by
  refine ⟨?_, fun hena r hr _ => ?_⟩
  · rw [Function704.writtenEna, lastWrite_functionPoints h704 (by decide)]
    simp [Device.sendModel704Functions, writeRescaledIfSome, ht.pfwInjEna]
  · have hsome := convert_eq_enabled.1 hena
    simp only [Function704.settings, List.mem_cons, List.not_mem_nil, or_false] at hr
    obtain rfl | rfl := hr <;> rw [lastWrite_functionPoints h704 (by decide)] <;>
      simp [Device.sendModel704Functions, writeRescaledIfSome, ht.pfwInjPf, ht.pfwInjExt, hsome]

theorem settles_pfwAbs : Settles (device.sendNewParameters p curveModels).1 .pfwAbs
    (convert attrs.inner.derControlBase.opModFixedPfAbsorbW.isSome) := by
  refine ⟨?_, fun hena r hr _ => ?_⟩
  · rw [Function704.writtenEna, lastWrite_functionPoints h704 (by decide)]
    simp [Device.sendModel704Functions, writeRescaledIfSome, ht.pfwAbsEna]
  · have hsome := convert_eq_enabled.1 hena
    simp only [Function704.settings, List.mem_cons, List.not_mem_nil, or_false] at hr
    obtain rfl | rfl := hr <;> rw [lastWrite_functionPoints h704 (by decide)] <;>
      simp [Device.sendModel704Functions, writeRescaledIfSome, ht.pfwAbsPf, ht.pfwAbsExt, hsome]

theorem settles_varSet : Settles (device.sendNewParameters p curveModels).1 .varSet
    (convert attrs.inner.derControlBase.opModFixedVar.isSome) := by
  refine ⟨?_, fun hena r hr _ => ?_⟩
  · rw [Function704.writtenEna, lastWrite_functionPoints h704 (by decide)]
    simp [Device.sendModel704Functions, writeRescaledIfSome, ht.varSetEna]
  · have hsome := convert_eq_enabled.1 hena
    have hmod := ht.varSetMod.trans hsome
    simp only [Function704.settings, List.mem_cons, List.not_mem_nil, or_false] at hr
    obtain rfl | rfl := hr <;> rw [lastWrite_functionPoints h704 (by decide)] <;>
      simp [Device.sendModel704Functions, writeRescaledIfSome, ht.varSetPct, hsome, hmod]

include hdone

theorem settles_wMaxLimPct :
    ∃ ena, Settles (device.sendNewParameters p curveModels).1 .wMaxLimPct ena := by
  have hena : p.wMaxLimPctEna = some (convert p.wMaxLimPct.isSome) := by
    rw [ht.wMaxLimPctEna, ht.wMaxLimPct, Option.isSome_map]
  obtain ⟨ena, hwrite, hvalue⟩ := lastWrite_wMaxLimPct hena (not_deferred h704 hdone).1
  refine ⟨ena, ?_, fun hena r hr _ => ?_⟩
  · rw [Function704.writtenEna, lastWrite_limitPoints h704 (by decide), hwrite]
  · simp only [Function704.settings, List.mem_cons, List.not_mem_nil, or_false] at hr
    subst hr
    rw [lastWrite_limitPoints h704 (by decide)]
    exact hvalue hena

theorem settles_wSet : Settles (device.sendNewParameters p curveModels).1 .wSet
    (convert (p.wSetPct.isSome || p.wSet.isSome)) := by
  have hfixed : attrs.inner.derControlBase.opModFixedW.isSome = p.wSetPct.isSome := by
    rw [ht.wSetPct, Option.isSome_map]
  have hmod : p.wSetMod.isSome = (p.wSetPct.isSome || p.wSet.isSome) := by
    rw [ht.wSetMod, ← hfixed]
    cases attrs.inner.derControlBase.opModFixedW <;> cases p.wSet <;> rfl
  obtain ⟨hena, hpct, hmode⟩ := lastWrite_wSetPct hmod (not_deferred h704 hdone).2
  refine ⟨?_, fun henabled r hr hwatts => ?_⟩
  · rw [Function704.writtenEna, lastWrite_setPoints h704 (by decide), hena, ht.wSetEna, hfixed]
  · have hsome := convert_eq_enabled.1 henabled
    simp only [Function704.settings, List.mem_cons, List.not_mem_nil, or_false] at hr
    obtain rfl | rfl | rfl := hr
    · rw [lastWrite_setPoints h704 (by decide), hpct, hsome]
    · exact absurd rfl hwatts
    · rw [lastWrite_setPoints h704 (by decide), hmode, hsome]

/-- With model 704 a translated set settles every function. -/
theorem settles (f : Function704) :
    ∃ ena, Settles (device.sendNewParameters p curveModels).1 f ena := by
  cases f with
  | pfwInj => exact ⟨_, settles_pfwInj ht h704⟩
  | pfwAbs => exact ⟨_, settles_pfwAbs ht h704⟩
  | varSet => exact ⟨_, settles_varSet ht h704⟩
  | wMaxLimPct => exact settles_wMaxLimPct ht hdone h704
  | wSet => exact ⟨_, settles_wSet ht hdone h704⟩

omit hdone h704

theorem setByPercentage_iff : SetByPercentage mapSiteLimits attrs.inner.derControlBase ↔
    attrs.inner.derControlBase.opModTargetW = none ∧
      (p.wSetPct.isSome || p.wSet.isSome) = true := by
  rw [SetByPercentage, ht.wSetPct, ht.wSet, Option.isSome_map]
  refine and_congr_right fun htarget => ?_
  rw [htarget]
  simp

include h704

/-- The watts are settled by a set point that is not a percentage. -/
theorem lastWrite_wSet_isSome_iff :
    (lastWrite .wSet (device.sendNewParameters p curveModels).1).isSome = true ↔
      attrs.inner.derControlBase.opModTargetW.isSome = true := by
  rw [lastWrite_setPoints h704 (by decide), lastWrite_wSet, ht.wSetIsImportSiteLimit, ht.wSet]
  cases attrs.inner.derControlBase.opModTargetW <;>
    cases importSiteLimitToWset mapSiteLimits attrs.inner.derControlBase <;> simp

end Translated

/-- Histories agree on `ES` if the last set gives it, or they agreed before. -/
theorem es_agrees_iff (ht : Translates mapSiteLimits attrs.inner.derControlBase p) :
    ((lastWrite .es (device.sendNewParameters p curveModels).1).isSome = true ∨
        device.sendAll curveModels h₁ d .es = device.sendAll curveModels h₂ d .es) ↔
      (703 ∈ device.supportedModelIds → attrs.inner.derControlBase.opModConnect = none →
        esInForce h₁ d = esInForce h₂ d) := by
  by_cases h703 : 703 ∈ device.supportedModelIds
  · rw [sendAll_es h703, sendAll_es h703, lastWrite_es, if_pos h703, ht.es, Option.isSome_map]
    cases attrs.inner.derControlBase.opModConnect <;> simp [h703]
  · have hnone : ∀ q, lastWrite .es (device.sendNewParameters q curveModels).1 = none :=
      fun q => lastWrite_es.trans (if_neg h703)
    rw [sendAll_unwritten hnone, sendAll_unwritten hnone]
    simp [h703]

/-- Histories agree on the registers of model 704 that a device without it never writes. -/
theorem agrees_without704 (h704 : 704 ∉ device.supportedModelIds)
    (hr : r ∈ functionPoints ++ limitPoints ++ setPoints) :
    device.sendAll curveModels h₁ d r = device.sendAll curveModels h₂ d r := by
  rw [sendAll_unwritten fun q => lastWrite_without704 h704 hr,
    sendAll_unwritten fun q => lastWrite_without704 h704 hr]

/-- Histories agree on what an enabled function uses, but for the watts of a percentage. -/
theorem settings_agree (ht : Translates mapSiteLimits attrs.inner.derControlBase p)
    (hdone : (device.sendNewParameters p curveModels).2.deferred = false)
    (h704 : 704 ∈ device.supportedModelIds)
    (hwatts : SetByPercentage mapSiteLimits attrs.inner.derControlBase →
      wSetInForce device h₁ d = wSetInForce device h₂ d) {f : Function704}
    (henabled : f.readEna (device.sendAll curveModels (h₁ ++ [p]) d) = .enabled)
    (hr : r ∈ f.settings) :
    (lastWrite r (device.sendNewParameters p curveModels).1).isSome = true ∨
      device.sendAll curveModels h₁ d r = device.sendAll curveModels h₂ d r := by
  rw [sendAll_concat, Function704.readEna_writeAll] at henabled
  by_cases hwSet : r = .wSet
  · subst hwSet
    obtain rfl := eq_wSet_of_mem_settings f hr
    rw [(settles_wSet ht hdone h704).1] at henabled
    have hsome := convert_eq_enabled.1 henabled
    rw [lastWrite_wSet_isSome_iff ht h704, sendAll_wSet h704, sendAll_wSet h704]
    cases htarget : attrs.inner.derControlBase.opModTargetW with
    | some target => exact .inl rfl
    | none => exact .inr (hwatts ((setByPercentage_iff ht).2 ⟨htarget, hsome⟩))
  · left
    obtain ⟨ena, hena, hsettings⟩ := settles ht hdone h704 f
    rw [hena] at henabled
    exact hsettings henabled r hr hwSet

/-- **An ended control leaves `ES` and unused watts, and nothing else.** Sent the same last set, two
histories leave the same registers in effect exactly if the set gives `ES` or they agree on it, and
the set gives watts, or no set point, or they agree on `W_SET`. -/
theorem history_forgotten_iff (hp : toParameters mapSiteLimits attrs = .ok p)
    (hdone : (device.sendNewParameters p curveModels).2.deferred = false) :
    (∀ r, InEffect (device.sendAll curveModels (h₁ ++ [p]) d) r →
        device.sendAll curveModels (h₁ ++ [p]) d r = device.sendAll curveModels (h₂ ++ [p]) d r) ↔
      (703 ∈ device.supportedModelIds → attrs.inner.derControlBase.opModConnect = none →
          esInForce h₁ d = esInForce h₂ d) ∧
        (704 ∈ device.supportedModelIds →
          SetByPercentage mapSiteLimits attrs.inner.derControlBase →
            wSetInForce device h₁ d = wSetInForce device h₂ d) := by
  have ht := translates_of_ok hp
  simp only [sendAll_concat_eq_iff]
  constructor
  · intro h
    refine ⟨(es_agrees_iff ht).1 (h .es (.inl rfl)), fun h704 hset => ?_⟩
    obtain ⟨htarget, hsome⟩ := (setByPercentage_iff ht).1 hset
    have henabled :
        Function704.readEna (device.sendAll curveModels (h₁ ++ [p]) d) .wSet = .enabled := by
      rw [sendAll_concat, Function704.readEna_writeAll, (settles_wSet ht hdone h704).1]
      exact convert_eq_enabled.2 hsome
    have hheld : ∀ history, device.sendAll curveModels history d .wSet =
        wSetInForce device history d := fun history => sendAll_wSet h704
    rw [← hheld, ← hheld]
    refine (h .wSet (.inr (.inr ⟨.wSet, henabled, by decide⟩))).resolve_left ?_
    rw [lastWrite_wSet_isSome_iff ht h704, htarget]
    exact Bool.false_ne_true
  · intro hagree r hr
    obtain ⟨hes, hwatts⟩ := hagree
    rcases hr with rfl | ⟨f, rfl⟩ | ⟨f, henabled, hr⟩
    · exact (es_agrees_iff ht).2 hes
    · by_cases h704 : 704 ∈ device.supportedModelIds
      · obtain ⟨ena, hena, -⟩ := settles ht hdone h704 f
        left
        rw [← Function704.isSome_writtenEna, hena]
        rfl
      · exact .inr (agrees_without704 h704 (ena_mem f))
    · by_cases h704 : 704 ∈ device.supportedModelIds
      · exact settings_agree ht hdone h704 (hwatts h704) henabled hr
      · exact .inr (agrees_without704 h704 (settings_mem f r hr))

end Forgotten

/-! ## A control that disconnects -/

/-- Attributes that say whether the device is to be in service, if anything. -/
def connectAttributes (connect : Option Bool) : ControlAttributes :=
  { inner := { derControlBase := { opModConnect := connect } } }

/-- What they translate to: every function of model 704 is disabled. -/
def connectParameters (connect : Option Bool) : Parameters :=
  { pfwInjEna := some .disabled, pfwAbsEna := some .disabled, varSetEna := some .disabled
    wMaxLimPctEna := some .disabled, wSetEna := some .disabled
    es := connect.map convert }

theorem toParameters_connectAttributes (connect : Option Bool) :
    toParameters false (connectAttributes connect) = .ok (connectParameters connect) := rfl

/-- The registers of a plain device after some sets of parameters. -/
def plainAfter (history : List Parameters) : Registers :=
  (Device.plain none).sendAll (fun _ => []) history .initial

/-- A control disconnects the device and ends, with no default to fall back to: the device stays
out of service, although one that never saw the control is in service. -/
theorem ended_disconnect_remains :
    toParameters false (connectAttributes none) = .ok (connectParameters none) ∧
      toParameters false (connectAttributes (some false)) = .ok (connectParameters (some false)) ∧
      (∀ connect, ((Device.plain none).sendNewParameters (connectParameters connect)
        fun _ => []).2.deferred = false) ∧
      plainAfter ([connectParameters (some false)] ++ [connectParameters none]) .es = .disabled ∧
      plainAfter ([] ++ [connectParameters none]) .es = .enabled :=
  ⟨rfl, rfl, fun _ => rfl, by decide, by decide⟩

/-- A set that connects the device makes up for one that disconnected it. -/
theorem history_forgotten_iff_reconnected :
    plainAfter ([connectParameters (some false)] ++ [connectParameters (some true)]) .es =
      plainAfter ([] ++ [connectParameters (some true)]) .es := by
  have hnoSet : ¬ SetByPercentage false (connectAttributes (some true)).inner.derControlBase := by
    intro ⟨_, h⟩
    revert h
    decide
  exact (history_forgotten_iff (toParameters_connectAttributes (some true)) rfl).2
    ⟨fun _ h => (by cases h), fun _ h => absurd h hnoSet⟩ .es (.inl rfl)

end Sep2Bridge.Modbus
