import Sep2Bridge.Modbus.Translation
import Sep2Bridge.Modbus.Send

/-!
# No function is enabled on a stale set point

The enable of a function, its mode and its value are decided in two places: the translation and
the senders of model 704. `Complete` says that they agree in a list of writes, and is kept by
putting lists of writes together. So it is enough that each send is complete on its own.
-/

namespace Sep2Bridge.Modbus

open Lib

/-! ## Sends and retries -/

/-- What the loop writes while it goes round, once for each device state it finds: the retries of
what is pending. -/
def retryWrites (p : Parameters) : PendingApply → List Device → Writes
  | _, [] => []
  | pending, device :: later =>
    match device.retryPending p pending with
    | none => retryWrites p pending later
    | some sent => sent.1 ++ retryWrites p (.fromApplyStatus sent.2) later

/-- A full send and its retries. -/
def sendWrites (device : Device) (p : Parameters)
    (curveModels : Parameters → List (UInt16 × UInt16)) (later : List Device) : Writes :=
  (device.sendNewParameters p curveModels).1 ++
    retryWrites p (.fromApplyStatus (device.sendNewParameters p curveModels).2) later

/-! ## Complete lists of writes -/

/-- The register was written. -/
def Written (r : Point) (ws : Writes) : Prop := ∃ value, ⟨r, value⟩ ∈ ws

/-- The register that holds the set point in a mode. -/
def WSetMod.register : WSetMod → Option Point
  | .wMaxPct => some .wSetPct
  | .watts => some .wSet
  | .other _ => none

/-- Every function that is enabled has its registers written as well. -/
structure Complete (ws : Writes) : Prop where
  wSetMod : ⟨.wSetEna, Ena.enabled⟩ ∈ ws → Written .wSetMod ws
  wSet : ∀ mod : WSetMod, ⟨.wSetMod, mod⟩ ∈ ws → ∃ r, mod.register = some r ∧ Written r ws
  wMaxLimPct : ⟨.wMaxLimPctEna, Ena.enabled⟩ ∈ ws → Written .wMaxLimPct ws
  varSet : ⟨.varSetEna, Ena.enabled⟩ ∈ ws → Written .varSetPct ws ∧ Written .varSetMod ws
  pfwInj : ⟨.pfwInjEna, Ena.enabled⟩ ∈ ws → Written .pfwInjPf ws ∧ Written .pfwInjExt ws
  pfwAbs : ⟨.pfwAbsEna, Ena.enabled⟩ ∈ ws → Written .pfwAbsPf ws ∧ Written .pfwAbsExt ws

variable {ws ws' : Writes} {device : Device} {p : Parameters} {mapSiteLimits retryOnly : Bool}
  {base : DERControlBase}

theorem Written.append_left {r : Point} (h : Written r ws) : Written r (ws ++ ws') :=
  h.imp fun _ => List.mem_append_left ws'

theorem Written.append_right {r : Point} (h : Written r ws') : Written r (ws ++ ws') :=
  h.imp fun _ => List.mem_append_right ws

/-- Complete lists of writes may be put together. -/
theorem Complete.append (h : Complete ws) (h' : Complete ws') : Complete (ws ++ ws') where
  wSetMod hena := (List.mem_append.1 hena).elim (fun hena => (h.wSetMod hena).append_left)
    fun hena => (h'.wSetMod hena).append_right
  wSet mod hmod := (List.mem_append.1 hmod).elim
    (fun hmod => (h.wSet mod hmod).imp fun _ hr => ⟨hr.1, hr.2.append_left⟩)
    fun hmod => (h'.wSet mod hmod).imp fun _ hr => ⟨hr.1, hr.2.append_right⟩
  wMaxLimPct hena := (List.mem_append.1 hena).elim (fun hena => (h.wMaxLimPct hena).append_left)
    fun hena => (h'.wMaxLimPct hena).append_right
  varSet hena := (List.mem_append.1 hena).elim
    (fun hena => (h.varSet hena).imp Written.append_left Written.append_left)
    fun hena => (h'.varSet hena).imp Written.append_right Written.append_right
  pfwInj hena := (List.mem_append.1 hena).elim
    (fun hena => (h.pfwInj hena).imp Written.append_left Written.append_left)
    fun hena => (h'.pfwInj hena).imp Written.append_right Written.append_right
  pfwAbs hena := (List.mem_append.1 hena).elim
    (fun hena => (h.pfwAbs hena).imp Written.append_left Written.append_left)
    fun hena => (h'.pfwAbs hena).imp Written.append_right Written.append_right

/-- The registers whose contents turn a function on. -/
def switches : List Point :=
  [.wSetEna, .wSetMod, .wMaxLimPctEna, .varSetEna, .pfwInjEna, .pfwAbsEna]

/-- A list of writes that turns nothing on is complete. -/
theorem complete_of_no_switch (h : ∀ w ∈ ws, w.1 ∉ switches) : Complete ws where
  wSetMod hena := absurd (by decide) (h _ hena)
  wSet mod hmod := absurd (by simp [switches]) (h _ hmod)
  wMaxLimPct hena := absurd (by decide) (h _ hena)
  varSet hena := absurd (by decide) (h _ hena)
  pfwInj hena := absurd (by decide) (h _ hena)
  pfwAbs hena := absurd (by decide) (h _ hena)

@[simp] theorem mem_writeIfSome {r : Point} {value : Option r.Value} {w : Sigma Point.Value} :
    w ∈ writeIfSome r value ↔ ∃ v, value = some v ∧ w = ⟨r, v⟩ := by
  cases value <;> simp [writeIfSome]

/-! ## Each sender is complete -/

theorem complete_model703 (device : Device) (p : Parameters) :
    Complete (device.sendModel703Parameters p) := by
  refine complete_of_no_switch fun w hw => ?_
  unfold Device.sendModel703Parameters writeRescaledIfSome at hw
  by_cases h703 : 703 ∉ device.supportedModelIds
  · rw [if_pos h703] at hw
    cases hw
  · simp only [if_neg h703, List.mem_append, mem_writeIfSome] at hw
    obtain (((((((⟨_, -, rfl⟩ | ⟨_, -, rfl⟩) | ⟨_, -, rfl⟩) | ⟨_, -, rfl⟩) | ⟨_, -, rfl⟩) |
      ⟨_, -, rfl⟩) | ⟨_, -, rfl⟩) | ⟨_, -, rfl⟩) := hw <;> simp [switches]

theorem complete_curveModels (ws : List (UInt16 × UInt16)) :
    Complete (ws.map fun w => ⟨.curveModels w.1, w.2⟩) := by
  refine complete_of_no_switch fun w hw => ?_
  obtain ⟨v, -, rfl⟩ := List.mem_map.1 hw
  simp [switches]

/-- An enable that comes from an attribute is there exactly if the attribute is. -/
theorem isSome_of_enabled {α : Type} {attr : Option α} {ena : Option Ena}
    (h : ena = some (convert attr.isSome)) (hena : ena = some Ena.enabled) :
    ∃ a, attr = some a := by
  cases attr with
  | some a => exact ⟨a, rfl⟩
  | none =>
    rw [h] at hena
    cases hena

theorem mem_functions {w : Sigma Point.Value} : w ∈ device.sendModel704Functions p ↔
    w ∈ writeIfSome .pfwInjEna p.pfwInjEna ∨ w ∈ writeIfSome .pfwAbsEna p.pfwAbsEna ∨
      w ∈ writeIfSome .pfwInjExt p.pfwInjExt ∨ w ∈ writeIfSome .pfwAbsExt p.pfwAbsExt ∨
      w ∈ writeRescaledIfSome .pfwInjPf p.pfwInjPf (device.pfSf.getD 0) ∨
      w ∈ writeRescaledIfSome .pfwAbsPf p.pfwAbsPf (device.pfSf.getD 0) ∨
      w ∈ writeIfSome .varSetEna p.varSetEna ∨
      w ∈ writeRescaledIfSome .varSetPct p.varSetPct (device.varSetPctSf.getD 0) ∨
      w ∈ writeIfSome .varSetMod p.varSetMod := by
  simp only [Device.sendModel704Functions, List.mem_append, or_assoc]

theorem complete_functions (h : Translates mapSiteLimits base p) :
    Complete (device.sendModel704Functions p) where
  wSetMod hena := by simp [mem_functions, writeRescaledIfSome] at hena
  wSet mod hmod := by simp [mem_functions, writeRescaledIfSome] at hmod
  wMaxLimPct hena := by simp [mem_functions, writeRescaledIfSome] at hena
  varSet hena := by
    have hena : p.varSetEna = some Ena.enabled := by
      simpa [mem_functions, writeRescaledIfSome] using hena
    obtain ⟨var, hvar⟩ := isSome_of_enabled h.varSetEna hena
    have hmod := h.varSetMod
    rw [hvar, Option.isSome_some, Option.isSome_iff_exists] at hmod
    simpa [Written, mem_functions, writeRescaledIfSome, h.varSetPct, hvar] using hmod
  pfwInj hena := by
    have hena : p.pfwInjEna = some Ena.enabled := by
      simpa [mem_functions, writeRescaledIfSome] using hena
    obtain ⟨pfw, hpfw⟩ := isSome_of_enabled h.pfwInjEna hena
    simp [Written, mem_functions, writeRescaledIfSome, h.pfwInjPf, h.pfwInjExt, hpfw]
  pfwAbs hena := by
    have hena : p.pfwAbsEna = some Ena.enabled := by
      simpa [mem_functions, writeRescaledIfSome] using hena
    obtain ⟨pfw, hpfw⟩ := isSome_of_enabled h.pfwAbsEna hena
    simp [Written, mem_functions, writeRescaledIfSome, h.pfwAbsPf, h.pfwAbsExt, hpfw]

theorem not_mem_sendWMaxLimPct {r : Point} (hr : r ∉ limitPoints) (value : r.Value) :
    ⟨r, value⟩ ∉ (device.sendWMaxLimPct p retryOnly).1 := fun hw =>
  ne_of_lastWrite_eq_none (lastWrite_sendWMaxLimPct hr) hw rfl

theorem not_mem_sendWSet {r : Point} (hr : r ∉ setPoints) (value : r.Value) :
    ⟨r, value⟩ ∉ (device.sendWSet p retryOnly).1 := fun hw =>
  ne_of_lastWrite_eq_none (lastWrite_sendWSet hr) hw rfl

/-- The export limit is enabled together with a percentage, or not at all. -/
theorem complete_sendWMaxLimPct (h : Translates mapSiteLimits base p) :
    Complete (device.sendWMaxLimPct p retryOnly).1 where
  wSetMod hena := absurd hena (not_mem_sendWMaxLimPct (by decide) _)
  wSet mod hmod := absurd hmod (not_mem_sendWMaxLimPct (by decide) _)
  varSet hena := absurd hena (not_mem_sendWMaxLimPct (by decide) _)
  pfwInj hena := absurd hena (not_mem_sendWMaxLimPct (by decide) _)
  pfwAbs hena := absurd hena (not_mem_sendWMaxLimPct (by decide) _)
  wMaxLimPct hena := by
    cases hlim : p.wMaxLim with
    | none =>
      cases hpct : p.wMaxLimPct with
      | none =>
        have hdisabled : p.wMaxLimPctEna = some Ena.disabled := by
          rw [h.wMaxLimPctEna, ← Option.isSome_map, ← h.wMaxLimPct, hpct]
          rfl
        cases retryOnly <;> simp [Device.sendWMaxLimPct, hlim, hpct, hdisabled] at hena
      | some pct =>
        cases retryOnly with
        | false => simp [Device.sendWMaxLimPct, Written, writeRescaledIfSome, hlim, hpct]
        | true => simp [Device.sendWMaxLimPct, hlim] at hena
    | some wMaxLim =>
      cases hrtg : device.readWMaxRtg p with
      | none => simp [Device.sendWMaxLimPct, hlim, hrtg] at hena
      | some rtg =>
        cases hderived : toWMaxLimPctFromWMaxLim wMaxLim rtg (device.wMaxLimPctSf.getD 0) with
        | none => simp [Device.sendWMaxLimPct, hlim, hrtg, hderived] at hena
        | some derived =>
          cases hpct : p.wMaxLimPct with
          | none =>
            simp [Device.sendWMaxLimPct, Written, writeRescaledIfSome, hlim, hrtg, hderived, hpct]
          | some pct =>
            -- the lower of the two is written
            by_cases hlt : derived.value < (pct.rescale (device.wMaxLimPctSf.getD 0)).value <;>
              simp [Device.sendWMaxLimPct, Written, writeRescaledIfSome, hlim, hrtg, hderived,
                hpct, hlt]

theorem complete_iff_set (hws : ∀ r : Point, r ∉ setPoints → ∀ value : r.Value, ⟨r, value⟩ ∉ ws) :
    Complete ws ↔ (⟨.wSetEna, Ena.enabled⟩ ∈ ws → Written .wSetMod ws) ∧
      ∀ mod : WSetMod, ⟨.wSetMod, mod⟩ ∈ ws → ∃ r, mod.register = some r ∧ Written r ws where
  mp h := ⟨h.wSetMod, h.wSet⟩
  mpr h :=
    { wSetMod := h.1
      wSet := h.2
      wMaxLimPct hena := absurd hena (hws _ (by decide) _)
      varSet hena := absurd hena (hws _ (by decide) _)
      pfwInj hena := absurd hena (hws _ (by decide) _)
      pfwAbs hena := absurd hena (hws _ (by decide) _) }

/-- A percentage given as such selects its own register, whatever else there is. -/
theorem complete_sendWSet_pct {pct : ScaledValue Int16} (hpct : p.wSetPct = some pct)
    (hmod : p.wSetMod = some .wMaxPct) : Complete (device.sendWSet p retryOnly).1 := by
  rw [complete_iff_set fun _ hr => not_mem_sendWSet hr]
  cases retryOnly <;>
    simp [Device.sendWSet, Written, writeRescaledIfSome, WSetMod.register, hpct, hmod]

/-- Without a set point nothing is enabled. -/
theorem complete_sendWSet_none (hpct : p.wSetPct = none) (hset : p.wSet = none)
    (hena : p.wSetEna = some .disabled) (hmod : p.wSetMod = none) :
    Complete (device.sendWSet p retryOnly).1 := by
  rw [complete_iff_set fun _ hr => not_mem_sendWSet hr]
  cases retryOnly <;>
    simp [Device.sendWSet, Written, writeRescaledIfSome, hpct, hset, hena, hmod]

/-- An import limit selects the percentage that was derived from it, or is left out. -/
theorem complete_sendWSet_import {wSet : ScaledValue Int32} (hpct : p.wSetPct = none)
    (hset : p.wSet = some wSet) (himp : p.wSetIsImportSiteLimit = true) :
    Complete (device.sendWSet p retryOnly).1 := by
  rw [complete_iff_set fun _ hr => not_mem_sendWSet hr]
  cases hrtg : device.readWMaxRtg p with
  | none => simp [Device.sendWSet, hpct, hset, himp, hrtg]
  | some rtg =>
    cases hderived : toWSetPctFromWSet wSet rtg (device.wSetPctSf.getD 0) true with
    | none => simp [Device.sendWSet, hpct, hset, himp, hrtg, hderived]
    | some derived =>
      simp [Device.sendWSet, Written, writeRescaledIfSome, WSetMod.register, hpct, hset, himp, hrtg,
        hderived]

/-- A target in watts is written with its mode, even while its percentage is pending. -/
theorem complete_sendWSet_target {wSet : ScaledValue Int32} (hpct : p.wSetPct = none)
    (hset : p.wSet = some wSet) (himp : p.wSetIsImportSiteLimit = false)
    (hmod : p.wSetMod = some .watts) : Complete (device.sendWSet p retryOnly).1 := by
  rw [complete_iff_set fun _ hr => not_mem_sendWSet hr]
  cases hrtg : device.readWMaxRtg p with
  | none =>
    cases retryOnly <;>
      simp [Device.sendWSet, Written, writeRescaledIfSome, WSetMod.register, hpct, hset, himp, hmod,
        hrtg]
  | some rtg =>
    cases retryOnly <;>
      simp [Device.sendWSet, Written, writeRescaledIfSome, WSetMod.register, hpct, hset, himp, hmod,
        hrtg]

/-- A set point is enabled together with its mode, and a mode is written together with the set
point it selects. -/
theorem complete_sendWSet (h : Translates mapSiteLimits base p) :
    Complete (device.sendWSet p retryOnly).1 := by
  have hpct := h.wSetPct
  have hmod := h.wSetMod
  have hena := h.wSetEna
  cases hfixed : base.opModFixedW with
  | some fixedW =>
    rw [hfixed] at hpct hmod
    refine complete_sendWSet_pct hpct (hmod.trans ?_)
    cases p.wSet <;> rfl
  | none =>
    rw [hfixed] at hpct hmod hena
    cases hset : p.wSet with
    | none =>
      rw [hset] at hmod hena
      exact complete_sendWSet_none hpct hset hena hmod
    | some wSet =>
      rw [hset] at hmod
      cases himp : p.wSetIsImportSiteLimit with
      | true => exact complete_sendWSet_import hpct hset himp
      | false => exact complete_sendWSet_target hpct hset himp hmod

theorem complete_nil : Complete [] := complete_of_no_switch fun _ hw => by cases hw

theorem complete_pendingLimitDerivations (h : Translates mapSiteLimits base p) :
    Complete (device.sendModel704PendingLimitDerivations p retryOnly).1 := by
  unfold Device.sendModel704PendingLimitDerivations
  by_cases h704 : 704 ∉ device.supportedModelIds
  · rw [if_pos h704]
    exact complete_nil
  · rw [if_neg h704]
    exact (complete_sendWMaxLimPct h).append (complete_sendWSet h)

theorem complete_sendNewParameters (h : Translates mapSiteLimits base p)
    (curveModels : Parameters → List (UInt16 × UInt16)) :
    Complete (device.sendNewParameters p curveModels).1 := by
  rw [sendNewParameters_eq]
  refine (((complete_model703 device p).append ?_).append
    (complete_pendingLimitDerivations h)).append (complete_curveModels _)
  split_ifs
  · exact complete_functions h
  · exact complete_nil

theorem complete_retryWrites (h : Translates mapSiteLimits base p) (pending : PendingApply)
    (later : List Device) : Complete (retryWrites p pending later) := by
  induction later generalizing pending with
  | nil => exact complete_nil
  | cons device later ih =>
    unfold retryWrites
    cases pending with
    | none => exact ih _
    | model704LimitDerivations => exact (complete_pendingLimitDerivations h).append (ih _)

/-- A full send of a translation and its retries, whatever the device reads at each, enable no
function without writing its mode and the value that this mode selects. -/
theorem enables_with_values {attrs : ControlAttributes}
    (h : toParameters mapSiteLimits attrs = .ok p) (device : Device)
    (curveModels : Parameters → List (UInt16 × UInt16)) (later : List Device) :
    Complete (sendWrites device p curveModels later) :=
  (complete_sendNewParameters (translates_of_ok h) curveModels).append
    (complete_retryWrites (translates_of_ok h) _ later)

/-- An import limit of 300 W. -/
def importLimit : ControlAttributes :=
  { inner := { derControlBase := { opModImpLimW := some ⟨300, .none⟩ } } }

/-- The translation of the import limit. -/
def importLimitParameters : Parameters :=
  { pfwInjEna := some .disabled, pfwAbsEna := some .disabled, varSetEna := some .disabled
    wMaxLimPctEna := some .disabled, wSetEna := some .enabled, wSet := some ⟨-300, 0⟩
    wSetMod := some .watts, wSetIsImportSiteLimit := true }

/-- The import limit is enabled by the retry that finds the rating of 1000 W, with its value. -/
theorem enables_with_values_importLimit :
    toParameters true importLimit = .ok importLimitParameters ∧
      Complete (sendWrites (.plain none) importLimitParameters (fun _ => [])
        [.plain (some 0), .plain (some 1000)]) ∧
      lastWrite .wSetEna (sendWrites (.plain none) importLimitParameters (fun _ => [])
        [.plain (some 0), .plain (some 1000)]) = some Ena.enabled :=
  ⟨rfl, @enables_with_values _ true importLimit rfl _ _ _, by decide⟩

end Sep2Bridge.Modbus
