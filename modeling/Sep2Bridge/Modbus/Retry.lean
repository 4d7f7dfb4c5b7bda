import Sep2Bridge.Modbus.Send

/-!
# Retries until the capacity is known

A percentage can be derived from a limit in watts only once model 702 gives the rated power. Until
then a full send leaves such a limit out and reports that it is deferred, and the loop retries.
`recovers_with_capacity` says that nothing is lost by this: the retry that first reads a rating
makes up for what was left out.

The export limit is left out as a whole, and so is an import limit of the site. The hard case is
an explicit target in watts: its enable, mode and watts are written at once and only the
percentage is deferred, so the retry must write the percentage and nothing else.
-/

namespace Sep2Bridge.Modbus

open Lib

namespace Device

variable (device : Device) (p : Parameters)

/-- The device with another reading of `W_MAX_RTG`. -/
def withRating (rating : Option UInt16) : Device := { device with wMaxRtg := rating }

/-- The registers after the loop has gone round at each of the ratings, and what is then pending. -/
def retries (ratings : List (Option UInt16)) (s : Registers × PendingApply) :
    Registers × PendingApply :=
  ratings.foldl (fun s rating => (device.withRating rating).retry p s) s

end Device

/-- A rating from which nothing can be derived. -/
def Unavailable (rating : Option UInt16) : Prop := rating = none ∨ rating = some 0

variable {device : Device} {p : Parameters} {rating : Option UInt16} {c : UInt16} {retryOnly : Bool}

/-! ## What can be derived -/

theorem scaledPercentRaw_isSome {value rating : Int} {valueSf ratingSf pctSf : Int16}
    {roundTowardZero : Bool} (h : 0 < rating) :
    (scaledPercentRaw value valueSf rating ratingSf pctSf roundTowardZero).isSome = true := by
  rw [scaledPercentRaw, if_neg (Int.not_le.2 h)]
  rfl

theorem toNat_pos {x : UInt16} (h : x ≠ 0) : (0 : Int) < x.toNat := by
  have hne : x.toNat ≠ 0 := fun h0 => h (UInt16.toNat_inj.1 h0)
  omega

theorem toWMaxLimPct_isSome (wMaxLim : ScaledValue UInt32) {rtg : ScaledValue UInt16}
    (pctSf : Int16) (h : rtg.value ≠ 0) :
    (toWMaxLimPctFromWMaxLim wMaxLim rtg pctSf).isSome = true := by
  rw [toWMaxLimPctFromWMaxLim, if_neg h, Option.isSome_map]
  exact scaledPercentRaw_isSome (toNat_pos h)

theorem toWSetPct_isSome (wSet : ScaledValue Int32) {rtg : ScaledValue UInt16} (pctSf : Int16)
    (roundTowardZero : Bool) (h : rtg.value ≠ 0) :
    (toWSetPctFromWSet wSet rtg pctSf roundTowardZero).isSome = true := by
  rw [toWSetPctFromWSet, if_neg h, Option.isSome_map]
  exact scaledPercentRaw_isSome (toNat_pos h)

/-- An unavailable rating that reads at all reads zero. -/
theorem value_readWMaxRtg (h : Unavailable rating) {rtg : ScaledValue UInt16}
    (hrtg : (device.withRating rating).readWMaxRtg p = some rtg) : rtg.value = 0 := by
  unfold Device.readWMaxRtg at hrtg
  split_ifs at hrtg
  obtain rfl | rfl := h
  · cases hrtg
  · cases hrtg; rfl

/-- A non-zero rating is read as such, or not at all: model 702 may be missing. -/
theorem readWMaxRtg_rated (hc : c ≠ 0) :
    (∀ rtg, (device.withRating (some c)).readWMaxRtg p = some rtg → rtg.value = 0) ∨
      ∃ rtg : ScaledValue UInt16, rtg.value ≠ 0 ∧
        (device.withRating (some c)).readWMaxRtg p = some rtg := by
  unfold Device.readWMaxRtg
  by_cases h : (p.wMaxLim.isSome || (p.wSetPct.isNone && p.wSet.isSome)) = true ∧
      702 ∈ device.supportedModelIds
  · right
    exact ⟨⟨c, device.wSf.getD 0⟩, hc, if_pos h⟩
  · left
    intro rtg hrtg
    cases (if_neg h).symm.trans hrtg

/-! ## The export limit -/

/-- Without a rating an export limit is left out as a whole. -/
theorem sendWMaxLimPct_deferred {wMaxLim : ScaledValue UInt32} (hlim : p.wMaxLim = some wMaxLim)
    (hrtg : ∀ rtg, device.readWMaxRtg p = some rtg → rtg.value = 0) :
    device.sendWMaxLimPct p retryOnly = ([], ⟨true⟩) := by
  cases hr : device.readWMaxRtg p with
  | none => simp [Device.sendWMaxLimPct, hlim, hr]
  | some rtg =>
    have hzero : rtg.value = 0 := hrtg rtg hr
    simp [Device.sendWMaxLimPct, hlim, hr, toWMaxLimPctFromWMaxLim, hzero]

/-- With a rating the retry writes what the full send writes. -/
theorem sendWMaxLimPct_rated {wMaxLim : ScaledValue UInt32} {rtg : ScaledValue UInt16}
    (hlim : p.wMaxLim = some wMaxLim) (hrtg : device.readWMaxRtg p = some rtg)
    (hne : rtg.value ≠ 0) :
    device.sendWMaxLimPct p true = device.sendWMaxLimPct p false ∧
      (device.sendWMaxLimPct p false).2 = ⟨false⟩ := by
  obtain ⟨pct, hpct⟩ := Option.isSome_iff_exists.1
    (toWMaxLimPct_isSome wMaxLim (device.wMaxLimPctSf.getD 0) hne)
  simp [Device.sendWMaxLimPct, hlim, hrtg, hpct]

/-- Without an export limit a retry writes nothing. -/
theorem sendWMaxLimPct_none (hlim : p.wMaxLim = none) :
    device.sendWMaxLimPct p true = ([], ⟨false⟩) ∧
      (device.sendWMaxLimPct p false).2 = ⟨false⟩ := by
  simp [Device.sendWMaxLimPct, hlim]

theorem sendWMaxLimPct_withRating (hlim : p.wMaxLim = none) :
    (device.withRating rating).sendWMaxLimPct p false = device.sendWMaxLimPct p false := by
  simp [Device.sendWMaxLimPct, hlim, Device.withRating]

/-! ## The set point -/

/-- A set point that needs no derivation is written once and for all. -/
theorem sendWSet_given (hgiven : p.wSetPct.isSome = true ∨ p.wSet = none) :
    device.sendWSet p true = ([], ⟨false⟩) ∧ (device.sendWSet p false).2 = ⟨false⟩ := by
  cases hpct : p.wSetPct with
  | some wSetPct => simp [Device.sendWSet, hpct]
  | none =>
    have hset : p.wSet = none := by simpa [hpct] using hgiven
    simp [Device.sendWSet, hpct, hset]

theorem sendWSet_withRating (hgiven : p.wSetPct.isSome = true ∨ p.wSet = none) :
    (device.withRating rating).sendWSet p false = device.sendWSet p false := by
  cases hpct : p.wSetPct with
  | some wSetPct => simp [Device.sendWSet, hpct, Device.withRating]
  | none =>
    have hset : p.wSet = none := by simpa [hpct] using hgiven
    simp [Device.sendWSet, hpct, hset, Device.withRating]

/-- Without a rating an import limit is left out as a whole. -/
theorem sendWSet_import_deferred {wSet : ScaledValue Int32} (hpct : p.wSetPct = none)
    (hset : p.wSet = some wSet) (himp : p.wSetIsImportSiteLimit = true)
    (hrtg : ∀ rtg, device.readWMaxRtg p = some rtg → rtg.value = 0) :
    device.sendWSet p retryOnly = ([], ⟨true⟩) := by
  cases hr : device.readWMaxRtg p with
  | none => simp [Device.sendWSet, hpct, hset, himp, hr]
  | some rtg =>
    have hzero : rtg.value = 0 := hrtg rtg hr
    simp [Device.sendWSet, hpct, hset, himp, hr, toWSetPctFromWSet, hzero]

/-- With a rating the retry of an import limit writes what the full send writes. -/
theorem sendWSet_import_rated {wSet : ScaledValue Int32} {rtg : ScaledValue UInt16}
    (hpct : p.wSetPct = none) (hset : p.wSet = some wSet) (himp : p.wSetIsImportSiteLimit = true)
    (hrtg : device.readWMaxRtg p = some rtg) (hne : rtg.value ≠ 0) :
    device.sendWSet p true = device.sendWSet p false ∧ (device.sendWSet p false).2 = ⟨false⟩ := by
  obtain ⟨pct, hderived⟩ := Option.isSome_iff_exists.1
    (toWSetPct_isSome wSet (device.wSetPctSf.getD 0) true hne)
  simp [Device.sendWSet, hpct, hset, himp, hrtg, hderived]

/-- What a full send of a target in watts writes while the percentage is pending. -/
def targetWrites (device : Device) (p : Parameters) : Writes :=
  writeIfSome .wSetEna p.wSetEna ++
    writeRescaledIfSome .wSet p.wSet (device.wSetSf.getD 0) ++
    writeIfSome .wSetMod p.wSetMod

/-- Without a rating only the percentage of a target in watts is left out. -/
theorem sendWSet_target_deferred {wSet : ScaledValue Int32} (hpct : p.wSetPct = none)
    (hset : p.wSet = some wSet) (himp : p.wSetIsImportSiteLimit = false)
    (hrtg : ∀ rtg, device.readWMaxRtg p = some rtg → rtg.value = 0) :
    device.sendWSet p true = ([], ⟨true⟩) ∧
      device.sendWSet p false = (targetWrites device p, ⟨true⟩) := by
  cases hr : device.readWMaxRtg p with
  | none => simp [Device.sendWSet, hpct, hset, himp, hr, targetWrites]
  | some rtg =>
    have hzero : rtg.value = 0 := hrtg rtg hr
    simp [Device.sendWSet, hpct, hset, himp, hr, toWSetPctFromWSet, hzero, targetWrites,
      writeRescaledIfSome, writeIfSome]

/-- With a rating the retry writes the percentage alone, and the full send the same one. -/
theorem sendWSet_target_rated {wSet : ScaledValue Int32} {rtg : ScaledValue UInt16}
    (hpct : p.wSetPct = none) (hset : p.wSet = some wSet) (himp : p.wSetIsImportSiteLimit = false)
    (hrtg : device.readWMaxRtg p = some rtg) (hne : rtg.value ≠ 0) :
    ∃ pct : Writes, (∀ r, r ≠ .wSetPct → lastWrite r pct = none) ∧
      device.sendWSet p true = (pct, ⟨false⟩) ∧
      device.sendWSet p false =
        (writeIfSome .wSetEna p.wSetEna ++ pct ++
          writeRescaledIfSome .wSet p.wSet (device.wSetSf.getD 0) ++
          writeIfSome .wSetMod p.wSetMod, ⟨false⟩) := by
  obtain ⟨pct, hderived⟩ := Option.isSome_iff_exists.1
    (toWSetPct_isSome wSet (device.wSetPctSf.getD 0) false hne)
  refine ⟨writeRescaledIfSome .wSetPct (some pct) (device.wSetPctSf.getD 0), ?_, ?_, ?_⟩
  · intro r hr
    exact lastWrite_writeIfSome_ne (Ne.symm hr) _
  · simp [Device.sendWSet, hpct, hset, himp, hrtg, hderived]
  · simp [Device.sendWSet, hpct, hset, himp, hrtg, hderived]

/-! ## What makes a sender recover -/

/-- Retries of a sender, over the ratings it is made with, make up for what it left out. -/
structure Recovers (sender : Option UInt16 → Bool → Writes × ApplyStatus) : Prop where
  /-- Until there is a rating a retry writes nothing and what was deferred stays so. -/
  waits : ∀ rating rating', Unavailable rating → Unavailable rating' →
    sender rating true = ([], (sender rating' false).2)
  /-- If nothing was deferred there is nothing left to write. -/
  done : ∀ rating c, Unavailable rating → c ≠ 0 → (sender rating false).2.deferred = false →
    (sender (some c) true).1 = []
  /-- The first retry with a rating makes up for the full send without one. -/
  recovers : ∀ rating c, Unavailable rating → c ≠ 0 → ∀ r,
    lastWrite r ((sender rating false).1 ++ (sender (some c) true).1) =
      lastWrite r (sender (some c) false).1

/-- A sender in which the rating plays no part. -/
theorem Recovers.of_unrated {sender : Option UInt16 → Bool → Writes × ApplyStatus}
    (hretry : ∀ rating, sender rating true = ([], ⟨false⟩))
    (hdone : ∀ rating, (sender rating false).2 = ⟨false⟩)
    (hsame : ∀ rating rating', sender rating false = sender rating' false) : Recovers sender where
  waits rating rating' _ _ := by rw [hretry, hdone]
  done rating c _ _ _ := by rw [hretry]
  recovers rating c _ _ r := by rw [hretry, hsame rating (some c), List.append_nil]

/-- A sender that leaves everything out until there is a rating. -/
theorem Recovers.of_whole {sender : Option UInt16 → Bool → Writes × ApplyStatus}
    (hdeferred : ∀ rating retryOnly, Unavailable rating → sender rating retryOnly = ([], ⟨true⟩))
    (hrated : ∀ c, c ≠ 0 → sender (some c) true = sender (some c) false) : Recovers sender where
  waits rating rating' h h' := by rw [hdeferred rating true h, hdeferred rating' false h']
  done rating c h _ hdone := by
    rw [hdeferred rating false h] at hdone
    cases hdone
  recovers rating c h hc r := by
    rw [hdeferred rating false h, List.nil_append, hrated c hc]

theorem recovers_sendWMaxLimPct (device : Device) (p : Parameters) :
    Recovers fun rating => (device.withRating rating).sendWMaxLimPct p := by
  cases hlim : p.wMaxLim with
  | none =>
    refine .of_unrated (fun rating => ?_) (fun rating => ?_) fun rating rating' => ?_
    · exact (sendWMaxLimPct_none hlim).1
    · exact (sendWMaxLimPct_none hlim).2
    · rw [sendWMaxLimPct_withRating hlim, sendWMaxLimPct_withRating hlim]
  | some wMaxLim =>
    refine .of_whole (fun rating retryOnly h => ?_) fun c hc => ?_
    · exact sendWMaxLimPct_deferred hlim fun rtg => value_readWMaxRtg h
    · rcases readWMaxRtg_rated hc with hzero | ⟨rtg, hne, hrtg⟩
      · rw [sendWMaxLimPct_deferred hlim hzero, sendWMaxLimPct_deferred hlim hzero]
      · exact (sendWMaxLimPct_rated hlim hrtg hne).1

/-- The retry of a target in watts writes the percentage alone. -/
theorem recovers_sendWSet_target {device : Device} {p : Parameters} {wSet : ScaledValue Int32}
    (hpct : p.wSetPct = none) (hset : p.wSet = some wSet)
    (himp : p.wSetIsImportSiteLimit = false) :
    Recovers fun rating => (device.withRating rating).sendWSet p := by
  have hdeferred : ∀ rating, Unavailable rating →
      (device.withRating rating).sendWSet p true = ([], ⟨true⟩) ∧
        (device.withRating rating).sendWSet p false = (targetWrites device p, ⟨true⟩) :=
    fun rating h => sendWSet_target_deferred hpct hset himp fun rtg => value_readWMaxRtg h
  constructor
  · intro rating rating' h h'
    rw [(hdeferred rating h).1, (hdeferred rating' h').2]
  · intro rating c h _ hdone
    rw [(hdeferred rating h).2] at hdone
    cases hdone
  · intro rating c h hc r
    rw [(hdeferred rating h).2]
    rcases readWMaxRtg_rated hc with hzero | ⟨rtg, hne, hrtg⟩
    · obtain ⟨hretry, hfull⟩ := sendWSet_target_deferred hpct hset himp hzero
      rw [hretry, hfull, List.append_nil]
      rfl
    · obtain ⟨pct, hpctOnly, hretry, hfull⟩ := sendWSet_target_rated hpct hset himp hrtg hne
      rw [hretry, hfull]
      -- The percentage now comes after the watts and the mode: another order, other registers.
      by_cases hr : r = .wSetPct
      · subst hr
        simp [targetWrites, writeRescaledIfSome]
      · simp [targetWrites, hpctOnly r hr]
        rfl

theorem recovers_sendWSet_given {device : Device} {p : Parameters}
    (hgiven : p.wSetPct.isSome = true ∨ p.wSet = none) :
    Recovers fun rating => (device.withRating rating).sendWSet p := by
  refine .of_unrated (fun rating => ?_) (fun rating => ?_) fun rating rating' => ?_
  · exact (sendWSet_given hgiven).1
  · exact (sendWSet_given hgiven).2
  · rw [sendWSet_withRating hgiven, sendWSet_withRating hgiven]

theorem recovers_sendWSet (device : Device) (p : Parameters) :
    Recovers fun rating => (device.withRating rating).sendWSet p := by
  cases hpct : p.wSetPct with
  | some wSetPct => exact recovers_sendWSet_given (.inl (by rw [hpct]; rfl))
  | none =>
    cases hset : p.wSet with
    | none => exact recovers_sendWSet_given (.inr hset)
    | some wSet =>
      cases himp : p.wSetIsImportSiteLimit with
      | false => exact recovers_sendWSet_target hpct hset himp
      | true =>
        refine .of_whole (fun rating retryOnly h => ?_) fun c hc => ?_
        · exact sendWSet_import_deferred hpct hset himp fun rtg => value_readWMaxRtg h
        · rcases readWMaxRtg_rated hc with hzero | ⟨rtg, hne, hrtg⟩
          · rw [sendWSet_import_deferred hpct hset himp hzero,
              sendWSet_import_deferred hpct hset himp hzero]
          · exact (sendWSet_import_rated hpct hset himp hrtg hne).1

/-! ## Both limits together -/

/-- Two senders with no register in common recover side by side. -/
theorem Recovers.append {s₁ s₂ : Option UInt16 → Bool → Writes × ApplyStatus} (h₁ : Recovers s₁)
    (h₂ : Recovers s₂)
    (hdisjoint : ∀ r, (∀ rating b, lastWrite r (s₁ rating b).1 = none) ∨
      ∀ rating b, lastWrite r (s₂ rating b).1 = none) :
    Recovers fun rating b =>
      ((s₁ rating b).1 ++ (s₂ rating b).1,
        ⟨(s₁ rating b).2.deferred || (s₂ rating b).2.deferred⟩) := by
  constructor
  · intro rating rating' h h'
    simp only [h₁.waits rating rating' h h', h₂.waits rating rating' h h', List.append_nil]
  · intro rating c h hc hdone
    have hboth : (s₁ rating false).2.deferred = false ∧ (s₂ rating false).2.deferred = false := by
      simpa using hdone
    simp only [h₁.done rating c h hc hboth.1, h₂.done rating c h hc hboth.2, List.append_nil]
  · intro rating c h hc r
    have hr₁ := h₁.recovers rating c h hc r
    have hr₂ := h₂.recovers rating c h hc r
    simp only [lastWrite_append] at hr₁ hr₂ ⊢
    rw [← hr₁, ← hr₂]
    rcases hdisjoint r with hnone | hnone
    · simp only [hnone, Option.or_none]
    · simp only [hnone, Option.none_or]

theorem recovers_pendingLimitDerivations (device : Device) (p : Parameters) :
    Recovers fun rating => (device.withRating rating).sendModel704PendingLimitDerivations p := by
  by_cases h704 : 704 ∈ device.supportedModelIds
  · have hboth := (recovers_sendWMaxLimPct device p).append (recovers_sendWSet device p) fun r => by
      by_cases hr : r ∈ limitPoints
      · exact .inr fun rating b => lastWrite_sendWSet (not_mem_setPoints hr)
      · exact .inl fun rating b => lastWrite_sendWMaxLimPct hr
    have hsend : (fun rating => (device.withRating rating).sendModel704PendingLimitDerivations p) =
        _ := funext₂ fun rating b => if_neg (not_not.2 h704)
    rw [hsend]
    exact hboth
  · have hsend : ∀ rating b, (device.withRating rating).sendModel704PendingLimitDerivations p b =
        ([], ⟨false⟩) := fun rating b => if_pos h704
    refine .of_unrated (fun rating => hsend rating true) (fun rating => ?_) fun rating rating' => ?_
    · rw [hsend]
    · rw [hsend, hsend]

/-! ## A full send and its retries -/

section Send

variable {curveModels : Parameters → List (UInt16 × UInt16)} {d : Registers}

theorem recovers_sendNewParameters (device : Device) (p : Parameters)
    (curveModels : Parameters → List (UInt16 × UInt16)) {c : UInt16} (hrating : Unavailable rating)
    (hc : c ≠ 0) (r : Point) :
    lastWrite r (((device.withRating rating).sendNewParameters p curveModels).1 ++
        ((device.withRating (some c)).sendModel704PendingLimitDerivations p true).1) =
      lastWrite r ((device.withRating (some c)).sendNewParameters p curveModels).1 := by
  have hlimits := (recovers_pendingLimitDerivations device p).recovers rating c hrating hc r
  simp only [lastWrite_append] at hlimits
  simp only [sendNewParameters_eq, lastWrite_append]
  by_cases hr : ∃ addr, r = .curveModels addr
  · obtain ⟨addr, rfl⟩ := hr
    have hnone : ∀ (device : Device) b, lastWrite (.curveModels addr)
        (device.sendModel704PendingLimitDerivations p b).1 = none := fun device b =>
      lastWrite_pendingLimitDerivations (by simp [limitPoints]) (by simp [setPoints])
    simp only [hnone, Option.none_or]
    rfl
  · rw [lastWrite_curveModels (fun addr h => hr ⟨addr, h⟩), Option.none_or, Option.none_or,
      ← hlimits, Option.or_assoc]
    rfl

/-- Going round without a rating changes nothing. -/
theorem retries_unavailable {ratings : List (Option UInt16)} (hrating : Unavailable rating)
    (hratings : ∀ rating' ∈ ratings, Unavailable rating') :
    device.retries p ratings ((device.withRating rating).send p curveModels d) =
      (device.withRating rating).send p curveModels d := by
  have hstatus : ((device.withRating rating).sendNewParameters p curveModels).2 =
      ((device.withRating rating).sendModel704PendingLimitDerivations p false).2 := by
    rw [sendNewParameters_eq]
  have hround : ∀ rating', Unavailable rating' →
      (device.withRating rating').retry p ((device.withRating rating).send p curveModels d) =
        (device.withRating rating).send p curveModels d := by
    intro rating' hrating'
    have hwaits := (recovers_pendingLimitDerivations device p).waits rating' rating hrating' hrating
    cases hdeferred : ((device.withRating rating).sendNewParameters p curveModels).2.deferred with
    | false =>
      simp only [Device.send, Device.retry, PendingApply.fromApplyStatus_false hdeferred,
        Device.retryPending]
    | true =>
      simp only [Device.send, Device.retry, PendingApply.fromApplyStatus_true hdeferred,
        Device.retryPending, hwaits, ← hstatus, writeAll_nil]
  induction ratings with
  | nil => rfl
  | cons rating' ratings ih =>
    rw [Device.retries, List.foldl_cons, hround rating' (hratings rating' List.mem_cons_self)]
    exact ih fun r hr => hratings r (List.mem_cons_of_mem _ hr)

/-- **Retries lose nothing.** A full send without a rating, any number of rounds without one, and
a round with the rating `c` leave what one full send with the rating `c` leaves. -/
theorem recovers_with_capacity (device : Device) (p : Parameters)
    (curveModels : Parameters → List (UInt16 × UInt16)) (d : Registers)
    {ratings : List (Option UInt16)} (hrating : Unavailable rating)
    (hratings : ∀ rating' ∈ ratings, Unavailable rating') (hc : c ≠ 0) :
    ((device.withRating (some c)).retry p
        (device.retries p ratings ((device.withRating rating).send p curveModels d))).1 =
          ((device.withRating (some c)).send p curveModels d).1 ∧
      (∀ rating' pending retry, Unavailable rating' →
        (device.withRating rating').retryPending p pending = some retry → retry.1 = []) ∧
      ∀ rating' status,
        (device.withRating rating').retryPending p (.fromApplyStatus status) ≠ none →
          status.deferred = true := by
  have hlimits := recovers_pendingLimitDerivations device p
  refine ⟨?_, ?_, ?_⟩
  · rw [retries_unavailable hrating hratings]
    have hsame := recovers_sendNewParameters device p curveModels hrating hc
    cases hdeferred : ((device.withRating rating).sendNewParameters p curveModels).2.deferred with
    | true =>
      simp only [Device.send, Device.retry, PendingApply.fromApplyStatus_true hdeferred,
        Device.retryPending, ← writeAll_append]
      exact writeAll_congr hsame
    | false =>
      have hstatus := hdeferred
      rw [sendNewParameters_eq] at hstatus
      simp only [hlimits.done rating c hrating hc hstatus, List.append_nil] at hsame
      simp only [Device.send, Device.retry, PendingApply.fromApplyStatus_false hdeferred,
        Device.retryPending]
      exact writeAll_congr hsame
  · intro rating' pending retry hrating' hretry
    cases pending with
    | none => cases hretry
    | model704LimitDerivations =>
      cases hretry
      rw [hlimits.waits rating' rating hrating' hrating]
  · intro rating' status hretry
    cases hdeferred : status.deferred with
    | true => rfl
    | false =>
      rw [PendingApply.fromApplyStatus_false hdeferred] at hretry
      exact absurd rfl hretry

/-- An export limit of 400 W and an import limit of 300 W, as they are translated. -/
def siteLimits : Parameters :=
  { wMaxLimPctEna := some .disabled, wMaxLim := some ⟨400, 0⟩
    wSetEna := some .enabled, wSet := some ⟨-300, 0⟩, wSetMod := some .watts
    wSetIsImportSiteLimit := true }

/-- Both limits are applied once the rating of 1000 W reads. -/
theorem recovers_with_capacity_siteLimits :
    let device := Device.plain none
    let d := ((device.withRating (some 1000)).retry siteLimits
      (device.retries siteLimits [some 0, none]
        ((device.withRating none).send siteLimits (fun _ => []) .initial))).1
    d = ((device.withRating (some 1000)).send siteLimits (fun _ => []) .initial).1 ∧
      d .wMaxLimPctEna = .enabled ∧ d .wMaxLimPct = (40 : UInt16) ∧
      d .wSetEna = .enabled ∧ d .wSetPct = (-30 : Int16) ∧ d .wSetMod = .wMaxPct := by
  have hratings : ∀ rating ∈ [some 0, none], Unavailable rating := by
    intro rating hrating
    simp only [List.mem_cons, List.not_mem_nil, or_false] at hrating
    exact hrating.symm
  exact ⟨(recovers_with_capacity (.plain none) siteLimits (fun _ => []) .initial (.inl rfl)
    hratings (by decide)).1, by decide, by decide, by decide, by decide, by decide⟩

end Send

end Sep2Bridge.Modbus
