import Sep2Bridge.Scheduler.Merge

/-!
# The realised interval of a control

A control that arrives for the first time is given its interval: two shifts are drawn, one for its
start and one for its duration, and the sums are taken in `i64` and `u32`.

**What is exact** (`InRange`). The magnitudes are not negative, since a draw from an empty range
panics; the sums stay in their types, whatever is drawn. The duration is cut off at zero but not
at the other end, where the cast drops its upper bits.

Main result: `realised_iff`.
-/

namespace Sep2Bridge

open Lib

namespace DERControl

/-- How far the start may be shifted; absent is zero. -/
def startMagnitude (c : DERControl) : Int := (c.randomizeStart.getD 0).toInt

/-- How far the duration may be shifted; absent is zero. -/
def durationMagnitude (c : DERControl) : Int := (c.randomizeDuration.getD 0).toInt

/-- Neither magnitude is negative, and every sum stays in its type whatever is drawn. -/
structure InRange (c : DERControl) : Prop where
  start : 0 ≤ c.startMagnitude
  duration : 0 ≤ c.durationMagnitude
  first : -0x8000000000000000 ≤ c.interval.start - c.startMagnitude
  longest : c.interval.duration.toNat + c.durationMagnitude < 0x100000000
  last : c.interval.start + c.startMagnitude +
    (c.interval.duration.toNat + c.durationMagnitude) < 0x8000000000000000

end DERControl

/-- The interval is the one the control declares, shifted by what was drawn and no more, and no
step to it wrapped around. -/
structure RealisedWithin (draw : Draw) (c : DERControl) (control : ScheduledControl) : Prop where
  start : |control.startTime - c.interval.start| ≤ |c.startMagnitude|
  duration : |(control.duration.toNat : Int) - c.interval.duration.toNat| ≤ |c.durationMagnitude|
  startExact : ∀ shift ∈ randomRange (-c.startMagnitude) c.startMagnitude draw.startSeed,
    control.startTime = c.interval.start + shift
  durationExact :
    ∀ shift ∈ randomRange (-c.durationMagnitude) c.durationMagnitude draw.durationSeed,
      (control.duration.toNat : Int) = max 0 (c.interval.duration.toNat + shift)
  endTime : control.endTime = control.startTime + control.duration.toNat

/-! ## Draws -/

theorem randomRange_eq_none {r : Int} (h : r < 0) (seed : Nat) : randomRange (-r) r seed = none :=
  if_neg (by omega)

/-- A draw is within the magnitude. -/
theorem randomRange_bounds {r : Int} (h : 0 ≤ r) (seed : Nat) :
    ∃ shift, randomRange (-r) r seed = some shift ∧ -r ≤ shift ∧ shift ≤ r := by
  have hlo : 0 ≤ (seed : Int) % (r - -r + 1) := Int.emod_nonneg _ (by omega)
  have hhi : (seed : Int) % (r - -r + 1) < r - -r + 1 := Int.emod_lt_of_pos _ (by omega)
  exact ⟨_, if_pos (by omega), by omega, by omega⟩

/-- Both ends of the range can be drawn. -/
theorem randomRange_lowest {r : Int} (h : 0 ≤ r) : randomRange (-r) r 0 = some (-r) := by
  rw [randomRange, if_pos (by omega)]
  simp

theorem randomRange_highest {r : Int} (h : 0 ≤ r) :
    randomRange (-r) r (2 * r).toNat = some r := by
  have hseed : ((2 * r).toNat : Int) = 2 * r := Int.toNat_of_nonneg (by omega)
  rw [randomRange, if_pos (by omega), hseed, Int.emod_eq_of_lt (by omega) (by omega)]
  exact congrArg some (by omega)

/-! ## Sums -/

theorem wrapI64_eq_self {x : Int} (hlo : -0x8000000000000000 ≤ x) (hhi : x < 0x8000000000000000) :
    wrapI64 x = x :=
  Int.bmod_eq_of_le (by omega) (by omega)

/-- A sum that is exact is one that `i64` has. -/
theorem bounds_of_wrapI64 {x : Int} (h : wrapI64 x = x) :
    -0x8000000000000000 ≤ x ∧ x < 0x8000000000000000 := by
  rw [← h, wrapI64]
  have hlo := Int.le_bmod (x := x) (m := 0x10000000000000000) (by decide)
  have hhi := Int.bmod_lt (x := x) (m := 0x10000000000000000) (by decide)
  omega

/-! ## The realised interval -/

section Realise

variable {draw : Draw} {c : DERControl} {control : ScheduledControl}
  {startShift durationShift : Int}

theorem realise_eq
    (hs : randomRange (-c.startMagnitude) c.startMagnitude draw.startSeed = some startShift)
    (hd : randomRange (-c.durationMagnitude) c.durationMagnitude draw.durationSeed =
      some durationShift) :
    Sep2Model.realise draw c = some
      { derControl := c
        startTime := wrapI64 (c.interval.start + startShift)
        duration := UInt32.ofNat (c.interval.duration.toNat + durationShift).toNat } := by
  unfold DERControl.startMagnitude at hs
  unfold DERControl.durationMagnitude at hd
  simp only [Sep2Model.realise, hs, hd]
  rfl

/-- **In range, every draw gives the interval that it should.** -/
theorem realised_of_inRange (h : c.InRange) (draw : Draw) :
    ∃ control, Sep2Model.realise draw c = some control ∧ RealisedWithin draw c control := by
  obtain ⟨startShift, hs, hslo, hshi⟩ := randomRange_bounds h.start draw.startSeed
  obtain ⟨durationShift, hd, hdlo, hdhi⟩ := randomRange_bounds h.duration draw.durationSeed
  have hfirst := h.first
  have hlongest := h.longest
  have hlast := h.last
  have hstart : wrapI64 (c.interval.start + startShift) = c.interval.start + startShift :=
    wrapI64_eq_self (by omega) (by omega)
  have hduration : ((UInt32.ofNat (c.interval.duration.toNat + durationShift).toNat).toNat : Int) =
      max 0 (c.interval.duration.toNat + durationShift) := by
    rw [UInt32.toNat_ofNat_of_lt' (by simp only [UInt32.size]; omega)]
    omega
  have hrealise := realise_eq hs hd
  rw [hstart] at hrealise
  refine ⟨_, hrealise, ?_, ?_, ?_, ?_, ?_⟩
  · show |c.interval.start + startShift - c.interval.start| ≤ |c.startMagnitude|
    rw [abs_of_nonneg h.start, abs_le]
    constructor <;> omega
  · rw [hduration, abs_of_nonneg h.duration, abs_le]
    constructor <;> omega
  · intro shift hshift
    cases Option.some.inj (hs.symm.trans hshift)
    rfl
  · intro shift hshift
    cases Option.some.inj (hd.symm.trans hshift)
    exact hduration
  · rw [ScheduledControl.endTime, hduration]
    show wrapI64 (c.interval.start + startShift + _) = c.interval.start + startShift + _
    exact wrapI64_eq_self (by omega) (by omega)

/-- The draws at the ends of the ranges need the whole range. -/
theorem inRange_of_realised (h : ∀ draw, ∃ control, Sep2Model.realise draw c = some control ∧
    RealisedWithin draw c control) : c.InRange := by
  have hstart : 0 ≤ c.startMagnitude := by
    by_contra hneg
    obtain ⟨control, hcontrol, -⟩ := h ⟨0, 0, 0⟩
    obtain ⟨shift, hshift, -⟩ := Option.bind_eq_some_iff.1 hcontrol
    have hnone : randomRange (-c.startMagnitude) c.startMagnitude 0 = none :=
      randomRange_eq_none (by omega) 0
    cases hnone.symm.trans hshift
  have hduration : 0 ≤ c.durationMagnitude := by
    by_contra hneg
    obtain ⟨control, hcontrol, -⟩ := h ⟨0, 0, 0⟩
    obtain ⟨_, -, hcontrol⟩ := Option.bind_eq_some_iff.1 hcontrol
    obtain ⟨shift, hshift, -⟩ := Option.bind_eq_some_iff.1 hcontrol
    have hnone : randomRange (-c.durationMagnitude) c.durationMagnitude 0 = none :=
      randomRange_eq_none (by omega) 0
    cases hnone.symm.trans hshift
  have hlowest : -0x8000000000000000 ≤ c.interval.start - c.startMagnitude := by
    obtain ⟨control, hcontrol, hwithin⟩ := h ⟨0, 0, 0⟩
    have hs := randomRange_lowest hstart
    obtain ⟨durationShift, hd, -⟩ := randomRange_bounds hduration 0
    have hrealise := @realise_eq ⟨0, 0, 0⟩ _ _ _ hs hd
    cases hrealise.symm.trans hcontrol
    exact (bounds_of_wrapI64 (hwithin.startExact _ hs)).1
  obtain ⟨control, hcontrol, hwithin⟩ :=
    h ⟨(2 * c.startMagnitude).toNat, (2 * c.durationMagnitude).toNat, 0⟩
  have hs := randomRange_highest hstart
  have hd := randomRange_highest hduration
  have hlongest := hwithin.durationExact _ hd
  have hbound := control.duration.toNat_lt
  have hend := hwithin.endTime
  rw [ScheduledControl.endTime] at hend
  have hlast := (bounds_of_wrapI64 hend).2
  rw [hwithin.startExact _ hs, hlongest] at hlast
  exact ⟨hstart, hduration, hlowest, by omega, by omega⟩

/-- **The interval of a new control is exact whatever is drawn, if and only if it is in range.** -/
theorem realised_iff :
    (∀ (m : Sep2Model) (draw : Draw), m.controls.get? c.mrid = none → ∃ control es,
      m.setDerControl draw c = some ({ m with controls := m.controls.insert c.mrid control }, es) ∧
        RealisedWithin draw c control) ↔ c.InRange := by
  constructor
  · intro h
    refine inRange_of_realised fun draw => ?_
    obtain ⟨control, es, hset, hwithin⟩ := h {} draw rfl
    obtain ⟨stored, -, hinsert, hcases⟩ := Sep2Model.setDerControl_cases hset
    obtain ⟨_, hprior, -⟩ | ⟨-, hrealise, -⟩ := hcases
    · cases hprior
    · have hsame : (HashMap.insert ∅ c.mrid control).get? c.mrid =
          (HashMap.insert ∅ c.mrid stored).get? c.mrid :=
        congrArg (fun m : Sep2Model => m.controls.get? c.mrid) hinsert
      rw [HashMap.get?_insert_self, HashMap.get?_insert_self] at hsame
      cases hsame
      exact ⟨control, hrealise, hwithin⟩
  · intro h m draw hvacant
    obtain ⟨control, hcontrol, hwithin⟩ := realised_of_inRange h draw
    refine ⟨control, Sep2Model.firstEvents draw.now control, ?_, hwithin⟩
    simp only [Sep2Model.setDerControl, hvacant, hcontrol]
    rfl

end Realise

/-- A negative magnitude panics, and a duration near its upper bound loses its upper bits: the
control is over at once. -/
theorem realise_out_of_range :
    ({} : Sep2Model).setDerControl ⟨0, 0, 0⟩ { mrid := 3, randomizeStart := some (-1) } = none ∧
      ∃ control, Sep2Model.realise ⟨0, 2, 0⟩
        { mrid := 3, interval := ⟨0, 0xffffffff⟩, randomizeDuration := some 1 } = some control ∧
        control.duration = 0 := by
  refine ⟨by decide, _, rfl, ?_⟩
  decide

end Sep2Bridge
