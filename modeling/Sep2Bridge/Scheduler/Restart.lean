import Sep2Bridge.Scheduler.InSync

/-!
# Restarts

The model survives a restart and the loop's other locals do not. In particular the loop forgets
what it told the device: it starts from the default parameters and publishes only differences.

Within a lifetime, the last broadcast is what the model gave at the last reading
(`broadcast_of_exec`), provided the first reading of each lifetime finds something in force or
nothing to withdraw. `expired_control_stays`: a control that ends while the process is down is
never withdrawn.
-/

namespace Sep2Bridge

open Lib

namespace Scheduler

/-- A step of a lifetime, or the end of it and the start of the next. The restored model is the
persisted one; its curve table may be iterated in another order. -/
inductive LifeLabel
  | task (l : TaskLabel)
  | restart (curveOrder : List (MRIDType × DERCurve))

/-- A new process loads what was persisted. What was broadcast before stays broadcast. -/
def restart (curveOrder : List (MRIDType × DERCurve)) (s : Scheduler) : Scheduler :=
  { start s.clock { s.persisted with curves := s.persisted.curves.reorder curveOrder } with
    outputCh := s.outputCh
    persisted := s.persisted }

def lifeStep (lfdi : HexBinary160) (s : Scheduler) : LifeLabel → Option Scheduler
  | .task l => s.step lfdi l
  | .restart curveOrder => some (s.restart curveOrder)

/-- Some source defines some attribute. -/
def SomethingInForce (m : Sep2Model) (lfdi : HexBinary160) (now : DateTime) : Prop :=
  ∃ s a, Source m lfdi now.timestamp s ∧ (s.2.attribute a).isSome = true

/-- At the first reading of a lifetime, something is in force, or what the device was last told is
the default. -/
def NothingToWithdraw (lfdi : HexBinary160) (s : Scheduler) : LifeLabel → Prop
  | .task .schedule => s.lastReading = none →
    lastParameters s.outputCh = {} ∨ SomethingInForce s.model lfdi s.clock
  | _ => True

end Scheduler

/-- Where a source defines an attribute, the parameters are not the default. -/
theorem calcParameters_ne_default {m : Sep2Model} {lfdi : HexBinary160} {now : DateTime}
    (h : Scheduler.SomethingInForce m lfdi now) : calcParameters m lfdi now.timestamp ≠ {} := by
  obtain ⟨s, a, hs, ha⟩ := h
  intro hdefault
  have hget := get_calcParameters m lfdi now.timestamp a
  rw [hdefault, show ({} : ControlAttributes).inner = {} from rfl, get_default] at hget
  have hnone := List.findSome?_eq_none_iff.1 hget.symm s
    ((mem_rankedSources m lfdi now.timestamp).2 hs)
  simp [hnone] at ha

namespace Scheduler

variable {lfdi : HexBinary160} {s t : Scheduler}

/-- Once the loop has read the clock, what it remembers is what the device was last told, in
whichever lifetime. -/
structure Remembers (lfdi : HexBinary160) (s : Scheduler) : Prop where
  responses : s.Responses
  calculated : Calculated lfdi s
  unread : s.lastReading = none → s.priorParameters = {}
  told : s.lastReading ≠ none → lastParameters s.outputCh = s.priorParameters

theorem Remembers.task {l : TaskLabel} (hs : Remembers lfdi s)
    (hok : NothingToWithdraw lfdi s (.task l)) (h : s.step lfdi l = some t) :
    Remembers lfdi t := by
  refine ⟨hs.responses.step h, hs.calculated.step h, ?_, ?_⟩
  · intro hread
    by_cases hl : l = .schedule
    · subst hl
      obtain ⟨-, _, _, -, rfl⟩ := schedule_cases h
      cases hread
    · obtain ⟨-, hprior, hreading⟩ := lastParameters_step hs.responses hl h
      exact hprior.trans (hs.unread (hreading ▸ hread))
  · intro hread
    by_cases hl : l = .schedule
    · subst hl
      refine lastParameters_schedule h ?_
      by_cases hfirst : s.lastReading = none
      · rw [hs.unread hfirst]
        exact (hok hfirst).imp_right calcParameters_ne_default
      · exact .inl (hs.told hfirst)
    · obtain ⟨hlast, hprior, hreading⟩ := lastParameters_step hs.responses hl h
      rw [hlast, hprior]
      exact hs.told (hreading ▸ hread)

theorem Remembers.restart (order : List (MRIDType × DERCurve)) :
    Remembers lfdi (s.restart order) :=
  ⟨by simp [Responses, Scheduler.restart, start],
    ⟨by simp [Scheduler.restart, start], by simp [Scheduler.restart, start],
      by simp [Scheduler.restart, start]⟩,
    fun _ => rfl, by simp [Scheduler.restart, start]⟩

theorem Remembers.lifeStep {l : LifeLabel} (hs : Remembers lfdi s)
    (hok : NothingToWithdraw lfdi s l) (h : s.lifeStep lfdi l = some t) : Remembers lfdi t := by
  cases l with
  | task l => exact hs.task hok h
  | restart order => cases h; exact .restart order

/-- **What the device was last told is what the model gives.** -/
theorem broadcast_of_exec {clock now : DateTime} {loaded : Sep2Model} {ls : List LifeLabel}
    (h : Exec (Scheduler.lifeStep lfdi) (NothingToWithdraw lfdi) (start clock loaded) ls t)
    (hread : t.lastReading = some now) (hphase : t.phase = .rearming now ∨ t.phase = .receiving) :
    lastParameters t.outputCh = calcParameters t.model lfdi now.timestamp := by
  have hremembers : Remembers lfdi t := h.invariant
    ⟨by simp [Responses, start], .of_start clock loaded, fun _ => rfl, by simp [start]⟩
    fun _ _ _ hs hok hst => hs.lifeStep hok hst
  rw [hremembers.told (by simp [hread])]
  rcases hphase with hphase | hphase
  · exact (hremembers.calculated.rearming now hphase).2.parameters
  · exact (hremembers.calculated.receiving hphase now hread).1.parameters

/-! ## A process that is down while a control ends -/

/-- A lifetime that finds the control in force; then the process is down until `back`, and the
next lifetime begins with a command. -/
def downUntil (back : DateTime) : List LifeLabel :=
  (serve .refreshActiveResources).map .task ++
    .restart [] :: (.tick back :: serve .refreshActiveResources).map .task

/-- Every attribute. -/
def Attribute.all : List Attribute :=
  [.opModConnect, .opModEnergize, .opModFixedPfAbsorbW, .opModFixedPfInjectW, .opModFixedVar,
   .opModFixedW, .opModFreqDroop, .opModFreqWatt, .opModHfrtMayTrip, .opModHfrtMustTrip,
   .opModHvrtMayTrip, .opModHvrtMomentaryCessation, .opModHvrtMustTrip, .opModLfrtMayTrip,
   .opModLfrtMustTrip, .opModLvrtMayTrip, .opModLvrtMomentaryCessation, .opModLvrtMustTrip,
   .opModMaxLimW, .opModTargetVar, .opModTargetW, .opModVoltVar, .opModVoltWatt, .opModWattPf,
   .opModWattVar, .rampTms, .opModImpLimW, .opModExpLimW, .opModGenLimW, .opModLoadLimW,
   .setEsDelay, .setEsHighFreq, .setEsHighVolt, .setEsLowFreq, .setEsLowVolt, .setEsRampTms,
   .setEsRandomDelay, .setGradW, .setSoftGradW]

theorem Attribute.mem_all (a : Attribute) : a ∈ all := by
  cases a <;> decide

instance (m : Sep2Model) (lfdi : HexBinary160) (now : DateTime) :
    Decidable (SomethingInForce m lfdi now) :=
  decidable_of_iff (∃ s ∈ rankedSources m lfdi now.timestamp, ∃ a ∈ Attribute.all,
      (s.2.attribute a).isSome = true) <| by
    simp only [mem_rankedSources, Attribute.mem_all, true_and, SomethingInForce, exists_and_left]

instance (s : Scheduler) : (l : LifeLabel) → Decidable (NothingToWithdraw lfdi s l)
  | .task .schedule => inferInstanceAs (Decidable (s.lastReading = none →
      lastParameters s.outputCh = {} ∨ SomethingInForce s.model lfdi s.clock))
  | .task (.tick _) | .task (.send _) | .task (.receive _ _) | .task (.persist _)
  | .task .rearm | .task .wait | .restart _ => .isTrue trivial

/-- Back while the control is in force, the loop tells the device again. -/
theorem broadcast_of_exec_back_in_time : ∃ t,
    Exec (Scheduler.lifeStep 1) (NothingToWithdraw 1) (start (second 12) knownModel)
      (downUntil (second 15)) t ∧
    lastParameters t.outputCh = calcParameters t.model 1 (second 15).timestamp := by
  have hruns : (runIf (Scheduler.lifeStep 1) (NothingToWithdraw 1) (start (second 12) knownModel)
      (downUntil (second 15))).any
      (fun t => t.lastReading = some (second 15) ∧ t.phase = .receiving) = true := by
    decide
  obtain ⟨t, ht, hback⟩ := (Option.any_eq_true _ _).1 hruns
  obtain ⟨hread, hphase⟩ := of_decide_eq_true hback
  have hexec := exec_iff_runIf.2 ht
  exact ⟨t, hexec, broadcast_of_exec hexec hread (.inr hphase)⟩

/-- **An expired control stays.** Back after the control has ended, the loop has nothing to publish,
and the device stays disconnected. -/
theorem expired_control_stays : ∃ t,
    run (Scheduler.lifeStep 1) (start (second 12) knownModel) (downUntil (second 25)) = some t ∧
    t.phase = .receiving ∧ t.lastReading = some (second 25) ∧
    lastParameters t.outputCh ≠ calcParameters t.model 1 (second 25).timestamp := by
  have hruns : (run (Scheduler.lifeStep 1) (start (second 12) knownModel)
      (downUntil (second 25))).any
      (fun t => t.phase = .receiving ∧ t.lastReading = some (second 25) ∧
        lastParameters t.outputCh ≠ calcParameters t.model 1 (second 25).timestamp) = true := by
    decide
  obtain ⟨t, ht, hstays⟩ := (Option.any_eq_true _ _).1 hruns
  exact ⟨t, ht, of_decide_eq_true hstays⟩

end Scheduler

end Sep2Bridge
