import Sep2Bridge.Scheduler.Started

/-!
# A control that is withdrawn

A control is applied while its status is scheduled or active. When it is cancelled or superseded
the server is told, which is decided from the stored status and the one that arrives.

**What is told** (`ControlFeed.count_applyUpdate`). Over a run, one response for each change to
cancelled or superseded: `announced` of the statuses heard. So a control that is cancelled and then
superseded is told of twice, and one that is cancelled with randomisation, which is not applied
either, is not told of (`ControlFeed.withdrawn_not_once`).

**When that is once** (`Orderly`). A control that is still applied is not cancelled with
randomisation, and one that is not is neither cancelled nor superseded again.

Main result: `ControlFeed.withdrawn_once`.
-/

namespace Sep2Bridge

open Lib

/-! ## Statuses -/

namespace EventStatusType

/-- A control with this status is applied. -/
def Live (status : EventStatusType) : Prop := status = .scheduled ∨ status = .active

/-- A change to this status is responded to. -/
def Told (status : EventStatusType) : Prop := status = .cancelled ∨ status = .superseded

instance (status : EventStatusType) : Decidable status.Live := by unfold Live; infer_instance

instance (status : EventStatusType) : Decidable status.Told := by unfold Told; infer_instance

theorem Live.not_told {status : EventStatusType} (h : status.Live) : ¬ status.Told := by
  rcases h with rfl | rfl <;> decide

/-- Only one status is neither applied nor told of. -/
theorem live_or_told {status : EventStatusType} (h : status ≠ .cancelledRandom) :
    status.Live ∨ status.Told := by
  cases status <;> first | exact absurd rfl h | decide

end EventStatusType

/-- The changes that are responded to, among the statuses heard of a control, the latest first. -/
def announced : List EventStatusType → Nat
  | status :: prior :: heard =>
    (if status ≠ prior ∧ status.Told then 1 else 0) + announced (prior :: heard)
  | _ => 0

/-- Each withdrawal is told of once: there is at most one response, and there is one as soon as the
control is no longer applied. -/
def ToldOnce (heard : List EventStatusType) (told : Nat) : Prop :=
  told ≤ 1 ∧ ((∃ status ∈ heard, ¬ status.Live) → told = 1)

/-- A status that may follow those heard. -/
def Orderly (heard : List EventStatusType) (status : EventStatusType) : Prop :=
  (heard ≠ [] → (∀ prior ∈ heard, prior.Live) → status ≠ .cancelledRandom) ∧
    ((∃ prior ∈ heard, ¬ prior.Live) → heard.head? = some status ∨ ¬ status.Told)

instance (heard : List EventStatusType) (status : EventStatusType) :
    Decidable (Orderly heard status) := by
  unfold Orderly; infer_instance

section Statuses

variable {heard : List EventStatusType} {status : EventStatusType}

theorem announced_of_live (h : ∀ prior ∈ heard, prior.Live) : announced heard = 0 := by
  induction heard with
  | nil => rfl
  | cons status heard ih =>
    cases heard with
    | nil => rfl
    | cons prior heard =>
      have htold : ¬ (status ≠ prior ∧ status.Told) :=
        fun hboth => (h status List.mem_cons_self).not_told hboth.2
      rw [announced, if_neg htold, ih fun p hp => h p (List.mem_cons_of_mem _ hp)]

/-- **An orderly status keeps to one response.** -/
theorem toldOnce_cons (h : ToldOnce heard (announced heard)) (hstatus : Orderly heard status)
    (hfirst : heard = [] → status.Live) :
    ToldOnce (status :: heard) (announced (status :: heard)) := by
  cases heard with
  | nil =>
    refine ⟨Nat.zero_le 1, fun ⟨s, hs, hnot⟩ => absurd ?_ hnot⟩
    exact List.mem_singleton.1 hs ▸ hfirst rfl
  | cons prior heard =>
    rw [announced]
    by_cases hlive : ∀ s ∈ prior :: heard, s.Live
    · -- So far nothing was told; now it is, if the status is not live.
      rw [announced_of_live hlive, Nat.add_zero]
      refine ⟨by split_ifs <;> omega, fun ⟨s, hs, hnot⟩ => ?_⟩
      obtain rfl | hs := List.mem_cons.1 hs
      · have htold : s.Told :=
          (EventStatusType.live_or_told (hstatus.1 (List.cons_ne_nil _ _) hlive)).resolve_left hnot
        refine if_pos ⟨?_, htold⟩
        rintro rfl
        exact hnot (hlive s List.mem_cons_self)
      · exact absurd (hlive s hs) hnot
    · -- It was told already, and is not told again.
      push Not at hlive
      have hnone : ¬ (status ≠ prior ∧ status.Told) := by
        rintro ⟨hne, htold⟩
        obtain hsame | hnot := hstatus.2 hlive
        · exact hne (Option.some.inj hsame).symm
        · exact hnot htold
      rw [if_neg hnone, Nat.zero_add]
      exact ⟨h.1, fun _ => h.2 hlive⟩

end Statuses

/-! ## What a merge tells -/

/-- The event tells that the control was cancelled or superseded. -/
def Event.isWithdrawalOf (k : MRIDType) : Event → Bool
  | .derControlStatusChanged subject .eventCancelled _ => subject = k
  | .derControlStatusChanged subject .eventSuperseded _ => subject = k
  | _ => false

/-- The statuses heard of a control, after one more control is received. -/
def hear (k : MRIDType) (heard : List EventStatusType) (c : DERControl) : List EventStatusType :=
  if c.mrid = k then c.currentStatus :: heard else heard

/-- What is stored of the control is the status last heard. -/
def Heard (k : MRIDType) (heard : List EventStatusType) (m : Sep2Model) : Prop :=
  (m.controls.get? k).map (fun stored => stored.derControl.currentStatus) = heard.head?

/-- Whenever the control is on the list, it asks for the response. -/
def Asks (k : MRIDType) (cs : List DERControl) : Prop :=
  ∀ c ∈ cs, c.mrid = k → (replyToIfRequired c ResponseRequired.specificResponse).isSome

namespace Sep2Model

variable {m m' : Sep2Model} {es : List Event} {k : MRIDType} {heard : List EventStatusType}

theorem count_statusChangeEvent {prior : EventStatusType} {c : DERControl}
    (hasks : c.mrid = k → (replyToIfRequired c ResponseRequired.specificResponse).isSome) :
    (statusChangeEvent prior c).toList.countP (Event.isWithdrawalOf k) =
      if c.mrid = k ∧ c.currentStatus ≠ prior ∧ c.currentStatus.Told then 1 else 0 := by
  by_cases hk : c.mrid = k
  · obtain ⟨r, hr⟩ := Option.isSome_iff_exists.1 (hasks hk)
    by_cases hsame : prior = c.currentStatus
    · simp [statusChangeEvent, hsame]
    · rw [statusChangeEvent, if_neg hsame, hr]
      have hne := Ne.symm hsame
      cases hstatus : c.currentStatus <;>
        simp [Event.isWithdrawalOf, EventStatusType.Told, hk, hstatus ▸ hne]
  · have hnone : ∀ e ∈ (statusChangeEvent prior c).toList, ¬ e.isWithdrawalOf k = true := by
      intro e he
      rw [Option.mem_toList] at he
      simp only [statusChangeEvent] at he
      split_ifs at he
      split at he <;> first | cases he | skip
      all_goals
        obtain ⟨r, -, rfl⟩ := Option.map_eq_some_iff.1 he
        simpa [Event.isWithdrawalOf] using hk
    rw [List.countP_eq_zero.2 hnone, if_neg fun h => hk h.1]

theorem count_firstEvents (now : Int) (control : ScheduledControl) :
    (firstEvents now control).countP (Event.isWithdrawalOf k) = 0 := by
  refine List.countP_eq_zero.2 fun e he => ?_
  simp only [firstEvents, List.mem_append, Option.mem_toList, Option.map_eq_some_iff] at he
  rcases he with ⟨r, -, rfl⟩ | he
  · exact Bool.false_ne_true
  · split_ifs at he
    · obtain ⟨r, -, rfl⟩ := Option.map_eq_some_iff.1 (Option.mem_toList.1 he)
      exact Bool.false_ne_true
    · cases he

/-- One control: a change that is responded to is told of. -/
theorem count_setDerControl {draw : Draw} {c : DERControl}
    (h : m.setDerControl draw c = some (m', es)) (hheard : Heard k heard m)
    (hasks : c.mrid = k → (replyToIfRequired c ResponseRequired.specificResponse).isSome) :
    Heard k (hear k heard c) m' ∧
      es.countP (Event.isWithdrawalOf k) + announced heard = announced (hear k heard c) := by
  obtain ⟨control, hcontrol, rfl, hcases⟩ := setDerControl_cases h
  by_cases hk : c.mrid = k
  · rw [hear, if_pos hk]
    subst hk
    constructor
    · rw [Heard, HashMap.get?_insert_self, Option.map_some, hcontrol]
      rfl
    · obtain ⟨stored, hstored, -, rfl⟩ | ⟨hvacant, -, rfl⟩ := hcases
      · rw [Heard, hstored, Option.map_some] at hheard
        obtain ⟨rest, rfl⟩ := List.head?_eq_some_iff.1 hheard.symm
        rw [count_statusChangeEvent hasks, announced]
        simp
      · rw [Heard, hvacant, Option.map_none] at hheard
        rw [List.head?_eq_none_iff.1 hheard.symm, count_firstEvents]
        rfl
  · rw [hear, if_neg hk]
    constructor
    · rw [Heard, HashMap.get?_insert_ne _ _ (Ne.symm hk)]
      exact hheard
    · obtain ⟨stored, -, -, rfl⟩ | ⟨-, -, rfl⟩ := hcases
      · rw [count_statusChangeEvent hasks, if_neg fun h => hk h.1, Nat.zero_add]
      · rw [count_firstEvents, Nat.zero_add]

theorem count_setDerControls {draws : Nat → Draw} {cs : List DERControl}
    (h : setDerControls draws m cs = some (m', es)) (hheard : Heard k heard m) (hasks : Asks k cs) :
    Heard k (cs.foldl (hear k) heard) m' ∧
      es.countP (Event.isWithdrawalOf k) + announced heard =
        announced (cs.foldl (hear k) heard) := by
  induction cs generalizing draws m es heard with
  | nil =>
    cases h
    exact ⟨hheard, Nat.zero_add _⟩
  | cons c cs ih =>
    obtain ⟨m₁, es₁, es₂, hfirst, hrest, rfl⟩ := setDerControls_cons h
    obtain ⟨hheard₁, hcount₁⟩ := count_setDerControl hfirst hheard (hasks c List.mem_cons_self)
    obtain ⟨hheard₂, hcount₂⟩ :=
      ih hrest hheard₁ fun d hd => hasks d (List.mem_cons_of_mem _ hd)
    refine ⟨hheard₂, ?_⟩
    rw [List.foldl_cons, ← hcount₂, ← hcount₁, List.countP_append]
    omega

end Sep2Model

/-! ## Runs -/

/-- The controls of a list that is merged: one without an href is ignored. -/
def DERControlList.merged (dercl : DERControlList) : List DERControl :=
  if dercl.href.isSome then dercl.derControl else []

/-- The model, the statuses heard of one control, the latest first, and everything emitted. -/
structure ControlFeed where
  model : Sep2Model
  heard : List EventStatusType := []
  emitted : List Event := []

namespace ControlFeed

variable {k : MRIDType} {s t : ControlFeed} {l : Surroundings × DERControlList}

def step (k : MRIDType) (s : ControlFeed) (l : Surroundings × DERControlList) :
    Option ControlFeed :=
  (s.model.applyUpdate l.1 (.derControlList l.2)).map fun r =>
    ⟨r.1, l.2.merged.foldl (hear k) s.heard, s.emitted ++ r.2⟩

/-- The responses that told of a withdrawal. -/
def told (k : MRIDType) (s : ControlFeed) : Nat := s.emitted.countP (Event.isWithdrawalOf k)

/-- The run follows the control: once received it is stored, it is live at first, and it asks for
the response. -/
structure Follows (k : MRIDType) (s : ControlFeed) (l : Surroundings × DERControlList) : Prop where
  stored : s.heard ≠ [] → (s.model.controls.get? k).isSome
  live : s.heard = [] → ∀ c ∈ l.2.merged.find? (fun c => c.mrid = k), c.currentStatus.Live
  asks : Asks k l.2.merged

/-- The statuses of a list are orderly, one after the other. -/
def InOrder (k : MRIDType) : List EventStatusType → List DERControl → Prop
  | _, [] => True
  | heard, c :: cs => (c.mrid = k → Orderly heard c.currentStatus) ∧ InOrder k (hear k heard c) cs

/-- What is stored of the control is the status last heard, and what was told is what these
statuses say. -/
structure Inv (k : MRIDType) (s : ControlFeed) : Prop where
  heard : ∀ stored, s.model.controls.get? k = some stored →
    s.heard.head? = some stored.derControl.currentStatus
  told : s.told k = announced s.heard
  once : ToldOnce s.heard (announced s.heard)

theorem toldOnce_foldl {cs : List DERControl} {heard : List EventStatusType}
    (h : ToldOnce heard (announced heard)) (horder : InOrder k heard cs)
    (hfirst : heard = [] → ∀ c ∈ cs.find? (fun c => c.mrid = k), c.currentStatus.Live) :
    ToldOnce (cs.foldl (hear k) heard) (announced (cs.foldl (hear k) heard)) := by
  induction cs generalizing heard with
  | nil => exact h
  | cons c cs ih =>
    by_cases hk : c.mrid = k
    · have hhear : hear k heard c = c.currentStatus :: heard := if_pos hk
      refine ih ?_ horder.2 fun hnil => ?_
      · rw [hhear]
        refine toldOnce_cons h (horder.1 hk) fun hnil => hfirst hnil c ?_
        rw [List.find?_cons_of_pos (by simpa using hk)]
        rfl
      · rw [hhear] at hnil
        cases hnil
    · have hhear : hear k heard c = heard := if_neg hk
      refine ih ?_ horder.2 fun hnil d hd => ?_
      · rwa [hhear]
      · rw [hhear] at hnil
        refine hfirst hnil d ?_
        rwa [List.find?_cons_of_neg (by simpa using hk)]

theorem heard_of_follows (hs : s.Inv k) (hl : Follows k s l) : Heard k s.heard s.model := by
  unfold Heard
  cases hstored : s.model.controls.get? k with
  | some stored => exact (hs.heard stored hstored).symm
  | none =>
    by_cases hnil : s.heard = []
    · rw [hnil]
      rfl
    · have hsome := hl.stored hnil
      rw [hstored] at hsome
      cases hsome

/-- **An update tells what the statuses it brings say.** -/
theorem count_applyUpdate (hs : s.Inv k) (hl : Follows k s l) (h : s.step k l = some t) :
    (∀ stored, t.model.controls.get? k = some stored →
      t.heard.head? = some stored.derControl.currentStatus) ∧ t.told k = announced t.heard := by
  obtain ⟨⟨m', es⟩, happly, rfl⟩ := Option.map_eq_some_iff.1 h
  obtain ⟨merged, responses, hset, rfl, rfl⟩ := Sep2Model.applyUpdate_eq_some.1 happly
  have hmerged : Heard k (l.2.merged.foldl (hear k) s.heard) merged ∧
      responses.countP (Event.isWithdrawalOf k) + announced s.heard =
        announced (l.2.merged.foldl (hear k) s.heard) := by
    have hheard := heard_of_follows hs hl
    have hasks := hl.asks
    obtain ⟨hhref, rfl, rfl⟩ | ⟨href, hhref, m₀, hm₀, hset⟩ :=
      Sep2Model.setDerControlList_cases hset
    · rw [DERControlList.merged, hhref]
      exact ⟨hheard, Nat.zero_add _⟩
    · rw [DERControlList.merged, hhref] at hasks ⊢
      refine Sep2Model.count_setDerControls hset ?_ hasks
      rwa [Heard, hm₀]
  have hlinks : (Sep2Model.resourceLinkEvents s.model.resourceLinks
      merged.resourceLinks).countP (Event.isWithdrawalOf k) = 0 := by
    refine List.countP_eq_zero.2 fun e he => ?_
    simp only [Sep2Model.resourceLinkEvents, List.mem_append, List.mem_map] at he
    rcases he with ⟨_, -, rfl⟩ | ⟨_, -, rfl⟩ <;> exact Bool.false_ne_true
  constructor
  · intro stored hstored
    rw [← hmerged.1, (HashMap.get?_retain_eq_some.1 hstored).1]
    rfl
  · have htold := hs.told
    unfold told at htold ⊢
    rw [List.countP_append, List.countP_append, hlinks, Nat.zero_add, htold, Nat.add_comm]
    exact hmerged.2

theorem inv_step (hs : s.Inv k) (hl : Follows k s l) (horder : InOrder k s.heard l.2.merged)
    (h : s.step k l = some t) : t.Inv k := by
  obtain ⟨hheard, htold⟩ := count_applyUpdate hs hl h
  obtain ⟨r, -, rfl⟩ := Option.map_eq_some_iff.1 h
  exact ⟨hheard, htold, toldOnce_foldl hs.once horder hl.live⟩

/-- **A withdrawal is told of once**, in every run that brings the statuses in order. -/
theorem withdrawn_once {m : Sep2Model} {ls : List (Surroundings × DERControlList)}
    (hvacant : m.controls.get? k = none)
    (hrun : Exec (step k) (fun s l => Follows k s l ∧ InOrder k s.heard l.2.merged)
      { model := m } ls t) : ToldOnce t.heard (t.told k) := by
  have hinit : Inv k { model := m } := by
    refine ⟨fun stored hstored => ?_, rfl, Nat.zero_le 1, nofun⟩
    rw [hvacant] at hstored
    cases hstored
  have hinv := hrun.invariant hinit fun s l t hs hl hstep => inv_step hs hl.1 hl.2 hstep
  rw [hinv.told]
  exact hinv.once

instance : Decidable (Follows k s l) :=
  decidable_of_iff ((s.heard ≠ [] → (s.model.controls.get? k).isSome) ∧
      (s.heard = [] →
        ∀ c ∈ l.2.merged.find? (fun c : DERControl => c.mrid = k), c.currentStatus.Live) ∧
      ∀ c ∈ l.2.merged, c.mrid = k →
        (replyToIfRequired c ResponseRequired.specificResponse).isSome)
    ⟨fun h => ⟨h.1, h.2.1, h.2.2⟩, fun h => ⟨h.1, h.2, h.3⟩⟩

instance decidableInOrder (k : MRIDType) :
    (heard : List EventStatusType) → (cs : List DERControl) → Decidable (InOrder k heard cs)
  | _, [] => inferInstanceAs (Decidable True)
  | heard, c :: cs =>
    have := decidableInOrder k (hear k heard c) cs
    inferInstanceAs (Decidable ((c.mrid = k → Orderly heard c.currentStatus) ∧ _))

/-- One control, polled with these statuses. -/
def polls (statuses : List EventStatusType) : List (Surroundings × DERControlList) :=
  statuses.map fun status => (surroundingsAt 0, controlFromTen status)

theorem withdrawn_once_cancelled : ∃ t,
    Exec (step 3) (fun s l => Follows 3 s l ∧ InOrder 3 s.heard l.2.merged)
      { model := oneProgram } (polls [.scheduled, .cancelled, .cancelled]) t ∧
      ToldOnce t.heard (t.told 3) ∧ t.told 3 = 1 := by
  have hruns : ((runIf (step 3) (fun s l => Follows 3 s l ∧ InOrder 3 s.heard l.2.merged)
      { model := oneProgram } (polls [.scheduled, .cancelled, .cancelled])).any
        fun t => t.told 3 = 1) = true := by
    decide +kernel
  obtain ⟨t, ht, htold⟩ := (Option.any_eq_true _ _).1 hruns
  have hexec := exec_iff_runIf.2 ht
  exact ⟨t, hexec, withdrawn_once rfl hexec, of_decide_eq_true htold⟩

/-- A control that is cancelled and then superseded is told of twice, and one that is cancelled
with randomisation is not told of. -/
theorem withdrawn_not_once : oneProgram.controls.get? 3 = none ∧
    (∃ t, Exec (step 3) (Follows 3) { model := oneProgram }
      (polls [.scheduled, .cancelled, .superseded]) t ∧ t.told 3 = 2) ∧
    ∃ t, Exec (step 3) (Follows 3) { model := oneProgram }
      (polls [.scheduled, .cancelledRandom]) t ∧
        t.heard = [.cancelledRandom, .scheduled] ∧ t.told 3 = 0 := by
  have htwice : ((runIf (step 3) (Follows 3) { model := oneProgram }
      (polls [.scheduled, .cancelled, .superseded])).any fun t => t.told 3 = 2) = true := by
    decide +kernel
  have hnever : ((runIf (step 3) (Follows 3) { model := oneProgram }
      (polls [.scheduled, .cancelledRandom])).any fun t =>
        t.heard = [.cancelledRandom, .scheduled] ∧ t.told 3 = 0) = true := by
    decide +kernel
  obtain ⟨t, ht, htold⟩ := (Option.any_eq_true _ _).1 htwice
  obtain ⟨u, hu, hresult⟩ := (Option.any_eq_true _ _).1 hnever
  obtain ⟨hheard, hnone⟩ := of_decide_eq_true hresult
  exact ⟨rfl, ⟨t, exec_iff_runIf.2 ht, of_decide_eq_true htold⟩,
    u, exec_iff_runIf.2 hu, hheard, hnone⟩

end ControlFeed

end Sep2Bridge
