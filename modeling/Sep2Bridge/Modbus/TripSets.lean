import Sep2Bridge.Lib.Run
import Sep2Bridge.Modbus.TripSend

/-!
# A set of trip curves is adopted whole

A device adopts the curves of a set together, but they are written one by one.

**What is adopted** (`TripModel.shows_lastFitting`). Of each kind, the last curve that was ever
carried and that fit: a curve that a later parameter set does not carry is left in the set, and is
adopted again with it.

Main result: `adopted_iff`. The set holds what the last parameters carry exactly if no curve with
points was left in it.
-/

namespace Sep2Bridge.Modbus

open Lib

namespace TripModel

section Fitting

variable {TX TY : Type} {model : TripModel TX TY} {m : Memory} {addr : Nat}

/-- A curve that is longer than the device supports counts as absent. -/
def fitting (model : TripModel TX TY) (m : Memory) (addr : Nat) (data : Option (Curve TX TY)) :
    Option (Curve TX TY) :=
  data.filter fun data => ¬data.len > readPoint m addr model.nPt

theorem fitting_some {data : Curve TX TY} : model.fitting m addr (some data) =
    if data.len > readPoint m addr model.nPt then none else some data := by
  rw [fitting, Option.filter_some]
  by_cases hlen : data.len > readPoint m addr model.nPt
  · rw [if_pos hlen, if_neg (by simpa using hlen)]
  · rw [if_neg hlen, if_pos (by simpa using hlen)]

end Fitting

section FixedPoints

variable {TX TY : Type} [FixedSize TX] [FixedSize TY]

/-- The points that are read, and then the ones that are written, each from its first offset to the
first after it. -/
def fixedPoints (model : TripModel TX TY) : List (Nat × Nat) :=
  [(model.nCrvSet.offset, model.nCrvSet.stop), (model.nPt.offset, model.nPt.stop),
    (model.xSf.offset, model.xSf.stop), (model.ySf.offset, model.ySf.stop),
    (model.adptCrvReq.offset, model.adptCrvReq.stop), (model.ena.offset, model.ena.stop)]

/-- What sunspec guarantees: the points of a group lie in it, and apart. -/
structure WellFormed (model : TripModel TX TY) : Prop where
  curves : model.toTripCurveModel.WellFormed
  stop_le : ∀ p ∈ model.fixedPoints, p.2 ≤ model.len
  apart : model.fixedPoints.Pairwise fun p q => p.2 ≤ q.1 ∨ q.2 ≤ p.1

end FixedPoints

variable {TX TY : Type} [ScaledValueInner TX] [ScaledValueInner TY] [FixedSize TX] [FixedSize TY]
  {model : TripModel TX TY} {m m' : Memory} {addr : Nat}
  {curves : TripCurves TX TY} {bs : List (Block UInt16)} {X : TripCurve}

/-! ## What one parameter set writes -/

/-- The points of the curve, if there is one, fit. -/
def Fits (model : TripModel TX TY) (m : Memory) (addr : Nat) (data : Option (Curve TX TY)) : Prop :=
  ∀ d, data = some d → d.points.length ≤ (readPoint m addr model.nPt).toNat

/-- Where a curve of the writable set starts. -/
def slot (model : TripModel TX TY) (m : Memory) (addr : Nat) (X : TripCurve) : Nat :=
  addr + startOf (model.sizes m addr) (TripCurveModel.position X)

/-- The registers of a curve: its number of active points, and these; none if there is no curve. -/
def curveBlocks (h : model.WellFormed) (m : Memory) (addr : Nat) (X : TripCurve) :
    Option (Curve TX TY) → List (Block UInt16)
  | none => (model.group h.curves X).blocks (model.slot m addr X) (some 0) []
  | some data => (model.group h.curves X).blocks (model.slot m addr X) (some data.len)
      (scaledPoints data (readPoint m addr model.xSf) (readPoint m addr model.ySf))

/-- A curve is written if it is there and fits. -/
def written (h : model.WellFormed) (m : Memory) (addr : Nat) (X : TripCurve)
    (data : Option (Curve TX TY)) : List (Block UInt16) :=
  match model.fitting m addr data with
  | none => []
  | some data => curveBlocks h m addr X (some data)

theorem written_of_none {h : model.WellFormed} {data : Option (Curve TX TY)}
    (hfit : model.fitting m addr data = none) : written h m addr X data = [] := by
  rw [written, hfit]

theorem written_of_some {h : model.WellFormed} {data : Option (Curve TX TY)} {fit : Curve TX TY}
    (hfit : model.fitting m addr data = some fit) :
    written h m addr X data = curveBlocks h m addr X (some fit) := by
  rw [written, hfit]

/-- Some curve is written. -/
def anyFits (model : TripModel TX TY) (m : Memory) (addr : Nat) (curves : TripCurves TX TY) :
    Bool :=
  (model.fitting m addr curves.mustTrip).isSome || (model.fitting m addr curves.mayTrip).isSome ||
    (model.fitting m addr curves.momCess).isSome

/-- What is written to the fixed points, the last of it whether the function is on. -/
def controlBlocks (model : TripModel TX TY) (addr : Nat) (wrote : Bool) : List (Block UInt16) :=
  (if wrote then [⟨addr + model.adptCrvReq.offset, Value.encode (2 : UInt16)⟩] else []) ++
    [⟨addr + model.ena.offset, Value.encode (if wrote then Ena.enabled else .disabled)⟩]

theorem writeCurveIfSome_inv (h : model.WellFormed)
    (hsets : 2 ≤ (readPoint m addr model.nCrvSet).toNat) {data : Option (Curve TX TY)}
    {wrote : Bool} (hwrite : model.writeCurveIfSome addr X data (readPoint m addr model.nPt)
      (readPoint m addr model.xSf) (readPoint m addr model.ySf) = some (bs, wrote)) :
    bs = written h m addr X data ∧ wrote = (model.fitting m addr data).isSome ∧
      model.Fits m addr (model.fitting m addr data) := by
  cases data with
  | none =>
    cases hwrite
    exact ⟨rfl, rfl, fun _ hd => by cases hd⟩
  | some data =>
    have hinv := TripCurveModel.writeCurve_inv h.curves hwrite
    have hfit : model.fitting m addr (some data) = _ := fitting_some
    split_ifs at hinv hfit with hlen
    · obtain ⟨rfl, rfl⟩ := hinv
      rw [written_of_none hfit, hfit]
      exact ⟨rfl, rfl, fun _ hd => by cases hd⟩
    · obtain ⟨rfl, hlength, rfl⟩ := hinv
      have hstart : model.slot m addr X = addr + (model.len +
          model.setLen (readPoint m addr model.nPt).toNat +
          model.offsetInSet (readPoint m addr model.nPt).toNat X) :=
        congrArg (addr + ·) (TripCurveModel.startOf_pieces hsets X)
      rw [written_of_some hfit, hfit, curveBlocks, hstart]
      refine ⟨rfl, rfl, fun d hd => ?_⟩
      cases hd
      exact hlength

theorem writePresentCurves_inv (h : model.WellFormed) {wrote : Bool}
    (hwrite : model.writePresentCurves addr m curves.mustTrip curves.mayTrip curves.momCess =
      some (bs, wrote)) :
    if 2 ≤ (readPoint m addr model.nCrvSet).toNat then
      wrote = model.anyFits m addr curves ∧
      (∀ X, model.Fits m addr (model.fitting m addr (curves.get X))) ∧
      bs = written h m addr .mustTrip curves.mustTrip ++ written h m addr .mayTrip curves.mayTrip ++
        written h m addr .momCess curves.momCess
    else wrote = false ∧ bs = [] := by
  unfold writePresentCurves at hwrite
  by_cases hnone : curves.mustTrip.isNone ∧ curves.mayTrip.isNone ∧ curves.momCess.isNone
  · rw [if_pos hnone] at hwrite
    cases hwrite
    obtain ⟨hmust, hmay, hmom⟩ := hnone
    rw [Option.isNone_iff_eq_none] at hmust hmay hmom
    have hfits : ∀ X, model.Fits m addr (model.fitting m addr (curves.get X)) := by
      intro X d hd
      have hget : curves.get X = none := by
        cases X
        · exact hmust
        · exact hmay
        · exact hmom
      rw [hget] at hd
      cases hd
    rw [anyFits, hmust, hmay, hmom]
    split_ifs
    · exact ⟨rfl, hfits, rfl⟩
    · exact ⟨rfl, rfl⟩
  · rw [if_neg hnone] at hwrite
    by_cases hsets : 2 ≤ (readPoint m addr model.nCrvSet).toNat
    · rw [if_pos hsets]
      have hnot : ¬(readPoint m addr model.nCrvSet).toNat < TripCurveModel.targetCurveSet :=
        not_lt.2 hsets
      simp only [if_neg hnot] at hwrite
      obtain ⟨⟨must, wroteMust⟩, hmust, hwrite⟩ := Option.bind_eq_some_iff.1 hwrite
      obtain ⟨⟨may, wroteMay⟩, hmay, hwrite⟩ := Option.bind_eq_some_iff.1 hwrite
      obtain ⟨⟨mom, wroteMom⟩, hmom, hwrite⟩ := Option.bind_eq_some_iff.1 hwrite
      cases hwrite
      obtain ⟨rfl, rfl, hfitMust⟩ := writeCurveIfSome_inv h hsets hmust
      obtain ⟨rfl, rfl, hfitMay⟩ := writeCurveIfSome_inv h hsets hmay
      obtain ⟨rfl, rfl, hfitMom⟩ := writeCurveIfSome_inv h hsets hmom
      refine ⟨rfl, fun X => ?_, rfl⟩
      cases X
      · exact hfitMust
      · exact hfitMay
      · exact hfitMom
    · rw [if_neg hsets]
      have hfew : (readPoint m addr model.nCrvSet).toNat < TripCurveModel.targetCurveSet :=
        not_le.1 hsets
      simp only [if_pos hfew] at hwrite
      cases hwrite
      exact ⟨rfl, rfl⟩

/-- The curves that fit are written, and then the points that turn them on. -/
theorem sendTripCurves_inv (h : model.WellFormed)
    (hsend : model.sendTripCurves addr m curves = some bs) :
    if 2 ≤ (readPoint m addr model.nCrvSet).toNat then
      (∀ X, model.Fits m addr (model.fitting m addr (curves.get X))) ∧
      bs = written h m addr .mustTrip curves.mustTrip ++ written h m addr .mayTrip curves.mayTrip ++
        written h m addr .momCess curves.momCess ++
        model.controlBlocks addr (model.anyFits m addr curves)
    else bs = model.controlBlocks addr false := by
  obtain ⟨⟨blocks, wrote⟩, hblocks, hsend⟩ := Option.bind_eq_some_iff.1 hsend
  obtain ⟨ena, hena, hsend⟩ := Option.bind_eq_some_iff.1 hsend
  cases hsend
  obtain ⟨⟨present, wroteAny⟩, hpresent, hblocks⟩ := Option.bind_eq_some_iff.1 hblocks
  have hall : blocks ++ [ena] = present ++ model.controlBlocks addr wroteAny := by
    cases wroteAny with
    | true =>
      obtain ⟨request, hrequest, hblocks⟩ := Option.bind_eq_some_iff.1 hblocks
      cases hblocks
      rw [writeOffsetPoint_inv hrequest, writeOffsetPoint_inv hena, List.append_assoc]
      rfl
    | false =>
      cases hblocks
      rw [writeOffsetPoint_inv hena]
      rfl
  rw [hall]
  have hinv := writePresentCurves_inv h hpresent
  split_ifs at hinv ⊢
  · obtain ⟨rfl, hfits, rfl⟩ := hinv
    exact ⟨hfits, rfl⟩
  · obtain ⟨rfl, rfl⟩ := hinv
    rfl

/-! ## Where it lands -/

theorem curveBlocks_within (h : model.WellFormed)
    (hsets : 2 ≤ (readPoint m addr model.nCrvSet).toNat) {data : Option (Curve TX TY)}
    (hfits : model.Fits m addr data) : ∀ b ∈ curveBlocks h m addr X data,
      b.Within (model.slot m addr X) (model.slot m addr X +
        sizeOf (model.sizes m addr) (TripCurveModel.position X)) := by
  have hsize : sizeOf (model.sizes m addr) (TripCurveModel.position X) =
      model.curveStaticLen X + model.gPt * (readPoint m addr model.nPt).toNat :=
    TripCurveModel.sizeOf_pieces hsets X
  intro b hb
  rw [hsize]
  cases data with
  | none =>
    refine (CurveGroup.within_of_mem_blocks hb).mono le_rfl ?_
    exact Nat.add_le_add_left (Nat.add_le_add_left (Nat.zero_le _) _) _
  | some data =>
    refine (CurveGroup.within_of_mem_blocks hb).mono le_rfl ?_
    rw [length_scaledPoints]
    exact Nat.add_le_add_left (Nat.add_le_add_left (Nat.mul_le_mul_left _ (hfits data rfl)) _) _

theorem written_within (h : model.WellFormed)
    (hsets : 2 ≤ (readPoint m addr model.nCrvSet).toNat) {data : Option (Curve TX TY)}
    (hfits : model.Fits m addr (model.fitting m addr data)) : ∀ b ∈ written h m addr X data,
      b.Within (model.slot m addr X) (model.slot m addr X +
        sizeOf (model.sizes m addr) (TripCurveModel.position X)) := by
  intro b hb
  cases hfit : model.fitting m addr data with
  | none =>
    rw [written_of_none hfit] at hb
    cases hb
  | some d =>
    rw [written_of_some hfit] at hb
    exact curveBlocks_within h hsets (hfit ▸ hfits) b hb

omit [ScaledValueInner TX] [ScaledValueInner TY] in
theorem controlBlocks_within (h : model.WellFormed) (m : Memory) (wrote : Bool) :
    ∀ b ∈ model.controlBlocks addr wrote, b.Within (addr + startOf (model.sizes m addr) 0)
      (addr + startOf (model.sizes m addr) 0 + sizeOf (model.sizes m addr) 0) := by
  have hadpt := h.stop_le (model.adptCrvReq.offset, model.adptCrvReq.stop) (by simp [fixedPoints])
  have hena := h.stop_le (model.ena.offset, model.ena.stop) (by simp [fixedPoints])
  have hstart : startOf (model.sizes m addr) 0 = 0 := rfl
  have hsize : sizeOf (model.sizes m addr) 0 = model.len := rfl
  unfold OffsetPoint.stop at hadpt hena
  intro b hb
  rw [hstart, hsize]
  unfold Block.Within Block.stop
  rcases List.mem_append.1 hb with hb | hb
  · split_ifs at hb
    · cases List.mem_singleton.1 hb
      simp only [Value.length_encode]
      omega
    · cases hb
  · cases List.mem_singleton.1 hb
    simp only [Value.length_encode]
    omega

omit [ScaledValueInner TX] [ScaledValueInner TY] in
/-- The points that are read are not among the points that are written. -/
theorem controlBlocks_keep (h : model.WellFormed) {p : Nat × Nat}
    (hp : p ∈ model.fixedPoints.take 4) {wrote : Bool} {a : Nat} (hlo : addr + p.1 ≤ a)
    (hhi : a < addr + p.2) : ∀ b ∈ model.controlBlocks addr wrote, ¬b.Covers a := by
  have hapart : ∀ q ∈ model.fixedPoints.drop 4, p.2 ≤ q.1 ∨ q.2 ≤ p.1 := by
    have hsplit := h.apart
    rw [← List.take_append_drop 4 model.fixedPoints] at hsplit
    exact fun q hq => (List.pairwise_append.1 hsplit).2.2 p hp q hq
  have hadpt := hapart (model.adptCrvReq.offset, model.adptCrvReq.stop) (by simp [fixedPoints])
  have hena := hapart (model.ena.offset, model.ena.stop) (by simp [fixedPoints])
  unfold OffsetPoint.stop at hadpt hena
  intro b hb
  unfold Block.Covers Block.stop
  rcases List.mem_append.1 hb with hb | hb
  · split_ifs at hb
    · cases List.mem_singleton.1 hb
      simp only [Value.length_encode]
      omega
    · cases hb
  · cases List.mem_singleton.1 hb
    simp only [Value.length_encode]
    omega

/-- Each slot gets what is written of its own curve. -/
theorem sent_slot (h : model.WellFormed) (hsets : 2 ≤ (readPoint m addr model.nCrvSet).toNat)
    (hfits : ∀ X, model.Fits m addr (model.fitting m addr (curves.get X))) {wrote : Bool} {a : Nat}
    (hlo : model.slot m addr X ≤ a)
    (hhi : a < model.slot m addr X + sizeOf (model.sizes m addr) (TripCurveModel.position X)) :
    storeAll m (written h m addr .mustTrip curves.mustTrip ++
      written h m addr .mayTrip curves.mayTrip ++ written h m addr .momCess curves.momCess ++
      model.controlBlocks addr wrote) a = storeAll m (written h m addr X (curves.get X)) a := by
  have hothers : ∀ Y, Y ≠ X → ∀ b ∈ written h m addr Y (curves.get Y), ¬b.Covers a := by
    intro Y hYX b hb
    refine (written_within h hsets (hfits Y) b hb).not_covers ?_ hlo hhi
    intro hsame
    apply hYX
    revert hsame
    cases X <;> cases Y <;> decide
  have hcontrol : ∀ b ∈ model.controlBlocks addr wrote, ¬b.Covers a := by
    intro b hb
    refine (controlBlocks_within h m wrote b hb).not_covers ?_ hlo hhi
    cases X <;> decide
  cases X with
  | mustTrip =>
    rw [List.append_assoc, List.append_assoc, storeAll_append]
    refine storeAll_apply fun b hb => ?_
    rcases List.mem_append.1 hb with hb | hb
    · exact hothers .mayTrip (by decide) b hb
    · rcases List.mem_append.1 hb with hb | hb
      · exact hothers .momCess (by decide) b hb
      · exact hcontrol b hb
  | mayTrip =>
    rw [List.append_assoc (_ ++ _)]
    refine storeAll_middle (hothers .mustTrip (by decide)) fun b hb => ?_
    rcases List.mem_append.1 hb with hb | hb
    · exact hothers .momCess (by decide) b hb
    · exact hcontrol b hb
  | momCess =>
    refine storeAll_middle (fun b hb => ?_) hcontrol
    rcases List.mem_append.1 hb with hb | hb
    · exact hothers .mustTrip (by decide) b hb
    · exact hothers .mayTrip (by decide) b hb

/-- The same number of sets and points, and the same scales. -/
structure SamePoints (model : TripModel TX TY) (addr : Nat) (m m' : Memory) : Prop where
  nCrvSet : readPoint m' addr model.nCrvSet = readPoint m addr model.nCrvSet
  nPt : readPoint m' addr model.nPt = readPoint m addr model.nPt
  xSf : readPoint m' addr model.xSf = readPoint m addr model.xSf
  ySf : readPoint m' addr model.ySf = readPoint m addr model.ySf

/-- A curve stands in the set, or there is none in its place. -/
def Shows (h : model.WellFormed) (m : Memory) (addr : Nat) (X : TripCurve)
    (data : Option (Curve TX TY)) : Prop :=
  ∀ b ∈ curveBlocks h m addr X data, load m b.start b.words.length = b.words

/-- What a parameter set leaves on the device. -/
structure Sent (h : model.WellFormed) (addr : Nat) (m m' : Memory) (curves : TripCurves TX TY) :
    Prop where
  same : model.SamePoints addr m m'
  ena : readPoint m' addr model.ena = .enabled →
    2 ≤ (readPoint m addr model.nCrvSet).toNat
  fits : 2 ≤ (readPoint m addr model.nCrvSet).toNat →
    ∀ X, model.Fits m addr (model.fitting m addr (curves.get X))
  slots : 2 ≤ (readPoint m addr model.nCrvSet).toNat → ∀ X a, model.slot m addr X ≤ a →
    a < model.slot m addr X + sizeOf (model.sizes m addr) (TripCurveModel.position X) →
    m' a = storeAll m (written h m addr X (curves.get X)) a

omit [ScaledValueInner TX] [ScaledValueInner TY] in
theorem readPoint_keep {T : Type} [Value T] (h : model.WellFormed) {p : OffsetPoint T}
    (hp : (p.offset, p.stop) ∈ model.fixedPoints.take 4) {wrote : Bool}
    {before : List (Block UInt16)}
    (hbefore : ∀ b ∈ before, ∀ a, addr ≤ a → a < addr + model.len → ¬b.Covers a) :
    readPoint (storeAll m (before ++ model.controlBlocks addr wrote)) addr p =
      readPoint m addr p := by
  have hstop : p.stop ≤ model.len := h.stop_le _ (List.mem_of_mem_take hp)
  refine congrArg Value.decode (load_congr fun a hlo hhi => ?_)
  have hend : a < addr + p.stop := by
    unfold OffsetPoint.stop
    omega
  rw [storeAll_append, storeAll_apply (controlBlocks_keep h hp hlo hend)]
  exact storeAll_apply fun b hb => hbefore b hb a (by omega) (by omega)

omit [ScaledValueInner TX] [ScaledValueInner TY] [FixedSize TX] [FixedSize TY] in
/-- What is written last stands. -/
theorem readPoint_ena (wrote : Bool) :
    readPoint (storeAll m (model.controlBlocks addr wrote)) addr model.ena =
      if wrote then .enabled else .disabled := by
  have hload := load_store (storeAll m (if wrote then
    [⟨addr + model.adptCrvReq.offset, Value.encode (2 : UInt16)⟩] else []))
    ⟨addr + model.ena.offset, Value.encode (if wrote then Ena.enabled else .disabled)⟩
  rw [Value.length_encode] at hload
  rw [readPoint, controlBlocks, storeAll_append]
  refine (congrArg Value.decode hload).trans ?_
  cases wrote <;> rfl

theorem sent_of_step (h : model.WellFormed) (hstep : model.step addr m curves = some m') :
    Sent h addr m m' curves := by
  obtain ⟨bs, hsend, rfl⟩ := Option.map_eq_some_iff.1 hstep
  have hinv := sendTripCurves_inv h hsend
  have hpoints : ∀ {before : List (Block UInt16)} {wrote : Bool},
      (∀ b ∈ before, ∀ a, addr ≤ a → a < addr + model.len → ¬b.Covers a) →
      model.SamePoints addr m (storeAll m (before ++ model.controlBlocks addr wrote)) := by
    intro before wrote hbefore
    exact ⟨readPoint_keep h (by simp [fixedPoints]) hbefore,
      readPoint_keep h (by simp [fixedPoints]) hbefore,
      readPoint_keep h (by simp [fixedPoints]) hbefore,
      readPoint_keep h (by simp [fixedPoints]) hbefore⟩
  split_ifs at hinv with hsets
  · obtain ⟨hfits, rfl⟩ := hinv
    have hcurve : ∀ X, ∀ b ∈ written h m addr X (curves.get X), ∀ a, addr ≤ a →
        a < addr + model.len → ¬b.Covers a := by
      intro X b hb a hlo hhi
      have hfixed : 0 ≠ TripCurveModel.position X := by cases X <;> decide
      exact (written_within h hsets (hfits X) b hb).not_covers hfixed hlo hhi
    refine ⟨hpoints fun b hb => ?_, fun _ => hsets, fun _ => hfits,
      fun _ X a hlo hhi => sent_slot h hsets hfits hlo hhi⟩
    rcases List.mem_append.1 hb with hb | hb
    · rcases List.mem_append.1 hb with hb | hb
      · exact hcurve .mustTrip b hb
      · exact hcurve .mayTrip b hb
    · exact hcurve .momCess b hb
  · subst hinv
    have hsame : model.SamePoints addr m (storeAll m ([] ++ model.controlBlocks addr false)) :=
      hpoints fun b hb => absurd hb List.not_mem_nil
    refine ⟨hsame, fun hena => ?_, fun hsets' => absurd hsets' hsets,
      fun hsets' => absurd hsets' hsets⟩
    rw [readPoint_ena] at hena
    cases hena

/-! ## What stands in the set after a run -/

section Same

variable (hsame : model.SamePoints addr m m')

include hsame

omit [ScaledValueInner TX] [ScaledValueInner TY] [FixedSize TX] [FixedSize TY] in
theorem SamePoints.sizes : model.sizes m' addr = model.sizes m addr := by
  rw [TripCurveModel.sizes, hsame.nCrvSet, hsame.nPt]
  rfl

omit [ScaledValueInner TX] [ScaledValueInner TY] [FixedSize TX] [FixedSize TY] in
theorem SamePoints.fitting (data : Option (Curve TX TY)) :
    model.fitting m' addr data = model.fitting m addr data := by
  rw [TripModel.fitting, hsame.nPt]
  rfl

theorem SamePoints.curveBlocks (h : model.WellFormed) (data : Option (Curve TX TY)) :
    curveBlocks h m' addr X data = curveBlocks h m addr X data := by
  have hslot : model.slot m' addr X = model.slot m addr X := by
    rw [slot, hsame.sizes]
    rfl
  cases data with
  | none => rw [TripModel.curveBlocks, hslot, TripModel.curveBlocks]
  | some data => rw [TripModel.curveBlocks, hslot, hsame.xSf, hsame.ySf, TripModel.curveBlocks]

end Same

/-- The last curve of a kind that was carried and that fits, after an earlier one. -/
def lastFitting (model : TripModel TX TY) (m : Memory) (addr : Nat) (X : TripCurve)
    (earlier : Option (Curve TX TY)) (ps : List (TripCurves TX TY)) : Option (Curve TX TY) :=
  ps.foldl (fun last p => (model.fitting m addr (p.get X)).or last) earlier

omit [ScaledValueInner TX] [ScaledValueInner TY] [FixedSize TX] [FixedSize TY] in
theorem SamePoints.lastFitting (hsame : model.SamePoints addr m m') (last : Option (Curve TX TY))
    (ps : List (TripCurves TX TY)) :
    model.lastFitting m' addr X last ps = model.lastFitting m addr X last ps := by
  simp only [TripModel.lastFitting, hsame.fitting]

/-- One parameter set leaves the curves it does not carry. -/
theorem shows_step (h : model.WellFormed) (hsent : Sent h addr m m' curves)
    (hsets : 2 ≤ (readPoint m addr model.nCrvSet).toNat) {last : Option (Curve TX TY)}
    (hfits : model.Fits m addr last) (hshows : Shows h m addr X last) :
    Shows h m' addr X ((model.fitting m addr (curves.get X)).or last) := by
  intro b hb
  rw [hsent.same.curveBlocks] at hb
  cases hfit : model.fitting m addr (curves.get X) with
  | some data =>
    rw [hfit, Option.some_or] at hb
    have hwithin := curveBlocks_within h hsets (hfit ▸ hsent.fits hsets X) b hb
    have hload : load m' b.start b.words.length =
        load (storeAll m (curveBlocks h m addr X (some data))) b.start b.words.length := by
      refine load_congr fun a hlo hhi => ?_
      rw [hsent.slots hsets X a (hwithin.1.trans hlo) (hhi.trans_le hwithin.2),
        written_of_some hfit]
    rw [hload]
    exact load_storeAll CurveGroup.pairwise_blocks hb
  | none =>
    rw [hfit, Option.none_or] at hb
    have hwithin := curveBlocks_within h hsets hfits b hb
    refine (load_congr fun a hlo hhi => ?_).trans (hshows b hb)
    rw [hsent.slots hsets X a (hwithin.1.trans hlo) (hhi.trans_le hwithin.2), written_of_none hfit]
    rfl

theorem samePoints_of_run (h : model.WellFormed) {ps : List (TripCurves TX TY)}
    (hrun : run (model.step addr) m ps = some m') : model.SamePoints addr m m' := by
  induction ps generalizing m with
  | nil =>
    cases hrun
    exact ⟨rfl, rfl, rfl, rfl⟩
  | cons p ps ih =>
    obtain ⟨m₁, hstep, hrun⟩ := run_cons_eq_some.1 hrun
    have hsame := (sent_of_step h hstep).same
    have hsame' := ih hrun
    exact ⟨hsame'.nCrvSet.trans hsame.nCrvSet, hsame'.nPt.trans hsame.nPt,
      hsame'.xSf.trans hsame.xSf, hsame'.ySf.trans hsame.ySf⟩

/-- **After a run the set shows the last curve of each kind.** -/
theorem shows_lastFitting (h : model.WellFormed) {ps : List (TripCurves TX TY)}
    (hrun : run (model.step addr) m ps = some m')
    (hsets : 2 ≤ (readPoint m addr model.nCrvSet).toNat) {last : Option (Curve TX TY)}
    (hfits : model.Fits m addr last) (hshows : Shows h m addr X last) :
    model.Fits m' addr (model.lastFitting m addr X last ps) ∧
      Shows h m' addr X (model.lastFitting m addr X last ps) := by
  induction ps generalizing m last with
  | nil =>
    cases hrun
    exact ⟨hfits, hshows⟩
  | cons p ps ih =>
    obtain ⟨m₁, hstep, hrun⟩ := run_cons_eq_some.1 hrun
    have hsent := sent_of_step h hstep
    have hfits₁ : model.Fits m₁ addr ((model.fitting m addr (p.get X)).or last) := by
      intro d hd
      rw [hsent.same.nPt]
      rcases Option.or_eq_some_iff.1 hd with hd | ⟨-, hd⟩
      · exact hsent.fits hsets X d hd
      · exact hfits d hd
    have hlast : model.lastFitting m addr X last (p :: ps) =
        model.lastFitting m₁ addr X ((model.fitting m addr (p.get X)).or last) ps := by
      rw [hsent.same.lastFitting]
      rfl
    rw [hlast]
    exact ih hrun (hsent.same.nCrvSet ▸ hsets) hfits₁ (shows_step h hsent hsets hfits hshows)

/-- The set holds the curves that the parameters carry, and no others: each has as many active
points as they say, and these points. A curve that does not fit counts as absent. -/
def HoldsSet (h : model.WellFormed) (m : Memory) (addr : Nat) (curves : TripCurves TX TY) : Prop :=
  ∀ X, Shows h m addr X (model.fitting m addr (curves.get X))

/-- Of each kind that the parameters do not carry, the last curve that was sent has no points. -/
def NothingLeft (model : TripModel TX TY) (m : Memory) (addr : Nat)
    (ps : List (TripCurves TX TY)) (curves : TripCurves TX TY) : Prop :=
  ∀ X, model.fitting m addr (curves.get X) = none →
    ∀ data, model.lastFitting m addr X none ps = some data → data.points = []

omit [ScaledValueInner TX] [ScaledValueInner TY] [FixedSize TX] [FixedSize TY] in
theorem len_eq_zero_iff {data : Curve TX TY} : data.len = 0 ↔ data.points = [] := by
  rw [Curve.len, ← UInt16.toNat_inj]
  split_ifs with hlen
  · rw [UInt16.toNat_ofNat', Nat.mod_eq_of_lt hlen]
    exact List.length_eq_zero_iff
  · constructor
    · intro h
      cases h
    · intro h
      rw [h] at hlen
      exact absurd (Nat.two_pow_pos 16) hlen

/-- An empty curve is shown as one that is absent. -/
theorem curveBlocks_of_points {h : model.WellFormed} {data : Curve TX TY}
    (hdata : data.points = []) :
    curveBlocks h m addr X (some data) = curveBlocks h m addr X none := by
  rw [curveBlocks, curveBlocks, len_eq_zero_iff.2 hdata, scaledPoints, Curve.iterScaled, hdata]
  rfl

/-- A place shows one number of active points. -/
theorem points_of_shows {h : model.WellFormed} {data : Curve TX TY}
    (hnone : Shows h m addr X none) (hdata : Shows h m addr X (some data)) : data.points = [] := by
  have hload := hdata _ List.mem_cons_self
  have hzero := hnone _ List.mem_cons_self
  simp only [Value.length_encode] at hload hzero
  have hencode : Value.encode (some data.len) = Value.encode (some (0 : UInt16)) :=
    hload.symm.trans hzero
  exact len_eq_zero_iff.1 (List.cons.inj hencode).1

theorem holdsSet_iff (h : model.WellFormed) {ps : List (TripCurves TX TY)}
    (hempty : ∀ X, Shows h m addr X none)
    (hrun : run (model.step addr) m (ps ++ [curves]) = some m')
    (hena : readPoint m' addr model.ena = .enabled) :
    HoldsSet h m' addr curves ↔ NothingLeft model m' addr ps curves := by
  obtain ⟨m₁, hps, hlast⟩ := run_append_eq_some.1 hrun
  obtain ⟨m₂, hstep, hrun'⟩ := run_cons_eq_some.1 hlast
  cases hrun'
  have hsent := sent_of_step h hstep
  have hsets₁ := hsent.ena hena
  have hsame := samePoints_of_run h hps
  have hsets : 2 ≤ (readPoint m addr model.nCrvSet).toNat := hsame.nCrvSet ▸ hsets₁
  have hafter : ∀ X, Shows h m' addr X
      ((model.fitting m' addr (curves.get X)).or (model.lastFitting m' addr X none ps)) := by
    intro X
    have hnone : model.Fits m addr none := nofun
    obtain ⟨hfits, hshows⟩ := shows_lastFitting h hps hsets hnone (hempty X)
    rw [hsent.same.fitting, hsent.same.lastFitting, hsame.lastFitting]
    exact shows_step h hsent hsets₁ hfits hshows
  constructor
  · intro hholds X hfit data hdata
    have hshows := hafter X
    have hnone := hholds X
    rw [hfit] at hnone hshows
    rw [hdata] at hshows
    exact points_of_shows hnone hshows
  · intro hleft X
    have hshows := hafter X
    cases hfit : model.fitting m' addr (curves.get X) with
    | some data => rwa [hfit] at hshows
    | none =>
      rw [hfit, Option.none_or] at hshows
      cases hlast : model.lastFitting m' addr X none ps with
      | none => rwa [hlast] at hshows
      | some data =>
        rw [hlast] at hshows
        intro b hb
        exact hshows b (curveBlocks_of_points (hleft X hfit data hlast) ▸ hb)

end TripModel

/-! ## The senders -/

namespace TripSender

variable {TX TY : Type} [ScaledValueInner TX] [ScaledValueInner TY] [FixedSize TX] [FixedSize TY]
  (self : TripSender TX TY)

/-- The device after one parameter set. -/
def step (addr : Nat) (m : Memory) (parameters : Parameters) : Option Memory :=
  self.model.step addr m (self.curves parameters)

/-- After any sequence of parameter sets that are sent in full to a device whose writable set is
empty at first: if the function is on, the set holds the curves of the last one exactly if nothing
was left in it. -/
def AdoptsExactly : Prop :=
  ∀ (h : self.model.WellFormed) (addr : Nat) (m m' : Memory) (ps : List Parameters)
    (parameters : Parameters), (∀ X, TripModel.Shows h m addr X none) →
    run (self.step addr) m (ps ++ [parameters]) = some m' →
    readPoint m' addr self.model.ena = .enabled →
    (TripModel.HoldsSet h m' addr (self.curves parameters) ↔
      self.model.NothingLeft m' addr (ps.map self.curves) (self.curves parameters))

variable {self}

theorem run_map {addr : Nat} {m m' : Memory} {ps : List Parameters}
    (hrun : run (self.step addr) m ps = some m') :
    run (self.model.step addr) m (ps.map self.curves) = some m' := by
  induction ps generalizing m with
  | nil => exact hrun
  | cons p ps ih =>
    obtain ⟨m₁, hstep, hrun⟩ := run_cons_eq_some.1 hrun
    exact run_cons_eq_some.2 ⟨m₁, hstep, ih hrun⟩

theorem adoptsExactly (self : TripSender TX TY) : self.AdoptsExactly := by
  intro h addr m m' ps parameters hempty hrun hena
  refine TripModel.holdsSet_iff h hempty ?_ hena
  have hmap := run_map hrun
  rwa [List.map_append, List.map_singleton] at hmap

end TripSender

/-- **The adopted set is that of the last parameters, if and only if no curve was left in it.** -/
theorem adopted_iff (s707 s708 : VoltageTripPoints) (s709 s710 : FrequencyTripPoints) :
    (sendModel707Parameters s707).AdoptsExactly ∧
      (sendModel708Parameters s708).AdoptsExactly ∧
      (sendModel709Parameters s709).AdoptsExactly ∧
      (sendModel710Parameters s710).AdoptsExactly :=
  ⟨TripSender.adoptsExactly _, TripSender.adoptsExactly _, TripSender.adoptsExactly _,
    TripSender.adoptsExactly _⟩

/-! ## A curve that is left -/

/-- Model 707, with the points that turn it on in front. -/
def points707 : VoltageTripPoints where
  toVoltageTripLayout := layout707
  adptCrvReq := ⟨1⟩
  ena := ⟨0⟩

/-- Model 709, laid out in the same way. -/
def points709 : FrequencyTripPoints where
  len := 7
  crv := 1
  mustTrip := 1
  mayTrip := 1
  momCess := 1
  pt := 4
  nCrvSet := ⟨4⟩
  nPt := ⟨3⟩
  hzSf := ⟨5⟩
  tmsSf := ⟨6⟩
  actPt := ⟨0⟩
  hz := ⟨0⟩
  tms := ⟨2⟩
  adptCrvReq := ⟨1⟩
  ena := ⟨0⟩

theorem wellFormed_points707 : (sendModel707Parameters points707).model.WellFormed where
  curves := wellFormed_layout707
  stop_le := by decide
  apart := by decide

theorem memory707_empty (X : TripCurve) :
    TripModel.Shows wellFormed_points707 memory707 40 X none := by
  intro b hb
  cases X <;>
    · cases List.mem_singleton.1 hb
      decide

/-- Trip at this voltage, and stay connected at that. -/
def mustAndMay (must may : UInt16) : Parameters where
  derTripLvMust := some ⟨[(must, 2)], 0, 0⟩
  derTripLvMay := some ⟨[(may, 5)], 0, 0⟩

def mustOnly (must : UInt16) : Parameters where
  derTripLvMust := some ⟨[(must, 2)], 0, 0⟩

theorem adopted_both : ∃ m',
    run ((sendModel707Parameters points707).step 40) memory707
        ([mustOnly 50] ++ [mustAndMay 60 70]) = some m' ∧
      readPoint m' 40 (sendModel707Parameters points707).model.ena = .enabled ∧
      TripModel.HoldsSet wellFormed_points707 m' 40
        ((sendModel707Parameters points707).curves (mustAndMay 60 70)) := by
  refine ⟨_, rfl, by decide, ?_⟩
  have hadopts := (adopted_iff points707 points707 points709 points709).1
  refine (hadopts wellFormed_points707 40 memory707 _ [mustOnly 50] (mustAndMay 60 70)
    memory707_empty rfl (by decide)).2 fun X hfit data hdata => ?_
  cases X with
  | mustTrip => cases hfit
  | mayTrip => cases hfit
  | momCess => cases hdata

/-- The second parameter set carries no curve to stay connected at, and the one of the first is
adopted again. -/
theorem may_trip_left : (∀ X, TripModel.Shows wellFormed_points707 memory707 40 X none) ∧ ∃ m',
    run ((sendModel707Parameters points707).step 40) memory707
        ([mustAndMay 60 70] ++ [mustOnly 50]) = some m' ∧
      readPoint m' 40 (sendModel707Parameters points707).model.ena = .enabled ∧
      readPoint m' 77 (sendModel707Parameters points707).model.crvActPt = some 1 ∧
      ¬TripModel.HoldsSet wellFormed_points707 m' 40
        ((sendModel707Parameters points707).curves (mustOnly 50)) := by
  refine ⟨memory707_empty, _, rfl, by decide, by decide, fun hholds => ?_⟩
  have hshows := hholds .mayTrip _ List.mem_cons_self
  revert hshows
  decide

end Sep2Bridge.Modbus
