import Mathlib.Data.List.Pairwise
import Sep2Bridge.Scheduler.Sep2Model

/-!
# The order of the controls

`all_controls_for_device` sorts the controls by `compareControls`. A sort may rely on its
comparison being a total preorder of the entries. This one is, by primacy, kind and creation time
(`compareRanks`), except that a default is after everything of its primacy, other defaults and
itself included.

**Theorem (`orders_iff`).** The entries at different positions are ordered if and only if no two
programs of the device that have a default share a primacy. With each entry compared to itself as
well, they are if and only if no program has a default.
-/

namespace Sep2Bridge

open Lib Std

/-- A comparison is a total preorder of the entries of a list, at different positions. -/
structure Orders {α : Type} (cmp : α → α → Ordering) (l : List α) : Prop where
  swap : ∀ i j : Fin l.length, i ≠ j → cmp (l.get i) (l.get j) = (cmp (l.get j) (l.get i)).swap
  trans : ∀ i j k : Fin l.length, i ≠ j → j ≠ k → i ≠ k → (cmp (l.get i) (l.get j)).isLE →
    (cmp (l.get j) (l.get k)).isLE → (cmp (l.get i) (l.get k)).isLE

namespace ControlRef

def isDefault : ControlRef → Bool
  | default _ => true
  | scheduled _ => false

/-- Less for a later creation time. -/
def age : ControlRef → Int
  | default _ => 0
  | scheduled control => -control.derControl.creationTime

end ControlRef

namespace Sep2Model

/-! ## The comparison -/

/-- Two defaults of the same primacy. -/
def Tied (a b : PrimacyType × ControlRef) : Prop :=
  a.2.isDefault = true ∧ b.2.isDefault = true ∧ a.1 = b.1

/-- The total preorder by primacy, kind and age. -/
def compareRanks : PrimacyType × ControlRef → PrimacyType × ControlRef → Ordering :=
  compareLex (compareOn fun a => a.1)
    (compareLex (compareOn fun a => a.2.isDefault) (compareOn fun a => a.2.age))

instance : TransCmp compareRanks :=
  inferInstanceAs (TransCmp (compareLex (compareOn _) (compareLex (compareOn _) (compareOn _))))

theorem compareControls_eq {a b : PrimacyType × ControlRef} (h : ¬Tied a b) :
    compareControls a b = compareRanks a b := by
  obtain ⟨p, a⟩ := a
  obtain ⟨q, b⟩ := b
  show (compare p q).then _ = (compare p q).then ((compare a.isDefault b.isDefault).then
    (compare a.age b.age))
  cases a with
  | scheduled a =>
    cases b with
    | scheduled b =>
      congr 1
      show (compare a.derControl.creationTime b.derControl.creationTime).swap =
        compare (-a.derControl.creationTime) (-b.derControl.creationTime)
      rw [← OrientedCmp.eq_swap]
      simp only [compare, compareOfLessAndEq, neg_lt_neg_iff, neg_inj, eq_comm]
    | default b => rfl
  | default a =>
    cases b with
    | scheduled b => rfl
    | default b =>
      have hne : p ≠ q := fun hpq => h ⟨rfl, rfl, hpq⟩
      cases hcmp : compare p q with
      | eq => exact absurd (Nat.compare_eq_eq.1 hcmp) hne
      | lt => rfl
      | gt => rfl

/-- Each of two tied defaults is after the other. -/
theorem compareControls_tied {a b : PrimacyType × ControlRef} (h : Tied a b) :
    compareControls a b = .gt := by
  obtain ⟨p, a⟩ := a
  obtain ⟨q, b⟩ := b
  obtain ⟨ha, hb, hpq⟩ := h
  cases hpq
  cases a with
  | scheduled a => cases ha
  | default a =>
    show (compare p p).then .gt = .gt
    rw [Nat.compare_eq_eq.2 rfl]
    rfl

theorem Tied.symm {a b : PrimacyType × ControlRef} (h : Tied a b) : Tied b a :=
  ⟨h.2.1, h.1, h.2.2.symm⟩

theorem not_swap_of_tied {a b : PrimacyType × ControlRef} (h : Tied a b) :
    compareControls a b ≠ (compareControls b a).swap := by
  rw [compareControls_tied h, compareControls_tied h.symm]
  decide

theorem orders_compareControls_iff (l : List (PrimacyType × ControlRef)) :
    Orders compareControls l ↔ l.Pairwise fun a b => ¬Tied a b := by
  rw [List.pairwise_iff_get]
  constructor
  · intro h i j hij htied
    exact not_swap_of_tied htied (h.swap i j hij.ne)
  · intro h
    have hfree : ∀ i j : Fin l.length, i ≠ j → ¬Tied (l.get i) (l.get j) := by
      intro i j hij
      obtain hlt | hlt := lt_or_gt_of_ne hij
      · exact h i j hlt
      · exact fun htied => h j i hlt htied.symm
    refine ⟨fun i j hij => ?_, fun i j k hij hjk hik h₁ h₂ => ?_⟩
    · rw [compareControls_eq (hfree i j hij), compareControls_eq (hfree j i hij.symm)]
      exact OrientedCmp.eq_swap
    · rw [compareControls_eq (hfree i j hij)] at h₁
      rw [compareControls_eq (hfree j k hjk)] at h₂
      rw [compareControls_eq (hfree i k hik)]
      exact TransCmp.isLE_trans h₁ h₂

theorem transCmp_compareControls_iff (l : List (PrimacyType × ControlRef)) :
    TransCmp (fun a b : {a // a ∈ l} => compareControls a.1 b.1) ↔
      ∀ a ∈ l, a.2.isDefault = false := by
  constructor
  · intro h a ha
    by_contra hdefault
    rw [Bool.not_eq_false] at hdefault
    exact not_swap_of_tied ⟨hdefault, hdefault, rfl⟩ (h.eq_swap (a := ⟨a, ha⟩) (b := ⟨a, ha⟩))
  · intro h
    have hfree : ∀ a b : {a // a ∈ l}, compareControls a.1 b.1 = compareRanks a.1 b.1 := by
      intro a b
      refine compareControls_eq fun htied => ?_
      rw [Tied, h a.1 a.2] at htied
      cases htied.1
    refine { eq_swap := fun {a b} => ?_, isLE_trans := fun {a b c} h₁ h₂ => ?_ }
    · rw [hfree, hfree]
      exact OrientedCmp.eq_swap
    · rw [hfree] at h₁ h₂ ⊢
      exact TransCmp.isLE_trans h₁ h₂

/-! ## The entries of a device -/

section Device

variable (m : Sep2Model) (lfdi : HexBinary160) (now : Int)

/-- The entries that `all_controls_for_device` sorts. -/
def entriesForDevice : List (PrimacyType × ControlRef) :=
  (m.devicePrograms lfdi).flatMap (m.annotatedControls now)

example : m.allControlsForDevice lfdi now =
    (sortBy compareControls (m.entriesForDevice lfdi now)).map Prod.snd := rfl

/-- The default of a program that is stored. -/
def storedDefault (program : DERProgram) : Option DefaultDERControl :=
  program.defaultDerControlLink.bind fun link => m.defaultControls.get? link.href

theorem filter_annotatedControls (program : DERProgram) :
    (m.annotatedControls now program).filter (fun a => a.2.isDefault) =
      (m.storedDefault program).toList.map fun control => (program.primacy, .default control) := by
  unfold annotatedControls storedDefault
  cases program.defaultDerControlLink.bind fun link => m.defaultControls.get? link.href <;>
    simp [List.filter_map, Function.comp_def, ControlRef.isDefault]

/-- The primacies of the defaults among the entries. -/
theorem primacies_of_defaults :
    ((m.entriesForDevice lfdi now).filter fun a => a.2.isDefault).map Prod.fst =
      ((m.devicePrograms lfdi).filter fun program => (m.storedDefault program).isSome).map
        DERProgram.primacy := by
  unfold entriesForDevice
  induction m.devicePrograms lfdi with
  | nil => rfl
  | cons program programs ih =>
    rw [List.flatMap_cons, List.filter_append, List.map_append, ih, filter_annotatedControls,
      List.filter_cons]
    cases m.storedDefault program <;> rfl

/-- **The comparison orders the entries** at different positions if and only if the programs with
a default have different primacies, and each with itself if and only if there is no default. -/
theorem orders_iff :
    (Orders compareControls (m.entriesForDevice lfdi now) ↔
      (((m.devicePrograms lfdi).filter fun program => (m.storedDefault program).isSome).map
        DERProgram.primacy).Nodup) ∧
    (TransCmp (fun a b : {a // a ∈ m.entriesForDevice lfdi now} => compareControls a.1 b.1) ↔
      ∀ program ∈ m.devicePrograms lfdi, m.storedDefault program = none) := by
  constructor
  · rw [orders_compareControls_iff, ← primacies_of_defaults m lfdi now, List.Nodup,
      List.pairwise_map, List.pairwise_filter]
    refine List.Pairwise.iff fun a b => ?_
    simp only [Tied, not_and, ne_eq]
  · have hnone : ((m.entriesForDevice lfdi now).filter fun a => a.2.isDefault) = [] ↔
        ((m.devicePrograms lfdi).filter fun program => (m.storedDefault program).isSome) = [] := by
      rw [← List.map_eq_nil_iff, primacies_of_defaults, List.map_eq_nil_iff]
    rw [List.filter_eq_nil_iff, List.filter_eq_nil_iff] at hnone
    simpa only [transCmp_compareControls_iff, Bool.not_eq_true, Option.isSome_eq_false_iff,
      Option.isNone_iff_eq_none] using hnone

end Device

/-- Our device with two programs of one primacy, each with a default. -/
def twoDefaults : Sep2Model where
  endDevices := (∅ : HashMap _ _).insert 7
    { lfdi := some 7, functionSetAssignmentsListLink := some ⟨"/fsa"⟩ }
  functionSetAssignmentsLists := (∅ : HashMap _ _).insert "/fsa" ⟨"/fsa", [1], none⟩
  functionSetAssignments := (∅ : HashMap _ _).insert 1
    { mrid := 1, derProgramListLink := some ⟨"/derp"⟩ }
  programLists := (∅ : HashMap _ _).insert "/derp" ⟨"/derp", [2, 3], none⟩
  programs := ((∅ : HashMap _ _).insert 2
    { mrid := 2, primacy := 1, defaultDerControlLink := some ⟨"/dderc/2"⟩ }).insert 3
    { mrid := 3, primacy := 1, defaultDerControlLink := some ⟨"/dderc/3"⟩ }
  defaultControls := ((∅ : HashMap _ _).insert "/dderc/2" { setGradW := some 20 }).insert
    "/dderc/3" { setGradW := some 30 }

/-- Each of the two defaults is greater than the other. -/
theorem defaults_not_ordered : ¬Orders compareControls (twoDefaults.entriesForDevice 7 0) := by
  intro h
  have hentries : twoDefaults.entriesForDevice 7 0 =
      [(1, .default { setGradW := some 20 }), (1, .default { setGradW := some 30 })] := by
    decide +kernel
  rw [hentries] at h
  have hswap := h.swap ⟨0, by decide⟩ ⟨1, by decide⟩ (by decide)
  exact absurd hswap (by decide)

end Sep2Model

end Sep2Bridge
