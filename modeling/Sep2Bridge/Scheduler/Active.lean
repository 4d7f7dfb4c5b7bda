import Mathlib.Data.Set.Card
import Sep2Bridge.Scheduler.Restart

/-!
# How many attributes are active

`num_active` adds up one summand for each field. Over `Attribute` it counts a set.

**Theorem (`numActive_calcParameters`).** The count that is logged with the parameters is the number
of attributes that a control in force or a default control gives a value, each counted once.
-/

namespace Sep2Bridge

open Lib Scheduler

namespace ControlAttributes

/-- The attributes that would be applied. -/
def active (c : ControlAttributes) : Set Attribute := {a | (c.inner.get a).isSome = true}

theorem mem_active {c : ControlAttributes} {a : Attribute} :
    a ∈ c.active ↔ (c.inner.get a).isSome = true := Iff.rfl

theorem nodup_all : Attribute.all.Nodup := by decide

/-- The fields are added up in the order of the attributes. -/
theorem numActive_eq_sum (c : ControlAttributes) :
    c.numActive = (Attribute.all.map fun a => (c.inner.get a).isSome.toNat).sum := by
  simp only [numActive, Attribute.all, List.map_cons, List.map_nil, List.sum_cons, List.sum_nil,
    Nat.add_assoc]
  rfl

theorem active_eq_coe (c : ControlAttributes) :
    c.active = ((Attribute.all.toFinset.filter fun a => (c.inner.get a).isSome = true :
      Finset Attribute) : Set Attribute) := by
  ext a
  simp [mem_active, Attribute.mem_all]

theorem numActive_eq_ncard (c : ControlAttributes) : c.numActive = c.active.ncard := by
  rw [active_eq_coe, Set.ncard_coe_finset, Finset.card_filter, numActive_eq_sum,
    List.sum_toFinset _ nodup_all]
  congr 1
  refine List.map_congr_left fun a _ => ?_
  cases (c.inner.get a).isSome <;> rfl

end ControlAttributes

variable {m : Sep2Model} {lfdi : HexBinary160} {now : Int}

/-- **How many attributes are active.** -/
theorem numActive_calcParameters : (calcParameters m lfdi now).numActive =
    Set.ncard {a | ∃ s, Source m lfdi now s ∧ (s.2.attribute a).isSome = true} := by
  rw [ControlAttributes.numActive_eq_ncard]
  congr 1
  ext a
  simp [ControlAttributes.mem_active, get_calcParameters, mem_rankedSources]

end Sep2Bridge
