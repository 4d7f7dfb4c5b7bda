import Mathlib.Data.List.Destutter
import Sep2Bridge.Lib.Run

/-!
# Publishing changes

A machine calculates a value from its state now and then, and publishes it if it is not the one it
remembers. `PublishesChanges` is what this takes of each step. `history_of_run` is what it
makes of a run: what is published is what was calculated, without repetitions.
-/

namespace Lib

variable {σ ℓ α : Type*} {step : σ → ℓ → Option σ} {publishes : ℓ → Bool}

/-- The states of a run in which it goes on to publish. -/
def publishing (step : σ → ℓ → Option σ) (publishes : ℓ → Bool) : σ → List ℓ → List σ
  | _, [] => []
  | s, l :: ls =>
    let rest := (step s l).elim [] fun t => publishing step publishes t ls
    if publishes l = true then s :: rest else rest

variable [DecidableEq α]

/-- The steps that publish extend the history by the present value, unless it is the prior one, and
remember it. No other step has to do with either. `I` is an invariant that this rests on. -/
structure PublishesChanges (step : σ → ℓ → Option σ) (publishes : ℓ → Bool) (I : σ → Prop)
    (history : σ → List α) (prior present : σ → α) : Prop where
  keeps {s t l} : I s → step s l = some t → I t
  published {s t l} : I s → publishes l = true → step s l = some t →
    history t = history s ++ (if present s = prior s then [] else [present s]) ∧
      prior t = present s
  other {s t l} : I s → publishes l = false → step s l = some t →
    history t = history s ∧ prior t = prior s

variable {I : σ → Prop} {history : σ → List α} {prior present : σ → α} {s t : σ} {ls : List ℓ}

/-- **What a run publishes** is what it calculates, without repetitions. -/
theorem PublishesChanges.history_of_run
    (h : PublishesChanges step publishes I history prior present) (hrun : run step s ls = some t)
    (hs : I s) :
    ∃ new, history t = history s ++ new ∧
      prior s :: new = ((publishing step publishes s ls).map present).destutter' (· ≠ ·) (prior s) ∧
      prior t = (prior s :: new).getLast (List.cons_ne_nil _ _) := by
  induction ls generalizing s with
  | nil =>
    cases hrun
    exact ⟨[], (List.append_nil _).symm, rfl, rfl⟩
  | cons l ls ih =>
    obtain ⟨u, hu, hrun⟩ := run_cons_eq_some.1 hrun
    obtain ⟨new, hhistory, hnew, hlast⟩ := ih hrun (h.keeps hs hu)
    have hrest : publishing step publishes s (l :: ls) = if publishes l = true then
        s :: publishing step publishes u ls else publishing step publishes u ls := by
      rw [publishing, hu]
      rfl
    cases hl : publishes l with
    | false =>
      obtain ⟨hu, hprior⟩ := h.other hs hl hu
      rw [hrest, hl, ← hprior, ← hu]
      exact ⟨new, hhistory, hnew, hlast⟩
    | true =>
      obtain ⟨hu, hprior⟩ := h.published hs hl hu
      rw [hrest, hl, if_pos rfl, List.map_cons, List.destutter'_cons]
      rw [hprior] at hnew hlast
      by_cases hsame : present s = prior s
      · rw [if_pos hsame, List.append_nil] at hu
        rw [if_neg (not_not.2 hsame.symm), ← hsame, ← hu]
        exact ⟨new, hhistory, hnew, hlast⟩
      · rw [if_neg hsame] at hu
        rw [if_pos (Ne.symm hsame), ← hnew]
        refine ⟨present s :: new, ?_, rfl, ?_⟩
        · rw [hhistory, hu, List.append_assoc]
          rfl
        · rw [hlast]
          exact (List.getLast_cons _).symm

end Lib
