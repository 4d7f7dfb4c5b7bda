import Mathlib.Tactic.Linarith

/-!
# Runs of a machine

A machine is a partial step function: in a state it either refuses a label or moves to one next
state. All choice is in the labels, so what holds of every list of labels holds of every
interleaving.

* `run` — the state after a list of labels, to be computed.
* `Exec` — a run each of whose steps meets a condition on the state it starts in; `runIf`
  computes it.
* `Exec.invariant` — what holds at first and is kept by every step holds throughout.
* `Exec.history` — the same, for what depends on the labels so far.
* `exec_iff_forall_prefix` — a condition on the steps against a property of the states.
* `Exec.project` — a part that makes steps of another machine, or none, goes through a run of it.
* `exists_origin` — what has come into a history came into it with some step.
-/

namespace Lib

variable {σ ℓ : Type*}

/-- The state after the labels `ls`, if none is refused. -/
def run (step : σ → ℓ → Option σ) : σ → List ℓ → Option σ
  | s, [] => some s
  | s, l :: ls => (step s l).bind fun t => run step t ls

/-- The state after the labels `ls`, if none is refused and each is allowed by `ok`. -/
def runIf (step : σ → ℓ → Option σ) (ok : σ → ℓ → Prop) [∀ s l, Decidable (ok s l)] :
    σ → List ℓ → Option σ
  | s, [] => some s
  | s, l :: ls => if ok s l then (step s l).bind fun t => runIf step ok t ls else none

/-- A run from one state to another, taking each label in a state where `ok` allows it. -/
inductive Exec (step : σ → ℓ → Option σ) (ok : σ → ℓ → Prop) : σ → List ℓ → σ → Prop
  | nil (s : σ) : Exec step ok s [] s
  | cons {s t u : σ} {l : ℓ} {ls : List ℓ} :
      ok s l → step s l = some t → Exec step ok t ls u → Exec step ok s (l :: ls) u

variable {step : σ → ℓ → Option σ} {ok : σ → ℓ → Prop} {s t u : σ} {l : ℓ} {ls ls' : List ℓ}

theorem run_cons_eq_some :
    run step s (l :: ls) = some u ↔ ∃ t, step s l = some t ∧ run step t ls = some u := by
  simp only [run, Option.bind_eq_some_iff]

theorem run_append_eq_some :
    run step s (ls ++ ls') = some u ↔ ∃ t, run step s ls = some t ∧ run step t ls' = some u := by
  induction ls generalizing s with
  | nil => simp [run]
  | cons l ls ih =>
    rw [List.cons_append, run_cons_eq_some]
    simp only [ih, run_cons_eq_some]
    constructor
    · rintro ⟨t, hst, v, htv, hvu⟩
      exact ⟨v, ⟨t, hst, htv⟩, hvu⟩
    · rintro ⟨v, ⟨t, hst, htv⟩, hvu⟩
      exact ⟨t, hst, v, htv, hvu⟩

/-- The runs without a condition are those `run` computes. -/
theorem exec_true_iff : Exec step (fun _ _ => True) s ls t ↔ run step s ls = some t := by
  induction ls generalizing s with
  | nil =>
    constructor
    · rintro ⟨⟩; rfl
    · intro h; cases Option.some.inj h; exact .nil _
  | cons l ls ih =>
    rw [run_cons_eq_some]
    constructor
    · rintro (_ | ⟨-, hst, h⟩); exact ⟨_, hst, ih.1 h⟩
    · rintro ⟨t, hst, h⟩; exact .cons trivial hst (ih.2 h)

/-- A run whose labels are allowed in every state. -/
theorem exec_of_run (h : run step s ls = some t) (hok : ∀ l ∈ ls, ∀ s, ok s l) :
    Exec step ok s ls t := by
  induction ls generalizing s with
  | nil => cases h; exact .nil _
  | cons l ls ih =>
    obtain ⟨u, hsu, hut⟩ := run_cons_eq_some.1 h
    have hl := hok l List.mem_cons_self s
    exact .cons hl hsu (ih hut fun l hl => hok l (List.mem_cons_of_mem _ hl))

/-- The runs under a decidable condition are those `runIf` computes. -/
theorem exec_iff_runIf [∀ s l, Decidable (ok s l)] :
    Exec step ok s ls t ↔ runIf step ok s ls = some t := by
  induction ls generalizing s with
  | nil =>
    constructor
    · rintro ⟨⟩; rfl
    · intro h; cases Option.some.inj h; exact .nil _
  | cons l ls ih =>
    simp only [runIf]
    constructor
    · rintro (_ | ⟨hok, hst, h⟩)
      rw [if_pos hok, hst]
      exact ih.1 h
    · intro h
      split_ifs at h with hok
      obtain ⟨t, hst, h⟩ := Option.bind_eq_some_iff.1 h
      exact .cons hok hst (ih.2 h)

theorem Exec.weaken {ok' : σ → ℓ → Prop} (h : Exec step ok s ls t)
    (hok : ∀ s l, ok s l → ok' s l) : Exec step ok' s ls t := by
  induction h with
  | nil => exact .nil _
  | cons hl hst _ ih => exact .cons (hok _ _ hl) hst ih

/-- **The invariant rule.** -/
theorem Exec.invariant {I : σ → Prop} (h : Exec step ok s ls t) (h₀ : I s)
    (hstep : ∀ s l t, I s → ok s l → step s l = some t → I t) : I t := by
  induction h with
  | nil => exact h₀
  | cons hl hst _ ih => exact ih (hstep _ _ _ h₀ hl hst)

/-- The invariant rule, for what holds of a state and the labels that led to it. -/
theorem Exec.history {I : List ℓ → σ → Prop} (h : Exec step ok s ls t) (h₀ : I [] s)
    (hstep : ∀ past s l t, I past s → ok s l → step s l = some t → I (past ++ [l]) t) : I ls t := by
  suffices hpast : ∀ past, I past s → I (past ++ ls) t from hpast [] h₀
  clear h₀
  induction h with
  | nil =>
    intro past hs
    rw [List.append_nil]
    exact hs
  | cons hl hst _ ih =>
    intro past hs
    rw [List.append_cons]
    exact ih _ (hstep _ _ _ _ hs hl hst)

/-- A condition on each step that says what holds after it holds at each step if and only if that
holds in each state of the run. -/
theorem exec_iff_forall_prefix {I P : σ → Prop}
    (hok : ∀ s l t, I s → step s l = some t → (ok s l ↔ P t))
    (hstep : ∀ s l t, I s → step s l = some t → P t → I t)
    (hI : I s) (hP : P s) (h : run step s ls = some t) :
    Exec step ok s ls t ↔ ∀ ls' u, ls' <+: ls → run step s ls' = some u → P u := by
  induction ls generalizing s with
  | nil =>
    cases h
    constructor
    · intro _ ls' u hls' hu
      rw [List.prefix_nil.1 hls'] at hu
      cases hu
      exact hP
    · intro _
      exact .nil _
  | cons l ls ih =>
    obtain ⟨v, hsv, hvt⟩ := run_cons_eq_some.1 h
    constructor
    · intro hexec ls' u hls' hu
      cases hexec with
      | cons hl hsv' hexec =>
        cases hsv.symm.trans hsv'
        have hPv := (hok s l v hI hsv).1 hl
        cases ls' with
        | nil =>
          cases hu
          exact hP
        | cons l' ls' =>
          obtain ⟨rfl, htail⟩ := List.cons_prefix_cons.1 hls'
          obtain ⟨w, hsw, hwu⟩ := run_cons_eq_some.1 hu
          cases hsv.symm.trans hsw
          exact (ih (hstep s _ v hI hsv hPv) hPv hvt).1 hexec ls' u htail hwu
    · intro hall
      have hsingle : run step s [l] = some v := run_cons_eq_some.2 ⟨v, hsv, rfl⟩
      have hPv := hall [l] v (List.cons_prefix_cons.2 ⟨rfl, List.nil_prefix⟩) hsingle
      refine .cons ((hok s l v hI hsv).2 hPv) hsv ?_
      refine (ih (hstep s l v hI hsv hPv) hPv hvt).2 fun ls' u hls' hu => ?_
      exact hall (l :: ls') u (List.cons_prefix_cons.2 ⟨rfl, hls'⟩)
        (run_cons_eq_some.2 ⟨v, hsv, hu⟩)

/-- **Projection.** -/
theorem Exec.project {τ κ : Type*} (h : Exec step ok s ls t) (step' : τ → κ → Option τ)
    (ok' : τ → κ → Prop) (f : σ → τ) (hstep : ∀ s l t, ok s l → step s l = some t →
      f t = f s ∨ ∃ k, ok' (f s) k ∧ step' (f s) k = some (f t)) :
    ∃ ks, Exec step' ok' (f s) ks (f t) := by
  induction h with
  | nil => exact ⟨[], .nil _⟩
  | cons hl hst _ ih =>
    obtain ⟨ks, hks⟩ := ih
    obtain heq | ⟨k, hk, hstep⟩ := hstep _ _ _ hl hst
    · exact ⟨ks, heq ▸ hks⟩
    · exact ⟨k :: ks, .cons hk hstep hks⟩

/-- **The origin** of an entry that was not there at first. -/
theorem exists_origin {α : Type*} (history : σ → List α) {a : α} (h : run step s ls = some t)
    (ht : a ∈ history t) (hs : a ∉ history s) : ∃ before l after u v, ls = before ++ l :: after ∧
      run step s before = some u ∧ step u l = some v ∧ a ∉ history u ∧ a ∈ history v := by
  induction ls generalizing s with
  | nil =>
    cases h
    exact absurd ht hs
  | cons l ls ih =>
    obtain ⟨u, hu, hrun⟩ := run_cons_eq_some.1 h
    by_cases hmem : a ∈ history u
    · exact ⟨[], l, ls, s, u, rfl, rfl, hu, hs, hmem⟩
    · obtain ⟨before, l', after, v, w, rfl, hbefore, hstep, hv, hw⟩ := ih hrun hmem
      exact ⟨l :: before, l', after, v, w, rfl, run_cons_eq_some.2 ⟨u, hu, hbefore⟩, hstep, hv, hw⟩

end Lib
