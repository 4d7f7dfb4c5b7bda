import Mathlib.Data.Set.Basic
import Sep2Bridge.Lib.Interaction

/-!
# Where names come from

A task uses names in what it asks: addresses, handles, keys. Some it knows from the start, some it
holds in its local variables, and of others it is told in the answers. `Sourced known p out` says
that `p` makes up none: each name it uses is one of these at that moment, and so is each name that
it holds in the end or that is in its result.
-/

namespace Lib.Proc

variable {Q : Type} {A : Q → Type} {σ ε α β N : Type}

/-- The names in a question, in an answer, and in the local variables. -/
structure Names (Q : Type) (A : Q → Type) (σ N : Type) where
  uses : Q → Set N
  tells (q : Q) : A q → Set N
  holds : σ → Set N

variable {names : Names Q A σ N} {known known' : Set N} {p : Proc Q A σ ε α}
  {f : α → Proc Q A σ ε β} {out : α → Set N} {out' : β → Set N}

/-- The names in the answers of a log. -/
def Names.told (names : Names Q A σ N) (l : List (Entry σ Q A)) : Set N :=
  {n | ∃ e ∈ l, n ∈ names.tells e.question.2 e.answer}

theorem told_append (l l' : List (Entry σ Q A)) :
    names.told (l ++ l') = names.told l ∪ names.told l' := by
  ext n
  constructor
  · rintro ⟨e, he, hn⟩
    rcases List.mem_append.1 he with he | he
    · exact .inl ⟨e, he, hn⟩
    · exact .inr ⟨e, he, hn⟩
  · rintro (⟨e, he, hn⟩ | ⟨e, he, hn⟩)
    · exact ⟨e, List.mem_append_left l' he, hn⟩
    · exact ⟨e, List.mem_append_right l he, hn⟩

@[simp] theorem told_singleton (s : σ) (q : Q) (a : A q) :
    names.told [⟨(s, q), a⟩] = names.tells q a := by
  simp [Names.told]

/-- From `known`, the program makes up no names; those of its result are `out`. -/
def Sourced (names : Names Q A σ N) (known : Set N) (p : Proc Q A σ ε α) (out : α → Set N) :
    Prop :=
  ∀ s l r t, Runs p s l r t →
    (∀ past e rest, l = past ++ e :: rest →
      names.uses e.question.2 ⊆ known ∪ names.holds s ∪ names.told past) ∧
    names.holds t ⊆ known ∪ names.holds s ∪ names.told l ∧
    ∀ a, r = .ok a → out a ⊆ known ∪ names.holds s ∪ names.told l

theorem Sourced.mono (h : Sourced names known p out) (hknown : known ⊆ known') :
    Sourced names known' p out := by
  intro s l r t hrun
  have hmore (l : List (Entry σ Q A)) :
      known ∪ names.holds s ∪ names.told l ⊆ known' ∪ names.holds s ∪ names.told l :=
    Set.union_subset_union_left _ (Set.union_subset_union_left _ hknown)
  obtain ⟨huses, hholds, hout⟩ := h s l r t hrun
  exact ⟨fun past e rest hl => (huses past e rest hl).trans (hmore past),
    hholds.trans (hmore l), fun a ha => (hout a ha).trans (hmore l)⟩

theorem sourced_pure {a : α} (h : out a ⊆ known) :
    Sourced names known (pure a : Proc Q A σ ε α) out := by
  intro s l r t hrun
  obtain ⟨rfl, rfl, rfl⟩ := runs_pure.1 hrun
  refine ⟨fun past e rest hl => by simp at hl, fun n hn => .inl (.inr hn), fun b hb => ?_⟩
  cases hb
  exact fun n hn => .inl (.inl (h hn))

theorem sourced_throw {e : ε} : Sourced names known (throw e : Proc Q A σ ε α) out := by
  intro s l r t hrun
  obtain ⟨rfl, rfl, rfl⟩ := runs_throw.1 hrun
  exact ⟨fun past e rest hl => by simp at hl, fun n hn => .inl (.inr hn), fun b hb => by cases hb⟩

theorem sourced_modify {g : σ → σ} (h : ∀ s, names.holds (g s) ⊆ known ∪ names.holds s) :
    Sourced names known (modify g : Proc Q A σ ε PUnit) fun _ => ∅ := by
  intro s l r t hrun
  obtain ⟨rfl, rfl, rfl⟩ := runs_modify.1 hrun
  exact ⟨fun past e rest hl => by simp at hl, fun n hn => .inl (h s hn),
    fun _ _ => Set.empty_subset _⟩

/-- What is held may be used. -/
theorem sourced_get_bind {f : σ → Proc Q A σ ε β}
    (h : ∀ s, Sourced names (known ∪ names.holds s) (f s) out') :
    Sourced names known (get >>= f) out' := by
  intro s l r t hrun
  have hheld : known ∪ names.holds s ∪ names.holds s = known ∪ names.holds s := by
    rw [Set.union_assoc, Set.union_self]
  have hs := h s s l r t (runs_get_bind.1 hrun)
  rwa [hheld] at hs

/-- A sequence goes on with the names of the first result. -/
theorem sourced_bind (hp : Sourced names known p out)
    (hf : ∀ a, Sourced names (known ∪ out a) (f a) out') :
    Sourced names known (p >>= f) out' := by
  intro s l r t hrun
  rcases runs_bind.1 hrun with ⟨e, h, rfl⟩ | ⟨l₁, l₂, a, u, rfl, h₁, h₂⟩
  · obtain ⟨huses, hholds, -⟩ := hp s l _ t h
    exact ⟨huses, hholds, fun b hb => by cases hb⟩
  · obtain ⟨huses₁, hu, hout⟩ := hp s l₁ _ u h₁
    obtain ⟨huses₂, ht, hout'⟩ := hf a u l₂ r t h₂
    have hmore (l : List (Entry σ Q A)) : known ∪ out a ∪ names.holds u ∪ names.told l ⊆
        known ∪ names.holds s ∪ names.told (l₁ ++ l) := by
      rw [told_append, ← Set.union_assoc]
      refine Set.union_subset_union_left _ (Set.union_subset (Set.union_subset ?_ (hout a rfl)) hu)
      exact fun n hn => .inl (.inl hn)
    refine ⟨fun past e rest hl => ?_, ht.trans (hmore l₂),
      fun b hb => (hout' b hb).trans (hmore l₂)⟩
    rcases List.append_eq_append_iff.1 hl with ⟨l', rfl, hl'⟩ | ⟨l', rfl, hl'⟩
    · exact (huses₂ l' e rest hl').trans (hmore l')
    · cases l' with
      | nil =>
        have huse := (huses₂ [] e rest hl'.symm).trans (hmore [])
        rwa [List.append_nil, List.append_nil] at huse
      | cons e' l' =>
        obtain ⟨rfl, -⟩ := List.cons.inj hl'
        exact huses₁ past e l' rfl

/-- The first part only keeps what it learns. -/
theorem sourced_seq (hp : Sourced names known p fun _ => ∅)
    (hf : ∀ a, Sourced names known (f a) out') : Sourced names known (p >>= f) out' :=
  sourced_bind hp fun a => (hf a).mono Set.subset_union_left

/-- A question about known names. -/
theorem sourced_ask {q : Q} {out : A q → Set N} (hq : names.uses q ⊆ known)
    (h : ∀ a, out a ⊆ names.tells q a) :
    Sourced names known (ask q : Proc Q A σ ε (A q)) out := by
  intro s l r t hrun
  obtain ⟨a, rfl, rfl, rfl⟩ := runs_ask.1 hrun
  rw [told_singleton]
  refine ⟨fun past e rest hl => ?_, fun n hn => .inl (.inr hn), fun b hb => ?_⟩
  · obtain ⟨rfl, hl⟩ | ⟨past', rfl, hl⟩ := List.cons_eq_append_iff.1 hl
    · cases hl
      exact fun n hn => .inl (.inl (hq hn))
    · simp at hl
  · cases hb
    exact fun n hn => .inr (h a hn)

theorem sourced_ite {c : Prop} [Decidable c] {p q : Proc Q A σ ε α}
    (hp : Sourced names known p out) (hq : Sourced names known q out) :
    Sourced names known (if c then p else q) out := by
  split_ifs <;> assumption

end Lib.Proc
