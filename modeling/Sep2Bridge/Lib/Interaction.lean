import Mathlib.Tactic.Common

/-!
# Programs that ask their environment

A task suspends only to ask something of the outside (receive, send a request, read the clock)
and goes on with the answer. `Interaction` is such a program as the tree of its questions, and
`Runs` relates it to every list of questions and answers it can go through. Nothing is assumed
about the answers, so what holds of every run holds of every environment.

`Proc` adds the local variables of the task and early exits. Each question is recorded with the
local variables at that moment.

* `Proc.runs_bind` — a run of a sequence, split between its parts.
* `Proc.Keeps` — a frame: a part of the state stays as it is, and only certain questions are
  asked. It holds of a sequence when it holds of its parts.
* `Proc.Ends` — which answers make a program leave early for good.
* `Proc.Wp` — weakest preconditions of the log and the local variables, with a rule for each way a
  program is built.
* `Proc.Iterates.always` — the rule for a loop: what its turns keep, and what they add to the log.
* `Always` — what holds of each entry of a log, given the entries before it.
* `exec` — the run against an environment given as a function of what was asked before.
-/

namespace Lib

/-- A program that asks questions `q : Q`, each answered in `A q`. -/
inductive Interaction (Q : Type) (A : Q → Type) (α : Type)
  | done (a : α)
  | ask (q : Q) (next : A q → Interaction Q A α)

/-- A question with its answer. -/
structure Exchange (Q : Type) (A : Q → Type) where
  question : Q
  answer : A question

namespace Interaction

variable {Q : Type} {A : Q → Type} {α β : Type}

def bind : Interaction Q A α → (α → Interaction Q A β) → Interaction Q A β
  | done a, f => f a
  | ask q next, f => ask q fun a => (next a).bind f

instance : Monad (Interaction Q A) where
  pure := done
  bind := bind

/-- The program can go through the exchanges `l` and end with `b`. -/
def Runs : Interaction Q A α → List (Exchange Q A) → α → Prop
  | done a, l, b => l = [] ∧ b = a
  | ask q next, l, b => ∃ r l', l = ⟨q, r⟩ :: l' ∧ (next r).Runs l' b

theorem runs_bind {p : Interaction Q A α} {f : α → Interaction Q A β}
    {l : List (Exchange Q A)} {b : β} :
    (p >>= f).Runs l b ↔ ∃ l₁ l₂ a, l = l₁ ++ l₂ ∧ p.Runs l₁ a ∧ (f a).Runs l₂ b := by
  show (p.bind f).Runs l b ↔ _
  induction p generalizing l with
  | done a =>
    constructor
    · intro h; exact ⟨[], l, a, rfl, ⟨rfl, rfl⟩, h⟩
    · rintro ⟨l₁, l₂, a', rfl, ⟨rfl, rfl⟩, h⟩; exact h
  | ask q next ih =>
    constructor
    · rintro ⟨r, l', rfl, h⟩
      obtain ⟨l₁, l₂, a, rfl, h₁, h₂⟩ := (ih r).1 h
      exact ⟨⟨q, r⟩ :: l₁, l₂, a, rfl, ⟨r, l₁, rfl, h₁⟩, h₂⟩
    · rintro ⟨-, l₂, a, rfl, ⟨r, l₁, rfl, h₁⟩, h₂⟩
      exact ⟨r, l₁ ++ l₂, rfl, (ih r).2 ⟨l₁, l₂, a, rfl, h₁, h₂⟩⟩

/-- The run against an environment that answers from what was asked before. -/
def exec (env : List (Exchange Q A) → (q : Q) → A q) :
    Interaction Q A α → List (Exchange Q A) → List (Exchange Q A) × α
  | done a, _ => ([], a)
  | ask q next, past =>
    let r := env past q
    let rest := (next r).exec env (past ++ [⟨q, r⟩])
    (⟨q, r⟩ :: rest.1, rest.2)

theorem runs_exec (env : List (Exchange Q A) → (q : Q) → A q) (p : Interaction Q A α)
    (past : List (Exchange Q A)) : p.Runs (p.exec env past).1 (p.exec env past).2 := by
  induction p generalizing past with
  | done a => exact ⟨rfl, rfl⟩
  | ask q next ih => exact ⟨env past q, _, rfl, ih _ _⟩

theorem answer_exec {env : List (Exchange Q A) → (q : Q) → A q} {p : Interaction Q A α}
    {past : List (Exchange Q A)} {e : Exchange Q A} (he : e ∈ (p.exec env past).1) :
    ∃ past', e.answer = env past' e.question := by
  induction p generalizing past with
  | done a => cases he
  | ask q next ih =>
    obtain rfl | he := List.mem_cons.1 he
    · exact ⟨past, rfl⟩
    · exact ih _ he

end Interaction

/-! ## Logs -/

section Always

variable {E : Type} {S : List E → E → Prop}

/-- Every entry of the log, which goes on after `past`, meets `S` given those before it. -/
def Always (S : List E → E → Prop) : List E → List E → Prop
  | _, [] => True
  | past, e :: l => S past e ∧ Always S (past ++ [e]) l

instance Always.decide [∀ past e, Decidable (S past e)] :
    (past l : List E) → Decidable (Always S past l)
  | _, [] => isTrue trivial
  | past, e :: l => @instDecidableAnd _ _ _ (Always.decide (past ++ [e]) l)

theorem always_append {past l l' : List E} :
    Always S past (l ++ l') ↔ Always S past l ∧ Always S (past ++ l) l' := by
  induction l generalizing past with
  | nil => simp [Always]
  | cons e l ih => simp [Always, ih, and_assoc]

/-- What `Always` says of a log, entry by entry. -/
theorem always_iff {past l : List E} :
    Always S past l ↔ ∀ pre e post, l = pre ++ e :: post → S (past ++ pre) e := by
  induction l generalizing past with
  | nil => simp [Always]
  | cons e l ih =>
    simp only [Always, ih]
    constructor
    · rintro ⟨he, hl⟩ pre e' post h
      cases pre with
      | nil =>
        cases h
        simpa using he
      | cons e'' pre =>
        cases h
        simpa using hl pre e' post rfl
    · intro h
      refine ⟨by simpa using h [] e l rfl, fun pre e' post hl => ?_⟩
      simpa using h (e :: pre) e' post (by rw [hl, List.cons_append])

/-- `S` may be shown of an entry with what holds of all entries of the log. -/
theorem always_of_forall {P : E → Prop} {past l : List E} (hP : ∀ e ∈ l, P e)
    (h : ∀ pre e, (∀ e' ∈ pre, P e') → P e → S (past ++ pre) e) : Always S past l := by
  refine always_iff.2 fun pre e post hl => ?_
  subst hl
  exact h pre e (fun e' he' => hP e' (by simp [he'])) (hP e (by simp))

end Always

/-! ## Tasks with local variables -/

/-- A question asked with the local variables `σ` in a given state. -/
abbrev Entry (σ Q : Type) (A : Q → Type) := Exchange (σ × Q) fun m => A m.2

/-- A program over local variables `σ` that may leave early with an `ε`. -/
abbrev Proc (Q : Type) (A : Q → Type) (σ ε : Type) :=
  ExceptT ε (StateT σ (Interaction (σ × Q) fun m => A m.2))

namespace Proc

variable {Q : Type} {A : Q → Type} {σ ε α β : Type}

/-- Ask, with the local variables as they are. -/
def ask (q : Q) : Proc Q A σ ε (A q) :=
  ExceptT.mk fun s => .ask (s, q) fun a => .done (.ok a, s)

/-- From `s` the task can go through `l`, with the result `r` and the local variables `t`. -/
def Runs (p : Proc Q A σ ε α) (s : σ) (l : List (Entry σ Q A)) (r : Except ε α) (t : σ) : Prop :=
  Interaction.Runs (p.run.run s) l (r, t)

variable {p : Proc Q A σ ε α} {f : α → Proc Q A σ ε β} {s t : σ} {l : List (Entry σ Q A)}
  {r : Except ε α}

theorem runs_pure {a : α} :
    Runs (pure a : Proc Q A σ ε α) s l r t ↔ l = [] ∧ r = .ok a ∧ t = s := by
  show l = [] ∧ (r, t) = (Except.ok a, s) ↔ _
  rw [Prod.mk.injEq]

theorem runs_throw {e : ε} :
    Runs (throw e : Proc Q A σ ε α) s l r t ↔ l = [] ∧ r = .error e ∧ t = s := by
  show l = [] ∧ (r, t) = (Except.error e, s) ↔ _
  rw [Prod.mk.injEq]

theorem runs_get {r : Except ε σ} :
    Runs (get : Proc Q A σ ε σ) s l r t ↔ l = [] ∧ r = .ok s ∧ t = s := by
  show l = [] ∧ (r, t) = (Except.ok s, s) ↔ _
  rw [Prod.mk.injEq]

theorem runs_modify {g : σ → σ} {r : Except ε PUnit} :
    Runs (modify g : Proc Q A σ ε PUnit) s l r t ↔ l = [] ∧ r = .ok ⟨⟩ ∧ t = g s := by
  show l = [] ∧ (r, t) = (Except.ok ⟨⟩, g s) ↔ _
  rw [Prod.mk.injEq]

theorem runs_ask {q : Q} {r : Except ε (A q)} :
    Runs (ask q : Proc Q A σ ε (A q)) s l r t ↔ ∃ a, l = [⟨(s, q), a⟩] ∧ r = .ok a ∧ t = s := by
  show (∃ a l', l = ⟨(s, q), a⟩ :: l' ∧ l' = [] ∧ (r, t) = (Except.ok a, s)) ↔ _
  constructor
  · rintro ⟨a, l', rfl, rfl, h⟩
    cases h
    exact ⟨a, rfl, rfl, rfl⟩
  · rintro ⟨a, rfl, rfl, rfl⟩
    exact ⟨a, [], rfl, rfl, rfl⟩

/-- **A run of a sequence** leaves early with its first part, or goes through both. -/
theorem runs_bind {r : Except ε β} : Runs (p >>= f) s l r t ↔
    (∃ e, Runs p s l (.error e) t ∧ r = .error e) ∨
    ∃ l₁ l₂ a u, l = l₁ ++ l₂ ∧ Runs p s l₁ (.ok a) u ∧ Runs (f a) u l₂ r t := by
  have hbind : Runs (p >>= f) s l r t ↔ ∃ l₁ l₂ b, l = l₁ ++ l₂ ∧
      (p.run.run s).Runs l₁ b ∧ ((ExceptT.bindCont f b.1).run b.2).Runs l₂ (r, t) :=
    Interaction.runs_bind
  rw [hbind]
  constructor
  · rintro ⟨l₁, l₂, ⟨e | a, u⟩, rfl, h₁, h₂⟩
    · obtain ⟨rfl, h₂⟩ := h₂
      cases h₂
      rw [List.append_nil]
      exact .inl ⟨e, h₁, rfl⟩
    · exact .inr ⟨l₁, l₂, a, u, rfl, h₁, h₂⟩
  · rintro (⟨e, h, rfl⟩ | ⟨l₁, l₂, a, u, rfl, h₁, h₂⟩)
    · exact ⟨l, [], (.error e, t), by simp, h, rfl, rfl⟩
    · exact ⟨l₁, l₂, (.ok a, u), rfl, h₁, h₂⟩

section First

variable {r : Except ε β}

theorem runs_get_bind {f : σ → Proc Q A σ ε β} :
    Runs (get >>= f) s l r t ↔ Runs (f s) s l r t := Iff.rfl

theorem runs_modify_bind {g : σ → σ} {f : PUnit → Proc Q A σ ε β} :
    Runs (modify g >>= f) s l r t ↔ Runs (f ⟨⟩) (g s) l r t := Iff.rfl

theorem runs_ask_bind {q : Q} {f : A q → Proc Q A σ ε β} :
    Runs (ask q >>= f) s l r t ↔ ∃ a l', l = ⟨(s, q), a⟩ :: l' ∧ Runs (f a) s l' r t := Iff.rfl

/-- Nothing comes after a program that ends with an early exit. -/
theorem runs_bind_throw_bind {e : ε} {f : α → Proc Q A σ ε β} {p : Proc Q A σ ε PUnit} :
    Runs ((p >>= fun _ => throw e) >>= f) s l r t ↔
      ∃ e', r = .error e' ∧ Runs (p >>= fun _ => (throw e : Proc Q A σ ε α)) s l (.error e') t := by
  rw [runs_bind]
  constructor
  · rintro (⟨e', hrun, rfl⟩ | ⟨l₁, l₂, a, u, rfl, hrun, -⟩)
    · exact ⟨e', rfl, hrun⟩
    · rcases runs_bind.1 hrun with ⟨e', -, he⟩ | ⟨-, l', -, u', -, -, hthrow⟩
      · cases he
      · obtain ⟨-, he, -⟩ := runs_throw.1 hthrow
        cases he
  · rintro ⟨e', rfl, hrun⟩
    exact .inl ⟨e', hrun, rfl⟩

end First

/-! ### Frames -/

/-- In every run the part `view` of the local variables stays as it is, and all questions asked
are among `φ`. -/
def Keeps (view : σ → β) (φ : Q → Prop) (p : Proc Q A σ ε α) : Prop :=
  ∀ s l r t, Runs p s l r t →
    (∀ e ∈ l, view e.question.1 = view s ∧ φ e.question.2) ∧ view t = view s

variable {γ : Type} {view : σ → γ} {φ ψ : Q → Prop}

/-- What a frame says of a part of its view, and of more questions. -/
theorem Keeps.weaken {δ : Type} {view' : σ → δ} (h : Keeps view φ p) (part : γ → δ)
    (hpart : ∀ s, view' s = part (view s)) (hφ : ∀ q, φ q → ψ q) : Keeps view' ψ p := by
  intro s l r t hrun
  obtain ⟨hl, ht⟩ := h s l r t hrun
  refine ⟨fun e he => ⟨?_, hφ _ (hl e he).2⟩, ?_⟩
  · rw [hpart, hpart s, (hl e he).1]
  · rw [hpart, hpart s, ht]

@[simp] theorem keeps_pure (a : α) : Keeps view φ (pure a : Proc Q A σ ε α) := by
  intro s l r t h
  obtain ⟨rfl, -, rfl⟩ := runs_pure.1 h
  exact ⟨by simp, rfl⟩

@[simp] theorem keeps_throw (e : ε) : Keeps view φ (throw e : Proc Q A σ ε α) := by
  intro s l r t h
  obtain ⟨rfl, -, rfl⟩ := runs_throw.1 h
  exact ⟨by simp, rfl⟩

@[simp] theorem keeps_get : Keeps view φ (get : Proc Q A σ ε σ) := by
  intro s l r t h
  obtain ⟨rfl, -, rfl⟩ := runs_get.1 h
  exact ⟨by simp, rfl⟩

theorem keeps_modify {g : σ → σ} (hg : ∀ s, view (g s) = view s) :
    Keeps view φ (modify g : Proc Q A σ ε PUnit) := by
  intro s l r t h
  obtain ⟨rfl, -, rfl⟩ := runs_modify.1 h
  exact ⟨by simp, hg s⟩

theorem keeps_ask {q : Q} (hq : φ q) : Keeps view φ (ask q : Proc Q A σ ε (A q)) := by
  intro s l r t h
  obtain ⟨a, rfl, -, rfl⟩ := runs_ask.1 h
  exact ⟨by simp [hq], rfl⟩

/-- A sequence keeps what its parts keep. -/
theorem keeps_bind (hp : Keeps view φ p) (hf : ∀ a, Keeps view φ (f a)) :
    Keeps view φ (p >>= f) := by
  intro s l r t h
  rcases runs_bind.1 h with ⟨e, h, -⟩ | ⟨l₁, l₂, a, u, rfl, h₁, h₂⟩
  · exact hp s l _ t h
  · obtain ⟨hl₁, hu⟩ := hp s l₁ _ u h₁
    obtain ⟨hl₂, ht⟩ := hf a u l₂ r t h₂
    refine ⟨fun e he => ?_, ht.trans hu⟩
    rcases List.mem_append.1 he with he | he
    · exact hl₁ e he
    · exact (hl₂ e he).imp_left fun h => h.trans hu

theorem keeps_ite {c : Prop} [Decidable c] {p q : Proc Q A σ ε α} (hp : Keeps view φ p)
    (hq : Keeps view φ q) : Keeps view φ (if c then p else q) := by
  split_ifs <;> assumption

/-! ### Endings -/

/-- The error that a program ends with, if it is a fatal one. -/
def fatalOf (fatal : ε → Bool) : Except ε α → List ε
  | .error e => if fatal e = true then [e] else []
  | .ok _ => []

/-- Which answers end `p`: there is one in a run, with the error that `ending` says, exactly if the
run ends with a fatal error. -/
def Ends (ending : Entry σ Q A → Option ε) (fatal : ε → Bool) (p : Proc Q A σ ε α) : Prop :=
  ∀ s l r t, Runs p s l r t → l.filterMap ending = fatalOf fatal r

section Endings

variable {ending : Entry σ Q A → Option ε} {fatal : ε → Bool}

@[simp] theorem ends_pure (a : α) : Ends ending fatal (pure a : Proc Q A σ ε α) := by
  intro s l r t h
  obtain ⟨rfl, rfl, -⟩ := runs_pure.1 h
  rfl

theorem ends_throw {e : ε} (he : fatal e = false) :
    Ends ending fatal (throw e : Proc Q A σ ε α) := by
  intro s l r t h
  obtain ⟨rfl, rfl, -⟩ := runs_throw.1 h
  simp [fatalOf, he]

@[simp] theorem ends_get : Ends ending fatal (get : Proc Q A σ ε σ) := by
  intro s l r t h
  obtain ⟨rfl, rfl, -⟩ := runs_get.1 h
  rfl

@[simp] theorem ends_modify (g : σ → σ) :
    Ends ending fatal (modify g : Proc Q A σ ε PUnit) := by
  intro s l r t h
  obtain ⟨rfl, rfl, -⟩ := runs_modify.1 h
  rfl

/-- A question that no answer to ends the program. -/
theorem ends_ask {q : Q} (hq : ∀ s a, ending ⟨(s, q), a⟩ = none) :
    Ends ending fatal (ask q : Proc Q A σ ε (A q)) := by
  intro s l r t h
  obtain ⟨a, rfl, rfl, -⟩ := runs_ask.1 h
  rw [List.filterMap_cons_none (hq s a)]
  rfl

theorem ends_bind (hp : Ends ending fatal p) (hf : ∀ a, Ends ending fatal (f a)) :
    Ends ending fatal (p >>= f) := by
  intro s l r t h
  rcases runs_bind.1 h with ⟨e, hrun, rfl⟩ | ⟨l₁, l₂, a, u, rfl, h₁, h₂⟩
  · exact hp s l _ t hrun
  · rw [List.filterMap_append, hp s l₁ _ u h₁]
    exact hf a u l₂ r t h₂

/-- A question whose answer may end the program. -/
theorem ends_ask_bind {q : Q} {f : A q → Proc Q A σ ε β}
    (hf : ∀ a s l r t, Runs (f a) s l r t →
      (ending ⟨(s, q), a⟩).toList ++ l.filterMap ending = fatalOf fatal r) :
    Ends ending fatal (ask q >>= f) := by
  intro s l r t h
  obtain ⟨a, l, rfl, hrun⟩ := runs_ask_bind.1 h
  rw [← hf a s l r t hrun]
  cases hend : ending ⟨(s, q), a⟩ with
  | none => exact List.filterMap_cons_none hend
  | some e => exact List.filterMap_cons_some hend

theorem ends_ite {c : Prop} [Decidable c] {p q : Proc Q A σ ε α} (hp : Ends ending fatal p)
    (hq : Ends ending fatal q) : Ends ending fatal (if c then p else q) := by
  split_ifs <;> assumption

end Endings

/-! ### Weakest preconditions -/

/-- From the log `past` and the local variables `s`, every run of `p` adds only entries that meet
`S`, and ends in `J`. -/
def Wp (S : List (Entry σ Q A) → Entry σ Q A → Prop) (p : Proc Q A σ ε α)
    (J : Except ε α → List (Entry σ Q A) → σ → Prop) (past : List (Entry σ Q A)) (s : σ) : Prop :=
  ∀ l r t, Runs p s l r t → Always S past l ∧ J r (past ++ l) t

section Wp

variable {S : List (Entry σ Q A) → Entry σ Q A → Prop} {past : List (Entry σ Q A)}
  {J J' : Except ε α → List (Entry σ Q A) → σ → Prop}
  {K : Except ε β → List (Entry σ Q A) → σ → Prop}

theorem Wp.mono (h : Wp S p J past s) (hJ : ∀ r past s, J r past s → J' r past s) :
    Wp S p J' past s :=
  fun l r t hrun => ⟨(h l r t hrun).1, hJ _ _ _ (h l r t hrun).2⟩

/-- Nothing is asked of the part. -/
theorem wp_any : Wp (fun _ _ => True) p (fun _ _ _ => True) past s := fun _ _ _ _ =>
  ⟨always_iff.2 fun _ _ _ _ => trivial, trivial⟩

theorem wp_pure {a : α} (h : J (.ok a) past s) : Wp S (pure a) J past s := by
  intro l r t hrun
  obtain ⟨rfl, rfl, rfl⟩ := runs_pure.1 hrun
  exact ⟨trivial, by rwa [List.append_nil]⟩

theorem wp_throw {e : ε} (h : J (.error e) past s) : Wp S (throw e) J past s := by
  intro l r t hrun
  obtain ⟨rfl, rfl, rfl⟩ := runs_throw.1 hrun
  exact ⟨trivial, by rwa [List.append_nil]⟩

theorem wp_modify {g : σ → σ} {J : Except ε PUnit → List (Entry σ Q A) → σ → Prop}
    (h : J (.ok ⟨⟩) past (g s)) : Wp S (modify g) J past s := by
  intro l r t hrun
  obtain ⟨rfl, rfl, rfl⟩ := runs_modify.1 hrun
  exact ⟨trivial, by rwa [List.append_nil]⟩

theorem wp_get_bind {f : σ → Proc Q A σ ε β} (h : Wp S (f s) K past s) :
    Wp S (get >>= f) K past s := h

theorem wp_modify_bind {g : σ → σ} {f : PUnit → Proc Q A σ ε β} (h : Wp S (f ⟨⟩) K past (g s)) :
    Wp S (modify g >>= f) K past s := h

theorem wp_ask {q : Q} {J : Except ε (A q) → List (Entry σ Q A) → σ → Prop}
    (h : ∀ a, S past ⟨(s, q), a⟩ ∧ J (.ok a) (past ++ [⟨(s, q), a⟩]) s) :
    Wp S (ask q) J past s := by
  intro l r t hrun
  obtain ⟨a, rfl, rfl, rfl⟩ := runs_ask.1 hrun
  exact ⟨⟨(h a).1, trivial⟩, (h a).2⟩

theorem wp_ask_bind {q : Q} {f : A q → Proc Q A σ ε β}
    (h : ∀ a, S past ⟨(s, q), a⟩ ∧ Wp S (f a) K (past ++ [⟨(s, q), a⟩]) s) :
    Wp S (ask q >>= f) K past s := by
  intro l r t hrun
  obtain ⟨a, l, rfl, hrest⟩ := runs_ask_bind.1 hrun
  obtain ⟨hl, ht⟩ := (h a).2 l r t hrest
  exact ⟨⟨(h a).1, hl⟩, by rwa [List.append_assoc] at ht⟩

/-- A sequence: what the first part ends in leads on, or is where it exits. -/
theorem wp_bind (hp : Wp S p J past s) (hf : ∀ a past s, J (.ok a) past s → Wp S (f a) K past s)
    (hexit : ∀ e past s, J (.error e) past s → K (.error e) past s) : Wp S (p >>= f) K past s := by
  intro l r t hrun
  rcases runs_bind.1 hrun with ⟨e, h, rfl⟩ | ⟨l₁, l₂, a, u, rfl, h₁, h₂⟩
  · obtain ⟨hl, ht⟩ := hp l _ t h
    exact ⟨hl, hexit e _ t ht⟩
  · obtain ⟨hl₁, hu⟩ := hp l₁ _ u h₁
    obtain ⟨hl₂, ht⟩ := hf a _ u hu l₂ r t h₂
    exact ⟨always_append.2 ⟨hl₁, hl₂⟩, by rwa [← List.append_assoc]⟩

theorem wp_ite {c : Prop} [Decidable c] {p q : Proc Q A σ ε α} (hp : c → Wp S p J past s)
    (hq : ¬ c → Wp S q J past s) : Wp S (if c then p else q) J past s := by
  split_ifs with hc
  · exact hp hc
  · exact hq hc

/-- What a frame keeps: an assertion about its view, kept by each of its questions. -/
theorem Keeps.wp {I : List (Entry σ Q A) → γ → Prop} (h : Keeps view φ p) (hI : I past (view s))
    (hstep : ∀ past e, I past (view s) → view e.question.1 = view s → φ e.question.2 →
      S past e ∧ I (past ++ [e]) (view s)) :
    Wp S p (fun _ past t => I past (view t)) past s := by
  intro l r t hrun
  obtain ⟨hl, ht⟩ := h s l r t hrun
  show Always S past l ∧ I (past ++ l) (view t)
  rw [ht]
  clear hrun
  induction l generalizing past with
  | nil => exact ⟨trivial, by rwa [List.append_nil]⟩
  | cons e l ih =>
    obtain ⟨hview, hφ⟩ := hl e (by simp)
    obtain ⟨he, hI⟩ := hstep past e hI hview hφ
    obtain ⟨hS, hlast⟩ := ih hI fun e he => hl e (by simp [he])
    exact ⟨⟨he, hS⟩, by rwa [List.append_assoc] at hlast⟩

end Wp

/-! ### Runs of a loop -/

/-- From `s`, turn after turn of `p`, each ending with a result that lets the loop go on. -/
inductive Iterates (p : Proc Q A σ ε α) (goesOn : Except ε α → Bool) (s : σ) :
    List (Entry σ Q A) → σ → Prop
  | start : Iterates p goesOn s [] s
  | turn {t u : σ} {l l' : List (Entry σ Q A)} {r : Except ε α} :
      Iterates p goesOn s l t → Runs p t l' r u → goesOn r = true → Iterates p goesOn s (l ++ l') u

/-- The log and local variables after `n` turns against an environment, if all of them go on. -/
def execTurns (env : List (Entry σ Q A) → (q : σ × Q) → A q.2) (p : Proc Q A σ ε α)
    (goesOn : Except ε α → Bool) (s : σ) : Nat → Option (List (Entry σ Q A) × σ)
  | 0 => some ([], s)
  | n + 1 => (execTurns env p goesOn s n).bind fun prior =>
    let turn := (p.run.run prior.2).exec env prior.1
    if goesOn turn.2.1 = true then some (prior.1 ++ turn.1, turn.2.2) else none

theorem iterates_execTurns {env : List (Entry σ Q A) → (q : σ × Q) → A q.2}
    {goesOn : Except ε α → Bool} {n : Nat} (h : execTurns env p goesOn s n = some (l, t)) :
    Iterates p goesOn s l t := by
  induction n generalizing l t with
  | zero =>
    cases h
    exact .start
  | succ n ih =>
    obtain ⟨prior, hprior, h⟩ := Option.bind_eq_some_iff.1 h
    dsimp only at h
    split_ifs at h with hgoes
    cases h
    exact .turn (ih hprior) (Interaction.runs_exec env (p.run.run prior.2) prior.1) hgoes

/-- **The loop rule.** If every turn keeps `I` and adds only entries that meet `S`, then so does
every run of the loop. -/
theorem Iterates.always {S : List (Entry σ Q A) → Entry σ Q A → Prop}
    {I : List (Entry σ Q A) → σ → Prop} {goesOn : Except ε α → Bool}
    (h : Iterates p goesOn s l t) (h₀ : I [] s)
    (hturn : ∀ past s, I past s → Wp S p (fun _ => I) past s) : Always S [] l ∧ I l t := by
  induction h with
  | start => exact ⟨trivial, h₀⟩
  | turn _ hrun _ ih =>
    obtain ⟨hl, hu⟩ := hturn _ _ ih.2 _ _ _ hrun
    exact ⟨always_append.2 ⟨ih.1, hl⟩, hu⟩

end Proc

end Lib
