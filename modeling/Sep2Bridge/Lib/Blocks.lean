import Mathlib.Algebra.BigOperators.Group.List.Basic
import Mathlib.Algebra.GroupWithZero.Nat
import Mathlib.Order.Nat

/-!
# Blocks of words

A memory gives each address a word; a block is a run of words that is stored at once.

* `load_storeAll` — of blocks that do not overlap, each is read back whole.
* `storeAll_apply` — an address that no block covers keeps its word.

Pieces that lie one behind the other start where the sizes before them add up to (`startOf`), and
so never overlap.
-/

namespace Lib

variable {W : Type*}

structure Block (W : Type*) where
  start : Nat
  words : List W
  deriving DecidableEq

namespace Block

/-- The first address after the block. -/
def stop (b : Block W) : Nat := b.start + b.words.length

def Covers (b : Block W) (a : Nat) : Prop := b.start ≤ a ∧ a < b.stop

/-- The two blocks have no address in common. -/
def Apart (b c : Block W) : Prop := b.stop ≤ c.start ∨ c.stop ≤ b.start

/-- The block lies between two addresses. -/
def Within (b : Block W) (lo hi : Nat) : Prop := lo ≤ b.start ∧ b.stop ≤ hi

theorem Apart.not_covers {b c : Block W} (h : b.Apart c) {a : Nat} (hb : b.Covers a) :
    ¬c.Covers a := by
  intro hc
  unfold Apart at h
  unfold Covers at hb hc
  omega

theorem Within.of_covers {b : Block W} {lo hi a : Nat} (h : b.Within lo hi) (hb : b.Covers a) :
    lo ≤ a ∧ a < hi := by
  unfold Within at h
  unfold Covers at hb
  omega

theorem Within.apart {b c : Block W} {lo mid hi : Nat} (hb : b.Within lo mid)
    (hc : c.Within mid hi) : b.Apart c :=
  .inl (hb.2.trans hc.1)

theorem Within.mono {b : Block W} {lo lo' hi hi' : Nat} (h : b.Within lo hi) (hlo : lo' ≤ lo)
    (hhi : hi ≤ hi') : b.Within lo' hi' :=
  ⟨hlo.trans h.1, h.2.trans hhi⟩

end Block

/-! ## Storing and loading -/

/-- The memory with a block written over it. -/
def store (m : Nat → W) (b : Block W) (a : Nat) : W :=
  if b.start ≤ a then (b.words[a - b.start]?).getD (m a) else m a

/-- The memory after the blocks, stored in order. -/
def storeAll (m : Nat → W) (bs : List (Block W)) : Nat → W := bs.foldl store m

/-- The `n` words from an address on. -/
def load (m : Nat → W) (start n : Nat) : List W := (List.range n).map fun i => m (start + i)

variable {m m' : Nat → W} {b : Block W} {bs : List (Block W)} {a start n : Nat}

theorem store_apply (h : ¬b.Covers a) : store m b a = m a := by
  unfold store
  by_cases hle : b.start ≤ a
  · have hlen : b.words.length ≤ a - b.start := by
      unfold Block.Covers Block.stop at h
      omega
    rw [if_pos hle, List.getElem?_eq_none hlen, Option.getD_none]
  · rw [if_neg hle]

@[simp] theorem length_load : (load m start n).length = n := by simp [load]

theorem load_congr (h : ∀ a, start ≤ a → a < start + n → m a = m' a) :
    load m start n = load m' start n :=
  List.map_congr_left fun i hi => h _ (by omega) (by rw [List.mem_range] at hi; omega)

theorem load_store (m : Nat → W) (b : Block W) :
    load (store m b) b.start b.words.length = b.words := by
  refine List.ext_getElem (by simp) fun i hi hi' => ?_
  simp [load, store, hi']

/-- An address that no block covers keeps its word. -/
theorem storeAll_apply (h : ∀ b ∈ bs, ¬b.Covers a) : storeAll m bs a = m a := by
  induction bs generalizing m with
  | nil => rfl
  | cons b bs ih =>
    have hcons : storeAll m (b :: bs) = storeAll (store m b) bs := rfl
    rw [hcons, ih fun c hc => h c (List.mem_cons_of_mem _ hc), store_apply (h b List.mem_cons_self)]

theorem storeAll_append (m : Nat → W) (bs cs : List (Block W)) :
    storeAll m (bs ++ cs) = storeAll (storeAll m bs) cs :=
  List.foldl_append

/-- What blocks leave at an address depends on nothing else that was there. -/
theorem storeAll_congr (h : m a = m' a) : storeAll m bs a = storeAll m' bs a := by
  induction bs generalizing m m' with
  | nil => exact h
  | cons b bs ih =>
    refine ih ?_
    unfold store
    rw [h]

/-- Blocks before and after that do not cover an address make no difference to it. -/
theorem storeAll_middle {before after : List (Block W)} (hbefore : ∀ b ∈ before, ¬b.Covers a)
    (hafter : ∀ b ∈ after, ¬b.Covers a) :
    storeAll m (before ++ bs ++ after) a = storeAll m bs a := by
  rw [storeAll_append, storeAll_apply hafter, storeAll_append]
  exact storeAll_congr (storeAll_apply hbefore)

/-- Of blocks that do not overlap, each is read back whole. -/
theorem load_storeAll (hbs : bs.Pairwise Block.Apart) (hb : b ∈ bs) :
    load (storeAll m bs) b.start b.words.length = b.words := by
  induction bs generalizing m with
  | nil => cases hb
  | cons c bs ih =>
    have hcons : storeAll m (c :: bs) = storeAll (store m c) bs := rfl
    obtain ⟨hc, hbs⟩ := List.pairwise_cons.1 hbs
    rw [hcons]
    rcases List.mem_cons.1 hb with rfl | hb
    · have hkeep : ∀ a, b.start ≤ a → a < b.start + b.words.length →
          storeAll (store m b) bs a = store m b a := fun a hlo hhi =>
        storeAll_apply fun d hd => (hc d hd).not_covers ⟨hlo, hhi⟩
      rw [load_congr hkeep, load_store]
    · exact ih hbs hb

/-! ## Pieces one behind the other -/

/-- Where the piece at position `k` starts. -/
def startOf (sizes : List Nat) (k : Nat) : Nat := (sizes.take k).sum

/-- The size of the piece at position `k`. -/
def sizeOf (sizes : List Nat) (k : Nat) : Nat := sizes[k]?.getD 0

variable {sizes : List Nat} {j k : Nat}

theorem startOf_succ (sizes : List Nat) (k : Nat) :
    startOf sizes (k + 1) = startOf sizes k + sizeOf sizes k := by
  unfold startOf sizeOf
  rw [List.take_add_one, List.sum_append]
  cases sizes[k]? <;> simp

theorem startOf_mono (h : j ≤ k) : startOf sizes j ≤ startOf sizes k := by
  induction h with
  | refl => rfl
  | step h ih =>
    rw [startOf_succ]
    omega

/-- A piece ends before a later one starts. -/
theorem stop_le_startOf (sizes : List Nat) (h : j < k) :
    startOf sizes j + sizeOf sizes j ≤ startOf sizes k := by
  rw [← startOf_succ]
  exact startOf_mono h

theorem stop_le_sum (sizes : List Nat) (k : Nat) :
    startOf sizes k + sizeOf sizes k ≤ sizes.sum := by
  rw [← startOf_succ, startOf]
  conv_rhs => rw [← List.take_append_drop (k + 1) sizes, List.sum_append]
  omega

/-- A block that lies in one piece covers no address of another. -/
theorem Block.Within.not_covers {base : Nat}
    (hb : b.Within (base + startOf sizes k) (base + startOf sizes k + sizeOf sizes k))
    (hjk : j ≠ k) (hlo : base + startOf sizes j ≤ a)
    (hhi : a < base + startOf sizes j + sizeOf sizes j) : ¬b.Covers a := by
  intro hcov
  have ha := hb.of_covers hcov
  rcases Nat.lt_or_gt_of_ne hjk with hlt | hlt
  · have hstop := stop_le_startOf sizes hlt
    omega
  · have hstop := stop_le_startOf sizes hlt
    omega

end Lib
