/-
**Blocks laid out in a range of addresses.**

A list of blocks, each with a base and a length, placed in increasing order inside a range
`[lo, hi)`, leaves a list of gaps: one before each block and one after the last.  This module is the
arithmetic of that picture, for blocks of any type `α` with any two functions `base` and `len`.

Main definitions:

* `Layout.Within` — the blocks lie in the range, in order, none overlapping the next;
* `Layout.gaps` — the gaps, as pairs of a start and a length, empty ones included;
* `Layout.total` — the sum of the lengths of the blocks;
* `Layout.insertBefore` — insertion before the first block with a larger base;
* `Layout.Packed` — each block starts where the previous one ends;
* `Layout.widest` — the widest gap of a list of gaps.

Main results:

* `Layout.within_iff` — being laid out is being in the range, one by one, and disjoint in order;
* `Layout.Within.sum_gaps` — **nothing is lost**: gaps and blocks together fill the range;
* `Layout.Within.insertBefore` — a block put at the start of a gap that holds it leaves the list
  laid out;
* `Layout.Packed.insertBefore`, `Layout.Packed.filter` — what keeps a list packed;
* `Layout.Within.total_add_le_of_fits`, `Layout.Packed.fits_of_total_add_le` — a block that fits in
  a gap fits in the range, and in a packed list the converse holds.
-/

import Mathlib.Algebra.GroupWithZero.Nat
import Mathlib.Algebra.Order.BigOperators.Group.List
import Mathlib.Algebra.Order.Group.Nat

set_option relaxedAutoImplicit false
set_option autoImplicit false

namespace Layout

variable {α : Type*} (base len : α → ℕ)

/-! ### Lists of blocks in a range -/

/-- The blocks of the list lie in `[lo, hi)` in increasing order, each one after the end of the
previous one. -/
def Within (lo hi : ℕ) : List α → Prop
  | [] => lo ≤ hi
  | x :: xs => lo ≤ base x ∧ Within (base x + len x) hi xs

/-- Being laid out in a range is decidable. -/
def decidableWithin (lo hi : ℕ) : (xs : List α) → Decidable (Within base len lo hi xs)
  | [] => inferInstanceAs (Decidable (lo ≤ hi))
  | x :: xs =>
      have := decidableWithin (base x + len x) hi xs
      inferInstanceAs (Decidable (lo ≤ base x ∧ Within base len (base x + len x) hi xs))

instance (lo hi : ℕ) (xs : List α) : Decidable (Within base len lo hi xs) :=
  decidableWithin base len lo hi xs

/-- The gaps that the blocks leave in `[lo, hi)`: one before each block, and one after the last. -/
def gaps (lo hi : ℕ) : List α → List (ℕ × ℕ)
  | [] => [(lo, hi - lo)]
  | x :: xs => (lo, base x - lo) :: gaps (base x + len x) hi xs

/-- The sum of the lengths of the blocks. -/
def total (xs : List α) : ℕ := (xs.map len).sum

/-- Insertion of `x` before the first block whose base is larger. -/
def insertBefore (x : α) : List α → List α
  | [] => [x]
  | y :: ys => if base x < base y then x :: y :: ys else y :: insertBefore x ys

/-- Each block starts where the previous one ends, the first one at `lo`. -/
def Packed (lo : ℕ) : List α → Prop
  | [] => True
  | x :: xs => base x = lo ∧ Packed (base x + len x) xs

/-- The widest of `best` and the gaps of a list.  Among equals the first one wins, except that the
last gap of the list wins against all. -/
def widest (best : ℕ × ℕ) : List (ℕ × ℕ) → ℕ × ℕ
  | [] => best
  | [g] => if best.2 ≤ g.2 then g else best
  | g :: gs => widest (if best.2 < g.2 then g else best) gs

/-- Some gap holds `n` addresses. -/
def Fits (lo hi n : ℕ) (xs : List α) : Prop := ∃ g ∈ gaps base len lo hi xs, n ≤ g.2

variable {base len}

@[simp] theorem within_nil {lo hi : ℕ} : Within base len lo hi [] ↔ lo ≤ hi := Iff.rfl

@[simp] theorem within_cons {lo hi : ℕ} {x : α} {xs : List α} :
    Within base len lo hi (x :: xs) ↔ lo ≤ base x ∧ Within base len (base x + len x) hi xs :=
  Iff.rfl

@[simp] theorem gaps_nil (lo hi : ℕ) : gaps base len lo hi [] = [(lo, hi - lo)] := rfl

@[simp] theorem gaps_cons (lo hi : ℕ) (x : α) (xs : List α) :
    gaps base len lo hi (x :: xs) = (lo, base x - lo) :: gaps base len (base x + len x) hi xs := rfl

@[simp] theorem total_nil : total len ([] : List α) = 0 := rfl

@[simp] theorem total_cons (x : α) (xs : List α) : total len (x :: xs) = len x + total len xs := by
  simp [total]

@[simp] theorem packed_nil (lo : ℕ) : Packed base len lo [] := trivial

@[simp] theorem packed_cons {lo : ℕ} {x : α} {xs : List α} :
    Packed base len lo (x :: xs) ↔ base x = lo ∧ Packed base len (base x + len x) xs := Iff.rfl

theorem Within.le {lo hi : ℕ} {xs : List α} (h : Within base len lo hi xs) : lo ≤ hi := by
  induction xs generalizing lo with
  | nil => exact h
  | cons x xs ih => exact le_trans h.1 (le_trans (Nat.le_add_right _ _) (ih h.2))

/-- Every block lies in the range. -/
theorem Within.bounds {lo hi : ℕ} {xs : List α} (h : Within base len lo hi xs) {x : α}
    (hx : x ∈ xs) : lo ≤ base x ∧ base x + len x ≤ hi := by
  induction xs generalizing lo with
  | nil => simp at hx
  | cons y ys ih =>
      rcases List.mem_cons.1 hx with rfl | hx
      · exact ⟨h.1, h.2.le⟩
      · have := ih h.2 hx
        exact ⟨by have := h.1; omega, this.2⟩

/-- Every block ends before the later ones start. -/
theorem Within.pairwise {lo hi : ℕ} {xs : List α} (h : Within base len lo hi xs) :
    xs.Pairwise fun a b => base a + len a ≤ base b := by
  induction xs generalizing lo with
  | nil => exact List.Pairwise.nil
  | cons x xs ih => exact List.pairwise_cons.2 ⟨fun y hy => (h.2.bounds hy).1, ih h.2⟩

/-- **Being laid out in a range**: the range is one, every block lies in it, and every block ends
before the later ones start. -/
theorem within_iff {lo hi : ℕ} {xs : List α} : Within base len lo hi xs ↔
    lo ≤ hi ∧ (∀ x ∈ xs, lo ≤ base x ∧ base x + len x ≤ hi) ∧
      xs.Pairwise fun a b => base a + len a ≤ base b := by
  refine ⟨fun h => ⟨h.le, fun x hx => h.bounds hx, h.pairwise⟩, ?_⟩
  induction xs generalizing lo with
  | nil => exact fun h => h.1
  | cons x xs ih =>
      rintro ⟨-, hb, hp⟩
      rw [List.pairwise_cons] at hp
      have hx := hb x List.mem_cons_self
      exact ⟨hx.1, ih ⟨hx.2, fun y hy => ⟨hp.1 y hy, (hb y (List.mem_cons_of_mem _ hy)).2⟩, hp.2⟩⟩

/-- Removing blocks leaves the others laid out. -/
theorem Within.sublist {lo hi : ℕ} {xs ys : List α} (h : Within base len lo hi xs)
    (hs : ys.Sublist xs) : Within base len lo hi ys := by
  rw [within_iff] at h ⊢
  exact ⟨h.1, fun y hy => h.2.1 y (hs.subset hy), h.2.2.sublist hs⟩

/-! ### Gaps -/

/-- **Nothing is lost**: the gaps and the blocks together fill the range. -/
theorem Within.sum_gaps {lo hi : ℕ} {xs : List α} (h : Within base len lo hi xs) :
    ((gaps base len lo hi xs).map Prod.snd).sum + total len xs = hi - lo := by
  induction xs generalizing lo with
  | nil => simp
  | cons x xs ih =>
      have ih := ih h.2
      have := h.1
      have := h.2.le
      simp only [gaps_cons, List.map_cons, List.sum_cons, total_cons]
      omega

/-- A gap lies in the range. -/
theorem Within.gap_bounds {lo hi : ℕ} {xs : List α} (h : Within base len lo hi xs) {g : ℕ × ℕ}
    (hg : g ∈ gaps base len lo hi xs) : lo ≤ g.1 ∧ g.1 + g.2 ≤ hi := by
  induction xs generalizing lo with
  | nil =>
      have := h.le
      obtain rfl := List.mem_singleton.1 hg
      simp only
      omega
  | cons x xs ih =>
      have := h.1
      have := h.2.le
      rcases List.mem_cons.1 hg with rfl | hg
      · simp only
        omega
      · have := ih h.2 hg
        omega

/-- A gap overlaps no block. -/
theorem Within.gap_disjoint {lo hi : ℕ} {xs : List α} (h : Within base len lo hi xs) {g : ℕ × ℕ}
    (hg : g ∈ gaps base len lo hi xs) {x : α} (hx : x ∈ xs) :
    g.1 + g.2 ≤ base x ∨ base x + len x ≤ g.1 := by
  induction xs generalizing lo with
  | nil => simp at hx
  | cons y ys ih =>
      rcases List.mem_cons.1 hg with rfl | hg
      · refine Or.inl ?_
        have hy := h.1
        rcases List.mem_cons.1 hx with rfl | hx
        · simp only
          omega
        · have := h.2.bounds hx
          simp only
          omega
      · rcases List.mem_cons.1 hx with rfl | hx
        · exact Or.inr (h.2.gap_bounds hg).1
        · exact ih h.2 hg hx

/-- There is always a gap, the one after the last block. -/
theorem gaps_ne_nil (lo hi : ℕ) (xs : List α) : gaps base len lo hi xs ≠ [] := by
  cases xs <;> simp

theorem widest_cons (best g : ℕ × ℕ) {gs : List (ℕ × ℕ)} (h : gs ≠ []) :
    widest best (g :: gs) = widest (if best.2 < g.2 then g else best) gs := by
  cases gs with
  | nil => exact absurd rfl h
  | cons g' gs => rfl

theorem widest_singleton (best g : ℕ × ℕ) :
    widest best [g] = if best.2 ≤ g.2 then g else best := rfl

theorem best_le_widest (best : ℕ × ℕ) (gs : List (ℕ × ℕ)) : best.2 ≤ (widest best gs).2 := by
  induction gs generalizing best with
  | nil => exact le_rfl
  | cons g gs ih =>
      rcases eq_or_ne gs [] with rfl | hne
      · rw [widest_singleton]
        split <;> omega
      · rw [widest_cons _ _ hne]
        exact le_trans (by split <;> omega) (ih _)

/-- The widest gap is at least as wide as every gap. -/
theorem le_widest {best g : ℕ × ℕ} {gs : List (ℕ × ℕ)} (hg : g ∈ gs) :
    g.2 ≤ (widest best gs).2 := by
  induction gs generalizing best with
  | nil => simp at hg
  | cons g' gs ih =>
      rcases eq_or_ne gs [] with rfl | hne
      · obtain rfl := List.mem_singleton.1 hg
        rw [widest_singleton]
        split <;> omega
      · rw [widest_cons _ _ hne]
        rcases List.mem_cons.1 hg with rfl | hg
        · exact le_trans (by split <;> omega) (best_le_widest _ _)
        · exact ih hg

theorem widest_mem_cons (best : ℕ × ℕ) (gs : List (ℕ × ℕ)) : widest best gs ∈ best :: gs := by
  induction gs generalizing best with
  | nil => exact List.mem_cons_self
  | cons g gs ih =>
      rcases eq_or_ne gs [] with rfl | hne
      · rw [widest_singleton]
        split <;> simp
      · rw [widest_cons _ _ hne]
        rcases List.mem_cons.1 (ih (if best.2 < g.2 then g else best)) with h | h
        · rw [h]
          split <;> simp
        · exact List.mem_cons_of_mem _ (List.mem_cons_of_mem _ h)

/-- Starting from an empty gap, the widest gap is one of the list. -/
theorem widest_mem {best : ℕ × ℕ} {gs : List (ℕ × ℕ)} (hne : gs ≠ []) (h0 : best.2 = 0) :
    widest best gs ∈ gs := by
  induction gs generalizing best with
  | nil => exact absurd rfl hne
  | cons g gs ih =>
      rcases eq_or_ne gs [] with rfl | hgs
      · rw [widest_singleton, if_pos (by omega)]
        exact List.mem_cons_self
      · rw [widest_cons _ _ hgs]
        split
        · exact widest_mem_cons g gs
        · exact List.mem_cons_of_mem _ (ih hgs h0)

/-- A block that fits in a gap leaves the range with room for everything. -/
theorem Within.total_add_le_of_fits {lo hi n : ℕ} {xs : List α} (h : Within base len lo hi xs)
    (hn : Fits base len lo hi n xs) : total len xs + n ≤ hi - lo := by
  obtain ⟨g, hg, hn⟩ := hn
  have hle := List.le_sum_of_mem (List.mem_map_of_mem (f := Prod.snd) hg)
  have := h.sum_gaps
  omega

/-! ### Insertion -/

theorem insertBefore_perm (x : α) (xs : List α) : (insertBefore base x xs).Perm (x :: xs) := by
  induction xs with
  | nil => exact List.Perm.refl _
  | cons y ys ih =>
      rw [insertBefore]
      split
      · exact List.Perm.refl _
      · exact (ih.cons y).trans (List.Perm.swap x y ys)

@[simp] theorem mem_insertBefore {x y : α} {xs : List α} :
    y ∈ insertBefore base x xs ↔ y = x ∨ y ∈ xs := by
  rw [(insertBefore_perm x xs).mem_iff, List.mem_cons]

/-- Insertion splits the list in two and puts the block in between. -/
theorem insertBefore_eq_append (x : α) (xs : List α) :
    ∃ ys zs, xs = ys ++ zs ∧ insertBefore base x xs = ys ++ x :: zs := by
  induction xs with
  | nil => exact ⟨[], [], rfl, rfl⟩
  | cons y ys ih =>
      rw [insertBefore]
      split
      · exact ⟨[], y :: ys, rfl, rfl⟩
      · obtain ⟨us, vs, rfl, h⟩ := ih
        exact ⟨y :: us, vs, rfl, by rw [h]; rfl⟩

/-- **A block put at the start of a gap that holds it leaves the list laid out.**  The length must
be positive: an empty block at the base of another one would go after it. -/
theorem Within.insertBefore {lo hi k : ℕ} {xs : List α} {x : α} (h : Within base len lo hi xs)
    (hg : (base x, k) ∈ gaps base len lo hi xs) (hk : len x ≤ k) (hpos : 0 < len x) :
    Within base len lo hi (insertBefore base x xs) := by
  induction xs generalizing lo with
  | nil =>
      have := h.le
      simp only [gaps_nil, List.mem_singleton, Prod.mk.injEq] at hg
      exact ⟨hg.1.ge, by simp only [within_nil]; omega⟩
  | cons y ys ih =>
      have hy := h.1
      rw [Layout.insertBefore]
      rcases List.mem_cons.1 hg with hg | hg
      · -- the gap before `y`: the new block goes first
        simp only [Prod.mk.injEq] at hg
        rw [if_pos (by omega)]
        exact ⟨by omega, by omega, h.2⟩
      · have := (h.2.gap_bounds hg).1
        rw [if_neg (by simp only at this; omega)]
        exact ⟨hy, ih h.2 hg⟩

/-! ### Packed lists -/

/-- **The blocks of a packed list cover one range**, from its start to their total length. -/
theorem Packed.exists_iff {lo p : ℕ} {xs : List α} (h : Packed base len lo xs) :
    (∃ x ∈ xs, base x ≤ p ∧ p < base x + len x) ↔ lo ≤ p ∧ p < lo + total len xs := by
  induction xs generalizing lo with
  | nil => simp
  | cons x xs ih =>
      obtain ⟨rfl, hxs⟩ := h
      rw [List.exists_mem_cons_iff, ih hxs, total_cons]
      omega

theorem Packed.within {lo hi : ℕ} {xs : List α} (h : Packed base len lo xs)
    (hhi : lo + total len xs ≤ hi) : Within base len lo hi xs := by
  induction xs generalizing lo with
  | nil => simpa using hhi
  | cons x xs ih =>
      obtain ⟨rfl, h⟩ := h
      simp only [total_cons] at hhi
      exact ⟨le_rfl, ih h (by omega)⟩

/-- In a packed list the only gap that is not empty is the last one. -/
theorem Packed.fst_of_mem_gaps {lo hi : ℕ} {xs : List α} (h : Packed base len lo xs) {g : ℕ × ℕ}
    (hg : g ∈ gaps base len lo hi xs) (hpos : 0 < g.2) : g.1 = lo + total len xs := by
  induction xs generalizing lo with
  | nil =>
      obtain rfl := List.mem_singleton.1 hg
      simp
  | cons x xs ih =>
      obtain ⟨rfl, h⟩ := h
      rcases List.mem_cons.1 hg with rfl | hg
      · simp at hpos
      · rw [ih h hg, total_cons, Nat.add_assoc]

/-- A block put in a gap of a packed list goes at the end, and leaves the list packed. -/
theorem Packed.insertBefore {lo hi k : ℕ} {xs : List α} {x : α} (h : Packed base len lo xs)
    (hg : (base x, k) ∈ gaps base len lo hi xs) (hk : 0 < k) :
    Packed base len lo (insertBefore base x xs) := by
  have hend : base x = lo + total len xs := h.fst_of_mem_gaps hg hk
  clear hg
  induction xs generalizing lo with
  | nil => exact ⟨hend, trivial⟩
  | cons y ys ih =>
      obtain ⟨rfl, h⟩ := h
      rw [total_cons] at hend
      rw [Layout.insertBefore, if_neg (by omega)]
      exact ⟨rfl, ih h (by omega)⟩

/-- Removing blocks from the end of a packed list leaves it packed. -/
theorem Packed.filter {lo : ℕ} {xs : List α} {p : α → Bool} (h : Packed base len lo xs)
    (hp : xs.Pairwise fun a b => p b = true → p a = true) : Packed base len lo (xs.filter p) := by
  induction xs generalizing lo with
  | nil => exact h
  | cons x xs ih =>
      obtain ⟨hx, hxs⟩ := List.pairwise_cons.1 hp
      obtain ⟨rfl, h⟩ := h
      cases hpx : p x with
      | true =>
          rw [List.filter_cons_of_pos hpx]
          exact ⟨rfl, ih h hxs⟩
      | false =>
          -- nothing after the first block removed is kept
          have hnil : xs.filter p = [] := List.filter_eq_nil_iff.2 fun b hb hpb => by
            simp [hx b hb hpb] at hpx
          rw [List.filter_cons_of_neg (by simp [hpx]), hnil]
          trivial

/-- In a packed list all the free space is the gap after the last block. -/
theorem Packed.mem_gaps {lo hi : ℕ} {xs : List α} (h : Packed base len lo xs) :
    (lo + total len xs, hi - (lo + total len xs)) ∈ gaps base len lo hi xs := by
  induction xs generalizing lo with
  | nil => simp
  | cons x xs ih =>
      obtain ⟨rfl, h⟩ := h
      rw [gaps_cons, total_cons, ← Nat.add_assoc]
      exact List.mem_cons_of_mem _ (ih h)

/-- In a packed list every block that the range has room for fits in a gap. -/
theorem Packed.fits_of_total_add_le {lo hi n : ℕ} {xs : List α} (h : Packed base len lo xs)
    (hn : total len xs + n ≤ hi - lo) : Fits base len lo hi n xs :=
  ⟨_, h.mem_gaps, by simp only; omega⟩

end Layout
