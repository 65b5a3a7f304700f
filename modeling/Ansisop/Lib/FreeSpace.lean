/-
**Free space between blocks.**

A range of addresses is free if no block overlaps it, and it is a maximal free range if no larger
range that contains it is free.  For blocks laid out in increasing order both are read off the gaps
between them: a range is free if it lies in a gap, and the maximal free ranges are the gaps that are
not empty.

Main definitions:

* `Layout.Free`, `Layout.MaximalFree` — free ranges, and the maximal ones;
* `Layout.endOf` — the end of the last block.

Main results:

* `Layout.Within.free_iff` — **a range is free if it lies in a gap**;
* `Layout.Within.maximalFree_iff` — **the maximal free ranges are the gaps that are not empty**;
* `Layout.Within.eq_filter_gaps_iff` — the list of the maximal free ranges;
* `Layout.Within.isLeast_find?` — the first gap that holds a size starts at the lowest address that
  does;
* `Layout.Within.maximalFree_widest`, `Layout.MaximalFree.le_widest` — the widest gap is a widest
  maximal free range.
-/

import Ansisop.Lib.Layout
import Mathlib.Data.List.Pairwise
import Mathlib.Data.List.Sort
import Mathlib.Order.Bounds.Basic

set_option relaxedAutoImplicit false
set_option autoImplicit false

namespace Layout

variable {α : Type*} (base len : α → ℕ)

/-- The `n` addresses from `a` on lie in `[lo, hi)`, and no block overlaps them. -/
def Free (lo hi : ℕ) (xs : List α) (a n : ℕ) : Prop :=
  lo ≤ a ∧ a + n ≤ hi ∧ ∀ x ∈ xs, a + n ≤ base x ∨ base x + len x ≤ a

/-- **A maximal free range**: it is free and not empty, and no free range that contains it is
larger. -/
structure MaximalFree (lo hi : ℕ) (xs : List α) (a n : ℕ) : Prop where
  pos : 0 < n
  free : Free base len lo hi xs a n
  maximal : ∀ b m, Free base len lo hi xs b m → b ≤ a → a + n ≤ b + m → b = a ∧ m = n

variable {base len} {lo hi a n : ℕ} {xs : List α}

/-! ### Free ranges and gaps -/

/-- A gap is free. -/
theorem Within.free_gap (h : Within base len lo hi xs) {g : ℕ × ℕ}
    (hg : g ∈ gaps base len lo hi xs) : Free base len lo hi xs g.1 g.2 :=
  ⟨(h.gap_bounds hg).1, (h.gap_bounds hg).2, fun _ hx => h.gap_disjoint hg hx⟩

/-- What lies in a free range is free. -/
theorem Free.mono {b m : ℕ} (h : Free base len lo hi xs b m) (hba : b ≤ a) (ham : a + n ≤ b + m) :
    Free base len lo hi xs a n := by
  obtain ⟨hlo, hhi, hfree⟩ := h
  refine ⟨by omega, by omega, fun x hx => ?_⟩
  rcases hfree x hx with hx | hx
  · exact Or.inl (by omega)
  · exact Or.inr (by omega)

/-- A free range lies in a gap. -/
theorem Free.exists_gap (h : Free base len lo hi xs a n) :
    ∃ g ∈ gaps base len lo hi xs, g.1 ≤ a ∧ a + n ≤ g.1 + g.2 := by
  induction xs generalizing lo with
  | nil =>
      obtain ⟨hlo, hhi, -⟩ := h
      exact ⟨(lo, hi - lo), List.mem_singleton.2 rfl, hlo, by simp only; omega⟩
  | cons x xs ih =>
      obtain ⟨hlo, hhi, hfree⟩ := h
      rcases hfree x List.mem_cons_self with hx | hx
      · exact ⟨(lo, base x - lo), List.mem_cons_self, hlo, by simp only; omega⟩
      · obtain ⟨g, hg, hga⟩ :=
          ih ⟨hx, hhi, fun y hy => hfree y (List.mem_cons_of_mem _ hy)⟩
        exact ⟨g, List.mem_cons_of_mem _ hg, hga⟩

/-- **A range is free if it lies in a gap.** -/
theorem Within.free_iff (h : Within base len lo hi xs) : Free base len lo hi xs a n ↔
    ∃ g ∈ gaps base len lo hi xs, g.1 ≤ a ∧ a + n ≤ g.1 + g.2 := by
  refine ⟨Free.exists_gap, ?_⟩
  rintro ⟨g, hg, hle, hend⟩
  exact (h.free_gap hg).mono hle hend

/-- Some address is free exactly when some gap holds the size. -/
theorem Within.exists_free_iff (h : Within base len lo hi xs) :
    (∃ a, Free base len lo hi xs a n) ↔ Fits base len lo hi n xs := by
  constructor
  · rintro ⟨a, ha⟩
    obtain ⟨g, hg, hle, hend⟩ := ha.exists_gap
    exact ⟨g, hg, by omega⟩
  · rintro ⟨g, hg, hn⟩
    exact ⟨g.1, (h.free_gap hg).mono le_rfl (by omega)⟩

/-- The gaps come in increasing order. -/
theorem Within.pairwise_gaps (h : Within base len lo hi xs) :
    (gaps base len lo hi xs).Pairwise fun g g' => g.1 + g.2 ≤ g'.1 := by
  induction xs generalizing lo with
  | nil => exact List.pairwise_singleton _ _
  | cons x xs ih =>
      refine List.pairwise_cons.2 ⟨fun g hg => ?_, ih h.2⟩
      have hx := h.1
      have hg := (h.2.gap_bounds hg).1
      simp only
      omega

/-- A gap that is not empty lies in no other one. -/
theorem Within.eq_of_gap_le (h : Within base len lo hi xs) {g g' : ℕ × ℕ}
    (hg : g ∈ gaps base len lo hi xs) (hg' : g' ∈ gaps base len lo hi xs) (hpos : 0 < g.2)
    (hle : g'.1 ≤ g.1) (hend : g.1 + g.2 ≤ g'.1 + g'.2) : g = g' := by
  by_contra hne
  have : Std.Symm fun g g' : ℕ × ℕ => g.1 + g.2 ≤ g'.1 ∨ g'.1 + g'.2 ≤ g.1 := ⟨fun _ _ => Or.symm⟩
  have hpair : (gaps base len lo hi xs).Pairwise
      fun g g' => g.1 + g.2 ≤ g'.1 ∨ g'.1 + g'.2 ≤ g.1 := h.pairwise_gaps.imp Or.inl
  rcases hpair.forall hg hg' hne with h | h <;> omega

/-- **The maximal free ranges are the gaps that are not empty.** -/
theorem Within.maximalFree_iff (h : Within base len lo hi xs) :
    MaximalFree base len lo hi xs a n ↔ (a, n) ∈ gaps base len lo hi xs ∧ 0 < n := by
  constructor
  · intro hmax
    obtain ⟨g, hg, hle, hend⟩ := hmax.free.exists_gap
    obtain ⟨rfl, rfl⟩ := hmax.maximal g.1 g.2 (h.free_gap hg) hle hend
    exact ⟨hg, hmax.pos⟩
  · rintro ⟨hg, hpos⟩
    refine ⟨hpos, h.free_gap hg, fun b m hfree hle hend => ?_⟩
    -- the larger range lies in a gap, which can only be this one
    obtain ⟨g', hg', hle', hend'⟩ := hfree.exists_gap
    obtain rfl := h.eq_of_gap_le hg hg' hpos (by simp only; omega) (by simp only; omega)
    simp only at hle' hend'
    omega

/-- **The list of the maximal free ranges** in increasing order is that of the gaps that are not
empty. -/
theorem Within.eq_filter_gaps_iff (h : Within base len lo hi xs) (ranges : List (ℕ × ℕ)) :
    (ranges.Pairwise (fun g g' => g.1 < g'.1) ∧
        ∀ a n, (a, n) ∈ ranges ↔ MaximalFree base len lo hi xs a n) ↔
      ranges = (gaps base len lo hi xs).filter fun g => decide (0 < g.2) := by
  have hirrefl : Std.Irrefl fun g g' : ℕ × ℕ => g.1 < g'.1 := ⟨fun g => lt_irrefl g.1⟩
  have hantisymm : Std.Antisymm fun g g' : ℕ × ℕ => g.1 < g'.1 :=
    ⟨fun g g' hg hg' => absurd hg (lt_asymm hg')⟩
  have hmem (a n : ℕ) : (a, n) ∈ (gaps base len lo hi xs).filter (fun g => decide (0 < g.2)) ↔
      MaximalFree base len lo hi xs a n := by
    rw [List.mem_filter, h.maximalFree_iff, decide_eq_true_eq]
  have hsorted : ((gaps base len lo hi xs).filter fun g => decide (0 < g.2)).Pairwise
      fun g g' => g.1 < g'.1 := by
    refine (h.pairwise_gaps.filter _).imp_of_mem fun {g g'} hg _ hgg' => ?_
    have hpos := of_decide_eq_true (List.mem_filter.1 hg).2
    omega
  constructor
  · rintro ⟨hranges, hmax⟩
    exact hranges.eq_of_mem_iff hsorted fun g => (hmax g.1 g.2).trans (hmem g.1 g.2).symm
  · rintro rfl
    exact ⟨hsorted, hmem⟩

/-- The lengths of the gaps that are not empty add up to those of all gaps. -/
theorem sum_filter_gaps (gs : List (ℕ × ℕ)) :
    ((gs.filter fun g => decide (0 < g.2)).map Prod.snd).sum = (gs.map Prod.snd).sum := by
  induction gs with
  | nil => rfl
  | cons g gs ih =>
      rw [List.filter_cons, List.map_cons, List.sum_cons]
      split
      · rw [List.map_cons, List.sum_cons, ih]
      · rename_i hg
        rw [decide_eq_true_eq] at hg
        omega

/-! ### The end of the last block -/

variable (base len) in
/-- The end of the last block, or the start of the range. -/
def endOf (lo : ℕ) : List α → ℕ
  | [] => lo
  | x :: xs => endOf (base x + len x) xs

@[simp] theorem endOf_nil (lo : ℕ) : endOf base len lo [] = lo := rfl

@[simp] theorem endOf_cons (lo : ℕ) (x : α) (xs : List α) :
    endOf base len lo (x :: xs) = endOf base len (base x + len x) xs := rfl

/-- The blocks end after the start of the range, and before its end. -/
theorem Within.endOf_bounds (h : Within base len lo hi xs) :
    lo ≤ endOf base len lo xs ∧ endOf base len lo xs ≤ hi := by
  induction xs generalizing lo with
  | nil => exact ⟨le_rfl, h⟩
  | cons x xs ih =>
      obtain ⟨hle, hend⟩ := ih h.2
      have hx := h.1
      rw [endOf_cons]
      omega

/-! ### The first gap and the widest one -/

/-- **The first gap that holds a size** starts at the lowest free address for it. -/
theorem Within.isLeast_find? (h : Within base len lo hi xs) {g : ℕ × ℕ}
    (hg : (gaps base len lo hi xs).find? (fun g => decide (n ≤ g.2)) = some g) :
    IsLeast { a | Free base len lo hi xs a n } g.1 := by
  obtain ⟨hn, before, after, heq, hbefore⟩ := List.find?_eq_some_iff_append.1 hg
  rw [decide_eq_true_eq] at hn
  have hpair := h.pairwise_gaps
  rw [heq, List.pairwise_append, List.pairwise_cons] at hpair
  obtain ⟨-, ⟨hafter, -⟩, -⟩ := hpair
  refine ⟨(h.free_gap (List.mem_of_find?_eq_some hg)).mono le_rfl (by omega), fun a ha => ?_⟩
  obtain ⟨g', hg', hle, hend⟩ := Free.exists_gap ha
  rw [heq, List.mem_append, List.mem_cons] at hg'
  rcases hg' with hg' | rfl | hg'
  · -- no earlier gap holds the size
    have hno := hbefore g' hg'
    simp only [Bool.not_eq_true', decide_eq_false_iff_not, not_le] at hno
    omega
  · exact hle
  · have hlater := hafter g' hg'
    omega

/-- Where the search for the widest gap starts does not matter, if it starts from an empty one. -/
theorem widest_of_empty (best best' : ℕ × ℕ) (hbest : best.2 = 0) (hbest' : best'.2 = 0)
    {gs : List (ℕ × ℕ)} (hne : gs ≠ []) : widest best gs = widest best' gs := by
  induction gs with
  | nil => exact absurd rfl hne
  | cons g gs ih =>
      rcases eq_or_ne gs [] with rfl | hgs
      · rw [widest_singleton, widest_singleton, if_pos (by omega), if_pos (by omega)]
      · rw [widest_cons _ _ hgs, widest_cons _ _ hgs, hbest, hbest']
        split
        · rfl
        · exact ih hgs

/-- **The widest gap** is a maximal free range as wide as any other, if some space is free. -/
theorem Within.maximalFree_widest (h : Within base len lo hi xs) (best : ℕ × ℕ) (hbest : best.2 = 0)
    (hpos : 0 < (widest best (gaps base len lo hi xs)).2) :
    MaximalFree base len lo hi xs (widest best (gaps base len lo hi xs)).1
      (widest best (gaps base len lo hi xs)).2 :=
  h.maximalFree_iff.2 ⟨widest_mem (gaps_ne_nil _ _ _) hbest, hpos⟩

/-- No maximal free range is wider than the widest gap. -/
theorem MaximalFree.le_widest (hmax : MaximalFree base len lo hi xs a n)
    (h : Within base len lo hi xs) (best : ℕ × ℕ) :
    n ≤ (widest best (gaps base len lo hi xs)).2 :=
  Layout.le_widest (h.maximalFree_iff.1 hmax).1

end Layout
