/-
**Stable sorting by a key.**

Two lists have the same ties if, for each key, they have the same items with that key in the same
order.  A stable sort of a list is a sorted list with the same ties, and there is only one.
Exchanging two neighbours that are out of order keeps the ties, so that a program that sorts by such
exchanges is stable.

A list is settled in two parts if the second part is sorted and nothing in the first part belongs
after something in the second one: what a program that sorts from the end knows on its way.

Main definitions:

* `StableSort.SameTies` — the items with each key are the same, in the same order;
* `StableSort.IsStableSort` — a stable sort of a list;
* `StableSort.Settled` — the second part of a list is sorted, and comes after the first one.

Main results:

* `StableSort.SameTies.exchange` — **exchanging two neighbours that are out of order keeps the
  ties**;
* `StableSort.SameTies.perm` — nothing is lost;
* `StableSort.IsStableSort.unique` — **a list has one stable sort**;
* `StableSort.isStableSort_mergeSort` — `List.mergeSort` is it.
-/

import Mathlib.Data.List.Basic
import Mathlib.Order.Lattice

set_option relaxedAutoImplicit false
set_option autoImplicit false

namespace StableSort

variable {α κ : Type*} [LinearOrder κ] (key : α → κ)

/-- The items with each key are the same, in the same order. -/
def SameTies (xs ys : List α) : Prop :=
  ∀ k, ys.filter (fun a => decide (key a = k)) = xs.filter fun a => decide (key a = k)

/-- **A stable sort** of a list: it is sorted, and items with the same key are in the order of the
list. -/
structure IsStableSort (xs ys : List α) : Prop where
  sorted : ys.Pairwise fun a b => key a ≤ key b
  ties : SameTies key xs ys

/-- The second part is sorted, and its items come after those of the first part. -/
structure Settled (xs ys : List α) : Prop where
  sorted : ys.Pairwise fun a b => key a ≤ key b
  le : ∀ a ∈ xs, ∀ b ∈ ys, key a ≤ key b

variable {key} {xs xs' ys ys' zs : List α} {a b : α}

/-! ### Ties -/

theorem SameTies.refl (xs : List α) : SameTies key xs xs := fun _ => rfl

theorem SameTies.trans (h : SameTies key xs ys) (h' : SameTies key ys zs) : SameTies key xs zs :=
  fun k => (h' k).trans (h k)

theorem SameTies.append (h : SameTies key xs ys) (h' : SameTies key xs' ys') :
    SameTies key (xs ++ xs') (ys ++ ys') := by
  intro k
  rw [List.filter_append, List.filter_append, h k, h' k]

/-- **Exchanging two neighbours that are out of order keeps the ties**, since their keys are
different. -/
theorem SameTies.exchange (h : key b < key a) (xs ys : List α) :
    SameTies key (xs ++ a :: b :: ys) (xs ++ b :: a :: ys) := by
  refine (SameTies.refl xs).append fun k => ?_
  by_cases ha : key a = k
  · have hb : key b ≠ k := fun hb => absurd (hb.trans ha.symm) (ne_of_lt h)
    simp [ha, hb]
  · simp [List.filter_cons, ha]

/-- **Nothing is lost.** -/
theorem SameTies.perm (h : SameTies key xs ys) : xs.Perm ys := by
  classical
  refine List.perm_iff_count.2 fun a => ?_
  have hcount := congrArg (List.count a) (h (key a))
  rw [List.count_filter (by simp), List.count_filter (by simp)] at hcount
  exact hcount.symm

/-- The items that are removed from both lists. -/
theorem SameTies.tail (h : SameTies key (a :: xs) (a :: ys)) : SameTies key xs ys := by
  intro k
  have hk := h k
  rw [List.filter_cons, List.filter_cons] at hk
  split at hk
  · exact (List.cons.inj hk).2
  · exact hk

/-! ### Stable sorts -/

/-- The first item of a stable sort is the first one in the list with the least key. -/
theorem IsStableSort.head_eq (h : IsStableSort key xs (a :: ys))
    (h' : IsStableSort key xs (b :: zs)) : a = b := by
  have hmem (c : α) : c ∈ a :: ys ↔ c ∈ b :: zs := (h.ties.perm.symm.trans h'.ties.perm).mem_iff
  have hle : key a ≤ key b := by
    rcases List.mem_cons.1 ((hmem b).2 List.mem_cons_self) with hb | hb
    · rw [hb]
    · exact (List.pairwise_cons.1 h.sorted).1 b hb
  have hge : key b ≤ key a := by
    rcases List.mem_cons.1 ((hmem a).1 List.mem_cons_self) with ha | ha
    · rw [ha]
    · exact (List.pairwise_cons.1 h'.sorted).1 a ha
  have hkey := le_antisymm hle hge
  have hties := (h.ties (key a)).trans (h'.ties (key a)).symm
  rw [List.filter_cons_of_pos (by simp), List.filter_cons_of_pos (by simp [hkey])] at hties
  exact (List.cons.inj hties).1

/-- **A list has one stable sort.** -/
theorem IsStableSort.unique (h : IsStableSort key xs ys) (h' : IsStableSort key xs zs) :
    ys = zs := by
  induction ys generalizing xs zs with
  | nil =>
      have hnil := (h.ties.perm.symm.trans h'.ties.perm).symm.eq_nil
      exact hnil.symm
  | cons a ys ih =>
      cases zs with
      | nil => exact absurd (h.ties.perm.symm.trans h'.ties.perm).eq_nil (by simp)
      | cons b zs =>
          obtain rfl := h.head_eq h'
          have hties : SameTies key ys zs :=
            SameTies.tail fun k => (h'.ties k).trans (h.ties k).symm
          rw [ih ⟨(List.pairwise_cons.1 h.sorted).2, SameTies.refl ys⟩
            ⟨(List.pairwise_cons.1 h'.sorted).2, hties⟩]

/-- **`List.mergeSort` is the stable sort.** -/
theorem isStableSort_mergeSort (xs : List α) :
    IsStableSort key xs (xs.mergeSort fun a b => decide (key a ≤ key b)) := by
  have htrans : ∀ a b c : α, decide (key a ≤ key b) = true → decide (key b ≤ key c) = true →
      decide (key a ≤ key c) = true := by
    simp only [decide_eq_true_eq]
    exact fun _ _ _ => le_trans
  have htotal : ∀ a b : α, (decide (key a ≤ key b) || decide (key b ≤ key a)) = true := by
    simp only [Bool.or_eq_true, decide_eq_true_eq]
    exact fun a b => le_total (key a) (key b)
  refine ⟨(List.pairwise_mergeSort htrans htotal xs).imp of_decide_eq_true, fun k => ?_⟩
  -- the items with the key are in order in the list, so they are in that order in its sort
  have hequal : (xs.filter fun a => decide (key a = k)).Pairwise
      fun a b => decide (key a ≤ key b) = true := by
    refine List.pairwise_of_forall_mem_list fun a ha b hb => decide_eq_true ?_
    rw [of_decide_eq_true (List.mem_filter.1 ha).2, of_decide_eq_true (List.mem_filter.1 hb).2]
  have hsub := (List.sublist_mergeSort htrans htotal hequal List.filter_sublist).filter
    fun a => decide (key a = k)
  simp only [List.filter_filter, Bool.and_self] at hsub
  exact (hsub.eq_of_length ((List.mergeSort_perm xs _).filter _).length_eq.symm).symm

/-! ### Sorting from the end -/

theorem Settled.nil (xs : List α) : Settled key xs [] :=
  ⟨List.Pairwise.nil, fun _ _ _ hb => absurd hb List.not_mem_nil⟩

/-- Only the items of the first part matter, and not their order. -/
theorem Settled.of_subset (h : Settled key xs ys) (hsub : ∀ a ∈ xs', a ∈ xs) : Settled key xs' ys :=
  ⟨h.sorted, fun a ha => h.le a (hsub a ha)⟩

/-- Two settled parts are one. -/
theorem Settled.append (h : Settled key xs ys) (h' : Settled key (xs ++ ys) zs) :
    Settled key xs (ys ++ zs) where
  sorted := List.pairwise_append.2 ⟨h.sorted, h'.sorted, fun a ha =>
    h'.le a (List.mem_append_right _ ha)⟩
  le := by
    intro a ha b hb
    rcases List.mem_append.1 hb with hb | hb
    · exact h.le a ha b hb
    · exact h'.le a (List.mem_append_left _ ha) b hb

end StableSort
