/-
**Totals over the components of a system.**

A system with many components owns what its components own.  When one component steps, the total
changes as the share of that component does.

Main definitions:

* `Totals.total` — the sum of the shares of a list of components, in any commutative monoid.

Main results:

* `Totals.total_set` — **the total after one component has stepped**;
* `Totals.total_eq_of_only` — the total when only one component has a share;
* `Totals.mem_total` — with multisets as shares: what is in the total is in some share;
* `Totals.eq_of_nodup_total` — when nothing is shared twice, a share has one component.
-/

import Mathlib.Algebra.BigOperators.Group.Multiset.Basic
import Mathlib.Algebra.Order.Group.Multiset
import Mathlib.Data.Multiset.UnionInter

set_option relaxedAutoImplicit false
set_option autoImplicit false

namespace Totals

variable {α β M : Type*}

section Monoid

variable [AddCommMonoid M]

/-- The sum of the shares of the components. -/
def total (f : α → M) (l : List α) : M := (l.map f).sum

@[simp] theorem total_nil (f : α → M) : total f [] = 0 := rfl

@[simp] theorem total_cons (f : α → M) (a : α) (l : List α) :
    total f (a :: l) = f a + total f l := List.sum_cons

theorem total_append (f : α → M) (l l' : List α) : total f (l ++ l') = total f l + total f l' := by
  rw [total, List.map_append, List.sum_append]
  rfl

theorem total_concat (f : α → M) (l : List α) (a : α) : total f (l ++ [a]) = total f l + f a := by
  rw [total_append, total_cons, total_nil, add_zero]

/-- **The total after one component has stepped.** -/
theorem total_set (f : α → M) {l : List α} {i : ℕ} {a : α} (h : l[i]? = some a) (b : α) :
    total f (l.set i b) + f a = total f l + f b := by
  induction l generalizing i with
  | nil => exact absurd h (by simp)
  | cons c l ih =>
      cases i with
      | zero =>
          obtain rfl : c = a := by simpa using h
          rw [List.set_cons_zero, total_cons, total_cons, add_comm (f b + total f l),
            add_comm (f b), add_assoc]
      | succ i =>
          rw [List.getElem?_cons_succ] at h
          rw [List.set_cons_succ, total_cons, total_cons, add_assoc, ih h, add_assoc]

/-- Components with no share add nothing. -/
theorem total_eq_zero {f : α → M} {l : List α} (h : ∀ a ∈ l, f a = 0) : total f l = 0 := by
  induction l with
  | nil => rfl
  | cons a l ih =>
      rw [total_cons, h a (by simp), ih fun b hb => h b (by simp [hb]), add_zero]

/-- When only one component has a share, it is the total. -/
theorem total_eq_of_only {f : α → M} {l : List α} {i : ℕ} {a : α} (h : l[i]? = some a)
    (hothers : ∀ k b, k ≠ i → l[k]? = some b → f b = 0) : total f l = f a := by
  induction l generalizing i with
  | nil => exact absurd h (by simp)
  | cons c l ih =>
      cases i with
      | zero =>
          obtain rfl : c = a := by simpa using h
          have hzero : total f l = 0 := by
            refine total_eq_zero fun b hb => ?_
            obtain ⟨k, hk⟩ := List.mem_iff_getElem?.1 hb
            exact hothers (k + 1) b (Nat.succ_ne_zero k) hk
          rw [total_cons, hzero, add_zero]
      | succ i =>
          have hzero : f c = 0 := hothers 0 c (Nat.succ_ne_zero i).symm rfl
          rw [total_cons, hzero, zero_add]
          refine ih h fun k b hk hb => ?_
          exact hothers (k + 1) b (fun heq => hk (Nat.succ_injective heq)) hb

/-- A total of smaller shares is smaller. -/
theorem total_le_total [Preorder M] [AddLeftMono M] [AddRightMono M] {f g : α → M} {l : List α}
    (h : ∀ a ∈ l, f a ≤ g a) : total f l ≤ total g l := by
  induction l with
  | nil => exact le_rfl
  | cons a l ih =>
      rw [total_cons, total_cons]
      exact add_le_add (h a (by simp)) (ih fun b hb => h b (by simp [hb]))

end Monoid

/-- How often something is in the total. -/
theorem count_total [DecidableEq β] (f : α → Multiset β) (l : List α) (x : β) :
    (total f l).count x = total (fun a => (f a).count x) l := by
  induction l with
  | nil => rfl
  | cons a l ih => rw [total_cons, total_cons, Multiset.count_add, ih]

/-- What is in the total is in some share. -/
theorem mem_total {f : α → Multiset β} {l : List α} {x : β} :
    x ∈ total f l ↔ ∃ a ∈ l, x ∈ f a := by
  induction l with
  | nil => simp
  | cons a l ih => simp [ih]

/-- A share is in the total. -/
theorem le_total {f : α → Multiset β} {l : List α} {a : α} (h : a ∈ l) : f a ≤ total f l := by
  induction l with
  | nil => exact absurd h List.not_mem_nil
  | cons b l ih =>
      rw [total_cons]
      rcases List.mem_cons.1 h with rfl | h
      · exact Multiset.le_add_right _ _
      · exact (ih h).trans (Multiset.le_add_left _ _)

/-- **When nothing is shared twice, a share has one component.** -/
theorem eq_of_nodup_total {f : α → Multiset β} {l : List α} (h : (total f l).Nodup) {i k : ℕ}
    {a b : α} {x : β} (hi : l[i]? = some a) (hk : l[k]? = some b) (ha : x ∈ f a) (hb : x ∈ f b) :
    i = k := by
  induction l generalizing i k with
  | nil => exact absurd hi (by simp)
  | cons c l ih =>
      rw [total_cons, Multiset.nodup_add] at h
      obtain ⟨-, hl, hdisjoint⟩ := h
      have hno {d : α} {j : ℕ} (hj : l[j]? = some d) (hd : x ∈ f d) (hc : x ∈ f c) : False :=
        Multiset.disjoint_left.1 hdisjoint hc (mem_total.2 ⟨d, List.mem_of_getElem? hj, hd⟩)
      cases i with
      | zero =>
          obtain rfl : c = a := by simpa using hi
          cases k with
          | zero => rfl
          | succ k => exact (hno (by simpa using hk) hb ha).elim
      | succ i =>
          rw [List.getElem?_cons_succ] at hi
          cases k with
          | zero =>
              obtain rfl : c = b := by simpa using hk
              exact (hno hi ha hb).elim
          | succ k =>
              rw [List.getElem?_cons_succ] at hk
              exact congrArg Nat.succ (ih hl hi hk)

end Totals
