/-
**A flat memory addressed by machine words.**

A memory is a function from the addresses `BitVec w` to cells of any type `β`; address arithmetic
wraps around, as it does on the machine.  The module defines reading and writing a run of
consecutive cells, and the byte-by-byte forward copy, and says when the copy is right although its
source and its destination overlap.

Main definitions:

* `Mem.read`, `Mem.write` — reading and writing `n` consecutive cells;
* `Mem.copyForward` — copying `n` cells one at a time, from the lowest address up.

Main results:

* `Mem.read_congr` — reading depends on the cells read;
* `Mem.write_apply` — **writing changes the cells written, and only those**;
* `Mem.copyForward_apply` — **a forward copy to a lower address moves every cell**, overlap or not.
-/

import Mathlib.Data.BitVec
import Mathlib.Tactic.Ring

set_option relaxedAutoImplicit false
set_option autoImplicit false

namespace Mem

variable {w : ℕ} {β : Type*}

/-- The `n` cells from the address `a` on. -/
def read (m : BitVec w → β) (a : BitVec w) (n : ℕ) : List β :=
  (List.range n).map fun i => m (a + BitVec.ofNat w i)

/-- The memory after writing `src 0, …, src (n - 1)` to the `n` cells from the address `a` on. -/
def write (m : BitVec w → β) (a : BitVec w) (src : ℕ → β) (n : ℕ) : BitVec w → β :=
  fun p => if (p - a).toNat < n then src (p - a).toNat else m p

/-- The memory after copying `n` cells from `src` to `dst`, one at a time and upwards. -/
def copyForward : ℕ → (BitVec w → β) → BitVec w → BitVec w → BitVec w → β
  | 0, m, _, _ => m
  | n + 1, m, src, dst =>
      copyForward n (fun p => if p = dst then m src else m p) (src + 1#w) (dst + 1#w)

@[simp] theorem length_read (m : BitVec w → β) (a : BitVec w) (n : ℕ) :
    (read m a n).length = n := by simp [read]

/-- Reading depends only on the cells read. -/
theorem read_congr {m m' : BitVec w → β} {a a' : BitVec w} {n : ℕ}
    (h : ∀ i < n, m (a + BitVec.ofNat w i) = m' (a' + BitVec.ofNat w i)) :
    read m a n = read m' a' n :=
  List.map_congr_left fun i hi => h i (List.mem_range.1 hi)

theorem read_getElem (m : BitVec w → β) (a : BitVec w) (n i : ℕ) (h : i < (read m a n).length) :
    (read m a n)[i] = m (a + BitVec.ofNat w i) := by
  simp [read]

/-- The distance from `a` to `a + i`. -/
theorem add_ofNat_sub_toNat (a : BitVec w) {i : ℕ} (hi : i < 2 ^ w) :
    (a + BitVec.ofNat w i - a).toNat = i := by
  rw [add_sub_cancel_left, BitVec.toNat_ofNat, Nat.mod_eq_of_lt hi]

/-- **Writing changes the cells written, and only those.**  The range may end at the last
address. -/
theorem write_apply (m : BitVec w → β) {a n : ℕ} (src : ℕ → β) (p : BitVec w) (h : a + n ≤ 2 ^ w) :
    write m (BitVec.ofNat w a) src n p =
      if a ≤ p.toNat ∧ p.toNat < a + n then src (p.toNat - a) else m p := by
  rw [write]
  rcases Nat.eq_zero_or_pos n with rfl | hn
  · rw [if_neg (Nat.not_lt_zero _), if_neg (by omega)]
  have ha : (BitVec.ofNat w a).toNat = a := by
    rw [BitVec.toNat_ofNat, Nat.mod_eq_of_lt (by omega)]
  by_cases hle : a ≤ p.toNat
  · have hsub : (p - BitVec.ofNat w a).toNat = p.toNat - a := by
      rw [BitVec.toNat_sub_of_le (by rw [BitVec.le_def, ha]; exact hle), ha]
    rw [hsub]
    exact if_congr (by omega) rfl rfl
  · -- below `a` the distance wraps around, and is larger than the range
    have hsub : (p - BitVec.ofNat w a).toNat = 2 ^ w - a + p.toNat := by
      rw [BitVec.toNat_sub, ha, Nat.mod_eq_of_lt (by omega)]
    rw [if_neg (by omega), if_neg (by omega)]

/-- **A forward copy to a lower address moves every cell**: although the destination may overlap
the source, no cell is overwritten before it has been read. -/
theorem copyForward_apply {n : ℕ} {m : BitVec w → β} {src dst p : BitVec w}
    (hle : dst.toNat ≤ src.toNat) (hsrc : src.toNat + n ≤ 2 ^ w) :
    copyForward n m src dst p =
      if dst.toNat ≤ p.toNat ∧ p.toNat < dst.toNat + n then m (src + (p - dst)) else m p := by
  induction n generalizing m src dst with
  | zero => rw [copyForward, if_neg (by omega)]
  | succ n ih =>
      rcases Nat.eq_zero_or_pos n with rfl | hn
      · -- the last cell: nothing is copied afterwards
        rw [copyForward, copyForward]
        by_cases hp : p = dst
        · subst hp
          rw [if_pos rfl, if_pos (by omega), BitVec.sub_self, BitVec.add_zero]
        · have hne : p.toNat ≠ dst.toNat := fun h => hp (BitVec.eq_of_toNat_eq h)
          rw [if_neg hp, if_neg (by omega)]
      · have hw : 1 < 2 ^ w := by have := src.isLt; omega
        have h1 : (1#w).toNat = 1 := by rw [BitVec.toNat_ofNat, Nat.mod_eq_of_lt hw]
        have hsrc1 : (src + 1#w).toNat = src.toNat + 1 := by
          rw [BitVec.toNat_add, h1, Nat.mod_eq_of_lt (by omega)]
        have hdst1 : (dst + 1#w).toNat = dst.toNat + 1 := by
          rw [BitVec.toNat_add, h1, Nat.mod_eq_of_lt (by omega)]
        rw [copyForward, ih (by omega) (by omega), hdst1]
        by_cases hp : p = dst
        · -- the first cell, which the rest of the copy leaves alone
          subst hp
          rw [if_neg (by omega), if_pos rfl, if_pos (by omega), BitVec.sub_self, BitVec.add_zero]
        · have hne : p.toNat ≠ dst.toNat := fun h => hp (BitVec.eq_of_toNat_eq h)
          have hstep : src + 1#w + (p - (dst + 1#w)) = src + (p - dst) := by ring
          by_cases hin : dst.toNat + 1 ≤ p.toNat ∧ p.toNat < dst.toNat + 1 + n
          · -- a later cell: its source lies above `dst`, so the first write did not touch it
            have hpd : (p - dst).toNat = p.toNat - dst.toNat := by
              rw [BitVec.toNat_sub_of_le (by rw [BitVec.le_def]; omega)]
            have hsum : (src + (p - dst)).toNat = src.toNat + (p.toNat - dst.toNat) := by
              rw [BitVec.toNat_add, hpd, Nat.mod_eq_of_lt (by omega)]
            have hsd : src + (p - dst) ≠ dst := by
              intro h
              have := congrArg BitVec.toNat h
              omega
            rw [if_pos hin, hstep, if_neg hsd, if_pos (by omega)]
          · rw [if_neg hin, if_neg hp, if_neg (by omega)]

/-- A copy from a place to itself changes nothing. -/
theorem copyForward_self (n : ℕ) (m : BitVec w → β) (p : BitVec w) : copyForward n m p p = m := by
  induction n generalizing p with
  | zero => rfl
  | succ n ih =>
      have hsame : (fun q => if q = p then m p else m q) = m := by
        funext q
        by_cases hq : q = p
        · rw [if_pos hq, hq]
        · rw [if_neg hq]
      rw [copyForward, hsame, ih]

end Mem
