/-
**Words in memory.**

A 32-bit word is stored as four bytes, the least significant one first.

Main definitions:

* `Words.byteAt` — the bytes of a word;
* `Words.ofBytes` — the word with given bytes.

Main results:

* `Words.ofBytes_byteAt` — **a word is read back from its bytes**.
-/

import Mathlib.Data.BitVec

set_option relaxedAutoImplicit false
set_option autoImplicit false

namespace Words

/-- The byte at position `i` of a word. -/
def byteAt (w : BitVec 32) (i : ℕ) : BitVec 8 := BitVec.ofNat 8 (w.toNat / 256 ^ i)

/-- The word whose bytes are `f 0`, `f 1`, `f 2` and `f 3`. -/
def ofBytes (f : ℕ → BitVec 8) : BitVec 32 :=
  BitVec.ofNat 32
    ((f 0).toNat + 256 * ((f 1).toNat + 256 * ((f 2).toNat + 256 * (f 3).toNat)))

/-- A word depends on its four bytes. -/
theorem ofBytes_congr {f g : ℕ → BitVec 8} (h : ∀ i < 4, f i = g i) : ofBytes f = ofBytes g := by
  rw [ofBytes, ofBytes, h 0 (by omega), h 1 (by omega), h 2 (by omega), h 3 (by omega)]

/-- **A word is read back from its bytes.** -/
theorem ofBytes_byteAt (w : BitVec 32) : ofBytes (byteAt w) = w := by
  refine BitVec.eq_of_toNat_eq ?_
  have hw := w.isLt
  simp only [ofBytes, byteAt, BitVec.toNat_ofNat]
  omega

end Words
