/-
**First fit and worst fit.**

What the two searches of the UMV are for, said without the gaps that they walk over: first fit
returns the lowest address at which the request is free, and worst fit the start of a widest maximal
free range.  Both find room for the same requests, so that the console can change the algorithm at
any time.

Main definitions:

* `Ansisop.Umv.Libre`, `Ansisop.Umv.Hueco` — free ranges of the memory, and the maximal ones.

Main results:

* `Ansisop.Umv.primer_ajuste` — **first fit returns the lowest free address**, and null if there is
  none;
* `Ansisop.Umv.peor_ajuste` — **worst fit returns the start of a widest maximal free range**, and
  null exactly when first fit does.
-/

import Ansisop.Lib.FreeSpace
import Ansisop.Umv.Sistema

set_option relaxedAutoImplicit false
set_option autoImplicit false

namespace Ansisop.Umv

/-- The `n` bytes from `a` on lie in the memory, and no segment overlaps them. -/
abbrev Libre (B : Bloque) (xs : List TipoSegmento) (a n : ℕ) : Prop :=
  Layout.Free base len B.lo B.hi xs a n

/-- The maximal free ranges of the memory. -/
abbrev Hueco (B : Bloque) (xs : List TipoSegmento) (a n : ℕ) : Prop :=
  Layout.MaximalFree base len B.lo B.hi xs a n

variable {B : Bloque} {xs : List TipoSegmento} {a m : ℕ}

/-- The pointer to a free byte is its address, and not null. -/
theorem toNat_of_libre (h : Libre B xs a m) (hm : 0 < m) :
    (BitVec.ofNat 32 a).toNat = a ∧ BitVec.ofNat 32 a ≠ null := by
  obtain ⟨hlo, hhi, -⟩ := h
  have hB := B.hi_le
  have hpos := B.lo_pos
  have hto : (BitVec.ofNat 32 a).toNat = a := by
    rw [BitVec.toNat_ofNat]
    omega
  refine ⟨hto, fun hnull => ?_⟩
  rw [hnull] at hto
  exact absurd hto (by simp only [null, BitVec.toNat_ofNat]; omega)

/-! ### First fit -/

/-- First fit in a table whose segments are laid out in the memory. -/
theorem buscarEspacioFF_dentro (hdentro : Layout.Within base len B.lo B.hi xs)
    (hpos : ∀ x ∈ xs, 0 < len x) (n : U32) : buscarEspacioFF B xs n =
      punteroHueco ((huecos B xs).find? fun g => decide (n.toNat ≤ g.2)) := by
  have heq := recorrerFF_eq (n := n) hdentro le_rfl hpos
  rwa [Nat.sub_self, Bloque.lo, BitVec.ofNat_toNat, BitVec.setWidth_eq] at heq

/-- **First fit is correct and complete.** -/
theorem primer_ajuste (B : Bloque) (xs : List TipoSegmento)
    (hdentro : Layout.Within base len B.lo B.hi xs) (hpos : ∀ x ∈ xs, 0 < len x) (n : U32)
    (hn : 0 < n.toNat) :
    (buscarEspacioFF B xs n ≠ null →
      IsLeast { a | Libre B xs a n.toNat } (buscarEspacioFF B xs n).toNat) ∧
    (buscarEspacioFF B xs n = null ↔ ∀ a, ¬ Libre B xs a n.toNat) := by
  rw [buscarEspacioFF_dentro hdentro hpos]
  cases hf : (huecos B xs).find? fun g => decide (n.toNat ≤ g.2) with
  | some g =>
      have hleast := hdentro.isLeast_find? hf
      obtain ⟨hto, hnull⟩ := toNat_of_libre hleast.1 hn
      rw [punteroHueco, hto]
      exact ⟨fun _ => hleast, iff_of_false hnull fun hno => hno g.1 hleast.1⟩
  | none =>
      refine ⟨fun hnull => absurd rfl hnull, iff_of_true rfl fun a ha => ?_⟩
      obtain ⟨g, hg, hgn⟩ := hdentro.exists_free_iff.1 ⟨a, ha⟩
      exact List.find?_eq_none.1 hf g hg (decide_eq_true hgn)

/-- A segment of four bytes in the middle of a memory of sixteen. -/
def unoEnMedio : List TipoSegmento := [⟨1#32, 4#32, 100#32, 0x1004#32⟩]

theorem unoEnMedio_dentro : Layout.Within base len bloque16.lo bloque16.hi unoEnMedio := by decide

theorem unoEnMedio_pos : ∀ x ∈ unoEnMedio, 0 < len x := by decide

/-- Eight bytes are free only after the segment. -/
theorem primer_ajuste_ocho :
    IsLeast { a | Libre bloque16 unoEnMedio a 8 } (buscarEspacioFF bloque16 unoEnMedio 8#32).toNat ∧
      (buscarEspacioFF bloque16 unoEnMedio 8#32).toNat = 0x1008 := by
  have h := primer_ajuste bloque16 unoEnMedio unoEnMedio_dentro unoEnMedio_pos 8#32 (by decide)
  exact ⟨h.1 (by decide), by decide⟩

/-! ### Worst fit -/

/-- Worst fit in a table whose segments are laid out in the memory, whatever `pMayorTamanio` holds
before it is assigned. -/
theorem recorrerWF_dentro (hdentro : Layout.Within base len B.lo B.hi xs)
    (hpos : ∀ x ∈ xs, 0 < len x) (n : U32) (pMayorTamanio : TPuntero) :
    recorrerWF B.cantMem n xs B.pInicioMemoria 0#32 0#32 pMayorTamanio =
      punteroHueco ((some (Layout.widest (0, 0) (huecos B xs))).filter
        fun g => decide (n.toNat ≤ g.2)) := by
  have heq := recorrerWF_eq (n := n) hdentro le_rfl hpos
    (show ((pMayorTamanio.toNat, 0) : ℕ × ℕ).2 < 2 ^ 31 by norm_num)
  rw [Nat.sub_self, Bloque.lo, BitVec.ofNat_toNat, BitVec.setWidth_eq, BitVec.ofNat_toNat,
    BitVec.setWidth_eq] at heq
  rw [← Layout.widest_of_empty (pMayorTamanio.toNat, 0) (0, 0) rfl rfl (Layout.gaps_ne_nil _ _ _)]
  exact heq

/-- The pointer that worst fit returns was assigned. -/
theorem recorrerWF_sinAsignar (hdentro : Layout.Within base len B.lo B.hi xs)
    (hpos : ∀ x ∈ xs, 0 < len x) (n : U32) (pMayorTamanio : TPuntero) :
    recorrerWF B.cantMem n xs B.pInicioMemoria 0#32 0#32 pMayorTamanio = buscarEspacioWF B xs n :=
  (recorrerWF_dentro hdentro hpos n pMayorTamanio).trans
    (recorrerWF_dentro hdentro hpos n null).symm

/-- **Worst fit is correct, and agrees with first fit on what has room.** -/
theorem peor_ajuste (B : Bloque) (xs : List TipoSegmento)
    (hdentro : Layout.Within base len B.lo B.hi xs) (hpos : ∀ x ∈ xs, 0 < len x) (n : U32)
    (hn : 0 < n.toNat) :
    (buscarEspacioWF B xs n ≠ null → ∃ k, Hueco B xs (buscarEspacioWF B xs n).toNat k ∧
      n.toNat ≤ k ∧
      ∀ a m, Hueco B xs a m → m ≤ k) ∧
    (buscarEspacioWF B xs n = null ↔ ∀ a m, Hueco B xs a m → m < n.toNat) ∧
    (buscarEspacioWF B xs n = null ↔ buscarEspacioFF B xs n = null) ∧
    ∀ pMayorTamanio, recorrerWF B.cantMem n xs B.pInicioMemoria 0#32 0#32 pMayorTamanio =
      buscarEspacioWF B xs n := by
  have heq : buscarEspacioWF B xs n = _ := recorrerWF_dentro hdentro hpos n null
  have hasignado := recorrerWF_sinAsignar hdentro hpos n
  have hFF := (primer_ajuste B xs hdentro hpos n hn).2
  have hmayor {a m : ℕ} (h : Hueco B xs a m) : m ≤ (Layout.widest (0, 0) (huecos B xs)).2 :=
    h.le_widest hdentro (0, 0)
  generalize hw : Layout.widest (0, 0) (huecos B xs) = w at heq hmayor
  by_cases hnw : n.toNat ≤ w.2
  · have hhueco : Hueco B xs w.1 w.2 := by
      have h := hdentro.maximalFree_widest (0, 0) rfl
      rw [show Layout.gaps base len B.lo B.hi xs = huecos B xs from rfl, hw] at h
      exact h (by omega)
    obtain ⟨hto, hnull⟩ := toNat_of_libre hhueco.free hhueco.pos
    have hptr : buscarEspacioWF B xs n = BitVec.ofNat 32 w.1 := by
      rw [heq, Option.filter, if_pos (decide_eq_true hnw), punteroHueco]
    rw [hptr, hto]
    refine ⟨fun _ => ⟨w.2, hhueco, hnw, fun a m h => hmayor h⟩,
      iff_of_false hnull fun hno => absurd (hno w.1 w.2 hhueco) (by omega),
      iff_of_false hnull fun hff => ?_, fun p => (hasignado p).trans hptr⟩
    exact hFF.1 hff w.1 (hhueco.free.mono le_rfl (by omega))
  · have hnull : buscarEspacioWF B xs n = null := by
      rw [heq, Option.filter, if_neg (by simpa using hnw), punteroHueco]
    refine ⟨fun hno => absurd hnull hno, iff_of_true hnull fun a m h => ?_,
      iff_of_true hnull (hFF.2 fun a ha => ?_), hasignado⟩
    · have := hmayor h
      omega
    · obtain ⟨g, hg, hgn⟩ := hdentro.exists_free_iff.1 ⟨a, ha⟩
      have := hmayor (hdentro.maximalFree_iff.2 ⟨hg, by omega⟩)
      omega

/-- The widest free range is the one after the segment. -/
theorem peor_ajuste_dos :
    (∃ k, Hueco bloque16 unoEnMedio (buscarEspacioWF bloque16 unoEnMedio 2#32).toNat k ∧ 2 ≤ k ∧
      ∀ a m, Hueco bloque16 unoEnMedio a m → m ≤ k) ∧
      (buscarEspacioWF bloque16 unoEnMedio 2#32).toNat = 0x1008 := by
  have h := peor_ajuste bloque16 unoEnMedio unoEnMedio_dentro unoEnMedio_pos 2#32 (by decide)
  exact ⟨h.1 (by decide), by decide⟩

end Ansisop.Umv
