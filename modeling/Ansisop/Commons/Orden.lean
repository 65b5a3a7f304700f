/-
**`list_sort` over the cells of a list.**

`list_sort` exchanges the data of neighbouring cells, and leaves the cells where they are.  The data
are those that the passes over a list of data give, and the loop ends with any comparison.

Main definitions:

* `Ansisop.Commons.recorrer`, `Ansisop.Commons.repetir` — a pass over the cells, and the passes;
* `Ansisop.Commons.listSort` — the function.

Main results:

* `Ansisop.Commons.pasadas_eq` — **the passes end**, whatever the comparison says;
* `Ansisop.Commons.recorrer_seg` — a pass over the cells is a pass over the data;
* `Ansisop.Commons.listSort_spec` — **`list_sort` over the cells is `list_sort` over the data**.
-/

import Ansisop.Commons.Listas
import Ansisop.Kernel.ColaNew

set_option relaxedAutoImplicit false
set_option autoImplicit false

namespace Ansisop.Commons

open Chains (Cell Heap Seg Touches addresses)
open Kernel (pasada pasadas)

variable {ι α : Type*}

/-! ### The passes over the data end -/

/-- A pass that exchanges something ends before the one before it did. -/
theorem pasada_lastChanged {comparator : α → α → Bool} {unsortedElements : ℕ} (previous : α)
    (resto : List α) (index lastChanged : ℕ) (sorted : Bool)
    (h : sorted = false → lastChanged < unsortedElements)
    (hsorted : (pasada comparator unsortedElements previous resto index lastChanged sorted).2.2 =
      false) :
    (pasada comparator unsortedElements previous resto index lastChanged sorted).2.1 <
    unsortedElements := by
  induction resto generalizing previous index lastChanged sorted with
  | nil => exact h hsorted
  | cons cursor resto ih =>
      rw [pasada] at hsorted ⊢
      by_cases hindex : index < unsortedElements
      · rw [if_pos hindex] at hsorted ⊢
        by_cases hcomparator : (!comparator previous cursor) = true
        · rw [if_pos hcomparator] at hsorted ⊢
          exact ih previous (index + 1) index false (fun _ => hindex) hsorted
        · rw [if_neg hcomparator] at hsorted ⊢
          exact ih cursor (index + 1) lastChanged sorted h hsorted
      · rw [if_neg hindex] at hsorted ⊢
        exact h hsorted

/-- **The passes end**: more turns change nothing. -/
theorem pasadas_eq (comparator : α → α → Bool) {fuel fuel' unsortedElements : ℕ} (self : List α)
    (hfuel : unsortedElements < fuel) (hfuel' : unsortedElements < fuel') :
    pasadas comparator fuel unsortedElements self =
    pasadas comparator fuel' unsortedElements self := by
  induction fuel generalizing fuel' unsortedElements self with
  | zero => exact absurd hfuel (Nat.not_lt_zero _)
  | succ fuel ih =>
      obtain ⟨fuel', rfl⟩ := Nat.exists_eq_succ_of_ne_zero (Nat.ne_zero_of_lt hfuel')
      cases self with
      | nil => rw [pasadas, pasadas] <;> simp
      | cons previous resto =>
          rw [pasadas, pasadas]
          simp only
          split
          · rfl
          · rename_i hsorted
            have hlast := pasada_lastChanged previous resto 0 unsortedElements true (by simp)
              (Bool.not_eq_true _ ▸ hsorted)
            exact ih _ (Nat.lt_of_lt_of_le hlast (Nat.le_of_lt_succ hfuel))
              (Nat.lt_of_lt_of_le hlast (Nat.le_of_lt_succ hfuel'))

/-! ### The function -/

section Funciones

variable [DecidableEq ι]

/-- A pass of `list_sort` over the cells, from `previous_element` and `cursor` on: `last_changed`
and `sorted` after it. -/
def recorrer (comparator : α → α → Bool) (unsortedElements : ℕ) :
    ℕ → ι → Option ι → ℕ → ℕ → Bool → Heap ι α → Option (ℕ × Bool × Heap ι α)
  | _, _, none, _, lastChanged, sorted, m => some (lastChanged, sorted, m)
  | 0, _, some _, _, _, _, _ => none
  | fuel + 1, previous, some cursor, index, lastChanged, sorted, m =>
      if index < unsortedElements then
        (m.cell previous).bind fun p =>
          (m.cell cursor).bind fun c =>
            if !comparator p.data c.data then
              let m := (m.set cursor { c with data := p.data }).set previous
                { p with data := c.data }
              (m.cell cursor).bind fun c =>
                recorrer comparator unsortedElements fuel cursor c.next (index + 1) index false m
            else recorrer comparator unsortedElements fuel cursor c.next (index + 1)
              lastChanged sorted m
      else some (lastChanged, sorted, m)

/-- The passes of `list_sort` over the cells. -/
def repetir (celdas : ℕ) (comparator : α → α → Bool) (self : Lista ι) :
    ℕ → ℕ → Heap ι α → Option (Heap ι α)
  | 0, _, _ => none
  | fuel + 1, unsortedElements, m =>
      self.head.bind fun previous =>
        (m.cell previous).bind fun p =>
          (recorrer comparator unsortedElements celdas previous p.next 0
            unsortedElements true m).bind
            fun (lastChanged, sorted, m) =>
              if sorted then some m else repetir celdas comparator self fuel lastChanged m

/-- `list_sort`. -/
def listSort (fuel : ℕ) (comparator : α → α → Bool) (self : Lista ι) (m : Heap ι α) :
    Option (Heap ι α) :=
  if self.elementsCount < 2 then some m
  else repetir fuel comparator self fuel self.elementsCount.toNat m

end Funciones

/-! ### The cells and the data -/

variable {m : Heap ι α} {self : Lista ι} {head p : Option ι} {xs ys nodos : List (ι × α)}
  {i : ι} {a : α} {unsortedElements : ℕ}

/-- **The same cells with other data.** -/
structure Reordena (m : Heap ι α) (head : Option ι) (nodos : List (ι × α)) (m' : Heap ι α)
    (nodos' : List (ι × α)) : Prop where
  seg : Seg m' head nodos' none
  celdas : addresses nodos' = addresses nodos
  touches : Touches m nodos m' nodos'

theorem Reordena.trans {m' m'' : Heap ι α} {nodos' nodos'' : List (ι × α)}
    (h : Reordena m head nodos m' nodos') (h' : Reordena m' head nodos' m'' nodos'') :
    Reordena m head nodos m'' nodos'' :=
  ⟨h'.seg, h'.celdas.trans h.celdas, h.touches.trans h'.touches⟩

/-- The cells are those of a list, as before. -/
theorem Reordena.cons {m' : Heap ι α} {x : ι × α}
    (h : Reordena m head (xs ++ [x] ++ ys) m' (xs ++ [x] ++ nodos)) :
    Reordena m head (xs ++ x :: ys) m' (xs ++ x :: nodos) := by
  rwa [List.append_cons xs x ys, List.append_cons xs x nodos]

variable [DecidableEq ι]

/-- A cell gets another datum. -/
theorem reordena_set (hseg : Seg m head (xs ++ (i, a) :: ys) none) {next : Option ι}
    (hcell : m.cell i = some ⟨a, next⟩) (b : α) :
    Reordena m head (xs ++ (i, a) :: ys) (m.set i ⟨b, next⟩) (xs ++ (i, b) :: ys) where
  seg := hseg.setData hcell b
  celdas := by simp
  touches := ((Touches.refl m _).set (i := i) (by simp) _).congr fun j => by simp

/-- **A pass over the cells is a pass over the data.** -/
theorem recorrer_seg (comparator : α → α → Bool) (unsortedElements : ℕ)
    (xs : List (ι × α)) {fuel : ℕ} (hseg : Seg m head (xs ++ (i, a) :: ys) none)
    (hcell : m.cell i = some ⟨a, p⟩) (hfuel : ys.length ≤ fuel) (index lastChanged : ℕ)
    (sorted : Bool) :
    ∃ m' nodos', recorrer comparator unsortedElements fuel i p index lastChanged sorted m =
        some ((pasada comparator unsortedElements a (datos ys) index lastChanged sorted).2.1,
          (pasada comparator unsortedElements a (datos ys) index lastChanged sorted).2.2, m') ∧
      Reordena m head (xs ++ (i, a) :: ys) m' (xs ++ nodos') ∧
      datos nodos' =
      (pasada comparator unsortedElements a (datos ys) index lastChanged sorted).1 := by
  induction ys generalizing xs i a p m fuel index lastChanged sorted with
  | nil =>
      obtain ⟨-, -, -, p', hcell', hp'⟩ := Chains.seg_append.1 hseg
      rw [hcell, Option.some_inj, Cell.mk.injEq] at hcell'
      obtain rfl : p = none := hcell'.2.trans hp'
      exact ⟨m, [(i, a)], by rw [recorrer]; rfl, ⟨hseg, rfl, Touches.refl m _⟩, rfl⟩
  | cons y ys ih =>
      obtain ⟨j, b⟩ := y
      obtain ⟨-, -, -, p', hcell', rfl, next, hcellj, -⟩ := Chains.seg_append.1 hseg
      rw [hcell, Option.some_inj, Cell.mk.injEq] at hcell'
      obtain rfl := hcell'.2
      obtain ⟨fuel, rfl, hfuel'⟩ := exists_fuel hfuel
      change m.cell j = some ⟨b, next⟩ at hcellj
      have hij : i ≠ j := by
        rintro rfl
        exact hseg.notMem.2 List.mem_cons_self
      rw [recorrer, datos_cons, pasada]
      by_cases hindex : index < unsortedElements
      · rw [if_pos hindex, if_pos hindex, hcell, Option.bind_some, hcellj, Option.bind_some]
        by_cases hcomparator : (!comparator a b) = true
        · -- the data of the two cells are exchanged
          have h₁ := reordena_set (List.append_cons xs (i, a) _ ▸ hseg) hcellj a
          have hcell₁ : (m.set j ⟨a, next⟩).cell i = some ⟨a, some j⟩ := by
            rw [Chains.Heap.cell_set_of_ne hij, hcell]
          have h₂ := reordena_set h₁.cons.seg hcell₁ b
          have hcell₂ : ((m.set j ⟨a, next⟩).set i ⟨b, some j⟩).cell j = some ⟨a, next⟩ := by
            rw [Chains.Heap.cell_set_of_ne hij.symm, Chains.Heap.cell_set_self]
          have hseg₂ := h₂.seg
          rw [List.append_cons] at hseg₂
          obtain ⟨m', nodos', hrecorre, hreordena, hnodos⟩ :=
            ih _ hseg₂ hcell₂ hfuel' (index + 1) index false
          refine ⟨m', (i, b) :: nodos', ?_, (h₁.cons.trans h₂).trans hreordena.cons, ?_⟩
          · simp only [if_pos hcomparator, hcell₂, Option.bind_some, hrecorre]
          · rw [if_pos hcomparator]
            exact congrArg (b :: ·) hnodos
        · rw [List.append_cons] at hseg
          obtain ⟨m', nodos', hrecorre, hreordena, hnodos⟩ :=
            ih _ hseg hcellj hfuel' (index + 1) lastChanged sorted
          refine ⟨m', (i, a) :: nodos', ?_, hreordena.cons, ?_⟩
          · rw [if_neg hcomparator, if_neg hcomparator, hrecorre]
          · rw [if_neg hcomparator]
            exact congrArg (a :: ·) hnodos
      · rw [if_neg hindex, if_neg hindex]
        exact ⟨m, (i, a) :: (j, b) :: ys, rfl, ⟨hseg, rfl, Touches.refl m _⟩, rfl⟩

/-- The passes over the cells are the passes over the data. -/
theorem repetir_seg (comparator : α → α → Bool) {celdas fuel : ℕ}
    (hseg : Seg m self.head nodos none) (hne : nodos ≠ []) (hceldas : nodos.length ≤ celdas)
    (hfuel : unsortedElements < fuel) :
    ∃ m' nodos', repetir celdas comparator self fuel unsortedElements m = some m' ∧
      Reordena m self.head nodos m' nodos' ∧
      datos nodos' = pasadas comparator fuel unsortedElements (datos nodos) := by
  induction fuel generalizing m nodos unsortedElements with
  | zero => exact absurd hfuel (Nat.not_lt_zero _)
  | succ fuel ih =>
      obtain ⟨⟨i, a⟩, ys, rfl⟩ := List.exists_cons_of_ne_nil hne
      obtain ⟨hhead, p, hcell, -⟩ := id hseg
      obtain ⟨m₁, nodos₁, hrecorre, hreordena, hdatos⟩ :=
        recorrer_seg comparator unsortedElements [] hseg hcell
        (Nat.le_of_succ_le hceldas) 0 unsortedElements true
      have hrepetir : repetir celdas comparator self (fuel + 1) unsortedElements m =
          if (pasada comparator unsortedElements a (datos ys) 0 unsortedElements true).2.2 then
            some m₁
          else repetir celdas comparator self fuel
            (pasada comparator unsortedElements a (datos ys) 0 unsortedElements true).2.1 m₁ := by
        rw [repetir, hhead, Option.bind_some, hcell, Option.bind_some, hrecorre, Option.bind_some]
      rw [hrepetir, datos_cons, pasadas]
      simp only
      by_cases hsorted :
        (pasada comparator unsortedElements a (datos ys) 0 unsortedElements true).2.2 = true
      · rw [if_pos hsorted, if_pos hsorted]
        exact ⟨m₁, nodos₁, rfl, hreordena, hdatos⟩
      · rw [if_neg hsorted, if_neg hsorted]
        have hlast := pasada_lastChanged a (datos ys) 0 unsortedElements true (by simp)
          (Bool.not_eq_true _ ▸ hsorted)
        have hlength : nodos₁.length = ys.length + 1 := by
          simpa [addresses] using congrArg List.length hreordena.celdas
        obtain ⟨m', nodos', hrepite, hreordena', hdatos'⟩ := ih hreordena.seg
          (List.ne_nil_of_length_pos (hlength ▸ Nat.succ_pos _)) (hlength ▸ hceldas)
          (Nat.lt_of_lt_of_le hlast (Nat.le_of_lt_succ hfuel))
        rw [List.nil_append] at hreordena hreordena'
        exact ⟨m', nodos', hrepite, hreordena.trans hreordena', hdatos ▸ hdatos'⟩

/-- **`list_sort` over the cells is `list_sort` over the data.** -/
theorem listSort_spec {fuel : ℕ} (comparator : α → α → Bool) (h : Enlaza m self nodos)
    (hfuel : nodos.length < fuel) :
    ∃ m' nodos', listSort fuel comparator self m = some m' ∧ Enlaza m' self nodos' ∧
    Touches m nodos m' nodos' ∧
      datos nodos' = Kernel.listSort comparator (datos nodos) := by
  rw [listSort, Kernel.listSort, length_datos, h.cuenta]
  by_cases hdos : nodos.length < 2
  · rw [if_pos (by omega), if_pos hdos]
    exact ⟨m, nodos, rfl, h, Touches.refl m nodos, rfl⟩
  · rw [if_neg (by omega), if_neg hdos, Int.toNat_natCast]
    obtain ⟨m', nodos', hrepite, hreordena, hdatos⟩ := repetir_seg comparator h.seg
      (List.ne_nil_of_length_pos (by omega)) hfuel.le hfuel
    refine ⟨m', nodos', hrepite, ⟨hreordena.seg, ?_⟩, hreordena.touches, ?_⟩
    · have hceldas := congrArg List.length hreordena.celdas
      rw [addresses, addresses, List.length_map, List.length_map] at hceldas
      rw [h.cuenta, hceldas]
    · rw [hdatos, pasadas_eq comparator _ hfuel (Nat.lt_succ_self _)]

end Ansisop.Commons
