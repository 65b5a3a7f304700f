/-
**The linked lists of the commons.**

Each process keeps its queues and tables in lists of cells that are taken from the heap one by one.
This module models the functions of the lists as they handle the cells, where a null or freed cell
that is looked at is an error, and says what each one does to the data of a list and which cells it
touches.

Main definitions:

* `Ansisop.Commons.Lista` — a list: its first cell and the number of its elements;
* `Ansisop.Commons.listAdd`, `Ansisop.Commons.listAddInIndex`, `Ansisop.Commons.listGet`,
  `Ansisop.Commons.listReplace`, `Ansisop.Commons.listFind`, `Ansisop.Commons.listRemove`,
  `Ansisop.Commons.listRemoveByCondition`, `Ansisop.Commons.listClean`,
  `Ansisop.Commons.listAnySatisfy` — the functions of the same names;
* `Ansisop.Commons.Enlaza` — **the cells of a list**, in order, as many as it says.

Main results: for each function, what it gives and which cells the list has after it.
-/

import Ansisop.Lib.Chains
import Mathlib.Data.Int.Notation
import Mathlib.Data.List.Basic

set_option relaxedAutoImplicit false
set_option autoImplicit false

namespace Ansisop.Commons

open Chains (Cell Heap Allocator Seg Touches addresses)

/-- `t_list`. -/
structure Lista (ι : Type*) where
  head : Option ι
  elementsCount : ℤ

variable {ι α : Type*}

/-! ### The functions -/

section Funciones

variable [DecidableEq ι]

/-- `list_create`. -/
def listCreate : Lista ι := ⟨none, 0⟩

/-- `list_create_element`, with the address of the element. -/
def listCreateElement (malloc : Allocator ι α) (data : α) (m : Heap ι α) : ι × Heap ι α :=
  (malloc.fresh m, m.set (malloc.fresh m) ⟨data, none⟩)

/-- `list_link_element`. -/
def listLinkElement (previous next : Option ι) (m : Heap ι α) : Option (Heap ι α) :=
  match previous with
  | none => some m
  | some i => (m.cell i).map fun c => m.set i { c with next }

/-- `list_size`. -/
def listSize (list : Lista ι) : ℤ := list.elementsCount

/-- The loop of `list_get_element`. -/
def avanzarElemento (m : Heap ι α) : ℕ → Option ι → Option (Option ι)
  | 0, element => some element
  | veces + 1, element => (element.bind m.cell).bind fun c => avanzarElemento m veces c.next

/-- `list_get_element`. -/
def listGetElement (self : Lista ι) (index : ℤ) (m : Heap ι α) : Option (Option ι) :=
  if self.elementsCount > index ∧ index ≥ 0 then avanzarElemento m index.toNat self.head
  else some none

/-- `list_add`. -/
def listAdd (malloc : Allocator ι α) (self : Lista ι) (data : α) (m : Heap ι α) :
    Option (ℤ × Lista ι × Heap ι α) :=
  let newElement := listCreateElement malloc data m
  if self.elementsCount = 0 then
    some (self.elementsCount, ⟨some newElement.1, self.elementsCount + 1⟩, newElement.2)
  else
    (listGetElement self (self.elementsCount - 1) newElement.2).bind fun ultimo =>
      (listLinkElement ultimo (some newElement.1) newElement.2).map fun m =>
        (self.elementsCount, { self with elementsCount := self.elementsCount + 1 }, m)

/-- The datum of an element, null if there is none. -/
def dato (m : Heap ι α) : Option ι → Option (Option α)
  | none => some none
  | some i => (m.cell i).map fun c => some c.data

/-- `list_get`. -/
def listGet (self : Lista ι) (index : ℤ) (m : Heap ι α) : Option (Option α) :=
  (listGetElement self index m).bind (dato m)

/-- `list_add_in_index`. -/
def listAddInIndex (malloc : Allocator ι α) (self : Lista ι) (index : ℤ) (data : α) (m : Heap ι α) :
    Option (Lista ι × Heap ι α) :=
  if self.elementsCount ≥ index ∧ index ≥ 0 then
    let newElement := listCreateElement malloc data m
    if index = 0 then
      (listLinkElement (some newElement.1) self.head newElement.2).map fun m =>
        (⟨some newElement.1, self.elementsCount + 1⟩, m)
    else
      (listGetElement self index newElement.2).bind fun next =>
        (listGetElement self (index - 1) newElement.2).bind fun previous =>
          (listLinkElement previous (some newElement.1) newElement.2).bind fun m =>
            (listLinkElement (some newElement.1) next m).map fun m =>
              ({ self with elementsCount := self.elementsCount + 1 }, m)
  else some (self, m)

/-- `list_replace`. -/
def listReplace (self : Lista ι) (index : ℤ) (data : α) (m : Heap ι α) :
    Option (Option α × Heap ι α) :=
  (listGetElement self index m).bind fun
    | none => some (none, m)
    | some i => (m.cell i).map fun c => (some c.data, m.set i { c with data })

/-- The loop of `list_find_element`, with the element and its position. -/
def buscarElemento (condition : α → Bool) (m : Heap ι α) : ℕ → Option ι → ℕ → Option (Option ι × ℕ)
  | _, none, position => some (none, position)
  | 0, some _, _ => none
  | fuel + 1, some i, position =>
      (m.cell i).bind fun c =>
        if condition c.data then some (some i, position)
        else buscarElemento condition m fuel c.next (position + 1)

/-- `list_find_element`. -/
def listFindElement (fuel : ℕ) (self : Lista ι) (condition : α → Bool) (m : Heap ι α) :
    Option (Option ι × ℕ) :=
  buscarElemento condition m fuel self.head 0

/-- `list_find`. -/
def listFind (fuel : ℕ) (self : Lista ι) (condition : α → Bool) (m : Heap ι α) :
    Option (Option α) :=
  (listFindElement fuel self condition m).bind fun element => dato m element.1

/-- `list_remove`. -/
def listRemove (self : Lista ι) (index : ℤ) (m : Heap ι α) :
    Option (Option α × Lista ι × Heap ι α) :=
  match self.head with
  | none => some (none, self, m)
  | some _ =>
      (listGetElement self index m).bind fun auxElement =>
        auxElement.bind fun i =>
          (m.cell i).bind fun aux =>
            if index = 0 then
              some (some aux.data, ⟨aux.next, self.elementsCount - 1⟩, m.free i)
            else
              (listGetElement self (index - 1) m).bind fun previous =>
                (listLinkElement previous aux.next m).map fun m =>
                  (some aux.data, { self with elementsCount := self.elementsCount - 1 }, m.free i)

/-- `list_remove_by_condition`. -/
def listRemoveByCondition (fuel : ℕ) (self : Lista ι) (condition : α → Bool) (m : Heap ι α) :
    Option (Option α × Lista ι × Heap ι α) :=
  (listFindElement fuel self condition m).bind fun element =>
    if element.1 ≠ none then listRemove self element.2 m else some (none, self, m)

/-- The loop of `list_clean`. -/
def limpiar : ℕ → Option ι → Heap ι α → Option (Heap ι α)
  | _, none, m => some m
  | 0, some _, _ => none
  | fuel + 1, some i, m => (m.cell i).bind fun c => limpiar fuel c.next (m.free i)

/-- `list_clean`. -/
def listClean (fuel : ℕ) (self : Lista ι) (m : Heap ι α) : Option (Lista ι × Heap ι α) :=
  (limpiar fuel self.head m).map fun m => (⟨none, 0⟩, m)

/-- `list_iterate` of `list_filter`: the elements that satisfy the condition are added to the other
list. -/
def filtrar (malloc : Allocator ι α) (condition : α → Bool) :
    ℕ → Option ι → Lista ι → Heap ι α → Option (Lista ι × Heap ι α)
  | _, none, filtered, m => some (filtered, m)
  | 0, some _, _, _ => none
  | fuel + 1, some i, filtered, m =>
      (m.cell i).bind fun c =>
        if condition c.data then
          (listAdd malloc filtered c.data m).bind fun (_, filtered, m) =>
            (m.cell i).bind fun c => filtrar malloc condition fuel c.next filtered m
        else filtrar malloc condition fuel c.next filtered m

/-- `list_filter`. -/
def listFilter (fuel : ℕ) (malloc : Allocator ι α) (self : Lista ι) (condition : α → Bool)
    (m : Heap ι α) : Option (Lista ι × Heap ι α) :=
  filtrar malloc condition fuel self.head listCreate m

/-- `list_count_satisfying`. -/
def listCountSatisfying (fuel : ℕ) (malloc : Allocator ι α) (self : Lista ι) (condition : α → Bool)
    (m : Heap ι α) : Option (ℤ × Heap ι α) :=
  (listFilter fuel malloc self condition m).bind fun (satisfying, m) =>
    (listClean fuel satisfying m).map fun (_, m) => (satisfying.elementsCount, m)

/-- `list_any_satisfy`. -/
def listAnySatisfy (fuel : ℕ) (malloc : Allocator ι α) (self : Lista ι) (condition : α → Bool)
    (m : Heap ι α) : Option (Bool × Heap ι α) :=
  (listCountSatisfying fuel malloc self condition m).map fun (result, m) => (decide (result > 0), m)

end Funciones

/-! ### The cells of a list -/

/-- **The cells of a list**, in order. -/
structure Enlaza (m : Heap ι α) (lista : Lista ι) (nodos : List (ι × α)) : Prop where
  seg : Seg m lista.head nodos none
  cuenta : lista.elementsCount = nodos.length

/-- An empty list has no cells. -/
theorem enlaza_listCreate (m : Heap ι α) : Enlaza m listCreate [] :=
  ⟨rfl, rfl⟩

/-- The data of some cells. -/
def datos (nodos : List (ι × α)) : List α := nodos.map Prod.snd

theorem length_datos (nodos : List (ι × α)) : (datos nodos).length = nodos.length :=
  List.length_map _

theorem datos_append (xs ys : List (ι × α)) : datos (xs ++ ys) = datos xs ++ datos ys :=
  List.map_append

theorem datos_cons (x : ι × α) (xs : List (ι × α)) : datos (x :: xs) = x.2 :: datos xs := rfl

/-- The index of an element. -/
theorem indice_dentro (xs : List (ι × α)) (x : ι × α) (ys : List (ι × α)) :
    (0 : ℤ) ≤ xs.length ∧ (xs.length : ℤ) < (xs ++ x :: ys).length := by
  rw [List.length_append, List.length_cons]
  omega

/-- The element at its index. -/
theorem getElem_datos (xs : List (ι × α)) (x : ι × α) (ys : List (ι × α)) :
    (datos (xs ++ x :: ys))[xs.length]? = some x.2 := by
  rw [datos_append, List.getElem?_append_right (Nat.le_of_eq (length_datos xs)), length_datos,
    Nat.sub_self, datos_cons, List.getElem?_cons_zero]

variable {malloc : Allocator ι α} {m m' : Heap ι α} {self : Lista ι}
  {nodos xs ys : List (ι × α)} {x : ι × α} {p q : Option ι} {data : α} {index : ℤ}

/-- There is fuel for one more cell. -/
theorem exists_fuel {n fuel : ℕ} (h : n + 1 ≤ fuel) : ∃ fuel', fuel = fuel' + 1 ∧ n ≤ fuel' :=
  ⟨fuel - 1, by omega, by omega⟩

/-- The loop gets as far as there are cells. -/
theorem avanzarElemento_seg (h : Seg m p (xs ++ ys) q) :
    ∃ r, avanzarElemento m xs.length p = some r ∧ Seg m r ys q := by
  induction xs generalizing p with
  | nil => exact ⟨p, rfl, h⟩
  | cons x xs ih =>
      obtain ⟨hp, next, hcell, h⟩ := h
      obtain ⟨r, hr, hys⟩ := ih h
      refine ⟨r, ?_, hys⟩
      rw [List.length_cons, avanzarElemento, hp, Option.bind_some, hcell, Option.bind_some, hr]

/-- **The element at an index.** -/
theorem listGetElement_of_seg (hseg : Seg m self.head (xs ++ x :: ys) q)
    (hcuenta : (xs.length : ℤ) < self.elementsCount) :
    listGetElement self xs.length m = some (some x.1) := by
  obtain ⟨r, hr, hys⟩ := avanzarElemento_seg hseg
  rw [listGetElement, if_pos ⟨hcuenta, Int.natCast_nonneg _⟩, Int.toNat_natCast, hr, hys.head]

theorem listGetElement_of_fuera (h : ¬(self.elementsCount > index ∧ index ≥ 0)) :
    listGetElement self index m = some none :=
  if_neg h

theorem Enlaza.getElement (h : Enlaza m self (xs ++ x :: ys)) :
    listGetElement self xs.length m = some (some x.1) := by
  refine listGetElement_of_seg h.seg ?_
  rw [h.cuenta, List.length_append, List.length_cons]
  omega

/-- An index is that of an element, or there is none. -/
theorem Enlaza.indice (h : Enlaza m self nodos) (index : ℤ) :
    (∃ xs x ys, nodos = xs ++ x :: ys ∧ index = xs.length) ∨
      listGetElement self index m = some none ∧ ¬(0 ≤ index ∧ index < nodos.length) := by
  by_cases hin : 0 ≤ index ∧ index < nodos.length
  · obtain ⟨k, rfl⟩ := Int.eq_ofNat_of_zero_le hin.1
    have hk : k < nodos.length := by exact_mod_cast hin.2
    refine Or.inl ⟨nodos.take k, nodos[k], nodos.drop (k + 1), ?_, ?_⟩
    · rw [← List.drop_eq_getElem_cons hk, List.take_append_drop]
    · rw [List.length_take, Nat.min_eq_left (Nat.le_of_lt hk)]
  · refine Or.inr ⟨listGetElement_of_fuera ?_, hin⟩
    rw [h.cuenta]
    exact fun hdentro => hin ⟨hdentro.2, hdentro.1⟩

/-- **`list_get`** gives the element at the index, and null if there is none. -/
theorem listGet_eq (h : Enlaza m self nodos) (index : ℤ) :
    listGet self index m = some (if 0 ≤ index then (datos nodos)[index.toNat]? else none) := by
  rcases h.indice index with ⟨xs, x, ys, rfl, rfl⟩ | ⟨hget, hfuera⟩
  · obtain ⟨next, hcell⟩ := h.seg.exists_cell (List.mem_append_right _ List.mem_cons_self)
    rw [listGet, h.getElement, Option.bind_some]
    rw [dato, hcell, Option.map_some, if_pos (Int.natCast_nonneg _), Int.toNat_natCast]
    simp [datos]
  · rw [listGet, hget, Option.bind_some]
    rw [dato]
    split
    · rw [List.getElem?_eq_none]
      rw [datos, List.length_map]
      omega
    · rfl

/-- The loop finds the first element that satisfies the condition, with its position. -/
theorem buscarElemento_seg (condition : α → Bool) {fuel : ℕ} (hseg : Seg m p nodos none)
    (hfuel : nodos.length ≤ fuel) (position : ℕ) :
    buscarElemento condition m fuel p position =
      some ((nodos.find? fun x => condition x.2).map Prod.fst,
        position + nodos.findIdx fun x => condition x.2) := by
  induction nodos generalizing p fuel position with
  | nil =>
      obtain rfl : p = none := hseg
      rw [buscarElemento]
      rfl
  | cons x nodos ih =>
      obtain ⟨rfl, next, hcell, hseg⟩ := hseg
      obtain ⟨fuel, rfl, hfuel'⟩ := exists_fuel hfuel
      rw [buscarElemento, hcell, Option.bind_some, List.find?_cons, List.findIdx_cons]
      by_cases hx : condition x.2 = true
      · simp [hx]
      · simp only [Bool.not_eq_true] at hx
        rw [if_neg (by simp [hx]), ih hseg hfuel']
        simp [hx, Nat.add_assoc, Nat.add_comm 1]

/-- **`list_find`** gives the first element that satisfies the condition. -/
theorem listFind_eq {fuel : ℕ} (condition : α → Bool) (h : Enlaza m self nodos)
    (hfuel : nodos.length ≤ fuel) :
    listFind fuel self condition m = some ((datos nodos).find? condition) := by
  rw [listFind, listFindElement, buscarElemento_seg condition h.seg hfuel, Option.bind_some, datos,
    List.find?_map]
  change dato m ((nodos.find? fun x => condition x.2).map Prod.fst) =
    some ((nodos.find? fun x => condition x.2).map Prod.snd)
  cases hfind : nodos.find? fun x => condition x.2 with
  | none => rfl
  | some x =>
      obtain ⟨next, hcell⟩ := h.seg.exists_cell (List.mem_of_find?_eq_some hfind)
      rw [Option.map_some, dato, hcell]
      rfl

theorem fresh_notMem (h : Seg m p nodos q) : malloc.fresh m ∉ addresses nodos := fun hmem =>
  h.cell_ne_none hmem (malloc.free m)

variable [DecidableEq ι]

theorem listLinkElement_some {i : ι} {c : Cell ι α} (h : m.cell i = some c) (next : Option ι) :
    listLinkElement (some i) next m = some (m.set i { c with next }) := by
  rw [listLinkElement, h, Option.map_some]

/-- **`list_add`** puts an element after the others, in a free cell. -/
theorem listAdd_spec (malloc : Allocator ι α) (data : α) (h : Enlaza m self nodos) :
    ∃ self' m', listAdd malloc self data m = some ((nodos.length : ℤ), self', m') ∧
      Enlaza m' self' (nodos ++ [(malloc.fresh m, data)]) ∧
      Touches m nodos m' (nodos ++ [(malloc.fresh m, data)]) := by
  have hfresh : malloc.fresh m ∉ addresses nodos := fresh_notMem h.seg
  have htouches :
      Touches m nodos (m.set (malloc.fresh m) ⟨data, none⟩)
      (nodos ++ [(malloc.fresh m, data)]) := by
    refine Chains.touches_alloc (malloc.free m) fun j => ?_
    simp [or_comm]
  rw [listAdd]
  simp only [listCreateElement]
  rcases List.eq_nil_or_concat' nodos with rfl | ⟨xs, x, rfl⟩
  · have hcero : self.elementsCount = 0 := h.cuenta
    rw [if_pos hcero, hcero]
    exact ⟨_, _, rfl, ⟨⟨rfl, none, Chains.Heap.cell_set_self, rfl⟩, rfl⟩, htouches⟩
  · have hcuenta : self.elementsCount = xs.length + 1 := by simpa using h.cuenta
    have hmenos : self.elementsCount - 1 = xs.length := by omega
    have hseg := h.seg.set_of_notMem (c := ⟨data, none⟩) hfresh
    obtain ⟨next, hcell⟩ := hseg.exists_cell (List.mem_append_right xs (List.mem_singleton_self x))
    have hget : listGetElement self xs.length (m.set (malloc.fresh m) ⟨data, none⟩) =
        some (some x.1) :=
      listGetElement_of_seg hseg (by omega)
    have hx : x.1 ≠ malloc.fresh m := by
      intro heq
      exact hfresh (by simp [heq])
    rw [if_neg (by omega), hmenos, hget, Option.bind_some, listLinkElement_some hcell,
      Option.map_some]
    refine ⟨_, _, by rw [hcuenta, List.length_append, List.length_singleton]; rfl, ⟨?_, ?_⟩,
      htouches.set (i := x.1) (by simp) ⟨x.2, some (malloc.fresh m)⟩⟩
    · rw [List.append_assoc]
      refine hseg.relink ⟨rfl, none, Chains.Heap.cell_set_self, rfl⟩ ?_
      simpa using hx
    · simp only [List.length_append, List.length_singleton]
      omega

/-- **`list_add_in_index`** puts an element between others, in a free cell. -/
theorem listAddInIndex_spec (malloc : Allocator ι α) (data : α) (h : Enlaza m self (xs ++ ys)) :
    ∃ self' m', listAddInIndex malloc self xs.length data m = some (self', m') ∧
      Enlaza m' self' (xs ++ (malloc.fresh m, data) :: ys) ∧
      Touches m (xs ++ ys) m' (xs ++ (malloc.fresh m, data) :: ys) := by
  have hfresh : malloc.fresh m ∉ addresses (xs ++ ys) := fresh_notMem h.seg
  have htouches : Touches m (xs ++ ys) (m.set (malloc.fresh m) ⟨data, none⟩)
      (xs ++ (malloc.fresh m, data) :: ys) := by
    refine Chains.touches_alloc (malloc.free m) fun j => ?_
    simp [or_left_comm]
  have hcuenta : self.elementsCount = xs.length + ys.length := by simpa using h.cuenta
  have hseg := h.seg.set_of_notMem (c := ⟨data, none⟩) hfresh
  have hnuevo : (m.set (malloc.fresh m) ⟨data, none⟩).cell (malloc.fresh m) = some ⟨data, none⟩ :=
    Chains.Heap.cell_set_self
  rw [Chains.addresses_append, List.mem_append, not_or] at hfresh
  rw [listAddInIndex, if_pos ⟨by omega, by omega⟩]
  simp only [listCreateElement]
  rcases List.eq_nil_or_concat' xs with rfl | ⟨zs, z, rfl⟩
  · rw [if_pos (by rfl), listLinkElement_some hnuevo, Option.map_some]
    refine ⟨_, _, rfl, ⟨⟨rfl, self.head, Chains.Heap.cell_set_self, ?_⟩, ?_⟩,
      htouches.set (by simp) ⟨data, self.head⟩⟩
    · exact hseg.set_of_notMem hfresh.2
    · rw [List.nil_append, List.length_cons, hcuenta]
      simp
  · have hz : z.1 ≠ malloc.fresh m := by
      intro heq
      exact hfresh.1 (by simp [heq])
    rw [List.append_assoc, List.singleton_append] at hseg
    obtain ⟨next, hcell⟩ := hseg.exists_cell (List.mem_append_right zs List.mem_cons_self)
    -- the element that is to come next, which may be none
    obtain ⟨r, hr, hys⟩ : ∃ r, listGetElement self ((zs ++ [z]).length : ℤ)
        (m.set (malloc.fresh m) ⟨data, none⟩) = some r ∧
        Seg (m.set (malloc.fresh m) ⟨data, none⟩) r ys none := by
      have hseg' : Seg (m.set (malloc.fresh m) ⟨data, none⟩) self.head
          ((zs ++ [z]) ++ ys) none := by
        rwa [List.append_assoc, List.singleton_append]
      cases ys with
      | nil => exact ⟨none, listGetElement_of_fuera (by rw [hcuenta]; simp), rfl⟩
      | cons y ys =>
          obtain ⟨r, -, hys⟩ := Chains.seg_append.1 hseg'
          refine ⟨r, ?_, hys⟩
          rw [listGetElement_of_seg hseg' (by rw [hcuenta, List.length_cons]; omega), hys.head]
    have hprevio :
        listGetElement self (((zs ++ [z]).length : ℤ) - 1) (m.set (malloc.fresh m) ⟨data, none⟩) =
        some (some z.1) := by
      have hmenos : ((zs ++ [z]).length : ℤ) - 1 = zs.length := by simp
      rw [hmenos, listGetElement_of_seg hseg (by rw [hcuenta, List.length_append]; simp; omega)]
    rw [if_neg (by simp; omega), hr, Option.bind_some, hprevio, Option.bind_some,
      listLinkElement_some hcell, Option.bind_some,
      listLinkElement_some ((Chains.Heap.cell_set_of_ne hz.symm).trans hnuevo), Option.map_some]
    have hsuelto :
        Seg (m.set (malloc.fresh m) ⟨data, none⟩) (some (malloc.fresh m)) [(malloc.fresh m, data)]
        none := ⟨rfl, none, hnuevo, rfl⟩
    have hultimo := hseg.relink hsuelto (by simpa using hz)
    rw [List.append_cons] at hultimo
    refine ⟨_, _, rfl, ⟨?_, ?_⟩, (htouches.set (i := z.1) (by simp) _).set (by simp) _⟩
    · exact hultimo.relink (hys.set_of_notMem hseg.notMem.2) hfresh.2
    · simp only [List.length_append, List.length_cons, List.length_nil] at hcuenta ⊢
      omega

/-- **`list_replace`** changes the datum of an element, and gives the one that it had. -/
theorem listReplace_spec (data : α) (h : Enlaza m self (xs ++ x :: ys)) :
    ∃ m', listReplace self xs.length data m = some (some x.2, m') ∧
      Enlaza m' self (xs ++ (x.1, data) :: ys) ∧
      Touches m (xs ++ x :: ys) m' (xs ++ (x.1, data) :: ys) := by
  obtain ⟨next, hcell⟩ := h.seg.exists_cell (List.mem_append_right xs List.mem_cons_self)
  refine ⟨m.set x.1 ⟨data, next⟩, ?_, ⟨h.seg.setData hcell data, ?_⟩, ?_⟩
  · rw [listReplace, h.getElement, Option.bind_some]
    change (m.cell x.1).map _ = _
    rw [hcell, Option.map_some]
  · rw [h.cuenta, List.length_append, List.length_append, List.length_cons, List.length_cons]
  · refine ((Touches.refl m _).set (i := x.1) (by simp) _).congr fun j => ?_
    simp

theorem listRemove_of_ne (hhead : self.head ≠ none) :
    listRemove self index m = (listGetElement self index m).bind fun auxElement =>
      auxElement.bind fun i =>
        (m.cell i).bind fun aux =>
          if index = 0 then
            some (some aux.data, ⟨aux.next, self.elementsCount - 1⟩, m.free i)
          else
            (listGetElement self (index - 1) m).bind fun previous =>
              (listLinkElement previous aux.next m).map fun m =>
                (some aux.data, { self with elementsCount := self.elementsCount - 1 },
                  m.free i) := by
  obtain ⟨i, hi⟩ := Option.ne_none_iff_exists'.1 hhead
  rw [listRemove]
  simp only [hi]

/-- **`list_remove`** takes an element out, and frees its cell. -/
theorem listRemove_spec (h : Enlaza m self (xs ++ x :: ys)) :
    ∃ self' m', listRemove self xs.length m = some (some x.2, self', m') ∧
    Enlaza m' self' (xs ++ ys) ∧
      Touches m (xs ++ x :: ys) m' (xs ++ ys) := by
  have hnotMem : x.1 ∉ addresses (xs ++ ys) := by
    rw [Chains.addresses_append, List.mem_append, not_or]
    exact h.seg.notMem
  have hcuenta : self.elementsCount - 1 = xs.length + ys.length := by
    rw [h.cuenta, List.length_append, List.length_cons]
    omega
  obtain ⟨r, hxs, hr, next, hcell, hys⟩ := Chains.seg_append.1 h.seg
  have hhead : self.head ≠ none := by
    intro hnone
    cases xs with
    | nil => cases hnone ▸ h.seg.head
    | cons z zs => cases hnone ▸ h.seg.head
  rw [listRemove_of_ne hhead, h.getElement, Option.bind_some, Option.bind_some, hcell,
    Option.bind_some]
  rcases List.eq_nil_or_concat' xs with rfl | ⟨zs, z, rfl⟩
  · rw [if_pos (by rfl)]
    refine ⟨_, _, rfl, ⟨hys.free_of_notMem h.seg.notMem.2, ?_⟩,
      Chains.touches_free hnotMem fun j => ?_⟩
    · rw [hcuenta]
      simp
    · simp
  · have hseg := h.seg
    rw [List.append_assoc, List.singleton_append] at hseg
    obtain ⟨next', hcell'⟩ := hseg.exists_cell (List.mem_append_right zs List.mem_cons_self)
    have hmenos : ((zs ++ [z]).length : ℤ) - 1 = zs.length := by simp
    have hprevio : listGetElement self ((zs ++ [z]).length - 1) m = some (some z.1) := by
      rw [hmenos, listGetElement_of_seg hseg (by rw [h.cuenta]; simp; omega)]
    rw [if_neg (by simp; omega), hprevio, Option.bind_some, listLinkElement_some hcell',
      Option.map_some]
    have hrelink := hseg.relink hys fun hmem => hseg.notMem.2 (by simp [hmem])
    rw [List.append_cons] at hrelink
    refine ⟨_, _, rfl, ⟨hrelink.free_of_notMem hnotMem, ?_⟩, ?_⟩
    · simp only [hcuenta, List.length_append, List.length_singleton, Int.natCast_add]
    · have hset : Touches m (zs ++ [z] ++ x :: ys) (m.set z.1 ⟨z.2, next⟩) (zs ++ [z] ++ x :: ys) :=
        (Touches.refl m _).set (by simp) _
      refine hset.trans (Chains.touches_free hnotMem fun j => ?_)
      simp
      tauto

/-- Nothing is taken out of an empty list. -/
theorem listRemove_nil (h : Enlaza m self []) (index : ℤ) :
    listRemove self index m = some (none, self, m) := by
  rw [listRemove, show self.head = none from h.seg]

/-- **`list_remove` out of the list looks at a null element.** -/
theorem listRemove_fuera (h : Enlaza m self nodos) (hne : nodos ≠ [])
    (hfuera : ¬(0 ≤ index ∧ index < nodos.length)) : listRemove self index m = none := by
  obtain ⟨x, xs, rfl⟩ := List.exists_cons_of_ne_nil hne
  rw [listRemove, h.seg.head]
  have hget := ((h.indice index).resolve_left ?_).1
  · simp only [hget, Option.bind_some]
    rfl
  · intro ⟨xs', y, ys, heq, hindex⟩
    rw [heq, hindex] at hfuera
    exact hfuera (indice_dentro xs' y ys)

/-- **`list_remove_by_condition`** takes out the first element that satisfies the condition. -/
theorem listRemoveByCondition_spec {fuel : ℕ} (condition : α → Bool) (h : Enlaza m self nodos)
    (hfuel : nodos.length ≤ fuel) :
    ∃ self' m' nodos', listRemoveByCondition fuel self condition m =
        some ((datos nodos).find? condition, self', m') ∧
      Enlaza m' self' nodos' ∧ Touches m nodos m' nodos' ∧
      datos nodos' = (datos nodos).eraseP condition := by
  rw [listRemoveByCondition, listFindElement, buscarElemento_seg condition h.seg hfuel,
    Option.bind_some, datos, List.find?_map]
  cases hfind : nodos.find? fun x => condition x.2 with
  | none =>
      refine ⟨self, m, nodos, ?_, h, Touches.refl m nodos, ?_⟩
      · rw [if_neg (by simp)]
        exact congrArg (fun o => some (Option.map Prod.snd o, self, m)) hfind.symm
      · rw [List.eraseP_of_forall_not, datos]
        intro a ha
        obtain ⟨x, hx, rfl⟩ := List.mem_map.1 ha
        exact List.find?_eq_none.1 hfind x hx
  | some x =>
      obtain ⟨hx, xs, ys, rfl, hxs⟩ := List.find?_eq_some_iff_append.1 hfind
      obtain ⟨self', m', hremove, henlaza, htouches⟩ := listRemove_spec h
      have hidx : (xs ++ x :: ys).findIdx (fun x => condition x.2) = xs.length := by
        rw [List.findIdx_append, List.findIdx_eq_length_of_false, if_neg (Nat.lt_irrefl _),
          List.findIdx_cons, hx]
        · exact Nat.zero_add _
        · exact fun y hy => by simpa using hxs y hy
      refine ⟨self', m', xs ++ ys, ?_, henlaza, htouches, ?_⟩
      · rw [if_pos (by simp), hidx, Nat.zero_add, hremove]
        exact congrArg (fun o => some (Option.map Prod.snd o, self', m')) hfind.symm
      · rw [datos, List.map_append, List.map_append, List.map_cons, List.eraseP_append_right,
          List.eraseP_cons_of_pos hx]
        intro a ha
        obtain ⟨y, hy, rfl⟩ := List.mem_map.1 ha
        simpa using hxs y hy

/-- The loop frees the cells. -/
theorem limpiar_seg {fuel : ℕ} (hseg : Seg m p nodos none) (hfuel : nodos.length ≤ fuel) :
    ∃ m', limpiar fuel p m = some m' ∧ Touches m nodos m' [] := by
  induction nodos generalizing p m fuel with
  | nil =>
      obtain rfl : p = none := hseg
      exact ⟨m, by rw [limpiar], Touches.refl m []⟩
  | cons x xs ih =>
      have hnotMem := (List.nodup_cons.1 hseg.nodup).1
      obtain ⟨rfl, next, hcell, hxs⟩ := hseg
      obtain ⟨fuel, rfl, hfuel'⟩ := exists_fuel hfuel
      obtain ⟨m', hm', htouches⟩ := ih (hxs.free_of_notMem hnotMem) hfuel'
      refine ⟨m', ?_, Touches.trans (Chains.touches_free hnotMem fun j => by simp) htouches⟩
      rw [limpiar, hcell, Option.bind_some, hm']

/-- **`list_clean`** gives all the cells back. -/
theorem listClean_spec {fuel : ℕ} (h : Enlaza m self nodos) (hfuel : nodos.length ≤ fuel) :
    ∃ self' m', listClean fuel self m = some (self', m') ∧ Enlaza m' self' [] ∧
    Touches m nodos m' [] := by
  obtain ⟨m', hm', htouches⟩ := limpiar_seg h.seg hfuel
  exact ⟨listCreate, m', congrArg (Option.map _) hm', enlaza_listCreate m', htouches⟩

/-- The loop adds the elements that satisfy the condition to the other list. -/
theorem filtrar_seg (malloc : Allocator ι α) (condition : α → Bool) {fuel : ℕ} {filtered : Lista ι}
    {hechos : List (ι × α)} (hseg : Seg m p nodos none) (hfuel : nodos.length ≤ fuel)
    (h : Enlaza m filtered hechos) (hapart : ∀ i ∈ addresses nodos, i ∉ addresses hechos) :
    ∃ filtered' m' hechos', filtrar malloc condition fuel p filtered m = some (filtered', m') ∧
      Enlaza m' filtered' hechos' ∧ Touches m hechos m' hechos' ∧
      datos hechos' = datos hechos ++ (datos nodos).filter condition := by
  induction nodos generalizing p m fuel filtered hechos with
  | nil =>
      obtain rfl : p = none := hseg
      exact ⟨filtered, m, hechos, by rw [filtrar], h, Touches.refl m hechos,
        (List.append_nil _).symm⟩
  | cons x xs ih =>
      obtain ⟨fuel, rfl, hfuel'⟩ := exists_fuel hfuel
      obtain ⟨hp, next, hcell, hxs⟩ := id hseg
      rw [hp, filtrar, hcell, Option.bind_some]
      by_cases hx : condition x.2 = true
      · obtain ⟨filtered₁, m₁, hadd, henlaza, htouches⟩ := listAdd_spec malloc x.2 h
        -- the list that is read is beside the one that grows
        have hapart₁ := htouches.apart hseg hapart
        obtain ⟨-, next', hcell', hxs'⟩ := htouches.seg hseg hapart
        obtain ⟨filtered', m', hechos', hfiltra, henlaza', htouches', hdatos⟩ :=
          ih hxs' hfuel' henlaza fun i hi => hapart₁ i (List.mem_cons_of_mem _ hi)
        refine ⟨filtered', m', hechos', ?_, henlaza', htouches.trans htouches', ?_⟩
        · rw [if_pos hx, hadd, Option.bind_some]
          simp only [hcell', Option.bind_some, hfiltra]
        · simpa [datos, hx] using hdatos
      · obtain ⟨filtered', m', hechos', hfiltra, henlaza', htouches', hdatos⟩ :=
          ih hxs hfuel' h fun i hi => hapart i (List.mem_cons_of_mem _ hi)
        refine ⟨filtered', m', hechos', ?_, henlaza', htouches', ?_⟩
        · rw [if_neg hx, hfiltra]
        · simpa [datos, hx] using hdatos

/-- **`list_count_satisfying`** counts the elements on a list of its own, and leaves the cells as
they were. -/
theorem listCountSatisfying_spec (malloc : Allocator ι α) (condition : α → Bool) {fuel : ℕ}
    (h : Enlaza m self nodos) (hfuel : nodos.length ≤ fuel) :
    ∃ m', listCountSatisfying fuel malloc self condition m =
    some (((datos nodos).countP condition : ℤ), m') ∧
      ∀ i, m'.cell i = m.cell i := by
  obtain ⟨filtered, m₁, hechos, hfiltra, henlaza, htouches, hdatos⟩ :=
    filtrar_seg malloc condition h.seg hfuel (enlaza_listCreate m) fun _ _ => List.not_mem_nil
  have hlength : hechos.length = (datos nodos).countP condition := by
    rw [← length_datos, hdatos, List.countP_eq_length_filter]
    rfl
  have hfuel' : hechos.length ≤ fuel := by
    refine Nat.le_trans ?_ hfuel
    rw [hlength, ← length_datos nodos]
    exact List.countP_le_length
  obtain ⟨self', m', hclean, -, htouches'⟩ := listClean_spec henlaza hfuel'
  refine ⟨m', ?_, fun i => (htouches.trans htouches').frame i List.not_mem_nil List.not_mem_nil⟩
  rw [listCountSatisfying, listFilter, hfiltra, Option.bind_some]
  simp only [hclean, Option.map_some, henlaza.cuenta, hlength]

/-- **`list_any_satisfy`** leaves the cells as they were. -/
theorem listAnySatisfy_spec (malloc : Allocator ι α) (condition : α → Bool) {fuel : ℕ}
    (h : Enlaza m self nodos) (hfuel : nodos.length ≤ fuel) :
    ∃ m', listAnySatisfy fuel malloc self condition m = some ((datos nodos).any condition, m') ∧
      ∀ i, m'.cell i = m.cell i := by
  obtain ⟨m', hcount, hm'⟩ := listCountSatisfying_spec malloc condition h hfuel
  refine ⟨m', ?_, hm'⟩
  rw [listAnySatisfy, hcount, Option.map_some]
  refine congrArg (fun b => some (b, m')) (Bool.eq_iff_iff.2 ?_)
  rw [decide_eq_true_iff, List.any_eq_true, gt_iff_lt, Int.natCast_pos, List.countP_pos_iff]

end Ansisop.Commons
