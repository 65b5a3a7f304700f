/-
**Lists that share a heap.**

The lists of a process are made of cells of one heap, and each of their functions may take cells and
give them back.  This module runs the functions in any order over any lists, with any allocator,
beside the same functions over lists of data: the results are the same, and no function looks at a
cell that is not there, but for `list_remove` of an element that a list does not have.

Main definitions:

* `Ansisop.Commons.Operacion`, `Ansisop.Commons.Resultado` — a call, and what it gives;
* `Ansisop.Commons.operar`, `Ansisop.Commons.correr` — the calls over the cells;
* `Ansisop.Commons.operarDatos`, `Ansisop.Commons.correrDatos` — what they are for: the calls over
  lists of data;
* `Ansisop.Commons.Representa` — **the cells of the heap are those of the lists**, each of one of
  them.

Main results:

* `Ansisop.Commons.operar_spec` — a call does to the cells what it does to the data;
* `Ansisop.Commons.listas_refinan_datos` — **so does every run of calls**, over all the lists at
  once;
* `Ansisop.Commons.listas_sin_nulos` — where `list_remove` takes first elements only, **no null
  element is looked at**, and the cells of empty lists are all given back.
-/

import Ansisop.Commons.Orden

set_option relaxedAutoImplicit false
set_option autoImplicit false

namespace Ansisop.Commons

open Chains (Heap Allocator Owned Touches addresses)

/-- A call of a function of the lists, over one of them. -/
inductive Operacion (α : Type*)
  | add (data : α)
  | addInIndex (index : ℤ) (data : α)
  | size
  | get (index : ℤ)
  | replace (index : ℤ) (data : α)
  | find (condition : α → Bool)
  | remove (index : ℤ)
  | removeByCondition (condition : α → Bool)
  | anySatisfy (condition : α → Bool)
  | sort (comparator : α → α → Bool)
  | clean

/-- What a call gives. -/
inductive Resultado (α : Type*)
  | nada
  | entero (n : ℤ)
  | dato (data : Option α)
  | logico (b : Bool)

variable {κ ι α : Type*}

/-! ### The calls over the data -/

/-- **What a call is for.**  There is no result where the function looks at a null element. -/
def operarDatos (self : List α) : Operacion α → Option (Resultado α × List α)
  | .add data => some (.entero self.length, self ++ [data])
  | .addInIndex index data =>
      some (.nada,
        if 0 ≤ index ∧ index ≤ self.length then self.insertIdx index.toNat data else self)
  | .size => some (.entero self.length, self)
  | .get index => some (.dato (if 0 ≤ index then self[index.toNat]? else none), self)
  | .replace index data =>
      if 0 ≤ index ∧ index < self.length then
        some (.dato self[index.toNat]?, self.set index.toNat data)
      else some (.dato none, self)
  | .find condition => some (.dato (self.find? condition), self)
  | .remove index =>
      if self.isEmpty then some (.dato none, self)
      else if 0 ≤ index ∧ index < self.length then
        some (.dato self[index.toNat]?, self.eraseIdx index.toNat)
      else none
  | .removeByCondition condition => some (.dato (self.find? condition), self.eraseP condition)
  | .anySatisfy condition => some (.logico (self.any condition), self)
  | .sort comparator => some (.nada, Kernel.listSort comparator self)
  | .clean => some (.nada, [])

/-- The calls, one after the other, each over its list. -/
def correrDatos [DecidableEq κ] :
    List (κ × Operacion α) → (κ → List α) → Option (List (Resultado α) × (κ → List α))
  | [], listas => some ([], listas)
  | (k, op) :: pasos, listas =>
      (operarDatos (listas k) op).bind fun (r, self) =>
        (correrDatos pasos (Function.update listas k self)).map fun (rs, listas) =>
          (r :: rs, listas)

/-! ### The calls over the cells -/

/-- A call. -/
def operar [DecidableEq ι] (fuel : ℕ) (malloc : Allocator ι α) (self : Lista ι) (m : Heap ι α) :
    Operacion α → Option (Resultado α × Lista ι × Heap ι α)
  | .add data => (listAdd malloc self data m).map fun (n, self, m) => (.entero n, self, m)
  | .addInIndex index data => (listAddInIndex malloc self index data m).map fun (self, m) =>
      (.nada, self, m)
  | .size => some (.entero (listSize self), self, m)
  | .get index => (listGet self index m).map fun data => (.dato data, self, m)
  | .replace index data => (listReplace self index data m).map fun (old, m) => (.dato old, self, m)
  | .find condition => (listFind fuel self condition m).map fun data => (.dato data, self, m)
  | .remove index => (listRemove self index m).map fun (data, self, m) => (.dato data, self, m)
  | .removeByCondition condition =>
      (listRemoveByCondition fuel self condition m).map fun (data, self, m) => (.dato data, self, m)
  | .anySatisfy condition => (listAnySatisfy fuel malloc self condition m).map fun (b, m) =>
      (.logico b, self, m)
  | .sort comparator => (listSort fuel comparator self m).map fun m => (.nada, self, m)
  | .clean => (listClean fuel self m).map fun (self, m) => (.nada, self, m)

/-- The lists, and the heap with their cells. -/
structure Estado (κ ι α : Type*) where
  listas : κ → Lista ι
  memoria : Heap ι α

/-- The lists as `list_create` makes them. -/
def Estado.vacio : Estado κ ι α := ⟨fun _ => listCreate, Heap.empty⟩

/-- The calls, one after the other, each over its list and with a free cell of its own choice. -/
def correr [DecidableEq κ] [DecidableEq ι] (fuel : ℕ) :
    List (Allocator ι α × κ × Operacion α) → Estado κ ι α →
    Option (List (Resultado α) × Estado κ ι α)
  | [], e => some ([], e)
  | (malloc, k, op) :: pasos, e =>
      (operar fuel malloc (e.listas k) e.memoria op).bind fun (r, self, m) =>
        (correr fuel pasos ⟨Function.update e.listas k self, m⟩).map fun (rs, e) => (r :: rs, e)

/-! ### A call over the cells is a call over the data -/

section Llamadas

variable {m : Heap ι α} {self : Lista ι} {nodos : List (ι × α)} {op : Operacion α}

/-- What a call did: the same to the data, and no more than one cell more. -/
structure Hizo (m : Heap ι α) (nodos : List (ι × α)) (op : Operacion α) (r : Resultado α)
    (self' : Lista ι) (m' : Heap ι α) (nodos' : List (ι × α)) : Prop where
  igual : operarDatos (datos nodos) op = some (r, datos nodos')
  enlaza : Enlaza m' self' nodos'
  touches : Touches m nodos m' nodos'
  crece : nodos'.length ≤ nodos.length + 1

/-- A call that leaves the cells as they are. -/
theorem hizo_mirando {m' : Heap ι α} {r : Resultado α} (h : Enlaza m self nodos)
    (hm' : ∀ i, m'.cell i = m.cell i)
    (higual : operarDatos (datos nodos) op = some (r, datos nodos)) :
    Hizo m nodos op r self m' nodos where
  igual := higual
  enlaza := ⟨h.seg.congr fun i _ => hm' i, h.cuenta⟩
  touches := ⟨fun i _ _ => hm' i, fun _ hi => Or.inl hi, fun _ hi hi' => absurd hi hi'⟩
  crece := Nat.le_succ _

variable [DecidableEq ι] {fuel : ℕ} {malloc : Allocator ι α}

/-- A call over the cells and over the data: it does the same to both, or there is no result for
either. -/
def Concuerda (fuel : ℕ) (malloc : Allocator ι α) (self : Lista ι) (m : Heap ι α)
    (nodos : List (ι × α)) (op : Operacion α) : Prop :=
  (∃ r self' m' nodos', operar fuel malloc self m op = some (r, self', m') ∧
    Hizo m nodos op r self' m' nodos') ∨
    operar fuel malloc self m op = none ∧ operarDatos (datos nodos) op = none

theorem concuerda_add (h : Enlaza m self nodos) (data : α) :
    Concuerda fuel malloc self m nodos (.add data) := by
  obtain ⟨self', m', hadd, henlaza, htouches⟩ := listAdd_spec malloc data h
  refine Or.inl ⟨_, self', m', _, by rw [operar, hadd]; rfl, ?_, henlaza, htouches, ?_⟩
  · rw [operarDatos, length_datos, datos_append]
    rfl
  · rw [List.length_append, List.length_singleton]

theorem concuerda_addInIndex (h : Enlaza m self nodos) (index : ℤ) (data : α) :
    Concuerda fuel malloc self m nodos (.addInIndex index data) := by
  by_cases hin : 0 ≤ index ∧ index ≤ nodos.length
  · obtain ⟨xs, ys, rfl, rfl⟩ : ∃ xs ys, nodos = xs ++ ys ∧ index = (xs.length : ℤ) := by
      refine ⟨nodos.take index.toNat, nodos.drop index.toNat, (List.take_append_drop _ _).symm, ?_⟩
      rw [List.length_take]
      omega
    obtain ⟨self', m', hadd, henlaza, htouches⟩ := listAddInIndex_spec malloc data h
    have hinsert (zs : List (ι × α)) :
        (datos zs ++ datos ys).insertIdx zs.length data = datos zs ++ data :: datos ys := by
      induction zs with
      | nil => rfl
      | cons z zs ih => exact congrArg (z.2 :: ·) ih
    refine Or.inl ⟨_, self', m', _, by rw [operar, hadd]; rfl, ?_, henlaza, htouches, ?_⟩
    · rw [operarDatos, length_datos, if_pos hin, Int.toNat_natCast, datos_append, hinsert,
        datos_append, datos_cons]
    · rw [List.length_append, List.length_append, List.length_cons, Nat.add_assoc]
  · refine Or.inl ⟨.nada, self, m, nodos, ?_, hizo_mirando h (fun _ => rfl) ?_⟩
    · rw [operar, listAddInIndex, if_neg]
      · rfl
      · rw [h.cuenta]
        exact fun hdentro => hin ⟨hdentro.2, hdentro.1⟩
    · rw [operarDatos, length_datos, if_neg hin]

theorem concuerda_replace (h : Enlaza m self nodos) (index : ℤ) (data : α) :
    Concuerda fuel malloc self m nodos (.replace index data) := by
  rcases h.indice index with ⟨xs, x, ys, rfl, rfl⟩ | ⟨hget, hfuera⟩
  · obtain ⟨m', hreplace, henlaza, htouches⟩ := listReplace_spec data h
    refine Or.inl ⟨_, self, m', _, by rw [operar, hreplace]; rfl, ?_, henlaza, htouches, ?_⟩
    · rw [operarDatos, length_datos, if_pos (indice_dentro xs x ys), Int.toNat_natCast,
        getElem_datos, datos_append, datos_append,
        List.set_append_right _ _ (Nat.le_of_eq (length_datos xs)), length_datos, Nat.sub_self]
      rfl
    · rw [List.length_append, List.length_append]
      exact Nat.le_succ _
  · refine Or.inl ⟨.dato none, self, m, nodos, ?_, hizo_mirando h (fun _ => rfl) ?_⟩
    · rw [operar, listReplace, hget]
      rfl
    · rw [operarDatos, length_datos, if_neg hfuera]

theorem concuerda_remove (h : Enlaza m self nodos) (index : ℤ) :
    Concuerda fuel malloc self m nodos (.remove index) := by
  rcases h.indice index with ⟨xs, x, ys, rfl, rfl⟩ | ⟨-, hfuera⟩
  · obtain ⟨self', m', hremove, henlaza, htouches⟩ := listRemove_spec h
    refine Or.inl ⟨_, self', m', _, by rw [operar, hremove]; rfl, ?_, henlaza, htouches, ?_⟩
    · have hno : (datos (xs ++ x :: ys)).isEmpty = false := by
        rw [List.isEmpty_eq_false_iff_exists_mem]
        exact ⟨x.2, List.mem_map.2 ⟨x, List.mem_append_right _ List.mem_cons_self, rfl⟩⟩
      rw [operarDatos, hno, if_neg Bool.false_ne_true, length_datos, if_pos (indice_dentro xs x ys),
        Int.toNat_natCast, getElem_datos, datos_append, datos_append,
        List.eraseIdx_append_of_length_le (Nat.le_of_eq (length_datos xs)),
        length_datos, Nat.sub_self]
      rfl
    · rw [List.length_append, List.length_append, List.length_cons]
      omega
  · by_cases hne : nodos = []
    · subst hne
      exact Or.inl ⟨.dato none, self, m, [], by rw [operar, listRemove_nil h]; rfl,
        hizo_mirando h (fun _ => rfl) rfl⟩
    · have hno : (datos nodos).isEmpty = false := by
        rw [List.isEmpty_eq_false_iff, datos, Ne, List.map_eq_nil_iff]
        exact hne
      refine Or.inr ⟨by rw [operar, listRemove_fuera h hne hfuera]; rfl, ?_⟩
      rw [operarDatos, hno, if_neg Bool.false_ne_true, length_datos, if_neg hfuera]

theorem concuerda_removeByCondition (h : Enlaza m self nodos) (hfuel : nodos.length < fuel)
    (condition : α → Bool) : Concuerda fuel malloc self m nodos (.removeByCondition condition) := by
  obtain ⟨self', m', nodos', hremove, henlaza, htouches, hdatos⟩ :=
    listRemoveByCondition_spec condition h hfuel.le
  refine Or.inl ⟨_, self', m', nodos', by rw [operar, hremove]; rfl, by rw [operarDatos, hdatos],
    henlaza, htouches, ?_⟩
  rw [← length_datos nodos', hdatos, ← length_datos nodos]
  exact Nat.le_succ_of_le List.length_eraseP_le

theorem concuerda_sort (h : Enlaza m self nodos) (hfuel : nodos.length < fuel)
    (comparator : α → α → Bool) : Concuerda fuel malloc self m nodos (.sort comparator) := by
  obtain ⟨m', nodos', hsort, henlaza, htouches, hdatos⟩ := listSort_spec comparator h hfuel
  refine Or.inl ⟨_, self, m', nodos', by rw [operar, hsort]; rfl, by rw [operarDatos, hdatos],
    henlaza, htouches, ?_⟩
  have hcuenta := h.cuenta.symm.trans henlaza.cuenta
  omega

/-- **A call does to the cells what it does to the data**, or there is no result for either. -/
theorem operar_spec (malloc : Allocator ι α) (h : Enlaza m self nodos) (hfuel : nodos.length < fuel)
    (op : Operacion α) : Concuerda fuel malloc self m nodos op := by
  cases op with
  | add data => exact concuerda_add h data
  | addInIndex index data => exact concuerda_addInIndex h index data
  | size =>
      refine Or.inl ⟨_, self, m, nodos, rfl, hizo_mirando h (fun _ => rfl) ?_⟩
      rw [operarDatos, length_datos, listSize, h.cuenta]
  | get index =>
      exact Or.inl ⟨_, self, m, nodos, by rw [operar, listGet_eq h]; rfl,
        hizo_mirando h (fun _ => rfl) rfl⟩
  | replace index data => exact concuerda_replace h index data
  | find condition =>
      exact Or.inl ⟨_, self, m, nodos, by rw [operar, listFind_eq condition h hfuel.le]; rfl,
        hizo_mirando h (fun _ => rfl) rfl⟩
  | remove index => exact concuerda_remove h index
  | removeByCondition condition => exact concuerda_removeByCondition h hfuel condition
  | anySatisfy condition =>
      obtain ⟨m', hany, hm'⟩ := listAnySatisfy_spec malloc condition h hfuel.le
      exact Or.inl ⟨_, self, m', nodos, by rw [operar, hany]; rfl, hizo_mirando h hm' rfl⟩
  | sort comparator => exact concuerda_sort h hfuel comparator
  | clean =>
      obtain ⟨self', m', hclean, henlaza, htouches⟩ := listClean_spec h hfuel.le
      exact Or.inl ⟨_, self', m', [], by rw [operar, hclean]; rfl, rfl, henlaza, htouches,
        Nat.zero_le _⟩

end Llamadas

/-! ### Runs -/

/-- **The cells of the heap are those of the lists**, each of one of them, and the lists have the
data. -/
structure Representa (e : Estado κ ι α) (cadenas : κ → List (ι × α)) (listas : κ → List α) :
    Prop where
  owned : Owned e.memoria (fun k => (e.listas k).head) cadenas
  cuenta : ∀ k, (e.listas k).elementsCount = (cadenas k).length
  datos : ∀ k, listas k = datos (cadenas k)

theorem representa_vacio : Representa (Estado.vacio : Estado κ ι α) (fun _ => []) fun _ => [] :=
  ⟨Chains.owned_empty, fun _ => rfl, fun _ => rfl⟩

variable {e : Estado κ ι α} {cadenas : κ → List (ι × α)} {listas : κ → List α} {k : κ}

theorem Representa.enlaza (h : Representa e cadenas listas) (k : κ) :
    Enlaza e.memoria (e.listas k) (cadenas k) :=
  ⟨h.owned.seg k, h.cuenta k⟩

variable [DecidableEq κ]

/-- **A call over a list keeps what all the lists have.** -/
theorem Representa.hizo {op : Operacion α} {r : Resultado α} {self' : Lista ι} {m' : Heap ι α}
    {nodos' : List (ι × α)} (h : Representa e cadenas listas)
    (hhizo : Hizo e.memoria (cadenas k) op r self' m' nodos') :
    Representa ⟨Function.update e.listas k self', m'⟩ (Function.update cadenas k nodos')
      (Function.update listas k (Commons.datos nodos')) where
  owned := by
    have hheads : (fun l => (Function.update e.listas k self' l).head) =
        Function.update (fun l => (e.listas l).head) k self'.head :=
          Function.comp_update Lista.head e.listas k self'
    change Owned m' (fun l => (Function.update e.listas k self' l).head) _
    rw [hheads]
    exact h.owned.update hhizo.enlaza.seg hhizo.touches
  cuenta := by
    intro l
    change (Function.update e.listas k self' l).elementsCount = _
    by_cases hl : l = k
    · subst hl
      rw [Function.update_self, Function.update_self, hhizo.enlaza.cuenta]
    · rw [Function.update_of_ne hl, Function.update_of_ne hl, h.cuenta]
  datos := by
    intro l
    by_cases hl : l = k
    · subst hl
      rw [Function.update_self, Function.update_self]
    · rw [Function.update_of_ne hl, Function.update_of_ne hl, h.datos]

variable [DecidableEq ι]

/-- **A run over the cells is a run over the data**, from any lists that share a heap.  The
induction is on the calls: each of them makes one list longer by one element at most. -/
theorem Representa.correr (h : Representa e cadenas listas) (fuel : ℕ)
    (pasos : List (Allocator ι α × κ × Operacion α))
    (hfuel : ∀ k, (cadenas k).length + pasos.length < fuel) :
    (∃ rs e' cadenas' listas', Commons.correr fuel pasos e = some (rs, e') ∧
      correrDatos (pasos.map Prod.snd) listas = some (rs, listas') ∧
      Representa e' cadenas' listas') ∨
      Commons.correr fuel pasos e = none ∧ correrDatos (pasos.map Prod.snd) listas = none := by
  induction pasos generalizing e cadenas listas with
  | nil => exact Or.inl ⟨[], e, cadenas, listas, rfl, rfl, h⟩
  | cons paso pasos ih =>
      obtain ⟨malloc, k, op⟩ := paso
      simp only [List.length_cons] at hfuel
      rw [Commons.correr, List.map_cons, correrDatos, h.datos k]
      rcases operar_spec malloc (h.enlaza k) (Nat.lt_of_le_of_lt (Nat.le_add_right _ _) (hfuel k))
        op with
        ⟨r, self', m', nodos', hoperar, hhizo⟩ | ⟨hoperar, hdatos⟩
      · simp only [hoperar, hhizo.igual, Option.bind_some]
        have hfuel' (l : κ) :
            (Function.update cadenas k nodos' l).length + pasos.length < fuel := by
          by_cases hl : l = k
          · subst hl
            have hcrece := hhizo.crece
            have hl := hfuel l
            rw [Function.update_self]
            omega
          · have hl' := hfuel l
            rw [Function.update_of_ne hl]
            omega
        rcases ih (h.hizo hhizo) hfuel' with
          ⟨rs, e', cadenas', listas', hcorre, hdatos, h'⟩ | ⟨hcorre, hdatos⟩
        · exact Or.inl ⟨r :: rs, e', cadenas', listas', by rw [hcorre, Option.map_some],
            by rw [hdatos, Option.map_some], h'⟩
        · exact Or.inr ⟨by rw [hcorre, Option.map_none], by rw [hdatos, Option.map_none]⟩
      · exact Or.inr ⟨by rw [hoperar, Option.bind_none], by rw [hdatos, Option.bind_none]⟩

/-- **Lists that share a heap are lists of data.**  In every run of calls over any lists, whatever
cells the allocators choose, the results are those of the calls over the data, the cells in use are
those of the lists, each of one of them, and a null element is looked at only where `list_remove` is
called with the index of no element. -/
theorem listas_refinan_datos (fuel : ℕ) (pasos : List (Allocator ι α × κ × Operacion α))
    (hfuel : pasos.length < fuel) :
    (∃ rs e cadenas listas, correr fuel pasos Estado.vacio = some (rs, e) ∧
      correrDatos (pasos.map Prod.snd) (fun _ => []) = some (rs, listas) ∧
      Representa e cadenas listas) ∨
      correr fuel pasos Estado.vacio = none ∧
      correrDatos (pasos.map Prod.snd) (fun _ => []) = none := by
  refine representa_vacio.correr fuel pasos fun k => ?_
  rwa [List.length_nil, Nat.zero_add]

/-- A program weighs 3, another one 1, and they are sorted before the first one is taken; a third
one is on another list. -/
def pasosDePesos : List (Allocator ℕ ℕ × Bool × Operacion ℕ) :=
  [(Allocator.next, true, .add 3), (Allocator.next, false, .add 5), (Allocator.next, true, .add 1),
    (Allocator.next, true, .sort fun a b => a ≤ b), (Allocator.next, true, .remove 0)]

theorem listas_refinan_datos_pesos : ∃ e cadenas listas, correr 6 pasosDePesos Estado.vacio =
      some ([.entero 0, .entero 0, .entero 1, .nada, .dato (some 1)], e) ∧
    Representa e cadenas listas ∧ listas true = [3] ∧ listas false = [5] := by
  rcases listas_refinan_datos 6 pasosDePesos (by decide) with
    ⟨rs, e, cadenas, listas, hcorre, hdatos, h⟩ | ⟨-, hdatos⟩
  · obtain ⟨rfl, rfl⟩ := Prod.mk.inj (Option.some.inj hdatos)
    exact ⟨e, cadenas, _, hcorre, h, rfl, rfl⟩
  · cases hdatos

/-! ### No null element is looked at -/

/-- **`list_remove` alone looks at a null element**, of a list that has elements but not that
one. -/
theorem operarDatos_eq_none_iff (self : List α) (op : Operacion α) :
    operarDatos self op = none ↔
      ∃ index, op = .remove index ∧ self ≠ [] ∧ ¬(0 ≤ index ∧ index < (self.length : ℤ)) := by
  cases op with
  | remove index =>
      cases self with
      | nil => simp [operarDatos]
      | cons a self => simp [operarDatos]
  | replace index data =>
      rw [operarDatos]
      split <;> simp
  | _ => simp [operarDatos]

/-- The first element of a list can always be taken. -/
theorem correrDatos_segura (pasos : List (κ × Operacion α)) (listas : κ → List α)
    (hremove : ∀ paso ∈ pasos, ∀ index, paso.2 = .remove index → index = 0) :
    ∃ rs listas', correrDatos pasos listas = some (rs, listas') := by
  induction pasos generalizing listas with
  | nil => exact ⟨[], listas, rfl⟩
  | cons paso pasos ih =>
      obtain ⟨k, op⟩ := paso
      have hop : operarDatos (listas k) op ≠ none := by
        rw [Ne, operarDatos_eq_none_iff]
        intro ⟨index, hindex, hne, hfuera⟩
        obtain rfl := hremove _ List.mem_cons_self index hindex
        exact hfuera ⟨le_rfl, Int.natCast_pos.2 (List.length_pos_of_ne_nil hne)⟩
      obtain ⟨⟨r, self⟩, hr⟩ := Option.ne_none_iff_exists'.1 hop
      obtain ⟨rs, listas', hrs⟩ := ih (Function.update listas k self) fun paso hpaso =>
        hremove paso (List.mem_cons_of_mem _ hpaso)
      refine ⟨r :: rs, listas', ?_⟩
      rw [correrDatos, hr, Option.bind_some]
      simp only [hrs, Option.map_some]

/-- **Taking the first element only is safe, and nothing is left behind.**  A run in which
`list_remove` is called with the index 0 looks at no null element, and when all the lists are empty
in the end, so is the heap. -/
theorem listas_sin_nulos (fuel : ℕ) (pasos : List (Allocator ι α × κ × Operacion α))
    (hfuel : pasos.length < fuel)
    (hremove : ∀ paso ∈ pasos, ∀ index, paso.2.2 = .remove index → index = 0) :
    ∃ rs e listas, correr fuel pasos Estado.vacio = some (rs, e) ∧
      correrDatos (pasos.map Prod.snd) (fun _ => []) = some (rs, listas) ∧
      ((∀ k, listas k = []) → ∀ i, e.memoria.cell i = none) := by
  have hdatos := correrDatos_segura (pasos.map Prod.snd) (fun _ => []) fun paso hpaso => by
    obtain ⟨p, hp, rfl⟩ := List.mem_map.1 hpaso
    exact hremove p hp
  obtain ⟨rs, listas, hdatos⟩ := hdatos
  rcases representa_vacio.correr fuel pasos fun k => by rwa [List.length_nil, Nat.zero_add] with
    ⟨rs', e, cadenas, listas', hcorre, hdatos', h⟩ | ⟨-, hdatos'⟩
  · obtain ⟨rfl, rfl⟩ := Prod.mk.inj (Option.some.inj (hdatos.symm.trans hdatos'))
    refine ⟨rs, e, listas, hcorre, hdatos, fun hvacias i => ?_⟩
    by_contra hcell
    obtain ⟨k, hk⟩ := h.owned.all i hcell
    have hnil : cadenas k = [] := by
      rw [← List.map_eq_nil_iff, ← Commons.datos, ← h.datos, hvacias]
    rw [hnil] at hk
    exact List.not_mem_nil hk
  · cases hdatos.symm.trans hdatos'

/-- Two programs arrive, the first one is taken, and the list is destroyed. -/
def pasosDeTurno : List (Allocator ℕ ℕ × Bool × Operacion ℕ) :=
  [(Allocator.next, true, .add 3), (Allocator.next, true, .add 7),
    (Allocator.next, true, .remove 0),
    (Allocator.next, true, .clean)]

theorem listas_sin_nulos_turno : ∃ e, correr 5 pasosDeTurno Estado.vacio =
      some ([.entero 0, .entero 1, .dato (some 3), .nada], e) ∧ ∀ i, e.memoria.cell i = none := by
  obtain ⟨rs, e, listas, hcorre, hdatos, hvacia⟩ := listas_sin_nulos 5 pasosDeTurno (by decide)
    (by simp [pasosDeTurno, eq_comm])
  obtain ⟨rfl, rfl⟩ := Prod.mk.inj (Option.some.inj hdatos)
  refine ⟨e, hcorre, hvacia fun k => ?_⟩
  cases k <;> rfl

end Ansisop.Commons
