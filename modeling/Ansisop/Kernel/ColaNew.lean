/-
**The programs that wait to be dispatched.**

`aceptar_programa` adds a program to the end of `newProcesos` and sorts the list again, with
`list_sort` and a comparison of the weights; `ponerEnReadyProgramas` takes the first one.
`list_sort` exchanges neighbours for which the comparison fails, and each of its passes ends at the
last exchange of the pass before.

Main definitions:

* `Ansisop.Kernel.listSort`, `Ansisop.Kernel.ordenador`, `Ansisop.Kernel.aceptarPrograma` — the
  code;
* `Ansisop.Kernel.aceptado`, `Ansisop.Kernel.despachado` — what a step adds to the history of the
  list;
* `Ansisop.Kernel.ColaOrdenada`, `Ansisop.Kernel.Despacho` — what is asked for.

Main results:

* `Ansisop.Kernel.isStableSort_listSort` — **`list_sort` is a stable sort**;
* `Ansisop.Kernel.menor_peso_primero` — **the lightest program is dispatched first**, and of those
  the one that was accepted first.
-/

import Ansisop.Lib.Historia
import Ansisop.Lib.StableSort
import Ansisop.Kernel.Fichas
import Ansisop.Kernel.Perdidas

set_option relaxedAutoImplicit false
set_option autoImplicit false

namespace Ansisop.Kernel

open StableSort (SameTies IsStableSort Settled)

/-! ### `list_sort` -/

section ListSort

variable {α : Type*}

/-- A pass of `list_sort`, from `previous_element` and the elements from `cursor` on: their data
after the pass, with `last_changed` and `sorted`. -/
def pasada (comparator : α → α → Bool) (unsorted_elements : ℕ) :
    α → List α → ℕ → ℕ → Bool → List α × ℕ × Bool
  | previous, [], _, last_changed, sorted => ([previous], last_changed, sorted)
  | previous, cursor :: resto, index, last_changed, sorted =>
      if index < unsorted_elements then
        if !comparator previous cursor then
          let r := pasada comparator unsorted_elements previous resto (index + 1) index false
          (cursor :: r.1, r.2)
        else
          let r := pasada comparator unsorted_elements cursor resto (index + 1) last_changed sorted
          (previous :: r.1, r.2)
      else (previous :: cursor :: resto, last_changed, sorted)

/-- The passes of `list_sort`.  Each pass that exchanges something ends before the one before it
did. -/
def pasadas (comparator : α → α → Bool) : ℕ → ℕ → List α → List α
  | fuel + 1, unsorted_elements, previous :: resto =>
      let (self, last_changed, sorted) :=
        pasada comparator unsorted_elements previous resto 0 unsorted_elements true
      if sorted then self else pasadas comparator fuel last_changed self
  | _, _, self => self

/-- `list_sort`. -/
def listSort (comparator : α → α → Bool) (self : List α) : List α :=
  if self.length < 2 then self else pasadas comparator (self.length + 1) self.length self

variable {κ : Type*} [LinearOrder κ] {key : α → κ} {comparator : α → α → Bool}

/-- **What a pass leaves**: the list in two settled parts, the first one up to the last exchange, if
there was one. -/
structure Pasada (key : α → κ) (unsorted_elements : ℕ) (antes despues : List α) (last_changed : ℕ)
    (sorted : Bool) : Prop where
  settled : Settled key antes despues
  igual : sorted = true → antes = []
  cambio : sorted = false → antes.length = last_changed + 1 ∧ last_changed < unsorted_elements

/-- A pass that is over leaves the rest of the list as it is. -/
theorem pasada_fin {unsorted_elements index : ℕ} {fin : List α}
    (h : unsorted_elements ≤ index ∨ fin = []) (previous : α) (last_changed : ℕ) (sorted : Bool) :
    pasada comparator unsorted_elements previous fin index last_changed sorted =
      (previous :: fin, last_changed, sorted) := by
  cases fin with
  | nil => rfl
  | cons cursor fin =>
      rw [pasada, if_neg]
      rcases h with h | h
      · omega
      · exact absurd h (by simp)

/-- **A pass.**  Behind it are `antes` and `medio`, and `previous` is the largest element up to
there; `fin` is settled since the pass before.  The induction is on the elements between them. -/
theorem pasada_spec (hcomparator : ∀ a b, comparator a b = decide (key a ≤ key b))
    {unsorted_elements index last_changed : ℕ} {sorted : Bool} {antes medio resto fin : List α}
    {previous : α}
    (hindex : index = (antes ++ medio).length)
    (hresto : resto.length + index = unsorted_elements ∨
      fin = [] ∧ resto.length + index ≤ unsorted_elements)
    (hantes : Pasada key unsorted_elements antes (medio ++ [previous]) last_changed sorted)
    (hfin : Settled key (antes ++ medio ++ previous :: resto) fin) :
    ∃ antes' despues', antes ++ medio ++
        (pasada comparator unsorted_elements previous (resto ++ fin) index last_changed sorted).1 =
        antes' ++ despues' ∧
      Pasada key unsorted_elements antes' despues'
        (pasada comparator unsorted_elements previous (resto ++ fin) index last_changed sorted).2.1
        (pasada comparator unsorted_elements previous (resto ++ fin) index
          last_changed sorted).2.2 ∧
      SameTies key (previous :: (resto ++ fin))
        (pasada comparator unsorted_elements previous (resto ++ fin) index last_changed
          sorted).1 := by
  -- nothing behind the pass belongs after `previous`
  have hmayor : ∀ a ∈ antes ++ medio, key a ≤ key previous := by
    intro a ha
    rcases List.mem_append.1 ha with ha | ha
    · exact hantes.settled.le a ha previous (List.mem_append_right _ List.mem_cons_self)
    · exact (List.pairwise_append.1 hantes.settled.sorted).2.2 a ha previous List.mem_cons_self
  induction resto generalizing antes medio index last_changed sorted previous with
  | nil =>
      rw [List.nil_append, pasada_fin (by rcases hresto with h | h <;> simp_all)]
      refine ⟨antes, medio ++ [previous] ++ fin, by simp, ⟨?_, hantes.igual, hantes.cambio⟩,
        SameTies.refl _⟩
      exact hantes.settled.append (hfin.of_subset fun a ha => by simpa using ha)
  | cons cursor resto ih =>
      rw [List.length_cons] at hresto
      have hresto' : resto.length + (index + 1) = unsorted_elements ∨
          fin = [] ∧ resto.length + (index + 1) ≤ unsorted_elements :=
        hresto.imp (fun h => by omega) fun h => ⟨h.1, by omega⟩
      rw [List.cons_append, pasada, if_pos (by omega), hcomparator]
      by_cases hle : key previous ≤ key cursor
      · rw [decide_eq_true hle, Bool.not_true, if_neg Bool.false_ne_true]
        have hsettled : Settled key antes (medio ++ [previous] ++ [cursor]) := by
          refine hantes.settled.append ⟨List.pairwise_singleton _ _, fun a ha b hb => ?_⟩
          obtain rfl := List.mem_singleton.1 hb
          rw [← List.append_assoc] at ha
          rcases List.mem_append.1 ha with ha | ha
          · exact (hmayor a ha).trans hle
          · rwa [List.mem_singleton.1 ha]
        obtain ⟨antes', despues', heq, hpasada, hties⟩ := @ih (index + 1) last_changed sorted antes
          (medio ++ [previous]) cursor
          (by simp only [hindex, List.length_append, List.length_singleton]; omega) hresto'
          ⟨hsettled, hantes.igual, hantes.cambio⟩
          (hfin.of_subset fun a ha => by simpa using ha)
          (by
            intro a ha
            rw [← List.append_assoc] at ha
            rcases List.mem_append.1 ha with ha | ha
            · exact (hmayor a ha).trans hle
            · rwa [List.mem_singleton.1 ha])
        exact ⟨antes', despues', by simpa using heq, hpasada,
          (SameTies.refl [previous]).append hties⟩
      · have hlt := not_le.1 hle
        rw [decide_eq_false hle, Bool.not_false, if_pos rfl]
        have hmayor' : ∀ a ∈ antes ++ medio ++ [cursor], key a ≤ key previous := by
          intro a ha
          rcases List.mem_append.1 ha with ha | ha
          · exact hmayor a ha
          · rw [List.mem_singleton.1 ha]
            exact hlt.le
        obtain ⟨antes', despues', heq, hpasada, hties⟩ := @ih (index + 1) index false
          (antes ++ medio ++ [cursor]) [] previous
          (by simp only [hindex, List.length_append, List.length_singleton, List.length_nil,
            Nat.add_zero])
          hresto'
          ⟨⟨List.pairwise_singleton _ _, fun a ha b hb => by
              rw [List.mem_singleton.1 hb]
              exact hmayor' a ha⟩, by simp,
            fun _ => ⟨by simp only [hindex, List.length_append, List.length_singleton], by omega⟩⟩
          (hfin.of_subset fun a ha => by
            simp only [List.mem_append, List.mem_cons, List.append_nil] at ha ⊢
            tauto)
          (by simpa using hmayor')
        refine ⟨antes', despues', by simpa using heq, hpasada, ?_⟩
        exact (SameTies.exchange hlt [] (resto ++ fin)).trans
          ((SameTies.refl [cursor]).append hties)

/-- **The passes sort the list**: the end of it is settled, and each pass settles more. -/
theorem pasadas_spec (hcomparator : ∀ a b, comparator a b = decide (key a ≤ key b))
    {fuel unsorted_elements : ℕ} {antes fin : List α} (hfuel : unsorted_elements < fuel)
    (hne : antes ≠ []) (hantes : antes.length = unsorted_elements + 1 ∨
      fin = [] ∧ antes.length ≤ unsorted_elements + 1)
    (hfin : Settled key antes fin) :
    IsStableSort key (antes ++ fin) (pasadas comparator fuel unsorted_elements (antes ++ fin)) := by
  induction fuel generalizing unsorted_elements antes fin with
  | zero => exact absurd hfuel (Nat.not_lt_zero _)
  | succ fuel ih =>
      obtain ⟨previous, resto, rfl⟩ := List.exists_cons_of_ne_nil hne
      rw [List.length_cons] at hantes
      obtain ⟨antes', despues', heq, hpasada, hties⟩ :=
        @pasada_spec _ _ _ key comparator hcomparator
        unsorted_elements 0 unsorted_elements true [] [] resto fin previous rfl
        (hantes.imp (fun h => by omega) fun h => ⟨h.1, by omega⟩)
        ⟨⟨List.pairwise_singleton _ _, by simp⟩, fun _ => rfl, by simp⟩ hfin
      rw [List.append_nil, List.nil_append] at heq
      rw [List.cons_append, pasadas]
      simp only
      split
      · rename_i hsorted
        obtain rfl := hpasada.igual hsorted
        rw [heq, List.nil_append] at hties ⊢
        exact ⟨hpasada.settled.sorted, hties⟩
      · rename_i hsorted
        obtain ⟨hlength, hlt⟩ := hpasada.cambio (by simpa using hsorted)
        rw [heq] at hties ⊢
        have hsort := ih (by omega) (List.ne_nil_of_length_pos (by omega)) (Or.inl hlength)
          hpasada.settled
        exact ⟨hsort.sorted, hties.trans hsort.ties⟩

/-- **`list_sort` is a stable sort**, with a comparison of keys. -/
theorem isStableSort_listSort (hcomparator : ∀ a b, comparator a b = decide (key a ≤ key b))
    (self : List α) : IsStableSort key self (listSort comparator self) := by
  rw [listSort]
  split
  · refine ⟨?_, SameTies.refl self⟩
    match self with
    | [] => exact List.Pairwise.nil
    | [a] => exact List.pairwise_singleton _ _
  · have hsort := pasadas_spec hcomparator (Nat.lt_succ_self self.length)
      (List.ne_nil_of_length_pos (by omega)) (Or.inr ⟨rfl, Nat.le_succ _⟩) (Settled.nil self)
    rwa [List.append_nil] at hsort

/-- The loop ends by its own condition: more turns change nothing. -/
theorem pasadas_fuel (hcomparator : ∀ a b, comparator a b = decide (key a ≤ key b)) {self : List α}
    (hne : self ≠ []) {fuel : ℕ} (hfuel : self.length < fuel) :
    pasadas comparator fuel self.length self = pasadas comparator (self.length + 1)
    self.length self := by
  have hsort {fuel : ℕ} (hfuel : self.length < fuel) :
      IsStableSort key self (pasadas comparator fuel self.length self) := by
    have h := pasadas_spec hcomparator hfuel hne (Or.inr ⟨rfl, Nat.le_succ _⟩) (Settled.nil self)
    rwa [List.append_nil] at h
  exact (hsort hfuel).unique (hsort (Nat.lt_succ_self _))

end ListSort

/-! ### `aceptar_programa` -/

/-- `ordenador`: a program with its weight may stand before another one. -/
def ordenador (elemento1 elemento2 : Programa × ℤ) : Bool := elemento1.2 ≤ elemento2.2

/-- `aceptar_programa`, of a program with its weight. -/
def aceptarPrograma (newProcesos : List (Programa × ℤ)) (prog : Programa × ℤ) :
    List (Programa × ℤ) :=
  listSort ordenador (newProcesos ++ [prog])

/-- The list is what the steps of the kernel make of it. -/
theorem aceptarPrograma_eq (newProcesos : List (Programa × ℤ)) (prog : Programa × ℤ) :
    aceptarPrograma newProcesos prog = (newProcesos ++ [prog]).mergeSort fun p q => p.2 ≤ q.2 :=
  (isStableSort_listSort (fun _ _ => rfl) _).unique (StableSort.isStableSort_mergeSort _)

/-! ### The history of the list -/

/-- The program that the step accepts. -/
def aceptado (s : Sistema) : Evento → List (Programa × ℤ)
  | .plp (some peso) =>
      match s.plp with
      | .guarda programa => [(programa, peso)]
      | _ => []
  | _ => []

/-- The program that the step dispatches. -/
def despachado (s : Sistema) : Evento → List (Programa × ℤ)
  | .plp _ => if s.plp = .mueve then s.comun.newProcesos.head?.toList else []
  | _ => []

/-- **The list, after some programs were accepted and some of them dispatched**: it has the others,
the lightest ones first, and those of one weight in the order in which they were accepted, as they
were dispatched. -/
structure ColaOrdenada (transito : Lts.Transito (Programa × ℤ))
    (newProcesos : List (Programa × ℤ)) : Prop where
  orden : newProcesos.Pairwise fun p q => p.2 ≤ q.2
  exactos : (transito.salieron ++ newProcesos).Perm transito.entraron
  empates : ∀ peso : ℤ, transito.entraron.filter (fun p => decide (p.2 = peso)) =
    transito.salieron.filter (fun p => decide (p.2 = peso)) ++
      newProcesos.filter fun p => decide (p.2 = peso)

/-- **A program is dispatched**: it goes to the end of Ready, none that waits is lighter, and of
those with its weight it is the next one that was accepted. -/
structure Despacho (transito : Lts.Transito (Programa × ℤ)) (s : Sistema) (x : Programa × ℤ)
    (s' : Sistema) : Prop where
  lista : s.comun.newProcesos = x :: s'.comun.newProcesos
  ready : s'.comun.listaReady = s.comun.listaReady ++ [some x.1]
  menor : ∀ y ∈ s.comun.newProcesos, x.2 ≤ y.2
  primero : ∃ despues, transito.entraron.filter (fun p => decide (p.2 = x.2)) =
    transito.salieron.filter (fun p => decide (p.2 = x.2)) ++ x :: despues

/-- **What a step does to the list.** -/
inductive PasoDeCola (s : Sistema) (e : Evento) (s' : Sistema) : Prop
  | acepta (x : Programa × ℤ) : aceptado s e = [x] → despachado s e = [] →
      s'.comun.newProcesos = aceptarPrograma s.comun.newProcesos x → PasoDeCola s e s'
  | despacha (x : Programa × ℤ) : aceptado s e = [] → despachado s e = [x] →
      s.comun.newProcesos = x :: s'.comun.newProcesos →
      s'.comun.listaReady = s.comun.listaReady ++ [some x.1] → PasoDeCola s e s'
  | queda : aceptado s e = [] → despachado s e = [] →
      s'.comun.newProcesos = s.comun.newProcesos → PasoDeCola s e s'

variable {s s' : Sistema} {e : Evento} {transito : Lts.Transito (Programa × ℤ)}
  {newProcesos newProcesos' : List (Programa × ℤ)} {x : Programa × ℤ}

theorem Paso.deCola (hpaso : Paso s e s') : PasoDeCola s e s' := by
  cases hpaso.transicion with
  | hilo _ hloc => exact .queda rfl rfl (pasoHilo_marco hloc).newProcesos
  | dispositivo hc =>
      obtain ⟨ready, dispositivos, n, rfl⟩ := pasoDispositivo_marco hc
      exact .queda rfl rfl rfl
  | @plp peso plp c' hc =>
      generalize hl : s.plp = l at hc
      cases pasoPlp_avanza hc with
      | @guarda programa peso =>
          exact .acepta (programa, peso) (by simp only [aceptado, hl]) (by simp [despachado, hl])
            (aceptarPrograma_eq _ _).symm
      | @mueve _ programa peso resto hlista =>
          refine .despacha (programa, peso) ?_ (by simp [despachado, hl, hlista]) hlista rfl
          unfold aceptado
          split <;> simp_all
      | _ =>
          refine .queda ?_ (by simp [despachado, hl]) rfl
          unfold aceptado
          split <;> simp_all
  | @principal pcb principal c' hc =>
      generalize s.principal = l at hc
      cases pasoPrincipal_avanza hc <;> exact .queda rfl rfl rfl
  | @salida salida c' hc =>
      generalize s.salida = l at hc
      cases pasoSalida_avanza hc <;> exact .queda rfl rfl rfl
  | _ => exact .queda rfl rfl rfl

/-- Accepting a program keeps the order. -/
theorem ColaOrdenada.acepta (h : ColaOrdenada transito newProcesos) (x : Programa × ℤ) :
    ColaOrdenada ⟨transito.entraron ++ [x], transito.salieron⟩ (aceptarPrograma newProcesos x) := by
  have hsort : IsStableSort (fun p : Programa × ℤ => p.2) (newProcesos ++ [x])
      (aceptarPrograma newProcesos x) := isStableSort_listSort (fun _ _ => rfl) _
  have hempates (peso : ℤ) : (transito.entraron ++ [x]).filter (fun p => decide (p.2 = peso)) =
      transito.salieron.filter (fun p => decide (p.2 = peso)) ++
        (aceptarPrograma newProcesos x).filter fun p => decide (p.2 = peso) := by
    rw [List.filter_append, h.empates, hsort.ties peso, List.filter_append, List.append_assoc]
  have hties : SameTies (fun p : Programa × ℤ => p.2) (transito.entraron ++ [x])
      (transito.salieron ++ aceptarPrograma newProcesos x) := by
    intro peso
    rw [hempates, List.filter_append]
  exact ⟨hsort.sorted, hties.perm.symm, hempates⟩

/-- Dispatching the first program keeps the order. -/
theorem ColaOrdenada.despacha (h : ColaOrdenada transito (x :: newProcesos)) :
    ColaOrdenada ⟨transito.entraron, transito.salieron ++ [x]⟩ newProcesos where
  orden := h.orden.of_cons
  exactos := by simpa using h.exactos
  empates peso := by
    rw [h.empates, List.filter_append, List.append_assoc]
    exact congrArg (transito.salieron.filter _ ++ ·) (List.filter_append [x] newProcesos)

/-- **A step keeps the order.** -/
theorem ColaOrdenada.paso (h : ColaOrdenada transito s.comun.newProcesos) (hpaso : Paso s e s') :
    ColaOrdenada (Lts.Transito.mas aceptado despachado s e transito) s'.comun.newProcesos := by
  rw [Lts.Transito.mas]
  cases hpaso.deCola with
  | acepta x hacepta hdespacha hlista =>
      rw [hacepta, hdespacha, hlista, List.append_nil]
      exact h.acepta x
  | despacha x hacepta hdespacha hlista _ =>
      rw [hlista] at h
      rw [hacepta, hdespacha, List.append_nil]
      exact h.despacha
  | queda hacepta hdespacha hlista =>
      rw [hacepta, hdespacha, hlista, List.append_nil, List.append_nil]
      exact h

/-- The list is in order in every run. -/
theorem Run.colaOrdenada {configuracion : Configuracion} {tr : List Evento}
    (h : Lts.Run (Lts.anotado (Lts.Transito.mas aceptado despachado) Paso)
      (inicial configuracion, Lts.Transito.nada) tr (s, transito)) :
    ColaOrdenada transito s.comun.newProcesos := by
  refine h.invariant (I := fun p => ColaOrdenada p.2 p.1.comun.newProcesos) ?_
    ⟨List.Pairwise.nil, List.Perm.refl _, fun _ => rfl⟩
  rintro ⟨s, transito⟩ e ⟨s', _⟩ hcola ⟨hpaso, rfl⟩
  exact hcola.paso hpaso

/-- What is dispatched is the first program of the list. -/
theorem ColaOrdenada.despacho (h : ColaOrdenada transito s.comun.newProcesos)
    (hdespacha : despachado s e = [x]) (hpaso : Paso s e s') : Despacho transito s x s' := by
  cases hpaso.deCola with
  | acepta y _ hnada _ | queda _ hnada _ =>
      exact absurd (hdespacha.symm.trans hnada) (List.cons_ne_nil _ _)
  | despacha y _ hdespacha' hlista hready =>
      obtain rfl := List.singleton_inj.1 (hdespacha'.symm.trans hdespacha)
      refine ⟨hlista, hready, ?_, ?_⟩
      · have horden := h.orden
        rw [hlista] at horden ⊢
        rintro z (_ | ⟨_, hz⟩)
        · exact le_rfl
        · exact List.rel_of_pairwise_cons horden hz
      · refine ⟨s'.comun.newProcesos.filter fun p => decide (p.2 = y.2), ?_⟩
        rw [h.empates, hlista, List.filter_cons_of_pos (by simp)]

/-- **The lightest program is dispatched first.**  In every run `newProcesos` has the accepted
programs that were not dispatched, the lightest ones first and those of one weight in the order of
acceptance; a program enters the list through `aceptar_programa`, and the one that is dispatched
goes to the end of `listaReady`. -/
theorem menor_peso_primero (configuracion : Configuracion) {tr : List Evento}
    (h : Lts.Run (Lts.anotado (Lts.Transito.mas aceptado despachado) Paso)
      (inicial configuracion, Lts.Transito.nada) tr (s, transito)) :
    ColaOrdenada transito s.comun.newProcesos ∧
      (∀ e s' x, aceptado s e = [x] → Paso s e s' →
        s'.comun.newProcesos = aceptarPrograma s.comun.newProcesos x) ∧
      ∀ e s' x, despachado s e = [x] → Paso s e s' → Despacho transito s x s' := by
  have hcola := Run.colaOrdenada h
  refine ⟨hcola, ?_, fun e s' x hdespacha hpaso => hcola.despacho hdespacha hpaso⟩
  intro e s' x hacepta hpaso
  cases hpaso.deCola with
  | acepta y hacepta' _ hlista => rwa [List.singleton_inj.1 (hacepta'.symm.trans hacepta)] at hlista
  | despacha y hnada _ _ _ | queda hnada _ _ =>
      exact absurd (hacepta.symm.trans hnada) (List.cons_ne_nil _ _)

/-- A program arrives and is about to be accepted. -/
def porAceptar : List Evento :=
  [.principal pcbNulo, .principal pcbNulo, .principal pcbNulo, .plp none, .plp none]

/-- A program waits with the weight 3, since another one is in the system, and one with the weight 1
arrives: it is put before the first one. -/
theorem menor_peso_primero_dos : ∃ tr s transito s',
    Lts.Run (Lts.anotado (Lts.Transito.mas aceptado despachado) Paso)
      (inicial configuracionUno, Lts.Transito.nada) tr (s, transito) ∧
    s.comun.newProcesos = [(1, 3)] ∧ Paso s (.plp (some 1)) s' ∧
    s'.comun.newProcesos = [(2, 1), (1, 3)] := by
  have hfin : (correr (fun _ _ => true)
      (llegaPrograma ++ porAceptar ++ [.plp (some 3), .plp none] ++ porAceptar)
      (inicial configuracionUno)).map (fun s => (s.comun.newProcesos, s.plp)) =
      some ([(1, 3)], .guarda 2) := by decide +kernel
  obtain ⟨s, hs, heq⟩ := Option.map_eq_some_iff.1 hfin
  obtain ⟨hlista, hplp⟩ := Prod.mk.inj heq
  obtain ⟨transito, hrun⟩ := (run_of_correr hs).of_restrict.anotar Lts.Transito.nada
  have hpaso : ∃ s', Paso s (.plp (some 1)) s' := by
    simp only [Paso, paso, hplp, pasoPlp]
    exact ⟨_, rfl⟩
  obtain ⟨s', hpaso⟩ := hpaso
  refine ⟨_, s, transito, s', hrun, hlista, hpaso, ?_⟩
  rw [(menor_peso_primero configuracionUno hrun).2.1 (.plp (some 1)) s' (2, 1)
    (by rw [aceptado, hplp]) hpaso, hlista]
  decide

end Ansisop.Kernel
