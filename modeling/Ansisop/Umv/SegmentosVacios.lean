/-
**Segments of size zero.**

The searches for free space advance one pointer from segment to segment, until it is the base of the
next one.  A segment of size zero has the base of another one, which the pointer has already passed;
the search then walks on to the end of the memory, and what it finds may lie on a live segment.

A comment in `generarSegmento` says that the creation of a segment of size zero is answered
`memory_overload`.  The test compares the pointer `tamanio` with zero and not the size, and never
succeeds.

Main definitions:

* `Ansisop.Umv.BusquedaLibre` — what a search finds, of any size and with either algorithm, is free;
* `Ansisop.Umv.CeroRechazado` — no segment of size zero has been created.

Main results:

* `Ansisop.Umv.sin_segmentos_vacios` — in every run without a request for size zero both hold, and a
  request for size zero creates a segment;
* `Ansisop.Umv.no_sin_segmentos_vacios` — after one, a search finds a range that belongs to a live
  segment.
-/

import Ansisop.Umv.Abstracta

set_option relaxedAutoImplicit false
set_option autoImplicit false

namespace Ansisop.Umv

/-- **What a search finds is free**: for either algorithm and any size, the range that starts at the
address it returns lies in the block, and no live segment has any of its bytes. -/
def BusquedaLibre (B : Bloque) (s : Estado) : Prop :=
  ∀ (algMem : Algoritmo) (n : U32), buscarEspacio B { s with algMem } n ≠ null →
    B.lo ≤ (buscarEspacio B { s with algMem } n).toNat ∧
    (buscarEspacio B { s with algMem } n).toNat + n.toNat ≤ B.hi ∧
    ∀ x ∈ s.pSegmentos, ∀ q, (buscarEspacio B { s with algMem } n).toNat ≤ q →
      q < (buscarEspacio B { s with algMem } n).toNat + n.toNat →
      ¬ (base x ≤ q ∧ q < base x + len x)

/-- **A creation of size zero is answered `memory_overload`**, in the steps of a run.  A search that
fails gives no answer yet. -/
def CeroRechazado (tr : List Evento) : Prop :=
  ∀ e ∈ tr, ∀ pid, e.seccion.Crea pid 0#32 →
    e.respuesta = none ∨ e.respuesta = some .memory_overload

variable {B : Bloque} {s t : Sistema} {e : Evento}

/-! ### What a search finds -/

/-- The pointer to a gap is the address of the gap, if it is not null. -/
theorem toNat_punteroHueco_of_ne {xs : List TipoSegmento} (h : TablaValida B xs) {g : ℕ × ℕ}
    (hg : g ∈ huecos B xs) (hnull : punteroHueco (some g) ≠ null) :
    (punteroHueco (some g)).toNat = g.1 := by
  have hb := h.within.gap_bounds hg
  have hB := B.hi_le
  have hne : g.1 ≠ 2 ^ 32 := by
    intro heq
    refine hnull ?_
    rw [punteroHueco, heq]
    rfl
  rw [punteroHueco, BitVec.toNat_ofNat, Nat.mod_eq_of_lt (by omega)]

/-- A search, for any size, finds the start of a gap. -/
theorem buscarEspacio_hueco {s : Estado} {n : U32} (h : TablaValida B s.pSegmentos)
    (hnull : buscarEspacio B s n ≠ null) :
    ∃ k, ((buscarEspacio B s n).toNat, k) ∈ huecos B s.pSegmentos ∧ n.toNat ≤ k := by
  obtain ⟨g, hg, hgn, heq⟩ := (buscarEspacio_eq h n).resolve_right fun hno => hnull hno.1
  rw [heq] at hnull ⊢
  rw [toNat_punteroHueco_of_ne h hg hnull]
  exact ⟨g.2, hg, hgn⟩

/-- **In a valid table what a search finds is free.** -/
theorem TablaValida.busquedaLibre {s : Estado} (h : TablaValida B s.pSegmentos) :
    BusquedaLibre B s := by
  intro algMem n hnull
  obtain ⟨k, hk, hn⟩ := buscarEspacio_hueco (s := { s with algMem }) h hnull
  have hbounds := h.within.gap_bounds hk
  refine ⟨hbounds.1, by simp only at hbounds; omega, fun x hx q hq hq' hqx => ?_⟩
  have hdisjunto := h.within.gap_disjoint hk hx
  simp only at hdisjunto
  omega

/-! ### A request for size zero -/

/-- **A search for size zero never fails**, with a block that does not end at the last address. -/
theorem buscarEspacio_cero {s : Estado} (h : TablaValida B s.pSegmentos) (hB : B.hi < 2 ^ 32) :
    buscarEspacio B s 0#32 ≠ null := by
  have hcabe : Layout.Fits base len B.lo B.hi (0#32).toNat s.pSegmentos := by
    have hhueco : huecos B s.pSegmentos ≠ [] := Layout.gaps_ne_nil _ _ _
    obtain ⟨g, hg⟩ := List.exists_mem_of_ne_nil _ hhueco
    exact ⟨g, hg, Nat.zero_le _⟩
  obtain ⟨g, hg, -, heq⟩ := (buscarEspacio_eq h 0#32).resolve_right fun hno => hno.2 hcabe
  have hb := h.within.gap_bounds hg
  have hlo := B.lo_pos
  intro hnull
  have hcero := congrArg BitVec.toNat (heq.symm.trans hnull)
  rw [punteroHueco, BitVec.toNat_ofNat, Nat.mod_eq_of_lt (by omega)] at hcero
  simp [null] at hcero
  omega

/-- **A creation of size zero is not refused.** -/
theorem Paso.creado_cero (h : Paso B s e t) (hv : s.Valido B) (hB : B.hi < 2 ^ 32)
    {pid : TIdPrograma} {n : U32} (hsec : e.seccion = .primeraBusqueda pid n) (hn : ¬ 0 < n.toNat) :
    ∃ d, e.respuesta = some (.segmentoCreado d) := by
  obtain rfl : n = 0#32 := BitVec.eq_of_toNat_eq (Nat.eq_zero_of_not_pos hn)
  have hbusca := buscarEspacio_cero hv.tabla hB
  cases h with
  | sinLugar _ hnull =>
      obtain ⟨-, rfl⟩ := Seccion.primeraBusqueda.inj hsec
      exact absurd hnull hbusca
  | crear random _ _ hc =>
      obtain ⟨d, rfl, -⟩ := crearSegmento_spec hc
      exact ⟨d, rfl⟩
  | _ => exact absurd hsec (by simp)

/-! ### Runs -/

/-- No thread is in the middle of a creation of size zero. -/
theorem Paso.not_crea_cero (h : Paso B s e t) (hv : s.Valido B) (he : e.seccion.TamanioPositivo)
    (pid : TIdPrograma) : ¬ e.seccion.Crea pid 0#32 := by
  rintro (hsec | hsec)
  · rw [hsec] at he
    exact lt_irrefl 0 he
  · cases h with
    | @buscar i _ n _ _ _ hf _ =>
        obtain ⟨-, rfl⟩ := Seccion.segundaBusqueda.inj hsec
        have hn := hv.fases i
        rw [hf] at hn
        exact lt_irrefl 0 hn
    | _ => exact absurd hsec (by simp)

theorem Corrida.ceroRechazado {tr : List Evento} (h : Corrida B s tr t) (hv : s.Valido B) :
    CeroRechazado tr := by
  induction h with
  | nil => exact fun e he => absurd he List.not_mem_nil
  | @snoc tr u t e hrun hpaso ih =>
      intro e' he' pid hcrea
      rcases List.mem_append.1 he' with he' | he'
      · exact ih e' he' pid hcrea
      · obtain rfl := List.mem_singleton.1 he'
        exact absurd hcrea (hpaso.2.not_crea_cero (Corrida.valido hrun hv) hpaso.1 pid)

/-- A run in which every creation of size zero is refused has no request for size zero. -/
theorem corrida_of_ceroRechazado {tr : List Evento} (h : Lts.Run (Paso B) s tr t) (hv : s.Valido B)
    (hB : B.hi < 2 ^ 32) (hcero : CeroRechazado tr) : ∀ e ∈ tr, e.seccion.TamanioPositivo := by
  induction h with
  | nil => exact fun e he => absurd he List.not_mem_nil
  | @snoc tr u t e hrun hpaso ih =>
      have hantes := ih fun e he => hcero e (List.mem_append_left _ he)
      have hu : u.Valido B := Corrida.valido (hrun.restrict fun e he _ => hantes e he) hv
      intro e' he'
      rcases List.mem_append.1 he' with he' | he'
      · exact hantes e' he'
      · obtain rfl := List.mem_singleton.1 he'
        cases hsec : e'.seccion with
        | primeraBusqueda pid n =>
            change 0 < n.toNat
            by_contra hn
            obtain ⟨d, hd⟩ := hpaso.creado_cero hu hB hsec hn
            obtain rfl : n = 0#32 := BitVec.eq_of_toNat_eq (Nat.eq_zero_of_not_pos hn)
            rcases hcero e' (by simp) pid (Or.inl hsec) with h | h <;>
              exact absurd (h.symm.trans hd) (by simp)
        | _ => trivial

/-- **Without a request for size zero** every creation of size zero is refused, there being none,
and in every state that is reached what a search finds is free.  And only then: with a block that
does not end at the last address, as those of `malloc` do not, a request for size zero creates a
segment. -/
theorem sin_segmentos_vacios (B : Bloque) {s t : Sistema} {tr : List Evento} (hs : s.Inicial)
    (h : Lts.Run (Paso B) s tr t) :
    ((∀ e ∈ tr, e.seccion.TamanioPositivo) → CeroRechazado tr ∧ BusquedaLibre B t.estado) ∧
    (B.hi < 2 ^ 32 → CeroRechazado tr → ∀ e ∈ tr, e.seccion.TamanioPositivo) := by
  refine ⟨fun hpos => ?_, fun hB hcero => corrida_of_ceroRechazado h hs.valido hB hcero⟩
  have hcorrida : Corrida B s tr t := h.restrict fun e he _ => hpos e he
  exact ⟨hcorrida.ceroRechazado hs.valido, (hcorrida.valido hs.valido).tabla.busquedaLibre⟩

/-- Two segments are created and what a search finds after that is free. -/
theorem sin_segmentos_vacios_dosSegmentos :
    ((∀ e ∈ trazaDosSegmentos, e.seccion.TamanioPositivo) →
      CeroRechazado trazaDosSegmentos ∧ BusquedaLibre bloque16 dosSegmentos.estado) ∧
    (bloque16.hi < 2 ^ 32 → CeroRechazado trazaDosSegmentos →
      ∀ e ∈ trazaDosSegmentos, e.seccion.TamanioPositivo) :=
  sin_segmentos_vacios bloque16 ⟨rfl, fun _ => rfl⟩ run_dosSegmentos

/-! ### A search that finds a live segment -/

/-- Segments of eight and of four bytes. -/
def ochoYCuatro : Sistema :=
  unSegmento.con { vacio.estado with
    pSegmentos := [⟨1#32, 8#32, 100#32, 0x1000#32⟩, ⟨2#32, 4#32, 200#32, 0x1008#32⟩] } 1 .libre

/-- And then one of size zero, which gets the base of the first one. -/
def conVacio : Sistema :=
  ochoYCuatro.con { vacio.estado with
    pSegmentos := [⟨1#32, 8#32, 100#32, 0x1000#32⟩, ⟨3#32, 0#32, 300#32, 0x1000#32⟩,
      ⟨2#32, 4#32, 200#32, 0x1008#32⟩] } 1 .libre

theorem run_conVacio : Lts.Run (Paso bloque16) vacio
    [⟨0, .primeraBusqueda 1#32 8#32, some (.segmentoCreado 100#32)⟩,
      ⟨1, .primeraBusqueda 2#32 4#32, some (.segmentoCreado 200#32)⟩,
      ⟨1, .primeraBusqueda 3#32 0#32, some (.segmentoCreado 300#32)⟩] conVacio := by
  have h₁ : Paso bloque16 vacio
      ⟨0, .primeraBusqueda 1#32 8#32, some (.segmentoCreado 100#32)⟩ unSegmento :=
    .crear [100#32] rfl (by decide) rfl
  have h₂ : Paso bloque16 unSegmento
      ⟨1, .primeraBusqueda 2#32 4#32, some (.segmentoCreado 200#32)⟩ ochoYCuatro :=
    .crear [200#32] rfl (by decide) rfl
  have h₃ : Paso bloque16 ochoYCuatro
      ⟨1, .primeraBusqueda 3#32 0#32, some (.segmentoCreado 300#32)⟩ conVacio :=
    .crear [300#32] rfl (by decide) rfl
  exact ((Lts.Run.single h₁).snoc h₂).snoc h₃

/-- **A segment of size zero is created, and then a search for four bytes finds those of a live
segment.** -/
theorem no_sin_segmentos_vacios : ¬ ∀ (B : Bloque) (s t : Sistema) (tr : List Evento), s.Inicial →
    Lts.Run (Paso B) s tr t → CeroRechazado tr ∧ BusquedaLibre B t.estado := by
  intro hclaim
  have hlibre := (hclaim bloque16 vacio conVacio _ ⟨rfl, fun _ => rfl⟩ run_conVacio).2
  have hbusca : buscarEspacio bloque16 { conVacio.estado with algMem := .FF } 4#32 = 0x1008#32 := by
    decide
  have hocupado := (hlibre .FF 4#32 (by rw [hbusca]; decide)).2.2
    ⟨2#32, 4#32, 200#32, 0x1008#32⟩ (by decide) 0x1008
  rw [hbusca] at hocupado
  exact hocupado (by decide) (by decide) (by decide)

end Ansisop.Umv
