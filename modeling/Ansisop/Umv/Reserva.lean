/-
**When the creation of a segment succeeds.**

Run without interference, `generarSegmento` succeeds exactly when the live segments and the new one
fit in the block: if no gap is large enough the compaction gathers all the free space into one.

With interference that is no longer so.  The mutex is free between the compaction and the second
search, and another thread may destroy segments there; the free space is then split again, and the
second search can fail although there is room.

Main definitions:

* `Ansisop.Umv.Fragmentado` — there is room for a request, but in no single gap;
* `Ansisop.Umv.DestruyeAlFinal` — while a thread is about to run its second search, segments are
  destroyed only from the end of the table.

Main results:

* `Ansisop.Umv.generarSegmento_iff` — **allocation succeeds exactly when memory suffices**;
* `Ansisop.Umv.memory_overload_justificado` — under interference, a second search answers
  `memory_overload` for lack of memory if and only if it did not find the memory fragmented, which
  it never does in a run that destroys only from the end of the table between compaction and search;
* `Ansisop.Umv.memory_overload_espurio` — a run that does, and rejects a segment that fits.
-/

import Ansisop.Umv.Sistema

set_option relaxedAutoImplicit false
set_option autoImplicit false

namespace Ansisop.Umv

variable {B : Bloque} {s : Estado} {pid : TIdPrograma} {n : U32} {random : List TPuntero}

/-! ### The two searches of an allocation -/

/-- A search finds a place exactly when some gap holds the request. -/
theorem buscarEspacio_ne_null_iff (h : TablaValida B s.pSegmentos) (hn : 0 < n.toNat) :
    buscarEspacio B s n ≠ null ↔ Layout.Fits base len B.lo B.hi n.toNat s.pSegmentos := by
  rcases buscarEspacio_spec h hn with ⟨k, hk, hnk, hne⟩ | ⟨hnull, hfit⟩
  · exact ⟨fun _ => ⟨_, hk, hnk⟩, fun _ => hne⟩
  · exact ⟨fun hne => absurd hnull hne, fun hf => absurd hf hfit⟩

/-- What fits in a gap fits in the block. -/
theorem ocupado_add_le_of_fits (h : TablaValida B s.pSegmentos)
    (hf : Layout.Fits base len B.lo B.hi n.toNat s.pSegmentos) :
    ocupado s.pSegmentos + n.toNat ≤ B.cantMem.toNat := by
  have : ocupado s.pSegmentos + n.toNat ≤ B.hi - B.lo := h.within.total_add_le_of_fits hf
  have := B.hi_eq
  omega

/-- In a packed table, what fits in the block fits in a gap. -/
theorem fits_of_packed (h : Layout.Packed base len B.lo s.pSegmentos)
    (hle : ocupado s.pSegmentos + n.toNat ≤ B.cantMem.toNat) :
    Layout.Fits base len B.lo B.hi n.toNat s.pSegmentos :=
  h.fits_of_total_add_le <| by
    have : Layout.total len s.pSegmentos = ocupado s.pSegmentos := rfl
    have := B.hi_eq
    omega

/-- The new segment, and the others as they were and in the same order. -/
theorem vistas_insertarNodo (s : Estado) (x : TipoSegmento) :
    ∃ vs ws, s.vistas = vs ++ ws ∧
      { s with pSegmentos := insertarNodo s.pSegmentos x }.vistas =
        vs ++ vista s.memoria x :: ws := by
  obtain ⟨ys, zs, hxs, hins⟩ := @Layout.insertBefore_eq_append _ base x s.pSegmentos
  refine ⟨ys.map (vista s.memoria), zs.map (vista s.memoria), ?_, ?_⟩
  · rw [Estado.vistas, hxs, List.map_append]
  · simp only [Estado.vistas]
    rw [insertarNodo_eq, hins, List.map_append, List.map_cons]

/-- **What an allocation that succeeds does**: it adds one segment to the table, of the size and the
process of the request and with the logical address of the answer. -/
structure Creado (s t : Estado) (pid : TIdPrograma) (n : U32) (r : Respuesta) : Prop where
  creado : ∃ d vs ws bs, r = .segmentoCreado d ∧ s.vistas = vs ++ ws ∧
    t.vistas = vs ++ ⟨pid, d, bs⟩ :: ws ∧ bs.length = n.toNat ∧ ∀ v ∈ s.vistas, v.dirLogica ≠ d

theorem crearSegmento_creado {p : TPuntero} {r : Respuesta} {t : Estado}
    (h : crearSegmento s pid n p random = some (r, t)) : Creado s t pid n r := by
  obtain ⟨d, rfl, -, hfresh, rfl⟩ := crearSegmento_spec h
  obtain ⟨vs, ws, hs, ht⟩ := vistas_insertarNodo s ⟨pid, n, d, p⟩
  refine ⟨d, vs, ws, bytes s.memoria ⟨pid, n, d, p⟩, rfl, hs, ht, length_bytes _ _, ?_⟩
  intro v hv
  obtain ⟨x, hx, rfl⟩ := List.mem_map.1 hv
  exact hfresh x hx

/-- With a fresh address among the values of `random()`, the entry is created. -/
theorem exists_crearSegmento (pid : TIdPrograma) (n : U32) (p : TPuntero)
    (hr : ∃ d ∈ random, ∀ x ∈ s.pSegmentos, x.dirLogica ≠ d) :
    ∃ r t, crearSegmento s pid n p random = some (r, t) := by
  obtain ⟨d, hd, hfresh⟩ := hr
  obtain ⟨d', hd'⟩ := Option.isSome_iff_exists.1 (generarDireccionLogica_isSome hd hfresh)
  exact ⟨_, _, by rw [crearSegmento, hd', Option.map_some]⟩

/-! ### Without interference -/

/-- The second search of an allocation that nothing interrupts. -/
theorem segundaBusqueda_of_packed (pid : TIdPrograma) (h : TablaValida B s.pSegmentos)
    (hp : Layout.Packed base len B.lo s.pSegmentos) (hn : 0 < n.toNat)
    (hr : ∃ d ∈ random, ∀ x ∈ s.pSegmentos, x.dirLogica ≠ d) :
    ∃ r t, segundaBusqueda B s pid n random = some (r, t) ∧
      (ocupado s.pSegmentos + n.toNat ≤ B.cantMem.toNat ∧ Creado s t pid n r ∨
        B.cantMem.toNat < ocupado s.pSegmentos + n.toNat ∧ r = .memory_overload ∧ t = s) := by
  rw [segundaBusqueda]
  by_cases hnull : buscarEspacio B s n = null
  · have hfit : ¬ Layout.Fits base len B.lo B.hi n.toNat s.pSegmentos := fun hf =>
      (buscarEspacio_ne_null_iff h hn).2 hf hnull
    refine ⟨.memory_overload, s, if_pos hnull, Or.inr ⟨?_, rfl, rfl⟩⟩
    by_contra hle
    exact hfit (fits_of_packed hp (by omega))
  · obtain ⟨r, t, hc⟩ := exists_crearSegmento pid n (buscarEspacio B s n) hr
    have hfit := (buscarEspacio_ne_null_iff h hn).1 hnull
    exact ⟨r, t, by rw [if_neg hnull, hc],
      Or.inl ⟨ocupado_add_le_of_fits h hfit, crearSegmento_creado hc⟩⟩

/-- **Allocation succeeds exactly when memory suffices**, under either algorithm and whatever the
fragmentation: the answer is `segmentoCreado` when the live segments and the new one fit in the
block, and then the new one is the only change that a client can see; otherwise it is
`memory_overload`, and a client can see no change.  `random()` must return some address that no
segment has. -/
theorem generarSegmento_iff (B : Bloque) (s : Estado) (h : TablaValida B s.pSegmentos)
    (pid : TIdPrograma) (n : U32) (hn : 0 < n.toNat) (random : List TPuntero)
    (hr : ∃ d ∈ random, ∀ x ∈ s.pSegmentos, x.dirLogica ≠ d) :
    ∃ r t, generarSegmento B s pid n random = some (r, t) ∧
      (ocupado s.pSegmentos + n.toNat ≤ B.cantMem.toNat ∧ Creado s t pid n r ∨
        B.cantMem.toNat < ocupado s.pSegmentos + n.toNat ∧ r = .memory_overload ∧
          t.vistas = s.vistas) := by
  rw [generarSegmento]
  by_cases hnull : buscarEspacio B s n = null
  · -- the compaction leaves the views as they were, and the table packed
    have hvis := fnCompactar_vistas h
    have hdir := (dirLogicas_eq_vistas (fnCompactar B s)).trans
      (hvis ▸ (dirLogicas_eq_vistas s).symm)
    have hr' : ∃ d ∈ random, ∀ x ∈ (fnCompactar B s).pSegmentos, x.dirLogica ≠ d := by
      obtain ⟨d, hd, hfresh⟩ := hr
      refine ⟨d, hd, fun x hx hxd => ?_⟩
      have hmem : d ∈ s.pSegmentos.map TipoSegmento.dirLogica := by
        rw [← hdir, ← hxd]
        exact List.mem_map_of_mem hx
      obtain ⟨y, hy, hyd⟩ := List.mem_map.1 hmem
      exact hfresh y hy hyd
    obtain ⟨r, t, hb, hor⟩ :=
      segundaBusqueda_of_packed pid h.fnCompactar (fnCompactar_packed h) hn hr'
    rw [fnCompactar_ocupado h] at hor
    refine ⟨r, t, by rw [if_pos hnull, hb], hor.imp (And.imp_right fun hc => ?_)
      (And.imp_right fun ht => ⟨ht.1, by rw [ht.2, hvis]⟩)⟩
    obtain ⟨d, vs, ws, bs, hd⟩ := hc.creado
    exact ⟨d, vs, ws, bs, hvis ▸ hd⟩
  · obtain ⟨r, t, hc⟩ := exists_crearSegmento pid n (buscarEspacio B s n) hr
    have hfit := (buscarEspacio_ne_null_iff h hn).1 hnull
    exact ⟨r, t, by rw [if_neg hnull, hc],
      Or.inl ⟨ocupado_add_le_of_fits h hfit, crearSegmento_creado hc⟩⟩

/-- Four bytes in the middle of the block: twelve more fit only after compaction. -/
def fragmentado16 : Estado := ⟨.WF, fun _ => 0#8, [⟨1#32, 4#32, 100#32, 0x1004#32⟩]⟩

theorem generarSegmento_iff_fragmentado16 :
    ∃ r t, generarSegmento bloque16 fragmentado16 2#32 12#32 [100#32, 7#32] = some (r, t) ∧
      (ocupado fragmentado16.pSegmentos + 12 ≤ 16 ∧ Creado fragmentado16 t 2#32 12#32 r ∨
        16 < ocupado fragmentado16.pSegmentos + 12 ∧ r = .memory_overload ∧
          t.vistas = fragmentado16.vistas) :=
  generarSegmento_iff bloque16 fragmentado16
    ⟨⟨by decide, by decide⟩, by decide⟩ 2#32 12#32 (by decide) [100#32, 7#32]
    ⟨7#32, by decide, by decide⟩

/-- The steps of a thread that nothing interrupts give the answer of `generarSegmento`. -/
theorem run_generarSegmento {s : Sistema} {h : ℕ} {r : Respuesta} {t : Estado}
    (hf : s.fase h = .libre) (hg : generarSegmento B s.estado pid n random = some (r, t)) :
    ∃ tr sec, Lts.Run (Paso B) s (tr ++ [⟨h, sec, some r⟩]) (s.con t h .libre) ∧
    ∀ e ∈ tr, e.hilo = h := by
  rw [generarSegmento] at hg
  split at hg
  · next hnull =>
      have h₁ : Paso B s ⟨h, .primeraBusqueda pid n, none⟩
          (s.con s.estado h (.porCompactar pid n)) := .sinLugar hf hnull
      have h₂ : Paso B (s.con s.estado h (.porCompactar pid n)) ⟨h, .compactacion pid n, none⟩
          (s.con (fnCompactar B s.estado) h (.porBuscar pid n)) := by
        rw [← Sistema.con_con s s.estado (fnCompactar B s.estado) h (.porCompactar pid n)]
        exact .compactar (Function.update_self ..)
      have h₃ : Paso B (s.con (fnCompactar B s.estado) h (.porBuscar pid n))
          ⟨h, .segundaBusqueda pid n, some r⟩ (s.con t h .libre) := by
        rw [← Sistema.con_con s (fnCompactar B s.estado) t h (.porBuscar pid n)]
        exact .buscar random (Function.update_self ..) hg
      exact ⟨_, _, ((Lts.Run.single h₁).snoc h₂).snoc h₃, by simp⟩
  · next hne =>
      exact ⟨[], _, Lts.Run.single (.crear random hf hne hg), by simp⟩

/-! ### With interference -/

/-- The free bytes are enough for the request, but no gap is. -/
def Fragmentado (B : Bloque) (n : U32) (s : Estado) : Prop :=
  (∀ g ∈ huecos B s.pSegmentos, g.2 < n.toNat) ∧
    n.toNat ≤ ((huecos B s.pSegmentos).map Prod.snd).sum

/-- Some thread has compacted the memory and not searched it again yet. -/
def PorBuscar (s : Sistema) : Prop := ∃ h pid n, s.fase h = .porBuscar pid n

/-- The side condition on the destruction of segments: while some thread is between its compaction
and its second search, the segments destroyed are the last ones of the table. -/
def DestruyeAlFinal (s : Sistema) (e : Evento) : Prop :=
  ∀ p, e.seccion = .eliminarSegmentos p → PorBuscar s →
    s.estado.pSegmentos.Pairwise fun x y => x.idPrograma = p → y.idPrograma = p

/-- The runs with no creation of size zero and with this side condition. -/
def CorridaAlFinal (B : Bloque) : Sistema → List Evento → Sistema → Prop :=
  Lts.Run (Lts.restrict (fun s e => e.seccion.TamanioPositivo ∧ DestruyeAlFinal s e) (Paso B))

/-- The memory is not fragmented exactly when a search that fails does so for lack of memory. -/
theorem not_fragmentado_iff (h : TablaValida B s.pSegmentos) (hn : 0 < n.toNat) :
    (buscarEspacio B s n = null → B.cantMem.toNat < ocupado s.pSegmentos + n.toNat) ↔
      ¬ Fragmentado B n s := by
  have hsum : ((huecos B s.pSegmentos).map Prod.snd).sum + ocupado s.pSegmentos = B.hi - B.lo :=
    h.within.sum_gaps
  have hB := B.hi_eq
  have hnull : buscarEspacio B s n = null ↔ ∀ g ∈ huecos B s.pSegmentos, g.2 < n.toNat := by
    rw [← not_iff_not, ← ne_eq, buscarEspacio_ne_null_iff h hn, Layout.Fits]
    simp only [not_forall, not_lt, exists_prop]
  rw [hnull, Fragmentado, not_and, not_le]
  exact forall_congr' fun _ => by omega

/-- The answer of a second search. -/
theorem segundaBusqueda_respuesta {r : Respuesta} {t : Estado}
    (h : segundaBusqueda B s pid n random = some (r, t)) :
    r = .memory_overload ↔ buscarEspacio B s n = null := by
  rw [segundaBusqueda] at h
  split at h
  · next hnull =>
      obtain ⟨rfl, -⟩ := Prod.mk.inj (Option.some_inj.1 h)
      exact ⟨fun _ => hnull, fun _ => rfl⟩
  · next hne =>
      obtain ⟨d, rfl, -⟩ := crearSegmento_spec h
      exact ⟨fun hr => by simp at hr, fun hnull => absurd hnull hne⟩

/-- While some thread is about to run its second search, the table is packed. -/
def Compacto (B : Bloque) (s : Sistema) : Prop :=
  PorBuscar s → Layout.Packed base len B.lo s.estado.pSegmentos

/-- A thread that finds or creates no `porBuscar` phase brings none. -/
theorem PorBuscar.of_con {s : Sistema} {t : Estado} {h : ℕ} {f : Fase}
    (hf : ∀ pid n, f ≠ .porBuscar pid n) (hp : PorBuscar (s.con t h f)) : PorBuscar s := by
  obtain ⟨i, pid, n, hi⟩ := hp
  rcases eq_or_ne i h with rfl | hne
  · simp only [Sistema.con, Function.update_self] at hi
    exact absurd hi (hf pid n)
  · exact ⟨i, pid, n, by simpa [Sistema.con, hne] using hi⟩

/-- A new segment in a packed table goes at the end. -/
theorem crearSegmento_packed (h : TablaValida B s.pSegmentos) (hn : 0 < n.toNat)
    (hp : buscarEspacio B s n ≠ null) {r : Respuesta} {t : Estado}
    (hc : crearSegmento s pid n (buscarEspacio B s n) random = some (r, t))
    (hpack : Layout.Packed base len B.lo s.pSegmentos) :
    Layout.Packed base len B.lo t.pSegmentos := by
  obtain ⟨d, -, -, -, rfl⟩ := crearSegmento_spec hc
  rcases buscarEspacio_spec h hn with ⟨k, hk, hnk, -⟩ | ⟨hnull, -⟩
  · rw [insertarNodo_eq]
    exact hpack.insertBefore hk (by omega)
  · exact absurd hnull hp

/-- Every step that meets the side condition keeps the table packed while it has to be. -/
theorem Paso.compacto {s t : Sistema} {e : Evento} (h : Paso B s e t) (hv : s.Valido B)
    (he : e.seccion.TamanioPositivo) (hfin : DestruyeAlFinal s e) (hs : Compacto B s) :
    Compacto B t := by
  cases h with
  | sinLugar hf hp => exact fun hpb => hs (hpb.of_con (by simp))
  | crear random hf hp hc =>
      exact fun hpb => crearSegmento_packed hv.tabla he hp hc (hs (hpb.of_con (by simp)))
  | compactar hf => exact fun _ => fnCompactar_packed hv.tabla
  | @buscar i pid n r t random hf hb =>
      intro hpb
      have hn := hv.fases i
      rw [hf] at hn
      have hpack := hs (hpb.of_con (by simp))
      rw [segundaBusqueda] at hb
      split at hb
      · obtain ⟨-, rfl⟩ := Prod.mk.inj (Option.some_inj.1 hb)
        exact hpack
      · next hp => exact crearSegmento_packed hv.tabla hn hp hb hpack
  | @eliminar i pid hf =>
      intro hpb
      have hpb := hpb.of_con (by simp)
      show Layout.Packed base len B.lo (eliminarSegmentos s.estado pid).2.pSegmentos
      rw [eliminarSegmentos_pSegmentos]
      -- what is destroyed is at the end of the table
      refine (hs hpb).filter ((hfin pid rfl hpb).imp fun {x y} hxy => ?_)
      simp only [bne_iff_ne]
      exact fun hy hx => hy (hxy hx)
  | @almacenar i pid st hf =>
      intro hpb
      show Layout.Packed base len B.lo (almacenarBytes s.estado pid st).2.pSegmentos
      rw [almacenarBytes_pSegmentos]
      exact hs (hpb.of_con (by simp))
  | solicitar hf => exact fun hpb => hs (hpb.of_con (by simp))
  | consolaCompactar hf => exact fun _ => fnCompactar_packed hv.tabla
  | consolaAlgoritmo hf => exact fun hpb => hs (hpb.of_con (by simp))

/-- Every run that meets the side condition keeps the table packed while it has to be. -/
theorem CorridaAlFinal.compacto {s t : Sistema} {tr : List Evento} (h : CorridaAlFinal B s tr t)
    (hs : s.Inicial) : t.Valido B ∧ Compacto B t := by
  refine Lts.Run.invariant (I := fun s => s.Valido B ∧ Compacto B s) ?_ h
    ⟨hs.valido, fun ⟨i, _, _, hi⟩ => by simp [hs.2 i] at hi⟩
  exact fun s e t hi hp =>
    ⟨hp.2.valido hi.1 hp.1.1, hp.2.compacto hi.1 hp.1.1 hp.1.2 hi.2⟩

/-- **When `memory_overload` is justified.**  A second search that answers it in a reachable state
does so for lack of memory if and only if the memory was not fragmented; and in a run that destroys
segments only from the end of the table while a thread is between its compaction and its second
search, it never is. -/
theorem memory_overload_justificado (B : Bloque) {s u v : Sistema} {tr : List Evento}
    (hs : s.Inicial) (hrun : Corrida B s tr u) {h : ℕ} {pid : TIdPrograma} {n : U32}
    {r : Respuesta} (hstep : Paso B u ⟨h, .segundaBusqueda pid n, some r⟩ v) :
    ((r = .memory_overload → B.cantMem.toNat < ocupado u.estado.pSegmentos + n.toNat) ↔
        ¬ Fragmentado B n u.estado) ∧
      (CorridaAlFinal B s tr u → ¬ Fragmentado B n u.estado) := by
  have hv := hrun.valido hs.valido
  cases hstep with
  | buscar random hf hb =>
      have hn := hv.fases h
      rw [hf] at hn
      refine ⟨?_, fun hfin => ?_⟩
      · rw [segundaBusqueda_respuesta hb]
        exact not_fragmentado_iff hv.tabla hn
      · have hpack := (hfin.compacto hs).2 ⟨h, pid, n, hf⟩
        refine (not_fragmentado_iff hv.tabla hn).1 fun hnull => ?_
        by_contra hle
        exact (buscarEspacio_ne_null_iff hv.tabla hn).2 (fits_of_packed hpack (by omega)) hnull

/-- A segment at the start of the block. -/
def doceLibres : Sistema :=
  vacio.con { vacio.estado with pSegmentos := [⟨1#32, 4#32, 100#32, 0x1000#32⟩] } 0 .libre

/-- Two segments at the start of the block, and four bytes free at its end. -/
def cuatroLibres : Sistema :=
  doceLibres.con { vacio.estado with
    pSegmentos := [⟨1#32, 4#32, 100#32, 0x1000#32⟩, ⟨2#32, 8#32, 200#32, 0x1004#32⟩] } 0 .libre

/-- The system after a thread that asks for more has compacted the memory. -/
def compactado (n : U32) : Sistema :=
  (cuatroLibres.con cuatroLibres.estado 0 (.porCompactar 3#32 n)).con
    (fnCompactar bloque16 cuatroLibres.estado) 0 (.porBuscar 3#32 n)

/-- The steps that lead to `compactado`. -/
def trazaCompactado (n : U32) : List Evento :=
  [⟨0, .primeraBusqueda 1#32 4#32, some (.segmentoCreado 100#32)⟩,
    ⟨0, .primeraBusqueda 2#32 8#32, some (.segmentoCreado 200#32)⟩,
    ⟨0, .primeraBusqueda 3#32 n, none⟩, ⟨0, .compactacion 3#32 n, none⟩]

theorem corrida_compactado {n : U32} (hn : 0 < n.toNat)
    (hnull : buscarEspacio bloque16 cuatroLibres.estado n = null) :
    CorridaAlFinal bloque16 vacio (trazaCompactado n) (compactado n) := by
  have h₁ : Paso bloque16 vacio
      ⟨0, .primeraBusqueda 1#32 4#32, some (.segmentoCreado 100#32)⟩ doceLibres :=
    .crear [100#32] rfl (by decide) rfl
  have h₂ : Paso bloque16 doceLibres
      ⟨0, .primeraBusqueda 2#32 8#32, some (.segmentoCreado 200#32)⟩ cuatroLibres :=
    .crear [200#32] rfl (by decide) rfl
  have h₃ : Paso bloque16 cuatroLibres ⟨0, .primeraBusqueda 3#32 n, none⟩
      (cuatroLibres.con cuatroLibres.estado 0 (.porCompactar 3#32 n)) := .sinLugar rfl hnull
  have h₄ : Paso bloque16 (cuatroLibres.con cuatroLibres.estado 0 (.porCompactar 3#32 n))
      ⟨0, .compactacion 3#32 n, none⟩ (compactado n) := .compactar rfl
  refine Lts.Run.restrict ((((Lts.Run.single h₁).snoc h₂).snoc h₃).snoc h₄) ?_
  simp [trazaCompactado, Seccion.TamanioPositivo, DestruyeAlFinal, hn]

/-- The system after another thread has destroyed the first segment: four bytes free at each end. -/
def destruido : Sistema :=
  (compactado 8#32).con (eliminarSegmentos (compactado 8#32).estado 1#32).2 1 .libre

/-- The steps that lead to `destruido`. -/
def trazaDestruido : List Evento :=
  trazaCompactado 8#32 ++ [⟨1, .eliminarSegmentos 1#32, some .OK⟩]

theorem corrida_destruido : Corrida bloque16 vacio trazaDestruido destruido := by
  have hantes : Corrida bloque16 vacio (trazaCompactado 8#32) (compactado 8#32) :=
    (corrida_compactado (by decide) (by decide)).restrict_mono fun _ _ => And.left
  exact hantes.snoc ⟨trivial, .eliminar rfl⟩

/-- Eight bytes are free and eight are asked for, but four are at each end of the block. -/
theorem paso_destruido : Paso bloque16 destruido
    ⟨0, .segundaBusqueda 3#32 8#32, some .memory_overload⟩
    (destruido.con destruido.estado 0 .libre) :=
  .buscar [] rfl (by rw [segundaBusqueda, if_pos (by decide)])

/-- The system after another thread has destroyed the last segment, while thirteen bytes are asked
for: twelve bytes free at the end. -/
def destruidoAlFinal : Sistema :=
  (compactado 13#32).con (eliminarSegmentos (compactado 13#32).estado 2#32).2 1 .libre

/-- The steps that lead to `destruidoAlFinal`. -/
def trazaAlFinal : List Evento :=
  trazaCompactado 13#32 ++ [⟨1, .eliminarSegmentos 2#32, some .OK⟩]

theorem corrida_alFinal : CorridaAlFinal bloque16 vacio trazaAlFinal destruidoAlFinal := by
  refine (corrida_compactado (by decide) (by decide)).snoc ⟨⟨trivial, ?_⟩, .eliminar rfl⟩
  rintro p hp -
  cases hp
  decide

/-- Only the last segment was destroyed, and the memory is full. -/
theorem memory_overload_justificado_alFinal :
    CorridaAlFinal bloque16 vacio trazaAlFinal destruidoAlFinal ∧
      16 < ocupado destruidoAlFinal.estado.pSegmentos + 13 ∧
      ¬ Fragmentado bloque16 13#32 destruidoAlFinal.estado := by
  have hpaso : Paso bloque16 destruidoAlFinal ⟨0, .segundaBusqueda 3#32 13#32,
      some .memory_overload⟩
      (destruidoAlFinal.con destruidoAlFinal.estado 0 .libre) :=
    .buscar [] rfl (by rw [segundaBusqueda, if_pos (by decide)])
  have hcorrida : Corrida bloque16 vacio trazaAlFinal destruidoAlFinal :=
    corrida_alFinal.restrict_mono fun _ _ => And.left
  obtain ⟨hiff, hfin⟩ := memory_overload_justificado bloque16 ⟨rfl, fun _ => rfl⟩ hcorrida hpaso
  have hfragmentado := hfin corrida_alFinal
  exact ⟨corrida_alFinal, hiff.2 hfragmentado rfl, hfragmentado⟩

/-- **A spurious `memory_overload`**: the destruction of the first segment, between the compaction
and the second search of another thread, splits the free space. -/
theorem memory_overload_espurio : ∃ u v : Sistema, ∃ tr : List Evento, vacio.Inicial ∧
    Corrida bloque16 vacio tr u ∧
    Paso bloque16 u ⟨0, .segundaBusqueda 3#32 8#32, some .memory_overload⟩ v ∧
    ocupado u.estado.pSegmentos + 8 ≤ bloque16.cantMem.toNat :=
  ⟨destruido, _, trazaDestruido, ⟨rfl, fun _ => rfl⟩, corrida_destruido, paso_destruido, by decide⟩

end Ansisop.Umv
