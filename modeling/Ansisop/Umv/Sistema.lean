/-
**The UMV as a transition system.**

Each connection of the UMV and its console is a thread, and each takes the mutex of the table for
one critical section at a time.  A step of the system is one critical section of one thread, or a
change of `ALG_MEM` by the console.  `generarSegmento` takes up to three steps: a first search,
which also inserts the new entry when it finds room; the compaction; and the second search, with the
insertion.  Between them any other thread may take any number of steps.

The label of a step says which thread ran which section and what it answered.

Main definitions:

* `Ansisop.Umv.Sistema` — the shared state and, for each thread, where it is in `generarSegmento`;
* `Ansisop.Umv.Paso` — the steps, one rule for each critical section and outcome;
* `Ansisop.Umv.Sistema.Valido` — the invariant.

Main results:

* `Ansisop.Umv.Paso.valido` — **every step keeps the table valid**;
* `Ansisop.Umv.tabla_ordenada` — in every reachable state the segments are strictly ordered by
  physical address, inside the block, disjoint, and have distinct logical addresses.
-/

import Ansisop.Lib.Runs
import Ansisop.Umv.Pedidos
import Mathlib.Logic.Function.Basic

set_option relaxedAutoImplicit false
set_option autoImplicit false

namespace Ansisop.Umv

/-! ### Sections and steps -/

/-- Where a thread is in `generarSegmento`, when it does not hold the mutex. -/
inductive Fase
  | libre
  | porCompactar (pid : TIdPrograma) (tamanio : U32)
  | porBuscar (pid : TIdPrograma) (tamanio : U32)
deriving DecidableEq

/-- The shared state of the UMV and the phase of each of its threads. -/
structure Sistema where
  estado : Estado
  fase : ℕ → Fase

/-- The critical sections, with the arguments of the function that runs them. -/
inductive Seccion
  | primeraBusqueda (pid : TIdPrograma) (tamanio : U32)
  | compactacion (pid : TIdPrograma) (tamanio : U32)
  | segundaBusqueda (pid : TIdPrograma) (tamanio : U32)
  | eliminarSegmentos (idPrograma : TIdPrograma)
  | almacenarBytes (idProg : TIdPrograma) (stAlmacenar : AlmacenarBytes)
  | solicitarBytes (idProg : TIdPrograma) (solicitud : SolicitudBytes)
  | fnConsolaCompactar
  | fnConsolaAlgoritmo (algMem : Algoritmo)

/-- The label of a step: the thread, the section and the answer, if the section gives one. -/
structure Evento where
  hilo : ℕ
  seccion : Seccion
  respuesta : Option Respuesta

/-- The system with a new shared state and a new phase of one thread. -/
def Sistema.con (s : Sistema) (estado : Estado) (hilo : ℕ) (fase : Fase) : Sistema :=
  ⟨estado, Function.update s.fase hilo fase⟩

/-- **The steps of the UMV.**  The values that `random()` returns are arbitrary. -/
inductive Paso (B : Bloque) (s : Sistema) : Evento → Sistema → Prop
  | sinLugar {h : ℕ} {pid : TIdPrograma} {n : U32} :
      s.fase h = .libre → buscarEspacio B s.estado n = null →
      Paso B s ⟨h, .primeraBusqueda pid n, none⟩ (s.con s.estado h (.porCompactar pid n))
  | crear {h : ℕ} {pid : TIdPrograma} {n : U32} {r : Respuesta} {t : Estado}
      (random : List TPuntero) :
      s.fase h = .libre → buscarEspacio B s.estado n ≠ null →
      crearSegmento s.estado pid n (buscarEspacio B s.estado n) random = some (r, t) →
      Paso B s ⟨h, .primeraBusqueda pid n, some r⟩ (s.con t h .libre)
  | compactar {h : ℕ} {pid : TIdPrograma} {n : U32} :
      s.fase h = .porCompactar pid n →
      Paso B s ⟨h, .compactacion pid n, none⟩ (s.con (fnCompactar B s.estado) h (.porBuscar pid n))
  | buscar {h : ℕ} {pid : TIdPrograma} {n : U32} {r : Respuesta} {t : Estado}
      (random : List TPuntero) :
      s.fase h = .porBuscar pid n → segundaBusqueda B s.estado pid n random = some (r, t) →
      Paso B s ⟨h, .segundaBusqueda pid n, some r⟩ (s.con t h .libre)
  | eliminar {h : ℕ} {pid : TIdPrograma} :
      s.fase h = .libre →
      Paso B s ⟨h, .eliminarSegmentos pid, some (eliminarSegmentos s.estado pid).1⟩
        (s.con (eliminarSegmentos s.estado pid).2 h .libre)
  | almacenar {h : ℕ} {pid : TIdPrograma} {st : AlmacenarBytes} :
      s.fase h = .libre →
      Paso B s ⟨h, .almacenarBytes pid st, some (almacenarBytes s.estado pid st).1⟩
        (s.con (almacenarBytes s.estado pid st).2 h .libre)
  | solicitar {h : ℕ} {pid : TIdPrograma} {sol : SolicitudBytes} :
      s.fase h = .libre →
      Paso B s ⟨h, .solicitarBytes pid sol, some (solicitarBytes s.estado pid sol)⟩
        (s.con s.estado h .libre)
  | consolaCompactar {h : ℕ} :
      s.fase h = .libre →
      Paso B s ⟨h, .fnConsolaCompactar, none⟩ (s.con (fnCompactar B s.estado) h .libre)
  | consolaAlgoritmo {h : ℕ} {a : Algoritmo} :
      s.fase h = .libre →
      Paso B s ⟨h, .fnConsolaAlgoritmo a, none⟩ (s.con { s.estado with algMem := a } h .libre)

/-- The UMV when it starts listening: no segment, and no thread in `generarSegmento`. -/
def Sistema.Inicial (s : Sistema) : Prop :=
  s.estado.pSegmentos = [] ∧ ∀ h, s.fase h = .libre

/-- No segment of size zero is asked for. -/
def Seccion.TamanioPositivo : Seccion → Prop
  | primeraBusqueda _ n => 0 < n.toNat
  | _ => True

/-! ### The invariant -/

/-- The size that a thread in `generarSegmento` has asked for is positive. -/
def Fase.TamanioPositivo : Fase → Prop
  | libre => True
  | porCompactar _ n => 0 < n.toNat
  | porBuscar _ n => 0 < n.toNat

/-- **The invariant of the system.** -/
structure Sistema.Valido (B : Bloque) (s : Sistema) : Prop where
  /-- the segment table is valid -/
  tabla : TablaValida B s.estado.pSegmentos
  /-- no thread is about to create an empty segment -/
  fases : ∀ h, (s.fase h).TamanioPositivo

variable {B : Bloque} {s t : Sistema} {e : Evento}

/-- Of two steps of one thread, the last one decides. -/
theorem Sistema.con_con (s : Sistema) (e e' : Estado) (h : ℕ) (f f' : Fase) :
    (s.con e h f).con e' h f' = s.con e' h f' := by
  simp [Sistema.con]

theorem Sistema.Inicial.valido (h : s.Inicial) : s.Valido B where
  tabla := h.1 ▸ TablaValida.nil
  fases := fun i => by rw [h.2 i]; trivial

/-- A step of a thread that leaves the table valid and the thread's phase sound. -/
theorem Sistema.Valido.con (h : s.Valido B) {estado : Estado} {hilo : ℕ} {fase : Fase}
    (ht : TablaValida B estado.pSegmentos) (hf : fase.TamanioPositivo) :
    (s.con estado hilo fase).Valido B where
  tabla := ht
  fases := fun i => by
    rcases eq_or_ne i hilo with rfl | hne
    · simpa [Sistema.con] using hf
    · simpa [Sistema.con, hne] using h.fases i

/-- The second search keeps the table valid. -/
theorem segundaBusqueda_valida {s : Estado} (h : TablaValida B s.pSegmentos) {pid : TIdPrograma}
    {n : U32} {random : List TPuntero} {r : Respuesta} {t : Estado} (hn : 0 < n.toNat)
    (hb : segundaBusqueda B s pid n random = some (r, t)) : TablaValida B t.pSegmentos := by
  rw [segundaBusqueda] at hb
  split at hb
  · obtain ⟨-, rfl⟩ := Prod.mk.inj (Option.some_inj.1 hb)
    exact h
  · next hp => exact crearSegmento_valida h hn hp hb

/-- **Every step keeps the table valid.** -/
theorem Paso.valido (h : Paso B s e t) (hs : s.Valido B) (he : e.seccion.TamanioPositivo) :
    t.Valido B := by
  cases h with
  | sinLugar hf hp => exact hs.con hs.tabla he
  | crear random hf hp hc => exact hs.con (crearSegmento_valida hs.tabla he hp hc) trivial
  | @compactar i pid n hf =>
      have hn := hs.fases i
      rw [hf] at hn
      exact hs.con hs.tabla.fnCompactar hn
  | @buscar i pid n r t random hf hb =>
      have hn := hs.fases i
      rw [hf] at hn
      exact hs.con (segundaBusqueda_valida hs.tabla hn hb) trivial
  | @eliminar i pid hf =>
      refine hs.con ?_ trivial
      rw [eliminarSegmentos_pSegmentos]
      exact hs.tabla.filter _
  | almacenar hf =>
      refine hs.con ?_ trivial
      rw [almacenarBytes_pSegmentos]
      exact hs.tabla
  | solicitar hf => exact hs.con hs.tabla trivial
  | consolaCompactar hf => exact hs.con hs.tabla.fnCompactar trivial
  | consolaAlgoritmo hf => exact hs.con hs.tabla trivial

/-- The runs in which no segment of size zero is asked for. -/
def Corrida (B : Bloque) : Sistema → List Evento → Sistema → Prop :=
  Lts.Run (Lts.restrict (fun _ e => e.seccion.TamanioPositivo) (Paso B))

/-- Every run keeps the table valid. -/
theorem Corrida.valido {tr : List Evento} (h : Corrida B s tr t) (hs : s.Valido B) : t.Valido B :=
  Lts.Run.invariant (fun _ _ _ hv hp => hp.2.valido hv hp.1) h hs

/-- **The segment table in every reachable state**: strictly ordered by physical address, inside the
block, no two segments overlapping, no two with the same logical address. -/
theorem tabla_ordenada (B : Bloque) {s t : Sistema} {tr : List Evento} (hs : s.Inicial)
    (h : Corrida B s tr t) :
    (t.estado.pSegmentos.Pairwise fun a b => a.dirFisica < b.dirFisica) ∧
      (∀ x ∈ t.estado.pSegmentos, B.pInicioMemoria.toNat ≤ x.dirFisica.toNat ∧
        x.dirFisica.toNat + x.tamanio.toNat ≤ B.pInicioMemoria.toNat + B.cantMem.toNat) ∧
      (t.estado.pSegmentos.Pairwise fun a b =>
        a.dirFisica.toNat + a.tamanio.toNat ≤ b.dirFisica.toNat) ∧
      (t.estado.pSegmentos.Pairwise fun a b => a.dirLogica ≠ b.dirLogica) := by
  have hv := (h.valido hs.valido).tabla
  refine ⟨?_, fun x hx => hv.within.bounds hx, hv.within.pairwise,
    List.pairwise_map.1 hv.distintas⟩
  refine hv.within.pairwise.imp_of_mem fun {a b} ha _ hab => ?_
  have hpos := hv.pos a ha
  simp only [base, len] at hab hpos
  rw [BitVec.lt_def]
  omega

/-- A block of sixteen bytes. -/
def bloque16 : Bloque :=
  ⟨0x1000#32, 16#32, by decide, pagina_ne_null, by decide⟩

/-- The system at the start, over a memory of zeros. -/
def vacio : Sistema := ⟨⟨.FF, fun _ => 0#8, []⟩, fun _ => .libre⟩

/-- The system after a thread has created a segment of eight bytes. -/
def unSegmento : Sistema :=
  vacio.con { vacio.estado with pSegmentos := [⟨1#32, 8#32, 100#32, 0x1000#32⟩] } 0 .libre

/-- The system after another one has created a second segment of eight bytes. -/
def dosSegmentos : Sistema :=
  unSegmento.con { vacio.estado with
    pSegmentos := [⟨1#32, 8#32, 100#32, 0x1000#32⟩, ⟨2#32, 8#32, 200#32, 0x1008#32⟩] } 1 .libre

/-- The steps that lead to `dosSegmentos`. -/
def trazaDosSegmentos : List Evento :=
  [⟨0, .primeraBusqueda 1#32 8#32, some (.segmentoCreado 100#32)⟩,
    ⟨1, .primeraBusqueda 2#32 8#32, some (.segmentoCreado 200#32)⟩]

theorem run_dosSegmentos : Lts.Run (Paso bloque16) vacio trazaDosSegmentos dosSegmentos := by
  have h₁ : Paso bloque16 vacio
      ⟨0, .primeraBusqueda 1#32 8#32, some (.segmentoCreado 100#32)⟩ unSegmento :=
    .crear [100#32] rfl (by decide) rfl
  have h₂ : Paso bloque16 unSegmento
      ⟨1, .primeraBusqueda 2#32 8#32, some (.segmentoCreado 200#32)⟩ dosSegmentos :=
    .crear [100#32, 200#32] rfl (by decide) rfl
  exact (Lts.Run.single h₁).snoc h₂

theorem corrida_dosSegmentos : Corrida bloque16 vacio trazaDosSegmentos dosSegmentos :=
  run_dosSegmentos.restrict (by simp [trazaDosSegmentos, Seccion.TamanioPositivo])

theorem tabla_ordenada_dosSegmentos :
    (dosSegmentos.estado.pSegmentos.Pairwise fun a b => a.dirFisica < b.dirFisica) ∧
      (∀ x ∈ dosSegmentos.estado.pSegmentos, 0x1000 ≤ x.dirFisica.toNat ∧
        x.dirFisica.toNat + x.tamanio.toNat ≤ 0x1000 + 16) ∧
      (dosSegmentos.estado.pSegmentos.Pairwise fun a b =>
        a.dirFisica.toNat + a.tamanio.toNat ≤ b.dirFisica.toNat) ∧
      (dosSegmentos.estado.pSegmentos.Pairwise fun a b => a.dirLogica ≠ b.dirLogica) :=
  tabla_ordenada bloque16 ⟨rfl, fun _ => rfl⟩ corrida_dosSegmentos

end Ansisop.Umv
