/-
**A program that the UMV has.**

Once `guardar_programa` has accepted a program, its code and its two indices are in segments of the
UMV, and its PCB has their addresses.  They stay there whatever the other connections and the
console do, and the connections of the process too, as long as no store gets past the check of the
UMV with a sum that wraps around and the process does not store over them or give up its segments.

Without a stack, `conectarUMV` writes over the address of the index of labels: an area of size zero
sets it.

Main definitions:

* `Ansisop.Kernel.direccionDeArea`, `Ansisop.Kernel.Queda` — the addresses of the areas in the PCB;
* `Ansisop.Kernel.Alojado` — the areas of a program are in the UMV;
* `Ansisop.Kernel.Respeta` — the critical sections that leave them there;
* `Ansisop.Kernel.SinOtros` — the steps of an attempt in which nothing else happens.

Main results:

* `Ansisop.Kernel.Comienza.alojado` — **a program that was accepted is in the UMV**;
* `Ansisop.Kernel.Alojado.run` — **it stays there**;
* `Ansisop.Kernel.Alojado.lee` — a read in bounds gives the bytes of the area;
* `Ansisop.Kernel.sinOtros_cuatro` — a program whose segments go into the table is accepted.
-/

import Ansisop.Kernel.Admision

set_option relaxedAutoImplicit false
set_option autoImplicit false

namespace Ansisop.Kernel

open Umv (Bloque PedidoUmv MensajeUmv Conexion)

/-! ### The addresses in the PCB -/

/-- The field of the PCB for the address of an area that is filled. -/
def direccionDeArea (pcb : Pcb) : ℕ → TPuntero
  | 0 => pcb.segmentoCodigo
  | 1 => pcb.indiceCodigo
  | _ => pcb.indiceEtiqueta

/-- The area has a segment whose address stays in the PCB. -/
def Queda (prog : Prog) (stack : U32) (i : ℕ) : Prop :=
  i < 3 ∧ arrayDeTamano prog stack i ≠ 0#32 ∧ (i = 2 → stack ≠ 0#32)

/-- The segment of the area is filled. -/
def LocGuardar.pasada (j : ℕ) : LocGuardar → Prop
  | area i => j < i
  | crea i => j < i
  | almacena i _ => j < i
  | acepta => True
  | aceptado => True
  | _ => False

variable {B : Bloque} {prog : Prog} {stack : U32} {programa : Programa} {h h' i j : ℕ}
  {v v' : Admision} {e : Intento} {pcb : Pcb} {d : TPuntero}

theorem direccionDeArea_asignarArea (hj : j < 3) (hne : j ≠ i) (d : TPuntero) (pcb : Pcb) :
    direccionDeArea (asignarArea i d pcb) j = direccionDeArea pcb j := by
  match i, j with
  | 0, 0 | 1, 1 | 2, 2 => exact absurd rfl hne
  | 0, 1 | 0, 2 | 1, 0 | 1, 2 | 2, 0 | 2, 1 => rfl
  | _ + 3, 0 | _ + 3, 1 | _ + 3, 2 => rfl
  | _, _ + 3 => omega

theorem direccionDeArea_asignarArea_self (hi : i < 3) (d : TPuntero) (pcb : Pcb) :
    direccionDeArea (asignarArea i d pcb) i = d := by
  match i with
  | 0 | 1 | 2 => rfl
  | _ + 3 => omega

/-- An area of size zero writes over the address of the index of labels, which is not there yet but
for the stack. -/
theorem direccionDeArea_vacia (hj : Queda prog stack j) (hji : j < i) (hi : i < 4)
    (hcero : arrayDeTamano prog stack i = 0#32) (pcb : Pcb) :
    direccionDeArea { pcb with indiceEtiqueta := 1#32 } j = direccionDeArea pcb j := by
  obtain ⟨hj3, -, hstack⟩ := hj
  match j with
  | 0 | 1 => rfl
  | 2 =>
      obtain rfl : i = 3 := by omega
      exact absurd hcero (hstack rfl)
  | _ + 3 => omega

/-! ### The addresses in an attempt -/

/-- **The invariant of the attempt in its PCB**: the areas that are filled are at the addresses that
the PCB has for them. -/
structure Dirigida (prog : Prog) (stack : U32) (programa : Programa) (v : Admision) : Prop where
  guardada : ∀ j, Queda prog stack j → v.loc.pasada j →
    Guardada prog stack (v.umv.estado.abstracta (pidDe programa)) j (direccionDeArea v.pcb j)
  /-- the segment that is filled now is another one -/
  nueva : ∀ i d, v.loc = .almacena i d → ∀ j < i, Queda prog stack j → direccionDeArea v.pcb j ≠ d

/-- Where no area is filled there is nothing to say. -/
theorem Dirigida.of_not_pasada (hpasada : ∀ j, ¬v.loc.pasada j) :
    Dirigida prog stack programa v where
  guardada := fun j _ hj => absurd hj (hpasada j)
  nueva := fun _ _ hloc j hj =>
    absurd (hloc ▸ (show LocGuardar.pasada j (.almacena _ _) from hj)) (hpasada j)

/-- The segments of the process are the same. -/
theorem Dirigida.conserva (hv : Dirigida prog stack programa v) (hloc : v'.loc = v.loc)
    (hpcb : v'.pcb = v.pcb) (humv : v'.umv.estado.abstracta (pidDe programa) =
      v.umv.estado.abstracta (pidDe programa)) : Dirigida prog stack programa v' where
  guardada := by
    rw [hloc, hpcb, humv]
    exact hv.guardada
  nueva := by
    rw [hloc, hpcb]
    exact hv.nueva

/-- **A critical section of the attempt keeps the addresses.** -/
theorem Dirigida.propio (hv : Dirigida prog stack programa v)
    (hcurso : EnCurso B prog stack programa v) {stConexion : Conexion} {umv : Umv.Sistema}
    {loc : LocGuardar}
    (hefecto : Efecto prog stack (pidDe programa) v.loc v.pcb v.umv.estado.abstracta loc pcb
      umv.estado.abstracta) :
    Dirigida prog stack programa
      { v with umv := umv, stConexion := stConexion, loc := loc, pcb := pcb } := by
  have hguardada := hv.guardada
  generalize habs : umv.estado.abstracta = b at hefecto
  cases hefecto with
  | espera => exact hv.conserva rfl rfl (congrFun habs _)
  | error _ => exact .of_not_pasada fun _ => id
  | @creada i d bs hloc hnuevo hlen =>
      rw [hloc] at hguardada
      -- the new segment is not at the address of an area
      have hotra (j : ℕ) (hj : Queda prog stack j) (hji : j < i) : direccionDeArea v.pcb j ≠ d := by
        intro heq
        obtain ⟨bs', hbs, -⟩ := hguardada j hj hji
        exact absurd (hnuevo.symm.trans (heq ▸ hbs)) (by simp)
      have hsigue (j : ℕ) (hj : Queda prog stack j) (hji : j < i) : Guardada prog stack
          (umv.estado.abstracta (pidDe programa)) j (direccionDeArea v.pcb j) := by
        obtain ⟨bs', hbs, hguardada⟩ := hguardada j hj hji
        refine ⟨bs', ?_, hguardada⟩
        rw [habs, SegMem.create_of_ne fun h => hotra j hj hji h.2]
        exact hbs
      by_cases hi3 : i < 3
      · rw [if_pos hi3, if_pos hi3]
        refine ⟨fun j hj hji => hsigue j hj hji, fun i' d' heq j hji hj => ?_⟩
        obtain ⟨rfl, rfl⟩ := LocGuardar.almacena.inj heq
        exact hotra j hj hji
      · rw [if_neg hi3, if_neg hi3]
        refine ⟨fun j hj _ => ?_, fun i' d' heq => absurd heq (by simp)⟩
        have hji : j < i := hj.1.trans_le (Nat.not_lt.1 hi3)
        rw [direccionDeArea_asignarArea hj.1 hji.ne]
        exact hsigue j hj hji
  | @llenada i d hloc =>
      have hhecho := hcurso.hecho
      rw [hloc] at hguardada hhecho
      obtain ⟨hi, -⟩ := hhecho
      refine ⟨fun j hj hji => ?_, fun i' d' heq => absurd heq (by simp)⟩
      rcases Nat.lt_succ_iff_lt_or_eq.1 hji with hji | rfl
      · obtain ⟨bs', hbs, hguardada⟩ := hguardada j hj hji
        rw [direccionDeArea_asignarArea hj.1 hji.ne]
        refine ⟨bs', ?_, hguardada⟩
        rw [habs, SegMem.create_of_ne fun h => hv.nueva i d hloc j hji hj h.2]
        exact hbs
      · rw [direccionDeArea_asignarArea_self hi]
        refine ⟨contenido prog j, ?_, length_contenido prog stack hi, fun _ => rfl⟩
        rw [habs]
        exact SegMem.create_self
  | destruida _ => exact .of_not_pasada fun _ => id

/-- A request that writes the record of the connection comes before the areas. -/
theorem not_pasada_of_registro {p : PedidoUmv} {m : MensajeUmv} {c c' : Conexion} {pcb' : Pcb}
    {loc loc' : LocGuardar} (hp : pedidoDe prog stack pcb loc = some p) (hl : p.Llega c m c')
    (hm : m = .handshake ∨ m = .cambioProcesoActivo)
    (htras : trasRespuestaUmv pcb loc .OK = some (loc', pcb')) (j : ℕ) : ¬loc'.pasada j := by
  cases loc with
  | saluda rechazo =>
      cases htras
      exact id
  | cambiaProceso rechazo =>
      cases htras
      cases rechazo with
      | false => exact Nat.not_lt_zero j
      | true => exact id
  | crea i => cases htras
  | almacena i d =>
      cases hp
      obtain ⟨-, st, rfl, -⟩ := hl
      exact absurd hm (by simp)
  | destruye =>
      cases htras
      exact id
  | _ => cases hp

/-- What the attempt does between its requests keeps the addresses. -/
theorem Dirigida.interno (hv : Dirigida prog stack programa v)
    (hpaso : pasoInterno prog stack programa v = some v') : Dirigida prog stack programa v' := by
  have hguardada := hv.guardada
  rw [pasoInterno] at hpaso
  cases hloc : v.loc with
  | area i =>
      rw [hloc] at hguardada
      simp only [hloc] at hpaso
      split at hpaso
      · rename_i hi
        split at hpaso
        · rename_i hcero
          cases hpaso
          refine ⟨fun j hj hji => ?_, fun _ _ heq => absurd heq (by simp)⟩
          rcases Nat.lt_succ_iff_lt_or_eq.1 hji with hji | rfl
          · rw [direccionDeArea_vacia hj hji hi hcero]
            exact hguardada j hj hji
          · exact absurd hcero hj.2.1
        · cases hpaso
          exact ⟨hguardada, fun _ _ heq => absurd heq (by simp)⟩
      · rename_i hi
        cases hpaso
        exact ⟨fun j hj _ => hguardada j hj (by have := hj.1; show j < i; omega),
          fun _ _ heq => absurd heq (by simp)⟩
  | acepta =>
      rw [hloc] at hguardada
      simp only [hloc] at hpaso
      obtain ⟨kernel, -, rfl⟩ := Option.map_eq_some_iff.1 hpaso
      exact ⟨hguardada, fun _ _ heq => absurd heq (by simp)⟩
  | rechaza =>
      simp only [hloc] at hpaso
      obtain ⟨kernel, -, rfl⟩ := Option.map_eq_some_iff.1 hpaso
      exact .of_not_pasada fun _ => id
  | _ => exact absurd hpaso (by simp [hloc])

/-- **Every step keeps the addresses.** -/
theorem Dirigida.paso (hv : Dirigida prog stack programa v)
    (hcurso : EnCurso B prog stack programa v) (hsin : SinDesbordes v e)
    (hpaso : PasoAdmision B prog stack programa h h' v e v') : Dirigida prog stack programa v' := by
  cases hpaso with
  | hilo _ _ _ _ => exact hv.conserva rfl rfl rfl
  | ajeno _ _ _ hproceso hpos hpaso =>
      refine hv.conserva rfl rfl ?_
      rcases ajeno_abstracto hcurso.umv hsin hpos hpaso with ⟨-, hestado⟩ | ⟨-, habs⟩
      · exact congrArg (fun s => Umv.Estado.abstracta s (pidDe programa)) hestado
      · exact funext (habs.ajena hproceso)
  | registro hp hl hm htras => exact .of_not_pasada (not_pasada_of_registro hp hl hm htras)
  | propio hp hl ha _ hpaso htras =>
      obtain ⟨-, -, -, hefecto⟩ := hcurso.efecto hp hl ha hpaso htras
      exact hv.propio hcurso hefecto
  | interno hpaso => exact hv.interno hpaso

/-- **The size of the index of labels stays as it was** in the PCB. -/
theorem tamanioEtiqueta_paso (hpaso : PasoAdmision B prog stack programa h h' v e v') :
    v'.pcb.tamanioEtiqueta = v.pcb.tamanioEtiqueta := by
  have hasigna (i : ℕ) (d : TPuntero) (pcb : Pcb) :
      (asignarArea i d pcb).tamanioEtiqueta = pcb.tamanioEtiqueta := by
    match i with
    | 0 | 1 | 2 | _ + 3 => rfl
  have htras {pcb pcb' : Pcb} {loc loc' : LocGuardar} {r : Umv.Respuesta}
      (h : trasRespuestaUmv pcb' loc r = some (loc', pcb)) :
      pcb.tamanioEtiqueta = pcb'.tamanioEtiqueta := by
    cases loc with
    | crea i =>
        cases r with
        | segmentoCreado d =>
            rw [trasRespuestaUmv] at h
            split at h
            · cases h
              rfl
            · cases h
              exact hasigna i d pcb'
        | _ => cases h <;> rfl
    | almacena i d =>
        cases h
        exact hasigna i d pcb'
    | _ => cases h <;> rfl
  cases hpaso with
  | hilo _ _ _ _ => rfl
  | ajeno _ _ _ _ _ _ => rfl
  | registro _ _ _ h => exact htras h
  | propio _ _ _ _ _ h =>
      split at h
      · cases h
        rfl
      · exact htras h
  | interno hpaso =>
      rw [pasoInterno] at hpaso
      cases hloc : v.loc with
      | area i =>
          simp only [hloc] at hpaso
          split at hpaso
          · split at hpaso <;> cases hpaso <;> rfl
          · cases hpaso
            rfl
      | acepta =>
          simp only [hloc] at hpaso
          obtain ⟨kernel, -, rfl⟩ := Option.map_eq_some_iff.1 hpaso
          rfl
      | rechaza =>
          simp only [hloc] at hpaso
          obtain ⟨kernel, -, rfl⟩ := Option.map_eq_some_iff.1 hpaso
          rfl
      | _ => exact absurd hpaso (by simp [hloc])

/-! ### A program in the UMV -/

/-- **The areas of a program are in the UMV**, at the addresses that its PCB has. -/
structure Alojado (B : Bloque) (prog : Prog) (stack : U32) (pid : TIdPrograma) (pcb : Pcb)
    (s : Umv.Sistema) : Prop where
  valido : s.Valido B
  area : ∀ i, Queda prog stack i →
    s.estado.abstracta pid (direccionDeArea pcb i) = some (contenido prog i)

/-- **A program that was accepted is in the UMV**, when no store of another connection got past the
check with a sum that wraps around. -/
theorem Comienza.alojado {v₀ : Admision} {tr : List Intento} (hv₀ : Comienza B programa v₀)
    (hrun : Lts.Run (Lts.restrict SinDesbordes (PasoAdmision B prog stack programa h h')) v₀ tr v)
    (hloc : v.loc = .aceptado) :
    Alojado B prog stack (pidDe programa) v.pcb v.umv ∧
    v.pcb.tamanioEtiqueta = v₀.pcb.tamanioEtiqueta := by
  have hkernel₀ : EnKernel prog programa v₀ v₀.kernel := hv₀.enKernel
  have hinicio : Dirigida prog stack programa v₀ := by
    refine .of_not_pasada fun _ => ?_
    rw [hv₀.loc]
    exact id
  obtain ⟨hcurso, hdirigida, htamanio⟩ := hrun.invariant
    (I := fun v => EnCurso B prog stack programa v ∧ Dirigida prog stack programa v ∧
      v.pcb.tamanioEtiqueta = v₀.pcb.tamanioEtiqueta)
    (fun _ _ _ hv he => ⟨(hv.1.paso he.1 he.2).1, hv.2.1.paso hv.1 he.1 he.2,
      (tamanioEtiqueta_paso he.2).trans hv.2.2⟩)
    ⟨hv₀.enCurso hkernel₀.propio, hinicio, rfl⟩
  refine ⟨⟨hcurso.umv, fun i hi => ?_⟩, htamanio⟩
  have hguardada := hdirigida.guardada i hi
  rw [hloc] at hguardada
  obtain ⟨bs, hbs, -, hcontenido⟩ := hguardada trivial
  rw [hbs, hcontenido hi.1]

/-- **The critical sections that leave a program where it is.**  None asks for an empty segment, no
store gets past the check with a sum that wraps around, and the process neither stores over its code
and its indices nor gives up its segments. -/
def Respeta (prog : Prog) (stack : U32) (pid : TIdPrograma) (pcb : Pcb) (s : Umv.Sistema)
    (e : Umv.Evento) : Prop :=
  match e.seccion with
  | .primeraBusqueda _ n => 0 < n.toNat
  | .eliminarSegmentos idPrograma => idPrograma ≠ pid
  | .almacenarBytes idProg st => Umv.SinDesborde s.estado idProg st.base st.offset st.tamanio ∧
      (idProg = pid → ∀ i, Queda prog stack i → st.base ≠ direccionDeArea pcb i)
  | _ => True

variable {pid : TIdPrograma} {s t : Umv.Sistema} {tr : List Umv.Evento}

/-- **A critical section that leaves the program where it is.** -/
theorem Alojado.paso (hs : Alojado B prog stack pid pcb s) {e : Umv.Evento}
    (hrespeta : Respeta prog stack pid pcb s e) (hpaso : Umv.Paso B s e t) :
    Alojado B prog stack pid pcb t := by
  obtain ⟨k, sec, r⟩ := e
  cases sec with
  | solicitarBytes idProg sol =>
      have hestado := lee_estado hpaso
      refine ⟨hpaso.valido hs.valido trivial, fun i hi => ?_⟩
      rw [hestado]
      exact hs.area i hi
  | almacenarBytes idProg st =>
      have habs := hpaso.abstracto hrespeta.1 hs.valido
      refine ⟨hpaso.valido hs.valido trivial, fun i hi => habs.queda (hs.area i hi) (by simp) ?_⟩
      intro st' heq
      obtain ⟨rfl, rfl⟩ := Umv.Seccion.almacenarBytes.inj heq
      exact hrespeta.2 rfl i hi
  | eliminarSegmentos idPrograma =>
      have habs := hpaso.abstracto trivial hs.valido
      refine ⟨hpaso.valido hs.valido trivial, fun i hi => habs.queda (hs.area i hi) ?_ (by simp)⟩
      exact fun heq => hrespeta (Umv.Seccion.eliminarSegmentos.inj heq)
  | primeraBusqueda idPrograma n =>
      have habs := hpaso.abstracto hrespeta hs.valido
      exact ⟨hpaso.valido hs.valido hrespeta,
        fun i hi => habs.queda (hs.area i hi) (by simp) (by simp)⟩
  | _ =>
      have habs := hpaso.abstracto trivial hs.valido
      exact ⟨hpaso.valido hs.valido trivial,
        fun i hi => habs.queda (hs.area i hi) (by simp) (by simp)⟩

/-- **The program stays there.** -/
theorem Alojado.run (hs : Alojado B prog stack pid pcb s)
    (hrun : Lts.Run (Lts.restrict (Respeta prog stack pid pcb) (Umv.Paso B)) s tr t) :
    Alojado B prog stack pid pcb t :=
  hrun.invariant (fun _ _ _ hs he => hs.paso he.1 he.2) hs

/-! ### What is read -/

/-- **A read in bounds gives the bytes of the area.** -/
theorem Alojado.lee (hs : Alojado B prog stack pid pcb s) (hi : Queda prog stack i)
    {sol : SolicitudBytes} (hbase : sol.base = direccionDeArea pcb i)
    (hle : sol.offset.toNat + sol.tamanio.toNat ≤ (contenido prog i).length) :
    Umv.solicitarBytes s.estado pid sol =
      .bytesSolicitados (((contenido prog i).drop sol.offset.toNat).take sol.tamanio.toNat) := by
  have htabla := hs.valido.tabla.toTablaBienFormada
  obtain ⟨x, hx, hd, hbytes⟩ := (Umv.muestra_abstracta htabla).exists_mem (hs.area i hi)
  have hrango : Umv.EnRango sol.offset sol.tamanio x := by
    rw [← hbytes, Umv.length_bytes] at hle
    exact hle
  rw [Umv.solicitarBytes_enRango htabla hx (hbase ▸ hd) hrango, hbytes]

/-- The code fits in the memory, so the length of the script is an `int`. -/
theorem Alojado.archivo_lt (hs : Alojado B prog stack pid pcb s) :
    prog.archivoAnsisop.length + 1 < 2 ^ 31 := by
  have harchivo := prog.archivo_lt
  have hqueda : Queda prog stack 0 := by
    refine ⟨by decide, fun hcero => ?_, fun hdos => absurd hdos (by decide)⟩
    have htoNat := congrArg BitVec.toNat hcero
    rw [arrayDeTamano, BitVec.toNat_ofNat, Nat.mod_eq_of_lt harchivo] at htoNat
    exact absurd htoNat (by simp)
  have htabla := hs.valido.tabla.toTablaBienFormada
  obtain ⟨x, hx, -, hbytes⟩ := (Umv.muestra_abstracta htabla).exists_mem (hs.area 0 hqueda)
  have hlen := congrArg List.length hbytes
  rw [Umv.length_bytes, contenido, List.length_append, List.length_singleton, Umv.len] at hlen
  have hbounds := htabla.within.bounds hx
  have hcant := B.cantMem_lt
  rw [B.hi_eq, Umv.len] at hbounds
  omega

/-! ### An admission in which nothing else happens -/

/-- The UMV when no thread is in `generarSegmento`. -/
def quieto (s : Umv.Estado) : Umv.Sistema := ⟨s, fun _ => .libre⟩

theorem quieto_con (s t : Umv.Estado) (h : ℕ) : (quieto s).con t h .libre = quieto t := by
  rw [Umv.Sistema.con]
  exact congrArg (Umv.Sistema.mk t) (Function.update_eq_self h _)

/-- The attempt, once the record of its connection is written. -/
def enIntento (k : Sistema) (programa : Programa) (s : Umv.Estado) (loc : LocGuardar) (pcb : Pcb) :
    Admision :=
  ⟨k, quieto s, ⟨Umv.tipoKernel, pidDe programa⟩, loc, pcb⟩

variable {k : Sistema} {est : Umv.Estado} {alg : Umv.Algoritmo} {memoria : TPuntero → Byte}
  {xs ys : List Umv.TipoSegmento} {n : U32}

/-- The steps of the attempt of a program that is alone. -/
abbrev SinOtros (B : Bloque) (prog : Prog) (stack : U32) (programa : Programa) :
    Admision → List Intento → Admision → Prop :=
  Lts.Run (Lts.restrict SinDesbordes (PasoAdmision B prog stack programa 0 1))

theorem SinOtros.nada : SinOtros B prog stack programa v [] v := Lts.Run.nil

theorem SinOtros.sigue {tr : List Intento} {v'' : Admision}
    (hrun : SinOtros B prog stack programa v tr v')
    (hpaso : PasoAdmision B prog stack programa 0 1 v' e v'') (he : ∀ e', e ≠ .ajeno e') :
    SinOtros B prog stack programa v (tr ++ [e]) v'' := by
  refine hrun.snoc ⟨?_, hpaso⟩
  cases e with
  | ajeno e' => exact absurd rfl (he e')
  | _ => trivial

/-- The record of the connection is written. -/
theorem sinOtros_inicio (B : Bloque) (prog : Prog) (stack : U32) (k : Sistema) (est : Umv.Estado)
    (hpid : pcb.pid = pidDe programa) :
    SinOtros B prog stack programa ⟨k, quieto est, ⟨0#32, 0#32⟩, .saluda false, pcb⟩
      [.registro, .registro] (enIntento k programa est (.area 0) pcb) := by
  have h₁ : PasoAdmision B prog stack programa 0 1
      ⟨k, quieto est, ⟨0#32, 0#32⟩, .saluda false, pcb⟩ .registro
      ⟨k, quieto est, ⟨Umv.tipoKernel, 0#32⟩, .cambiaProceso false, pcb⟩ :=
    .registro (p := .handshake Umv.tipoKernel) rfl ⟨rfl, rfl⟩ (Or.inl rfl) rfl
  have h₂ : PasoAdmision B prog stack programa 0 1
      ⟨k, quieto est, ⟨Umv.tipoKernel, 0#32⟩, .cambiaProceso false, pcb⟩ .registro
      (enIntento k programa est (.area 0) pcb) :=
    .registro (p := .cambioProcesoActivo (pidDe programa)) (by rw [← hpid]; rfl) ⟨rfl, rfl⟩
      (Or.inr rfl) rfl
  exact (SinOtros.nada.sigue h₁ (by simp)).sigue h₂ (by simp)

/-- An area of size zero has no segment. -/
theorem sinOtros_vacia (B : Bloque) (k : Sistema) (programa : Programa)
    (est : Umv.Estado) (pcb : Pcb) (hi : i < 4) (hcero : arrayDeTamano prog stack i = 0#32) :
    SinOtros B prog stack programa (enIntento k programa est (.area i) pcb) [.interno]
      (enIntento k programa est (.area (i + 1)) { pcb with indiceEtiqueta := 1#32 }) := by
  have h₁ : PasoAdmision B prog stack programa 0 1 (enIntento k programa est (.area i) pcb) .interno
      (enIntento k programa est (.area (i + 1)) { pcb with indiceEtiqueta := 1#32 }) := by
    refine .interno ?_
    simp [pasoInterno, enIntento, hi, hcero]
  exact SinOtros.nada.sigue h₁ (by simp)

/-- A new segment goes into the table, whatever there is in the memory. -/
def Entra (B : Bloque) (alg : Umv.Algoritmo) (xs : List Umv.TipoSegmento)
    (pid : TIdPrograma) (n : U32) (d : TPuntero) (ys : List Umv.TipoSegmento) : Prop :=
  n ≠ 0#32 ∧ ∀ memoria, Umv.buscarEspacio B ⟨alg, memoria, xs⟩ n ≠ null ∧
    ∃ random, Umv.crearSegmento ⟨alg, memoria, xs⟩ pid n (Umv.buscarEspacio B ⟨alg, memoria, xs⟩ n)
      random =
      some (.segmentoCreado d, ⟨alg, memoria, ys⟩)

/-- It is enough that it goes in with a memory of zeros. -/
theorem Entra.de_ceros (random : List TPuntero) (hn : n ≠ 0#32)
    (hespacio : Umv.buscarEspacio B ⟨alg, fun _ => 0#8, xs⟩ n ≠ null)
    (hcrear : Umv.crearSegmento ⟨alg, fun _ => 0#8, xs⟩ pid n
      (Umv.buscarEspacio B ⟨alg, fun _ => 0#8, xs⟩ n) random =
        some (.segmentoCreado d, ⟨alg, fun _ => 0#8, ys⟩)) : Entra B alg xs pid n d ys := by
  refine ⟨hn, fun memoria => ?_⟩
  have hbusca : Umv.buscarEspacio B ⟨alg, memoria, xs⟩ n =
      Umv.buscarEspacio B ⟨alg, fun _ => 0#8, xs⟩ n := by
    cases alg <;> rfl
  obtain ⟨dirLogica, hdir, heq⟩ := Option.map_eq_some_iff.1 hcrear
  cases heq
  exact ⟨hbusca ▸ hespacio, random, by rw [hbusca, Umv.crearSegmento, hdir]; rfl⟩

/-- The segment of an area is created. -/
theorem sinOtros_crea (k : Sistema) (memoria : TPuntero → Byte) (pcb : Pcb) (hi : i < 4)
    (hn : arrayDeTamano prog stack i = n)
    (hentra : Entra B alg xs (pidDe programa) n d ys) :
    SinOtros B prog stack programa (enIntento k programa ⟨alg, memoria, xs⟩ (.area i) pcb)
      [.interno, .propio ⟨0, .primeraBusqueda (pidDe programa) n, some (.segmentoCreado d)⟩]
      (enIntento k programa ⟨alg, memoria, ys⟩ (if i < 3 then .almacena i d else .area (i + 1))
        (if i < 3 then pcb else asignarArea i d pcb)) := by
  obtain ⟨hno, hentra⟩ := hentra
  obtain ⟨hespacio, random, hcrear⟩ := hentra memoria
  have h₁ : PasoAdmision B prog stack programa 0 1
      (enIntento k programa ⟨alg, memoria, xs⟩ (.area i) pcb) .interno
      (enIntento k programa ⟨alg, memoria, xs⟩ (.crea i) pcb) := by
    refine .interno ?_
    simp [pasoInterno, enIntento, hi, hn, hno]
  have hpaso : Umv.Paso B (quieto ⟨alg, memoria, xs⟩)
      ⟨0, .primeraBusqueda (pidDe programa) n, some (.segmentoCreado d)⟩
        (quieto ⟨alg, memoria, ys⟩) := by
    have hcrea : Umv.Paso B (quieto ⟨alg, memoria, xs⟩)
        ⟨0, .primeraBusqueda (pidDe programa) n, some (.segmentoCreado d)⟩
        ((quieto ⟨alg, memoria, xs⟩).con ⟨alg, memoria, ys⟩ 0 .libre) :=
      .crear random rfl hespacio hcrear
    rwa [quieto_con] at hcrea
  have htras : trasRespuestaUmv pcb (.crea i) (.segmentoCreado d) =
      some (if i < 3 then .almacena i d else .area (i + 1),
        if i < 3 then pcb else asignarArea i d pcb) := by
    rw [trasRespuestaUmv]
    split <;> rfl
  have h₂ : PasoAdmision B prog stack programa 0 1
      (enIntento k programa ⟨alg, memoria, xs⟩ (.crea i) pcb)
      (.propio ⟨0, .primeraBusqueda (pidDe programa) n, some (.segmentoCreado d)⟩)
      (enIntento k programa ⟨alg, memoria, ys⟩ (if i < 3 then .almacena i d else .area (i + 1))
        (if i < 3 then pcb else asignarArea i d pcb)) :=
    .propio (p := .crearSegmento n) (by rw [← hn]; rfl) ⟨rfl, rfl⟩ (.primeraBusqueda rfl)
      rfl hpaso htras
  exact (SinOtros.nada.sigue h₁ (by simp)).sigue h₂ (by simp)

/-- **An area gets its segment and is filled.** -/
theorem sinOtros_area (k : Sistema) (memoria : TPuntero → Byte) (pcb : Pcb) (hi : i < 3)
    (hn : arrayDeTamano prog stack i = n)
    (hentra : Entra B alg xs (pidDe programa) n d ys) :
    ∃ tr, SinOtros B prog stack programa (enIntento k programa ⟨alg, memoria, xs⟩ (.area i) pcb) tr
      (enIntento k programa ⟨alg, (Umv.almacenarBytes ⟨alg, memoria, ys⟩ (pidDe programa)
        (almacenarEnUMV prog stack i d)).2.memoria, ys⟩ (.area (i + 1)) (asignarArea i d pcb)) := by
  have hcrea := sinOtros_crea k memoria pcb (Nat.lt_succ_of_lt hi) hn hentra
  rw [if_pos hi, if_pos hi] at hcrea
  obtain ⟨st, hst⟩ : ∃ st, st = almacenarEnUMV prog stack i d := ⟨_, rfl⟩
  have hestado : (Umv.almacenarBytes ⟨alg, memoria, ys⟩ (pidDe programa) st).2 =
      ⟨alg, (Umv.almacenarBytes ⟨alg, memoria, ys⟩ (pidDe programa) st).2.memoria, ys⟩ := by
    rw [Umv.almacenarBytes]
    split
    · rfl
    · split <;> rfl
  have hpaso : Umv.Paso B (quieto ⟨alg, memoria, ys⟩) ⟨0, .almacenarBytes (pidDe programa) st,
      some (Umv.almacenarBytes ⟨alg, memoria, ys⟩ (pidDe programa) st).1⟩
      (quieto ⟨alg, (Umv.almacenarBytes ⟨alg, memoria, ys⟩ (pidDe programa) st).2.memoria,
        ys⟩) := by
    have halmacena : Umv.Paso B (quieto ⟨alg, memoria, ys⟩) ⟨0, .almacenarBytes (pidDe programa) st,
        some (Umv.almacenarBytes ⟨alg, memoria, ys⟩ (pidDe programa) st).1⟩
        ((quieto ⟨alg, memoria, ys⟩).con
          (Umv.almacenarBytes ⟨alg, memoria, ys⟩ (pidDe programa) st).2 0 .libre) :=
      .almacenar rfl
    rwa [quieto_con, hestado] at halmacena
  have h₁ : PasoAdmision B prog stack programa 0 1
      (enIntento k programa ⟨alg, memoria, ys⟩ (.almacena i d) pcb)
      (.propio ⟨0, .almacenarBytes (pidDe programa) st,
        some (Umv.almacenarBytes ⟨alg, memoria, ys⟩ (pidDe programa) st).1⟩)
      (enIntento k programa
        ⟨alg, (Umv.almacenarBytes ⟨alg, memoria, ys⟩ (pidDe programa) st).2.memoria, ys⟩
        (.area (i + 1)) (asignarArea i d pcb)) :=
    .propio (p := .almacenar st) (by rw [hst]; rfl) ⟨rfl, st, rfl, rfl, rfl, rfl, fun _ _ =>
      rfl⟩ .almacenar
      rfl hpaso rfl
  subst hst
  exact ⟨_, hcrea.sigue h₁ (by simp)⟩

/-- The stack gets its segment. -/
theorem sinOtros_stack (prog : Prog) (k : Sistema) (memoria : TPuntero → Byte) (pcb : Pcb)
    (hentra : Entra B alg xs (pidDe programa) stack d ys) : ∃ tr,
    SinOtros B prog stack programa (enIntento k programa ⟨alg, memoria, xs⟩ (.area 3) pcb) tr
      (enIntento k programa ⟨alg, memoria, ys⟩ (.area 4) (asignarArea 3 d pcb)) :=
  ⟨_, sinOtros_crea k memoria pcb (by decide) rfl hentra⟩

/-- The program is accepted. -/
theorem sinOtros_fin (B : Bloque) (prog : Prog) (stack : U32) (est : Umv.Estado) (pcb : Pcb)
    (hplp : k.plp = .guarda programa) : ∃ tr k',
    SinOtros B prog stack programa (enIntento k programa est (.area 4) pcb) tr
      (enIntento k' programa est .aceptado pcb) := by
  have h₁ : PasoAdmision B prog stack programa 0 1 (enIntento k programa est (.area 4) pcb) .interno
      (enIntento k programa est .acepta pcb) := .interno rfl
  obtain ⟨k', hk'⟩ : ∃ k', paso { k with comun := escribirPcb k.comun programa pcb }
      (.plp (some (calcularPeso prog pcb))) = some k' := by
    simp [paso, hplp, pasoPlp]
  have h₂ : PasoAdmision B prog stack programa 0 1 (enIntento k programa est .acepta pcb) .interno
      (enIntento k' programa est .aceptado pcb) := by
    refine .interno ?_
    simp [pasoInterno, enIntento, hk']
  exact ⟨_, k', (SinOtros.nada.sigue h₁ (by simp)).sigue h₂ (by simp)⟩

/-- **A program with its four areas is accepted**, when each segment goes into the table. -/
theorem sinOtros_cuatro (memoria : TPuntero → Byte) (hplp : k.plp = .guarda programa)
    (hpid : pcb.pid = pidDe programa) (tablas : ℕ → List Umv.TipoSegmento) (dirs : ℕ → TPuntero)
    (hentra : ∀ i < 4, Entra B alg (tablas i) (pidDe programa) (arrayDeTamano prog stack i) (dirs i)
      (tablas (i + 1))) : ∃ tr k' memoria',
    SinOtros B prog stack programa
    ⟨k, quieto ⟨alg, memoria, tablas 0⟩, ⟨0#32, 0#32⟩, .saluda false, pcb⟩ tr
      (enIntento k' programa ⟨alg, memoria', tablas 4⟩ .aceptado
        (asignarArea 3 (dirs 3) (asignarArea 2 (dirs 2) (asignarArea 1 (dirs 1)
          (asignarArea 0 (dirs 0) pcb))))) := by
  have hinicio := sinOtros_inicio B prog stack k ⟨alg, memoria, tablas 0⟩ hpid
  obtain ⟨tr₀, h₀⟩ := sinOtros_area k memoria pcb (by decide) rfl (hentra 0 (by decide))
  obtain ⟨tr₁, h₁⟩ := sinOtros_area k _ _ (by decide) rfl (hentra 1 (by decide))
  obtain ⟨tr₂, h₂⟩ := sinOtros_area k _ _ (by decide) rfl (hentra 2 (by decide))
  obtain ⟨tr₃, h₃⟩ := sinOtros_stack prog k _ _ (hentra 3 (by decide))
  obtain ⟨tr₄, k', h₄⟩ := sinOtros_fin B prog stack _ _ hplp
  exact ⟨_, k', _, ((((hinicio.trans h₀).trans h₁).trans h₂).trans h₃).trans h₄⟩

end Ansisop.Kernel
