/-
**A CPU at its place.**

Around a CPU there is the memory of the UMV, a kernel, and the other processes, which may do
anything to their own segments at any request.  When the segments of a program are in that memory,
its statements and its labels are fetched and its stack is faithful: all that the meaning of AnSISOP
asks for.

Main definitions:

* `Ansisop.Lenguaje.Puesto` — the memory around a CPU, whatever the others do in it;
* `Ansisop.Lenguaje.Instalado` — the segments of a program;
* `Ansisop.Lenguaje.Guion.deScript` — **the program of a script**.

Main results:

* `Ansisop.Lenguaje.Puesto.servicio` — **the memory serves the stack of the process**;
* `Ansisop.Lenguaje.Puesto.codigo` — **the statements fetched are those of the script**.
-/

import Ansisop.Lenguaje.Lectura
import Ansisop.Lenguaje.Rafagas

set_option relaxedAutoImplicit false
set_option autoImplicit false

namespace Ansisop.Lenguaje

open Cpu (Entorno Nucleo Maquina Orden UmvFiel Mundo entornoUmv sinSalto textoDe DelPrograma
  traerProximaInstruccion proximaLineaDeCodigo)
open Kernel (Prog Queda direccionDeArea contenido nuevoPrograma lineasEjecutables auxinst)

/-! ### The memory around a CPU -/

/-- The segments of the process are the same; those of the others are whatever they are. -/
def MismosSegmentos {σ : Type*} (memoria : σ → Umv.Abstracta) (procesoActivo : σ → TIdPrograma)
    (s s' : σ) : Prop :=
  procesoActivo s' = procesoActivo s ∧ memoria s' (procesoActivo s) = memoria s (procesoActivo s)

/-- **The memory and the kernel around a CPU.**  The UMV answers for the segments of the active
process; at any request the other processes may do what they like with their own. -/
structure Puesto {σ κ : Type*} (E : Entorno σ) (K : Nucleo κ) where
  memoria : σ → Umv.Abstracta
  procesoActivo : σ → TIdPrograma
  resto : σ → κ
  solicita : ∀ s sol data, (E.solicitar s sol).1 = .ok data ↔
    SegMem.load (memoria s) (procesoActivo s) sol.base sol.offset.toNat sol.tamanio.toNat =
      some data
  almacena : ∀ s st, (E.almacenar s st).1 = .ok () ↔
    (SegMem.store (memoria s) (procesoActivo s) st.base st.offset.toNat st.tamanio.toNat
      st.buffer).isSome
  guarda : ∀ s st memoria', SegMem.store (memoria s) (procesoActivo s) st.base st.offset.toNat
      st.tamanio.toNat st.buffer = some memoria' →
    procesoActivo (E.almacenar s st).2 = procesoActivo s ∧
      memoria (E.almacenar s st).2 (procesoActivo s) = memoria' (procesoActivo s)
  rechaza : ∀ s st, SegMem.store (memoria s) (procesoActivo s) st.base st.offset.toNat
      st.tamanio.toNat st.buffer = none →
    MismosSegmentos memoria procesoActivo s (E.almacenar s st).2
  cambia : ∀ s pid, procesoActivo (E.cambioProcesoActivo s pid) = pid ∧
    memoria (E.cambioProcesoActivo s pid) pid = memoria s pid
  mismos_solicitar : ∀ s sol, MismosSegmentos memoria procesoActivo s (E.solicitar s sol).2
  mismos_consultar : ∀ s mensaje, MismosSegmentos memoria procesoActivo s (E.consultar s mensaje).2
  mismos_enviar : ∀ s mensaje, MismosSegmentos memoria procesoActivo s (E.enviar s mensaje)
  mismos_basura : ∀ s, MismosSegmentos memoria procesoActivo s (E.basura s).2
  resto_solicitar : ∀ s sol, resto (E.solicitar s sol).2 = resto s
  resto_almacenar : ∀ s st, resto (E.almacenar s st).2 = resto s
  resto_cambia : ∀ s pid, resto (E.cambioProcesoActivo s pid) = resto s
  resto_consultar : ∀ s mensaje, (E.consultar s mensaje).1 = (K.consultar (resto s) mensaje).1 ∧
    resto (E.consultar s mensaje).2 = (K.consultar (resto s) mensaje).2
  resto_enviar : ∀ s mensaje, resto (E.enviar s mensaje) = K.enviar (resto s) mensaje
  resto_basura : ∀ s, (E.basura s).1 = (K.basura (resto s)).1 ∧
    resto (E.basura s).2 = (K.basura (resto s)).2

/-- The abstract memory that the UMV refines, with nobody else in it. -/
def puestoUmv {κ : Type*} (K : Nucleo κ) : Puesto (entornoUmv K) K where
  memoria := Mundo.memoria
  procesoActivo := Mundo.procesoActivo
  resto := Mundo.resto
  solicita := by
    intro s sol data
    simp only [entornoUmv]
    split
    · next data' h => simp [h]
    · next h => simp [h]
  almacena := by
    intro s st
    simp only [entornoUmv]
    split
    · next memoria' h => simp [h]
    · next h => simp [h]
  guarda := by
    intro s st memoria' h
    simp only [entornoUmv, h]
    trivial
  rechaza := by
    intro s st h
    simp only [entornoUmv, h]
    exact ⟨rfl, rfl⟩
  cambia := fun _ _ => ⟨rfl, rfl⟩
  mismos_solicitar := fun _ _ => ⟨rfl, rfl⟩
  mismos_consultar := fun _ _ => ⟨rfl, rfl⟩
  mismos_enviar := fun _ _ => ⟨rfl, rfl⟩
  mismos_basura := fun _ => ⟨rfl, rfl⟩
  resto_solicitar := fun _ _ => rfl
  resto_almacenar := by
    intro s st
    simp only [entornoUmv]
    split <;> rfl
  resto_cambia := fun _ _ => rfl
  resto_consultar := fun _ _ => ⟨rfl, rfl⟩
  resto_enviar := fun _ _ => rfl
  resto_basura := fun _ => ⟨rfl, rfl⟩

variable {σ κ : Type*} {E : Entorno σ} {K : Nucleo κ} {prog : Prog} {stack : U32}
  {pid : TIdPrograma} {pcb : Pcb} {literal : Cadena} {orden : Orden}

namespace Puesto

variable (X : Puesto E K)

/-- The bytes of a segment of the active process. -/
def segmento (s : σ) (base : TPuntero) : List Byte := (X.memoria s (X.procesoActivo s) base).getD []

theorem segmento_mismos {s s' : σ} (h : MismosSegmentos X.memoria X.procesoActivo s s')
    (base : TPuntero) : X.segmento s' base = X.segmento s base := by
  rw [segmento, segmento, h.1, h.2]

/-- **The memory is faithful** to each segment of the active process. -/
def fiel (base : TPuntero) : UmvFiel E base where
  pila := fun s => X.segmento s base
  solicitar := fun s sol => X.segmento_mismos (X.mismos_solicitar s sol) base
  leer := by
    rintro s sol data rfl h
    have hload := (X.solicita s sol data).1 h
    rw [SegMem.load] at hload
    split at hload
    · next bs hbs =>
        simp only [Option.ite_none_right_eq_some, Option.some.injEq] at hload
        rw [segmento, hbs]
        exact ⟨hload.1, hload.2.symm⟩
    · exact absurd hload (by simp)
  escribir := by
    rintro s st rfl h
    obtain ⟨memoria', hstore⟩ := Option.isSome_iff_exists.1 ((X.almacena s st).1 h)
    obtain ⟨hactivo, hmemoria⟩ := X.guarda s st memoria' hstore
    obtain ⟨bs, hbs, hle, rfl⟩ := SegMem.store_eq_some hstore
    rw [segmento, segmento, hactivo, hmemoria, SegMem.create_self, hbs]
    exact ⟨hle, rfl⟩
  consultar := fun s mensaje => X.segmento_mismos (X.mismos_consultar s mensaje) base
  enviar := fun s mensaje => X.segmento_mismos (X.mismos_enviar s mensaje) base
  basura := fun s => X.segmento_mismos (X.mismos_basura s) base

end Puesto

/-! ### A program in that memory -/

/-- **The segments of a program**: its stack, and the areas that `guardar_programa` has filled. -/
structure Instalado (prog : Prog) (stack : U32) (pcb : Pcb)
    (segmentos : TPuntero → Option (List Byte)) : Prop where
  pila : (segmentos pcb.segmentoStack).isSome
  area : ∀ i, Queda prog stack i → segmentos (direccionDeArea pcb i) = some (contenido prog i)

/-- The stack is not in the segment of an area. -/
def PilaAparte (prog : Prog) (stack : U32) (pcb : Pcb) : Prop :=
  ∀ i, Queda prog stack i → direccionDeArea pcb i ≠ pcb.segmentoStack

/-- The active process is the one of the program, whose segments are there. -/
def Puesto.Vale (X : Puesto E K) (prog : Prog) (stack : U32) (pid : TIdPrograma) (pcb : Pcb)
    (s : σ) : Prop :=
  X.procesoActivo s = pid ∧ Instalado prog stack pcb (X.memoria s pid)

theorem Puesto.Vale.mismos {X : Puesto E K} {s s' : σ} (h : X.Vale prog stack pid pcb s)
    (hm : MismosSegmentos X.memoria X.procesoActivo s s') : X.Vale prog stack pid pcb s' := by
  obtain ⟨rfl, hseg⟩ := h
  exact ⟨hm.1, hm.2 ▸ hseg⟩

/-- A store in the stack leaves the areas as they are. -/
theorem Puesto.Vale.almacenar {X : Puesto E K} {s : σ} (h : X.Vale prog stack pid pcb s)
    (haparte : PilaAparte prog stack pcb) {st : AlmacenarBytes}
    (hbase : st.base = pcb.segmentoStack) : X.Vale prog stack pid pcb (E.almacenar s st).2 := by
  cases hstore :
    SegMem.store (X.memoria s) (X.procesoActivo s) st.base st.offset.toNat st.tamanio.toNat
      st.buffer with
  | none => exact h.mismos (X.rechaza s st hstore)
  | some memoria' =>
      obtain ⟨rfl, hseg⟩ := h
      obtain ⟨hactivo, hmemoria⟩ := X.guarda s st memoria' hstore
      obtain ⟨bs, hbs, hle, rfl⟩ := SegMem.store_eq_some hstore
      refine ⟨hactivo, ?_, fun i hi => ?_⟩
      · rw [hmemoria, ← hbase, SegMem.create_self]
        rfl
      · rw [hmemoria, SegMem.create_of_ne fun heq => haparte i hi (heq.2.trans hbase)]
        exact hseg.area i hi

/-- **The memory serves the stack of the process.** -/
def Puesto.servicio (X : Puesto E K) (prog : Prog) (stack : U32) (pid : TIdPrograma) (pcb : Pcb)
    (haparte : PilaAparte prog stack pcb) : Servicio E K pcb.segmentoStack where
  toUmvFiel := X.fiel pcb.segmentoStack
  resto := X.resto
  vale := X.Vale prog stack pid pcb
  sirve_solicitar := by
    intro s sol hv hbase hle
    obtain ⟨rfl, hseg⟩ := hv
    obtain ⟨bs, hbs⟩ := Option.isSome_iff_exists.1 hseg.pila
    change _ ≤ (X.segmento s pcb.segmentoStack).length at hle
    rw [Puesto.segmento, hbs, Option.getD_some] at hle
    exact ⟨_, (X.solicita s sol _).2 (SegMem.load_of_le (hbase ▸ hbs) hle)⟩
  sirve_almacenar := by
    intro s st hv hbase hle
    obtain ⟨rfl, hseg⟩ := hv
    obtain ⟨bs, hbs⟩ := Option.isSome_iff_exists.1 hseg.pila
    change _ ≤ (X.segmento s pcb.segmentoStack).length at hle
    rw [Puesto.segmento, hbs, Option.getD_some] at hle
    refine (X.almacena s st).2 ?_
    rw [SegMem.store_of_le (hbase ▸ hbs) hle]
    rfl
  resto_solicitar := X.resto_solicitar
  resto_almacenar := X.resto_almacenar
  resto_consultar := X.resto_consultar
  resto_enviar := X.resto_enviar
  resto_basura := X.resto_basura
  vale_solicitar := fun s sol hv => hv.mismos (X.mismos_solicitar s sol)
  vale_almacenar := fun _ _ hv hbase => hv.almacenar haparte hbase
  vale_consultar := fun s mensaje hv => hv.mismos (X.mismos_consultar s mensaje)
  vale_enviar := fun s mensaje hv => hv.mismos (X.mismos_enviar s mensaje)
  vale_basura := fun s hv => hv.mismos (X.mismos_basura s)

/-! ### The script -/

/-- A request for bytes of an area gets them. -/
theorem Puesto.Vale.lee {X : Puesto E K} {s : σ} (h : X.Vale prog stack pid pcb s) {i : ℕ}
    (hi : Queda prog stack i) (sol : SolicitudBytes) (hbase : sol.base = direccionDeArea pcb i)
    (hle : sol.offset.toNat + sol.tamanio.toNat ≤ (contenido prog i).length) :
    (E.solicitar s sol).1 =
      .ok (((contenido prog i).drop sol.offset.toNat).take sol.tamanio.toNat) := by
  obtain ⟨rfl, hseg⟩ := h
  refine (X.solicita s sol _).2 (SegMem.load_of_le ?_ hle)
  rw [hbase]
  exact hseg.area i hi

/-- The line that an entry of the index tells of is fetched. -/
theorem Puesto.Vale.proximaLinea {X : Puesto E K} {m : Maquina σ}
    (h : X.Vale prog stack pid pcb m.entorno)
    (hcodigo : m.estado.pcb.segmentoCodigo = pcb.segmentoCodigo)
    (harchivo : prog.archivoAnsisop = literal.bytes) {position : ℕ} {linea instruccion : List Byte}
    (hlinea : (position, linea) ∈ Kernel.colocadas literal)
    (hstart : palabra instruccion 0 = (auxinst position linea).1)
    (hoffset : palabra instruccion 4 = (auxinst position linea).2) :
    ∃ bytes, (proximaLineaDeCodigo E instruccion m).1 = some bytes ∧
    sinSalto bytes = textoDe linea := by
  obtain ⟨c, hc, hslice, hle⟩ := Kernel.slice_of_mem_colocadas hlinea
  have hlt := literal.strlen_lt
  have hmem : linea ∈ Kernel.lineas literal := by
    have hsnd := List.mem_map_of_mem (f := Prod.snd) (List.mem_of_mem_filter hlinea)
    rwa [Lines.map_snd_placed] at hsnd
  have hcontenido : contenido prog 0 = literal.bytes ++ [0#8] := by rw [contenido, harchivo]
  have hqueda : Queda prog stack 0 := by
    refine ⟨Nat.zero_lt_succ 2, fun hcero => ?_, fun hdos => absurd hdos (by simp)⟩
    have hlength := Kernel.length_contenido prog stack (i := 0) (Nat.zero_lt_succ 2)
    rw [hcontenido, hcero] at hlength
    simp at hlength
  have hp : (BitVec.ofNat 32 position).toNat = position := by
    rw [BitVec.toNat_ofNat, Nat.mod_eq_of_lt (by omega)]
  have hl : (BitVec.ofNat 32 (linea.length + 1)).toNat = linea.length + 1 := by
    rw [BitVec.toNat_ofNat, Nat.mod_eq_of_lt (by omega)]
  have hok := h.lee hqueda ⟨m.estado.pcb.segmentoCodigo, BitVec.ofNat 32 position,
    BitVec.ofNat 32 (linea.length + 1)⟩ hcodigo (by
      rw [hp, hl, hcontenido, List.length_append, List.length_singleton]
      exact hle)
  simp only [hp, hl, hcontenido, hslice] at hok
  refine ⟨(linea ++ [c]).takeWhile (· ≠ 0#8), ?_,
    Cpu.sinSalto_linea hc (Kernel.notMem_lineas hmem) (Lines.notMem_of_mem_splitOn hmem)⟩
  rw [proximaLineaDeCodigo, hstart, hoffset, auxinst, Maquina.solicitar, hok]
  simp only [hl]
  rw [List.take_of_length_le (by simp)]

/-- **An instruction of the script is fetched.** -/
theorem Puesto.Vale.trae {X : Puesto E K} {m : Maquina σ} (h : X.Vale prog stack pid pcb m.entorno)
    (hpcb : DelPrograma pcb m.estado.pcb) (hprog : nuevoPrograma literal = some prog)
    (hlt : literal.bytes.length < 2 ^ 31) {linea : List Byte}
    (hlinea : (lineasEjecutables literal)[m.estado.pcb.programCounter.toNat]? = some linea) :
    ∃ bytes, (traerProximaInstruccion E m).1 = some bytes ∧ sinSalto bytes = textoDe linea := by
  obtain ⟨harchivo, hinstrucciones, -⟩ := Kernel.nuevoPrograma_areas hprog
  have hinstrucciones_lt := prog.instrucciones_lt
  rw [Kernel.metadataDesdeLiteral_instrucciones hlt] at hinstrucciones
  -- the entry in the index
  obtain ⟨position, hcolocada⟩ : ∃ position, (Kernel.colocadas literal)[
      m.estado.pcb.programCounter.toNat]? = some (position, linea) := by
    rw [← Kernel.map_snd_colocadas, List.getElem?_map, Option.map_eq_some_iff] at hlinea
    obtain ⟨⟨position, linea'⟩, hx, rfl⟩ := hlinea
    exact ⟨position, hx⟩
  have hentrada : prog.instrucciones_serializado[m.estado.pcb.programCounter.toNat]? =
      some (auxinst position linea) := by
    rw [hinstrucciones, List.getElem?_map, hcolocada]
    rfl
  have hpc : m.estado.pcb.programCounter.toNat < prog.instrucciones_serializado.length :=
    (List.getElem?_eq_some_iff.1 hentrada).1
  obtain ⟨hstart, hoffset⟩ := Cpu.palabra_indice hentrada
  -- the first request
  have hocho : (8#32 * m.estado.pcb.programCounter).toNat =
      8 * m.estado.pcb.programCounter.toNat := by
    rw [BitVec.toNat_mul, BitVec.toNat_ofNat]
    omega
  obtain ⟨sol, hsol⟩ : ∃ sol : SolicitudBytes,
      sol = ⟨m.estado.pcb.indiceCodigo, 8#32 * m.estado.pcb.programCounter, 8#32⟩ := ⟨_, rfl⟩
  have hok := h.lee (Cpu.queda_indice hpc stack) sol (hsol ▸ hpcb.indiceCodigo) (by
    rw [hsol, hocho, Cpu.length_indice, BitVec.toNat_ofNat]
    omega)
  have hrespuesta : m.solicitar E sol = (.ok (((contenido prog 1).drop sol.offset.toNat).take
      sol.tamanio.toNat), (m.solicitar E sol).2) := Prod.ext hok rfl
  -- the second one
  have hstart' : palabra (((contenido prog 1).drop sol.offset.toNat).take sol.tamanio.toNat) 0 =
      (auxinst position linea).1 := by
    rw [hsol, palabra_slice _ (by simp), hocho, Nat.add_zero, hstart]
  have hoffset' : palabra (((contenido prog 1).drop sol.offset.toNat).take sol.tamanio.toNat) 4 =
      (auxinst position linea).2 := by
    rw [hsol, palabra_slice _ (by simp), hocho, hoffset]
  have hvale' : X.Vale prog stack pid pcb (m.solicitar E sol).2.entorno :=
    h.mismos (X.mismos_solicitar _ _)
  obtain ⟨bytes, hbytes, htexto⟩ := hvale'.proximaLinea hpcb.segmentoCodigo harchivo
    (List.mem_of_getElem? hcolocada) hstart' hoffset'
  refine ⟨bytes, ?_, htexto⟩
  simp only [traerProximaInstruccion]
  rw [← hsol, hrespuesta]
  exact hbytes

/-- The statement that is read from an instruction of a script. -/
def sentenciaDe (literal : Cadena) (pc : U32) : Option Sentencia :=
  (lineasEjecutables literal)[pc.toNat]?.bind fun linea =>
    leerSentencia (Cpu.stringTrim (textoDe linea))

/-- **The program of a script**: its labels are those of the script, and its statements are read
from the instructions of the script. -/
def Guion.deScript (K : Nucleo κ) (pcb : Pcb) (stack : U32) (literal : Cadena) (prog : Prog) :
    Guion κ where
  nucleo := K
  pcb := pcb
  tamanioStack := stack.toNat
  bloqueEtiquetas := prog.etiquetas
  sentencia := sentenciaDe literal

/-- **A script that the CPU can log**: each of its instructions, and each call that it may make. -/
def Registrables (E : Entorno σ) (orden : Orden) (literal : Cadena) : Prop :=
  ∀ linea ∈ lineasEjecutables literal, Cpu.Registrable E orden (textoDe linea)

/-- **The statements fetched are those of the script**, and so are the labels. -/
theorem Puesto.codigo (X : Puesto E K) (pid : TIdPrograma)
    (hprog : nuevoPrograma literal = some prog) (hlt : literal.bytes.length < 2 ^ 31)
    (hstack : stack ≠ 0#32) (htam : pcb.tamanioEtiqueta = prog.tamanioEtiqueta)
    (haparte : PilaAparte prog stack pcb) (hregistra : Registrables E orden literal) :
    Codigo (P := Guion.deScript K pcb stack literal prog) (X.servicio prog stack pid pcb haparte)
      orden where
  traer := by
    intro m hv hpcb s hs
    obtain ⟨linea, hlinea, hleer⟩ := Option.bind_eq_some_iff.1 hs
    obtain ⟨bytes, hbytes, htexto⟩ := Puesto.Vale.trae hv hpcb hprog hlt hlinea
    exact ⟨bytes, hbytes, htexto ▸ escribe_de_leer hleer,
      htexto ▸ hregistra linea (List.mem_of_getElem? hlinea)⟩
  etiquetas := by
    intro m hv hpos
    have hlargo : pcb.tamanioEtiqueta.toNat = prog.etiquetas.length := by
      rw [htam, Prog.tamanioEtiqueta, BitVec.toNat_ofNat, Nat.mod_eq_of_lt prog.etiquetas_lt]
    have hqueda : Queda prog stack 2 := by
      refine ⟨Nat.lt_succ_self 2, fun hcero => ?_, fun _ => hstack⟩
      rw [Kernel.arrayDeTamano, ← htam] at hcero
      change 0#32 < pcb.tamanioEtiqueta at hpos
      rw [hcero] at hpos
      exact absurd hpos (BitVec.lt_irrefl _)
    refine ⟨_, Puesto.Vale.lee hv hqueda _ rfl ?_, ?_⟩
    · change (0#32 : U32).toNat + pcb.tamanioEtiqueta.toNat ≤ prog.etiquetas.length
      rw [hlargo]
      simp
    · change (List.take _ _).take _ = prog.etiquetas.take _
      rw [List.take_take, Nat.min_self]
      rfl

end Ansisop.Lenguaje
