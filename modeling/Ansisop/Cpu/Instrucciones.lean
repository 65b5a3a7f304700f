/-
**The instructions of a script, in a CPU.**

A CPU fetches an instruction with two requests to the UMV: the first one reads its entry in the
index of instructions, and the second one the line that the entry tells of.  The answers are those
of the UMV at work: before each request and after it the UMV runs any critical sections of the other
connections and of its console.

Main definitions:

* `Ansisop.Cpu.Frente` — an environment whose `solicitar` is that of the UMV;
* `Ansisop.Cpu.DelPrograma` — what a CPU does not write of a PCB;
* `Ansisop.Cpu.TraeSuLinea` — what is asked for.

Main results:

* `Ansisop.Cpu.trae_su_linea` — **the instruction fetched is the line of the script**, when no store
  gets past the check of the UMV with a sum that wraps around;
* `Ansisop.Cpu.no_trae_su_linea` — with such a store it is something else.
-/

import Ansisop.Cpu.Rafaga
import Ansisop.Kernel.Alojado
import Ansisop.Kernel.Metadata

set_option relaxedAutoImplicit false
set_option autoImplicit false

namespace Ansisop.Cpu

open Kernel (Prog Admision Comienza PasoAdmision SinDesbordes Alojado Respeta Queda Programa pidDe
  direccionDeArea contenido arrayDeTamano nuevoPrograma lineasEjecutables auxinst)
open Umv (Bloque)

/-! ### The UMV in front of a CPU -/

/-- What `umv_deserializar` makes of the answer to a `solicitar`. -/
def leerRespuesta : Umv.Respuesta → Except Texto (List Byte)
  | .bytesSolicitados data => .ok data
  | _ => .error "segmentation_fault".toList

/-- **An environment whose `solicitar` is that of the UMV**, for a process: the request is a
critical section of some connection, among others that meet a condition. -/
structure Frente {σ : Type*} (B : Bloque) (ok : Umv.Sistema → Umv.Evento → Prop) (pid : TIdPrograma)
    (E : Entorno σ) where
  umv : σ → Umv.Sistema
  atiende : ∀ s sol, ∃ tr tr' h r,
    Lts.Run (Lts.restrict ok (Umv.Paso B)) (umv s)
    (tr ++ [⟨h, .solicitarBytes pid sol, some r⟩] ++ tr')
      (umv (E.solicitar s sol).2) ∧
    (E.solicitar s sol).1 = leerRespuesta r

/-- **What a CPU does not write of a PCB**: the addresses of the code and of the indices, and the
size of the index of labels. -/
structure DelPrograma (pcb pcb' : Pcb) : Prop where
  segmentoCodigo : pcb'.segmentoCodigo = pcb.segmentoCodigo
  indiceCodigo : pcb'.indiceCodigo = pcb.indiceCodigo
  indiceEtiqueta : pcb'.indiceEtiqueta = pcb.indiceEtiqueta
  tamanioEtiqueta : pcb'.tamanioEtiqueta = pcb.tamanioEtiqueta

/-- The text of some bytes. -/
def textoDe (bytes : List Byte) : Texto := bytes.map fun c => Char.ofNat c.toNat

/-- **What is asked for**: what is fetched, without the newline, is the line that the program
counter numbers among the instructions of the script, which is the one that its entry in the index
tells of. -/
def TraeSuLinea {σ : Type*} (E : Entorno σ) (literal : Cadena) (prog : Prog) (m : Maquina σ) :
    Prop :=
  let pc := m.estado.pcb.programCounter.toNat
  ∃ linea position bytes, (lineasEjecutables literal)[pc]? = some linea ∧
    prog.instrucciones_serializado[pc]? = some (auxinst position linea) ∧
    (traerProximaInstruccion E m).1 = some bytes ∧ sinSalto bytes = textoDe linea

variable {σ : Type*} {B : Bloque} {E : Entorno σ} {prog : Prog} {stack : U32} {pid : TIdPrograma}
  {pcb : Pcb} {literal : Cadena} {i : ℕ}

/-- **A request for bytes of an area gets them**, and the program is still in the UMV. -/
theorem Frente.solicitar (F : Frente B (Respeta prog stack pid pcb) pid E) {s : σ}
    (sol : SolicitudBytes)
    (hs : Alojado B prog stack pid pcb (F.umv s)) (hi : Queda prog stack i)
    (hbase : sol.base = direccionDeArea pcb i)
    (hle : sol.offset.toNat + sol.tamanio.toNat ≤ (contenido prog i).length) :
    (E.solicitar s sol).1 =
        .ok (((contenido prog i).drop sol.offset.toNat).take sol.tamanio.toNat) ∧
      Alojado B prog stack pid pcb (F.umv (E.solicitar s sol).2) := by
  obtain ⟨tr, tr', h, r, hrun, hr⟩ := F.atiende s sol
  refine ⟨?_, hs.run hrun⟩
  obtain ⟨u, hu, -⟩ := hrun.split
  obtain ⟨t, ht, hlee⟩ := hu.snoc_inv
  have hleido := (hs.run ht).lee hi hbase hle
  cases hlee.2 with
  | solicitar _ =>
      rw [hr, hleido]
      rfl

/-! ### The entry in the index -/

/-- The words of the index of instructions. -/
theorem getElem?_palabras {xs : List (U32 × U32)} {k : ℕ} {x : U32 × U32} (h : xs[k]? = some x) :
    (xs.flatMap fun i => [i.1, i.2])[2 * k]? = some x.1 ∧
      (xs.flatMap fun i => [i.1, i.2])[2 * k + 1]? = some x.2 := by
  induction xs generalizing k with
  | nil => exact absurd h (by simp)
  | cons y xs ih =>
      cases k with
      | zero =>
          obtain rfl : y = x := by simpa using h
          exact ⟨rfl, rfl⟩
      | succ k =>
          rw [List.flatMap_cons, Nat.mul_succ]
          exact ih (by simpa using h)

/-- The two words of an entry. -/
theorem palabra_indice {k : ℕ} {x : U32 × U32} (h : prog.instrucciones_serializado[k]? = some x) :
    palabra (contenido prog 1) (8 * k) = x.1 ∧ palabra (contenido prog 1) (8 * k + 4) = x.2 := by
  obtain ⟨h₁, h₂⟩ := getElem?_palabras h
  have hp₁ := palabra_serializarPalabras [] h₁
  have hp₂ := palabra_serializarPalabras [] h₂
  rw [List.append_nil] at hp₁ hp₂
  rw [show 4 * (2 * k) = 8 * k by omega] at hp₁
  rw [show 4 * (2 * k + 1) = 8 * k + 4 by omega] at hp₂
  exact ⟨hp₁, hp₂⟩

theorem length_indice (prog : Prog) :
    (contenido prog 1).length = 8 * prog.instrucciones_serializado.length := by
  have hlt := prog.instrucciones_lt
  rw [Kernel.length_contenido prog 0#32 (by decide), arrayDeTamano, BitVec.toNat_mul,
    BitVec.toNat_ofNat, BitVec.toNat_ofNat]
  omega

/-- A program with an instruction has an index. -/
theorem queda_indice {k : ℕ} (h : k < prog.instrucciones_serializado.length) (stack : U32) :
    Queda prog stack 1 := by
  refine ⟨by decide, fun hcero => ?_, fun hdos => absurd hdos (by decide)⟩
  have hlength := length_indice prog
  rw [Kernel.length_contenido prog stack (by decide), hcero, BitVec.toNat_ofNat,
    Nat.zero_mod] at hlength
  omega

/-! ### The line -/

/-- The line is read with what comes after it, and the newline is taken off. -/
theorem sinSalto_linea {linea : List Byte} {c : Byte} (hc : c = 10#8 ∨ c = 0#8) (hnul : 0#8 ∉ linea)
    (hsalto : 10#8 ∉ linea) : sinSalto ((linea ++ [c]).takeWhile (· ≠ 0#8)) = textoDe linea := by
  rcases hc with rfl | rfl
  · have hlinea : (linea ++ [10#8]).takeWhile (· ≠ 0#8) = linea ++ [10#8] :=
      Lines.takeWhile_last fun hmem => by
        rcases List.mem_append.1 hmem with hmem | hmem
        · exact hnul hmem
        · exact absurd (List.mem_singleton.1 hmem) (by decide)
    rw [hlinea, sinSalto, if_pos List.getLast?_concat, List.dropLast_concat]
    rfl
  · rw [Lines.takeWhile_append_sep hnul, sinSalto, if_neg]
    · rfl
    · exact fun hlast => hsalto (List.mem_of_getLast? hlast)

/-- **The line that an entry tells of is fetched.** -/
theorem proximaLineaDeCodigo_eq (F : Frente B (Respeta prog stack pid pcb) pid E) {m : Maquina σ}
    (hs : Alojado B prog stack pid pcb (F.umv m.entorno))
    (hcodigo : m.estado.pcb.segmentoCodigo = pcb.segmentoCodigo)
    (harchivo : prog.archivoAnsisop = literal.bytes) {position : ℕ} {linea instruccion : List Byte}
    (hlinea : (position, linea) ∈ Kernel.colocadas literal)
    (hstart : palabra instruccion 0 = (auxinst position linea).1)
    (hoffset : palabra instruccion 4 = (auxinst position linea).2) :
    ∃ bytes, (proximaLineaDeCodigo E instruccion m).1 = some bytes ∧
    sinSalto bytes = textoDe linea := by
  obtain ⟨c, hc, hslice, hle⟩ := Kernel.slice_of_mem_colocadas hlinea
  have hlt := literal.strlen_lt
  have hmem : linea ∈ Kernel.lineas literal := by
    have hsnd := List.mem_map_of_mem (f := Prod.snd) (List.mem_of_mem_filter hlinea)
    rwa [Lines.map_snd_placed] at hsnd
  have hcontenido : contenido prog 0 = literal.bytes ++ [0#8] := by rw [contenido, harchivo]
  have hqueda : Queda prog stack 0 := by
    refine ⟨by decide, fun hcero => ?_, fun hdos => absurd hdos (by decide)⟩
    have hlength := Kernel.length_contenido prog stack (i := 0) (by decide)
    rw [hcontenido, hcero] at hlength
    simp at hlength
  have hp : (BitVec.ofNat 32 position).toNat = position := by
    rw [BitVec.toNat_ofNat, Nat.mod_eq_of_lt (by omega)]
  have hl : (BitVec.ofNat 32 (linea.length + 1)).toNat = linea.length + 1 := by
    rw [BitVec.toNat_ofNat, Nat.mod_eq_of_lt (by omega)]
  have hdentro : (BitVec.ofNat 32 position).toNat + (BitVec.ofNat 32 (linea.length + 1)).toNat ≤
      (contenido prog 0).length := by
    rw [hp, hl, hcontenido, List.length_append, List.length_singleton]
    exact hle
  obtain ⟨hok, -⟩ := F.solicitar ⟨m.estado.pcb.segmentoCodigo, BitVec.ofNat 32 position,
    BitVec.ofNat 32 (linea.length + 1)⟩ hs hqueda hcodigo hdentro
  simp only [hp, hl, hcontenido, hslice] at hok
  refine ⟨(linea ++ [c]).takeWhile (· ≠ 0#8), ?_,
    sinSalto_linea hc (Kernel.notMem_lineas hmem) (Lines.notMem_of_mem_splitOn hmem)⟩
  rw [proximaLineaDeCodigo, hstart, hoffset, auxinst, Maquina.solicitar, hok]
  simp only [hl]
  rw [List.take_of_length_le (by simp)]

/-! ### The instruction -/

/-- **An instruction of a program that is in the UMV is fetched.** -/
theorem trae_de_alojado (F : Frente B (Respeta prog stack pid pcb) pid E) {m : Maquina σ}
    (hs : Alojado B prog stack pid pcb (F.umv m.entorno)) (hpcb : DelPrograma pcb m.estado.pcb)
    (hprog : nuevoPrograma literal = some prog)
    (hpc : m.estado.pcb.programCounter.toNat < prog.instrucciones_serializado.length) :
    TraeSuLinea E literal prog m := by
  obtain ⟨harchivo, hinstrucciones, -⟩ := Kernel.nuevoPrograma_areas hprog
  have hlt : literal.bytes.length < 2 ^ 31 := by
    rw [← harchivo]
    exact Nat.lt_of_succ_lt hs.archivo_lt
  have hinstrucciones_lt := prog.instrucciones_lt
  rw [Kernel.metadataDesdeLiteral_instrucciones hlt] at hinstrucciones
  -- the entry in the index
  have hpc' : m.estado.pcb.programCounter.toNat < (Kernel.colocadas literal).length := by
    rwa [hinstrucciones, List.length_map] at hpc
  obtain ⟨⟨position, linea⟩, hcolocada⟩ : ∃ x, (Kernel.colocadas literal)[
      m.estado.pcb.programCounter.toNat]? = some x := ⟨_, List.getElem?_eq_getElem hpc'⟩
  have hentrada : prog.instrucciones_serializado[m.estado.pcb.programCounter.toNat]? =
      some (auxinst position linea) := by
    rw [hinstrucciones, List.getElem?_map, hcolocada]
    rfl
  have hlinea : (lineasEjecutables literal)[m.estado.pcb.programCounter.toNat]? = some linea := by
    rw [← Kernel.map_snd_colocadas, List.getElem?_map, hcolocada]
    rfl
  obtain ⟨hstart, hoffset⟩ := palabra_indice hentrada
  -- the first request
  have hocho : (8#32 * m.estado.pcb.programCounter).toNat =
      8 * m.estado.pcb.programCounter.toNat := by
    rw [BitVec.toNat_mul, BitVec.toNat_ofNat]
    omega
  obtain ⟨sol, hsol⟩ : ∃ sol : SolicitudBytes,
      sol = ⟨m.estado.pcb.indiceCodigo, 8#32 * m.estado.pcb.programCounter, 8#32⟩ := ⟨_, rfl⟩
  have hdentro : sol.offset.toNat + sol.tamanio.toNat ≤ (contenido prog 1).length := by
    rw [hsol, hocho, length_indice, BitVec.toNat_ofNat]
    omega
  obtain ⟨hok, hs'⟩ :=
    F.solicitar sol hs (queda_indice hpc stack) (hsol ▸ hpcb.indiceCodigo) hdentro
  have hrespuesta : m.solicitar E sol = (.ok (((contenido prog 1).drop sol.offset.toNat).take
      sol.tamanio.toNat), (m.solicitar E sol).2) := Prod.ext hok rfl
  -- the second one
  have hstart' : palabra (((contenido prog 1).drop sol.offset.toNat).take sol.tamanio.toNat) 0 =
      (auxinst position linea).1 := by
    rw [hsol, palabra_slice _ (by simp), hocho, Nat.add_zero, hstart]
  have hoffset' : palabra (((contenido prog 1).drop sol.offset.toNat).take sol.tamanio.toNat) 4 =
      (auxinst position linea).2 := by
    rw [hsol, palabra_slice _ (by simp), hocho, hoffset]
  obtain ⟨bytes, hbytes, htexto⟩ := proximaLineaDeCodigo_eq F (m := (m.solicitar E sol).2) hs'
    hpcb.segmentoCodigo harchivo (List.mem_of_getElem? hcolocada) hstart' hoffset'
  refine ⟨linea, position, bytes, hlinea, hentrada, ?_, htexto⟩
  simp only [traerProximaInstruccion]
  rw [← hsol, hrespuesta]
  exact hbytes

/-- **The instruction fetched is the line of the script**, for every script that is admitted, every
instruction of it and any activity of the UMV since then, when no store gets past the check of the
UMV with a sum that wraps around. -/
theorem trae_su_linea (B : Bloque) (literal : Cadena) (prog : Prog) (stack : U32)
    (programa : Programa) (h h' : ℕ) {v₀ v : Admision} {tr : List Kernel.Intento}
    (hprog : nuevoPrograma literal = some prog) (hv₀ : Comienza B programa v₀)
    (hrun : Lts.Run (Lts.restrict SinDesbordes (PasoAdmision B prog stack programa h h')) v₀ tr v)
    (hloc : v.loc = .aceptado) (E : Entorno σ)
    (F : Frente B (Respeta prog stack (pidDe programa) v.pcb) (pidDe programa) E) {m : Maquina σ}
    {tr' : List Umv.Evento}
    (hentorno : Lts.Run (Lts.restrict (Respeta prog stack (pidDe programa) v.pcb) (Umv.Paso B))
      v.umv tr'
      (F.umv m.entorno)) (hpcb : DelPrograma v.pcb m.estado.pcb)
    (hpc : m.estado.pcb.programCounter.toNat < prog.instrucciones_serializado.length) :
    TraeSuLinea E literal prog m := by
  obtain ⟨hs, -⟩ := hv₀.alojado hrun hloc
  exact trae_de_alojado F (hs.run hentorno) hpcb hprog hpc

/-! ### A script of one line -/

open Umv (bloque16)
open Kernel (quieto enIntento umvVecino pcbSegundo pcbNulo comienza_segundo almacenaAntes)

/-- The UMV in front of a CPU, when nobody else asks for anything. -/
def entornoSolo (pid : TIdPrograma) : Entorno Umv.Estado where
  lvl := 0
  solicitar := fun s sol => (leerRespuesta (Umv.solicitarBytes s pid sol), s)
  almacenar := fun s st =>
    (if (Umv.almacenarBytes s pid st).1 = .OK then .ok () else .error "segmentation_fault".toList,
      (Umv.almacenarBytes s pid st).2)
  cambioProcesoActivo := fun s _ => s
  consultar := fun s _ => (.continuar, s)
  enviar := fun s _ => s
  basura := fun s => (0#32, s)

/-- It is the UMV. -/
def frenteSolo (B : Bloque) {ok : Umv.Sistema → Umv.Evento → Prop} {pid : TIdPrograma}
    (hok : ∀ s h sol r, ok s ⟨h, .solicitarBytes pid sol, r⟩) :
    Frente B ok pid (entornoSolo pid) where
  umv := quieto
  atiende := by
    intro s sol
    have hpaso : Umv.Paso B (quieto s)
        ⟨2, .solicitarBytes pid sol, some (Umv.solicitarBytes s pid sol)⟩
          ((quieto s).con s 2 .libre) :=
      .solicitar rfl
    rw [Kernel.quieto_con] at hpaso
    exact ⟨[], [], 2, _, Lts.Run.single ⟨hok _ _ _ _, hpaso⟩, rfl⟩

/-- A CPU with a PCB. -/
def maquinaCon (pcb : Pcb) (s : Umv.Estado) : Maquina Umv.Estado :=
  ⟨⟨pcb, HashTable.empty 20, [], 0#32, 1#32, .notificarPorFinRafaga⟩, s, [], 0⟩

/-- A script of one character. -/
def literalUna : Cadena := ⟨[97#8], by decide, by decide⟩

def progUna : Prog := (nuevoPrograma literalUna).get (by decide +kernel)

theorem nuevoPrograma_una : nuevoPrograma literalUna = some progUna := (Option.some_get _).symm

/-- The segments when the code is created, when the index is, and when the stack is. -/
def tablaCodigo : List Umv.TipoSegmento :=
  [⟨1002#32, 2#32, 500#32, 0x1000#32⟩, ⟨1001#32, 4#32, 100#32, 0x1004#32⟩]

def tablaIndice : List Umv.TipoSegmento := tablaCodigo ++ [⟨1002#32, 8#32, 501#32, 0x1008#32⟩]

def tablaStack : List Umv.TipoSegmento :=
  [⟨1002#32, 2#32, 500#32, 0x1000#32⟩, ⟨1002#32, 2#32, 502#32, 0x1002#32⟩,
    ⟨1001#32, 4#32, 100#32, 0x1004#32⟩, ⟨1002#32, 8#32, 501#32, 0x1008#32⟩]

/-- The UMV when the script is admitted. -/
def estadoUna : Umv.Estado :=
  ⟨.FF, (Umv.almacenarBytes ⟨.FF, (Umv.almacenarBytes ⟨.FF, fun _ => 0#8, tablaCodigo⟩ 1002#32
    (Kernel.almacenarEnUMV progUna 2#32 0 500#32)).2.memoria, tablaIndice⟩ 1002#32
    (Kernel.almacenarEnUMV progUna 2#32 1 501#32)).2.memoria, tablaStack⟩

/-- The PCB when the script is admitted. -/
def pcbUna : Pcb :=
  { pcbSegundo with
    segmentoCodigo := 500#32
    indiceCodigo := 501#32
    indiceEtiqueta := 1#32
    segmentoStack := 502#32
    cursorStack := 502#32 }

theorem admite_una {k : Kernel.Sistema} (hplp : k.plp = .guarda 1) : ∃ tr k',
    Kernel.SinOtros bloque16 progUna 2#32 1 ⟨k, umvVecino, ⟨0#32, 0#32⟩, .saluda false,
      pcbSegundo⟩ tr
      (enIntento k' 1 estadoUna .aceptado pcbUna) := by
  have hcodigo :
      Kernel.Entra bloque16 .FF umvVecino.estado.pSegmentos (pidDe 1) 2#32 500#32 tablaCodigo :=
    .de_ceros [500#32] (by decide) (by decide) rfl
  have hindice : Kernel.Entra bloque16 .FF tablaCodigo (pidDe 1) 8#32 501#32 tablaIndice :=
    .de_ceros [501#32] (by decide) (by decide) rfl
  have hstack : Kernel.Entra bloque16 .FF tablaIndice (pidDe 1) 2#32 502#32 tablaStack :=
    .de_ceros [502#32] (by decide) (by decide) rfl
  have htamanios : arrayDeTamano progUna 2#32 0 = 2#32 ∧ arrayDeTamano progUna 2#32 1 = 8#32 ∧
      arrayDeTamano progUna 2#32 2 = 0#32 := by
    decide +kernel
  have hinicio : Kernel.SinOtros bloque16 progUna 2#32 1
      ⟨k, umvVecino, ⟨0#32, 0#32⟩, .saluda false, pcbSegundo⟩ [.registro, .registro]
      (enIntento k 1 umvVecino.estado (.area 0) pcbSegundo) :=
    Kernel.sinOtros_inicio bloque16 progUna 2#32 k umvVecino.estado rfl
  obtain ⟨tr₀, h₀⟩ :=
    Kernel.sinOtros_area k (fun _ => 0#8) pcbSegundo (by decide) htamanios.1 hcodigo
  obtain ⟨tr₁, h₁⟩ := Kernel.sinOtros_area k _ _ (by decide) htamanios.2.1 hindice
  have h₂ := Kernel.sinOtros_vacia bloque16 k 1 ⟨.FF, estadoUna.memoria, tablaIndice⟩
    { pcbSegundo with segmentoCodigo := 500#32, indiceCodigo := 501#32 } (by decide) htamanios.2.2
  obtain ⟨tr₃, h₃⟩ := Kernel.sinOtros_stack progUna k estadoUna.memoria
    { pcbSegundo with
      segmentoCodigo := 500#32
      indiceCodigo := 501#32
      indiceEtiqueta := 1#32 } hstack
  obtain ⟨tr₄, k', h₄⟩ := Kernel.sinOtros_fin bloque16 progUna 2#32 estadoUna pcbUna hplp
  exact ⟨_, k', ((((hinicio.trans h₀).trans h₁).trans h₂).trans h₃).trans h₄⟩

/-- The line of the script is fetched. -/
theorem trae_su_linea_una :
    TraeSuLinea (entornoSolo 1002#32) literalUna progUna (maquinaCon pcbUna estadoUna) := by
  obtain ⟨k, hplp, hcomienza⟩ := comienza_segundo
  obtain ⟨tr, k', hrun⟩ := admite_una hplp
  exact trae_su_linea bloque16 literalUna progUna 2#32 1 0 1 nuevoPrograma_una hcomienza hrun rfl _
    (frenteSolo bloque16 fun _ _ _ _ => trivial) Lts.Run.nil ⟨rfl, rfl, rfl, rfl⟩
      (by decide +kernel)

/-- What the other connections and the console do, and the reads of the process. -/
def DeOtros (pid : TIdPrograma) (_ : Umv.Sistema) (e : Umv.Evento) : Prop :=
  e.seccion.TamanioPositivo ∧
    (e.seccion.proceso = some pid → ∃ sol, e.seccion = .solicitarBytes pid sol)

/-- **Something else is fetched**: the first program stores before the start of its segment, once
the second one is admitted. -/
theorem no_trae_su_linea : ¬∀ (B : Bloque) (literal : Cadena) (prog : Prog) (stack : U32)
    (programa : Programa) (h h' : ℕ) (v₀ v : Admision) (tr : List Kernel.Intento),
    nuevoPrograma literal = some prog → Comienza B programa v₀ →
    Lts.Run (PasoAdmision B prog stack programa h h') v₀ tr v → v.loc = .aceptado →
    ∀ (σ : Type) (E : Entorno σ) (F : Frente B (DeOtros (pidDe programa)) (pidDe programa) E)
    (m : Maquina σ) (tr' : List Umv.Evento),
    Lts.Run (Lts.restrict (DeOtros (pidDe programa)) (Umv.Paso B)) v.umv tr' (F.umv m.entorno) →
    DelPrograma v.pcb m.estado.pcb →
    m.estado.pcb.programCounter.toNat < prog.instrucciones_serializado.length →
    TraeSuLinea E literal prog m := by
  intro hsiempre
  obtain ⟨k, hplp, hcomienza⟩ := comienza_segundo
  obtain ⟨tr, k', hrun⟩ := admite_una hplp
  have hok (s : Umv.Sistema) (h : ℕ) (sol : SolicitudBytes) (r : Option Umv.Respuesta) :
      DeOtros (pidDe 1) s ⟨h, .solicitarBytes 1002#32 sol, r⟩ := ⟨trivial, fun _ => ⟨sol, rfl⟩⟩
  have halmacena :
      Umv.Paso bloque16 (quieto estadoUna) ⟨3, .almacenarBytes 1001#32 almacenaAntes, some .OK⟩
      ((quieto estadoUna).con (Umv.almacenarBytes estadoUna 1001#32 almacenaAntes).2 3 .libre) :=
    .almacenar rfl
  rw [Kernel.quieto_con] at halmacena
  have hdeOtros : DeOtros (pidDe 1) (quieto estadoUna)
      ⟨3, .almacenarBytes 1001#32 almacenaAntes, some .OK⟩ :=
        ⟨trivial, fun h => absurd h (by decide)⟩
  obtain ⟨linea, position, bytes, hlinea, -, hbytes, htexto⟩ :=
    hsiempre bloque16 literalUna progUna 2#32 1 0 1 _ _ _ nuevoPrograma_una hcomienza
      hrun.of_restrict rfl _ _
      (frenteSolo bloque16 hok)
        (maquinaCon pcbUna (Umv.almacenarBytes estadoUna 1001#32 almacenaAntes).2) _
      (Lts.Run.single ⟨hdeOtros, halmacena⟩) ⟨rfl, rfl, rfl, rfl⟩ (by decide +kernel)
  have htrae : (traerProximaInstruccion (entornoSolo 1002#32)
      (maquinaCon pcbUna (Umv.almacenarBytes estadoUna 1001#32 almacenaAntes).2)).1 =
        some [0xff#8, 0xff#8] := by
    decide +kernel
  have hunica : (lineasEjecutables literalUna)[(0#32 : U32).toNat]? = some [97#8] := by
    decide +kernel
  obtain rfl := Option.some_inj.1 (hunica.symm.trans hlinea)
  obtain rfl := Option.some_inj.1 (htrae.symm.trans hbytes)
  exact absurd htexto (by decide)

end Ansisop.Cpu
