/-
**The jumps of a script, in a CPU.**

The index of labels is a name, a NUL and four bytes for each definition, one after the other.  It
goes to the UMV with the program, `generarBloqueEtiquetas` brings it to the CPU, and a jump looks
the name up there, whatever its case.  What it finds is the number of instructions before the
definition, but `metadata_buscar_etiqueta` returns the first of its four bytes only, as a signed
`char`.  Before it looks, the CPU puts the name into a buffer for its log, where a long one does not
fit.

Main definitions:

* `Ansisop.Cpu.mismoNombre` — the same name, whatever its case;
* `Ansisop.Cpu.SaltaBien` — what is asked for.

Main results:

* `Ansisop.Cpu.buscarEtiqueta_entradas` — **the table is walked entry by entry**;
* `Ansisop.Cpu.salta_bien_iff` — **a jump reaches its label exactly when there are fewer than 128
  instructions before it** and the name can be logged;
* `Ansisop.Cpu.no_salta_bien` — a jump to a label after 128 instructions.
-/

import Ansisop.Cpu.Instrucciones

set_option relaxedAutoImplicit false
set_option autoImplicit false

namespace Ansisop.Cpu

open Kernel (Prog Admision Comienza PasoAdmision SinDesbordes Alojado Respeta Queda Programa pidDe
  contenido arrayDeTamano nuevoPrograma nuevoPcb lineasEjecutables lineas esEjecutable
  definicion definiciones
  instruccionesEn metadataDesdeLiteral)
open Umv (Bloque)

/-! ### The table -/

/-- The same name, whatever its case. -/
def mismoNombre (nombre objetivo : List Byte) : Prop :=
  nombre.map minuscula = objetivo.map minuscula

instance (nombre objetivo : List Byte) : Decidable (mismoNombre nombre objetivo) :=
  inferInstanceAs (Decidable (_ = _))

/-- With room for the NUL, the comparison is of the whole names. -/
theorem strncasecmp_iff {nombre objetivo : List Byte} {n : ℕ} (hn : nombre.length + 1 < n) :
    strncasecmp nombre objetivo n = true ↔ mismoNombre nombre objetivo := by
  have htake : (nombre.map minuscula ++ [0#8]).take n = nombre.map minuscula ++ [0#8] :=
    List.take_of_length_le (by simp; omega)
  rw [strncasecmp, beq_iff_eq, htake]
  constructor
  · intro heq
    have hlength := congrArg List.length heq
    simp only [List.length_append, List.length_map, List.length_singleton,
      List.length_take] at hlength
    rw [List.take_of_length_le (by simp; omega)] at heq
    exact List.append_cancel_right heq
  · intro heq
    rw [mismoNombre] at heq
    rw [← heq, htake]

/-- A turn of the loop. -/
theorem buscarEtiqueta_succ {objetivo etiquetas : List Byte} {turnos : ℕ} (h : etiquetas ≠ []) :
    buscarEtiqueta objetivo (turnos + 1) etiquetas =
      if strncasecmp (etiquetas.takeWhile (· ≠ 0#8)) objetivo etiquetas.length then
        (etiquetas.getD ((etiquetas.takeWhile (· ≠ 0#8)).length + 1) 0#8).signExtend 32
      else buscarEtiqueta objetivo turnos
        (etiquetas.drop ((etiquetas.takeWhile (· ≠ 0#8)).length + 1 + 4)) := by
  cases etiquetas with
  | nil => exact absurd rfl h
  | cons c etiquetas => rfl

/-- **The table is walked entry by entry**, and gives the first byte of the number of the first one
with the name. -/
theorem buscarEtiqueta_entradas (objetivo : List Byte) {ds : List (List Byte × U32)} {turnos : ℕ}
    (hds : ∀ d ∈ ds, 0#8 ∉ d.1) (hturnos : ds.length < turnos) :
    buscarEtiqueta objetivo turnos (ds.flatMap Kernel.entrada) =
      match ds.find? fun d => mismoNombre d.1 objetivo with
      | some d => (Words.byteAt d.2 0).signExtend 32
      | none => -1 := by
  induction ds generalizing turnos with
  | nil =>
      cases turnos with
      | zero => exact absurd hturnos (Nat.not_lt_zero _)
      | succ turnos => rfl
  | cons d ds ih =>
      obtain ⟨turnos, rfl⟩ : ∃ t, turnos = t + 1 := ⟨turnos - 1, by omega⟩
      have hnombre := hds d List.mem_cons_self
      have hbytes : (d :: ds).flatMap Kernel.entrada =
          d.1 ++ 0#8 :: (serializarPalabras [d.2] ++ ds.flatMap Kernel.entrada) := by
        rw [List.flatMap_cons, Kernel.entrada, List.append_assoc]
        rfl
      have hlargo : d.1.length + 1 < ((d :: ds).flatMap Kernel.entrada).length := by
        rw [hbytes]
        simp
      have hbyte : ((d :: ds).flatMap Kernel.entrada).getD (d.1.length + 1) 0#8 =
          Words.byteAt d.2 0 := by
        rw [hbytes, List.getD_append_right _ _ _ _ (by omega), Nat.add_sub_cancel_left]
        rfl
      have hresto : ((d :: ds).flatMap Kernel.entrada).drop (d.1.length + 1 + 4) =
          ds.flatMap Kernel.entrada := by
        rw [hbytes, List.append_cons, ← List.append_assoc]
        exact List.drop_left' (by simp)
      rw [buscarEtiqueta_succ (by rw [hbytes]; simp)]
      have htomado : ((d :: ds).flatMap Kernel.entrada).takeWhile (· ≠ 0#8) = d.1 := by
        rw [hbytes]
        exact Lines.takeWhile_append_sep hnombre _
      rw [htomado, hbyte, hresto]
      by_cases hmismo : mismoNombre d.1 objetivo
      · rw [if_pos ((strncasecmp_iff hlargo).2 hmismo),
          List.find?_cons_of_pos (by exact decide_eq_true hmismo)]
      · rw [if_neg fun h => hmismo ((strncasecmp_iff hlargo).1 h),
          List.find?_cons_of_neg (by simpa using hmismo)]
        exact ih (fun d' hd' => hds d' (List.mem_cons_of_mem _ hd'))
          (Nat.lt_of_succ_lt_succ hturnos)

/-- No entry is empty. -/
theorem length_le_entradas (ds : List (List Byte × U32)) :
    ds.length ≤ (ds.flatMap Kernel.entrada).length := by
  induction ds with
  | nil => exact Nat.le_refl _
  | cons d ds ih =>
      have hentrada : 1 ≤ (Kernel.entrada d).length := by
        rw [Kernel.entrada, List.length_append, List.length_cons]
        omega
      rw [List.flatMap_cons, List.length_append, List.length_cons]
      omega

/-- The first byte of a number, as a signed `char`, is the number when it is less than 128. -/
theorem signExtend_byteAt {k : ℕ} (hk : k < 2 ^ 29) :
    (Words.byteAt (BitVec.ofNat 32 k) 0).signExtend 32 = BitVec.ofNat 32 k ↔ k < 128 := by
  have hbyte : (Words.byteAt (BitVec.ofNat 32 k) 0).toNat = k % 256 := by
    rw [Words.byteAt, BitVec.toNat_ofNat, BitVec.toNat_ofNat]
    omega
  rw [← BitVec.toNat_inj, BitVec.toNat_signExtend, BitVec.toNat_setWidth,
    BitVec.msb_eq_decide, hbyte, BitVec.toNat_ofNat]
  by_cases hmsb : 2 ^ (8 - 1) ≤ k % 256
  · simp only [hmsb, decide_true, if_true]
    omega
  · simp only [hmsb, decide_false, Bool.false_eq_true, if_false]
    omega

/-! ### The definition of a name -/

/-- **The name is defined once in the script**, whatever its case: after some lines and before
others. -/
structure Define (literal : Cadena) (nombre : List Byte) (antes despues : List (List Byte)) :
    Prop where
  linea : ∃ linea, lineas literal = antes ++ linea :: despues ∧ definicion linea = some nombre
  unica : ∀ linea ∈ antes ++ despues, ∀ otro, definicion linea = some otro →
    ¬mismoNombre otro nombre

/-- **What is asked for** of a jump: it sets the program counter to the number of instructions
before the definition, and the next instruction fetched is the first one after it. -/
def SaltaBien {σ : Type*} (E : Entorno σ) (antes despues : List (List Byte)) (etiqueta : Texto)
    (m : Maquina σ) : Prop :=
  ∃ m', irAlLabel E etiqueta m = some m' ∧
    m'.estado.pcb.programCounter = BitVec.ofNat 32 (instruccionesEn antes) ∧
    ∀ linea, (despues.filter esEjecutable).head? = some linea →
      ∃ bytes, (traerProximaInstruccion E m').1 = some bytes ∧ sinSalto bytes = textoDe linea

variable {σ : Type*} {B : Bloque} {E : Entorno σ} {prog : Prog} {stack : U32} {pid : TIdPrograma}
  {pcb : Pcb} {literal : Cadena} {nombre : List Byte} {antes despues : List (List Byte)}
  {etiqueta : Texto}

/-- The entry of the name is the one of its definition. -/
theorem Define.find (h : Define literal nombre antes despues)
    (hetiqueta : mismoNombre nombre (bytesDeTexto etiqueta)) :
    ((definiciones 0 (lineas literal)).find? fun d => mismoNombre d.1 (bytesDeTexto etiqueta)) =
      some (nombre, BitVec.ofNat 32 (instruccionesEn antes)) := by
  obtain ⟨linea, hlineas, hlinea⟩ := h.linea
  have hantes :
      ((definiciones 0 antes).find? fun d => mismoNombre d.1 (bytesDeTexto etiqueta)) = none := by
    rw [List.find?_eq_none]
    intro d hd hmismo
    obtain ⟨linea', hlinea', hd'⟩ := Kernel.definicion_of_mem hd
    exact h.unica linea' (List.mem_append_left _ hlinea') d.1 hd'
      ((of_decide_eq_true hmismo).trans hetiqueta.symm)
  rw [hlineas, Kernel.definiciones_append, List.find?_append, hantes, Option.none_or,
    definiciones, hlinea]
  simp [hetiqueta]

/-- The instructions of the script, on both sides of the definition. -/
theorem Define.ejecutables (h : Define literal nombre antes despues) :
    lineasEjecutables literal = antes.filter esEjecutable ++ despues.filter esEjecutable := by
  obtain ⟨linea, hlineas, hlinea⟩ := h.linea
  rw [lineasEjecutables, hlineas, List.filter_append,
    List.filter_cons_of_neg (by simp [Kernel.esEjecutable_of_definicion hlinea])]

/-- **The look-up in the index of the script** gives the first byte of the number of instructions
before the definition. -/
theorem Define.busca (h : Define literal nombre antes despues) (hlt : literal.bytes.length < 2 ^ 31)
    (hetiqueta : mismoNombre nombre (bytesDeTexto etiqueta)) {etiquetas : List Byte}
    (hetiquetas : etiquetas = (metadataDesdeLiteral literal).etiquetas)
    (hsize : etiquetas.length < 2 ^ 32) :
    metadataBuscarEtiqueta etiqueta etiquetas (BitVec.ofNat 32 etiquetas.length) =
      (Words.byteAt (BitVec.ofNat 32 (instruccionesEn antes)) 0).signExtend 32 := by
  have htabla : etiquetas = (definiciones 0 (lineas literal)).flatMap Kernel.entrada := by
    rw [hetiquetas, Kernel.metadataDesdeLiteral_etiquetas hlt]
  have hnombres : ∀ d ∈ definiciones 0 (lineas literal), 0#8 ∉ d.1 := by
    intro d hd hmem
    obtain ⟨linea, hlinea, hdef⟩ := Kernel.definicion_of_mem hd
    exact Kernel.notMem_lineas hlinea (Kernel.mem_of_definicion hdef hmem)
  have hturnos : (definiciones 0 (lineas literal)).length < etiquetas.length + 1 := by
    rw [htabla]
    exact Nat.lt_succ_of_le (length_le_entradas _)
  have hbusca := buscarEtiqueta_entradas (bytesDeTexto etiqueta) hnombres hturnos
  rw [← htabla, h.find hetiqueta] at hbusca
  rw [metadataBuscarEtiqueta, BitVec.toNat_ofNat, Nat.mod_eq_of_lt hsize, List.take_length]
  exact hbusca

/-! ### The jump -/

/-- **The index of labels is brought to the CPU.** -/
theorem bloqueEtiquetas_generar (F : Frente B (Respeta prog stack pid pcb) pid E) {m : Maquina σ}
    (hs : Alojado B prog stack pid pcb (F.umv m.entorno)) (hpcb : DelPrograma pcb m.estado.pcb)
    (htamanio : pcb.tamanioEtiqueta = prog.tamanioEtiqueta) (hqueda : Queda prog stack 2) :
    (generarBloqueEtiquetas E m).estado.bloqueEtiquetas = prog.etiquetas := by
  have htam : m.estado.pcb.tamanioEtiqueta = prog.tamanioEtiqueta :=
    hpcb.tamanioEtiqueta.trans htamanio
  have hlargo : m.estado.pcb.tamanioEtiqueta.toNat = prog.etiquetas.length := by
    rw [htam, Prog.tamanioEtiqueta, BitVec.toNat_ofNat, Nat.mod_eq_of_lt prog.etiquetas_lt]
  have hpos : 0#32 < m.estado.pcb.tamanioEtiqueta := by
    have hno := hqueda.2.1
    rw [arrayDeTamano, ← htam] at hno
    bv_omega
  have hdentro :
      (0#32 : U32).toNat + m.estado.pcb.tamanioEtiqueta.toNat ≤ (contenido prog 2).length := by
    rw [hlargo]
    simp [contenido]
  obtain ⟨hok, -⟩ :=
    F.solicitar ⟨m.estado.pcb.indiceEtiqueta, 0#32, m.estado.pcb.tamanioEtiqueta⟩ hs hqueda
    hpcb.indiceEtiqueta hdentro
  have hdata : ((contenido prog 2).drop (0#32 : U32).toNat).take
      m.estado.pcb.tamanioEtiqueta.toNat =
      prog.etiquetas := by
    rw [hlargo]
    exact List.take_length
  have hrespuesta :
      m.solicitar E ⟨m.estado.pcb.indiceEtiqueta, 0#32, m.estado.pcb.tamanioEtiqueta⟩ =
      (.ok prog.etiquetas, (m.solicitar E
        ⟨m.estado.pcb.indiceEtiqueta, 0#32, m.estado.pcb.tamanioEtiqueta⟩).2) :=
    Prod.ext (hok.trans (congrArg _ hdata)) rfl
  simp only [generarBloqueEtiquetas]
  rw [if_pos hpos, hrespuesta]
  simp only [Maquina.conEtiquetas]
  rw [hlargo, List.take_length]

/-- The index of a script with a definition is not empty. -/
theorem Define.queda (h : Define literal nombre antes despues) (hlt : literal.bytes.length < 2 ^ 31)
    (hetiquetas : prog.etiquetas = (metadataDesdeLiteral literal).etiquetas)
    (hstack : stack ≠ 0#32) : Queda prog stack 2 := by
  refine ⟨by decide, fun hcero => ?_, fun _ => hstack⟩
  obtain ⟨linea, hlineas, hlinea⟩ := h.linea
  have hdefinida : 0 < (definiciones 0 (lineas literal)).length := by
    rw [hlineas, Kernel.definiciones_append, definiciones, hlinea, List.length_append,
      List.length_append]
    simp
  have hlargo := Kernel.length_contenido prog stack (i := 2) (by decide)
  rw [hcero, contenido, hetiquetas, Kernel.metadataDesdeLiteral_etiquetas hlt] at hlargo
  have hle := length_le_entradas (definiciones 0 (lineas literal))
  rw [hlargo, BitVec.toNat_ofNat, Nat.zero_mod] at hle
  omega

/-- **A jump in a program that is in the UMV.** -/
theorem salta_de_alojado (F : Frente B (Respeta prog stack pid pcb) pid E)
    (hprog : nuevoPrograma literal = some prog) (hstack : stack ≠ 0#32)
    (htamanio : pcb.tamanioEtiqueta = prog.tamanioEtiqueta) {m m₁ : Maquina σ}
    (hs : Alojado B prog stack pid pcb (F.umv m.entorno)) (hpcb : DelPrograma pcb m.estado.pcb)
    (hs₁ : Alojado B prog stack pid pcb (F.umv m₁.entorno)) (hpcb₁ : DelPrograma pcb m₁.estado.pcb)
    (hbloque : m₁.estado.bloqueEtiquetas = (generarBloqueEtiquetas E m).estado.bloqueEtiquetas)
    (hdefine : Define literal nombre antes despues)
    (hetiqueta : mismoNombre nombre (bytesDeTexto etiqueta)) :
    SaltaBien E antes despues etiqueta m₁ ↔
      instruccionesEn antes < 128 ∧ E.Registra (.irAlLabel etiqueta) := by
  obtain ⟨harchivo, hinstrucciones, hetiquetas⟩ := Kernel.nuevoPrograma_areas hprog
  have hlt : literal.bytes.length < 2 ^ 31 := by
    rw [← harchivo]
    exact Nat.lt_of_succ_lt hs.archivo_lt
  have hcuantas : prog.instrucciones_serializado.length =
      instruccionesEn antes + (despues.filter esEjecutable).length := by
    rw [hinstrucciones, Kernel.metadataDesdeLiteral_instrucciones hlt, List.length_map,
      instruccionesEn, ← List.length_append, ← hdefine.ejecutables, ← Kernel.map_snd_colocadas,
      List.length_map]
  have hmuchas : instruccionesEn antes < 2 ^ 29 := by
    have := prog.instrucciones_lt
    omega
  have hpc : metadataBuscarEtiqueta etiqueta m₁.estado.bloqueEtiquetas
      m₁.estado.pcb.tamanioEtiqueta =
      (Words.byteAt (BitVec.ofNat 32 (instruccionesEn antes)) 0).signExtend 32 := by
    have hindice := bloqueEtiquetas_generar F hs hpcb htamanio (hdefine.queda hlt hetiquetas hstack)
    rw [hbloque, hindice, hpcb₁.tamanioEtiqueta, htamanio]
    exact hdefine.busca hlt hetiqueta hetiquetas prog.etiquetas_lt
  constructor
  · rintro ⟨m₂, hm₂, hcontador, -⟩
    obtain ⟨hregistra, rfl⟩ := E.registrar_map.1 hm₂
    exact ⟨(signExtend_byteAt hmuchas).1 (hpc.symm.trans hcontador), hregistra⟩
  · rintro ⟨hpocas, hregistra⟩
    have hsalto := irAlLabel_of_registra hregistra m₁
    generalize hm₂ : m₁.conPcb _ = m₂ at hsalto
    have hcontador : m₂.estado.pcb.programCounter = BitVec.ofNat 32 (instruccionesEn antes) := by
      rw [← hm₂]
      exact hpc.trans ((signExtend_byteAt hmuchas).2 hpocas)
    refine ⟨m₂, hsalto, hcontador, fun linea hlinea => ?_⟩
    have hnumero : m₂.estado.pcb.programCounter.toNat = instruccionesEn antes := by
      rw [hcontador, BitVec.toNat_ofNat, Nat.mod_eq_of_lt (by omega)]
    have hproxima : (lineasEjecutables literal)[instruccionesEn antes]? = some linea := by
      rw [hdefine.ejecutables, instruccionesEn, List.getElem?_append_right (Nat.le_refl _),
        Nat.sub_self, ← List.head?_eq_getElem?, hlinea]
    have hhay : 0 < (despues.filter esEjecutable).length :=
      List.length_pos_of_mem (List.mem_of_head? hlinea)
    have hpcb₂ : DelPrograma pcb m₂.estado.pcb := by
      rw [← hm₂]
      exact ⟨hpcb₁.segmentoCodigo, hpcb₁.indiceCodigo, hpcb₁.indiceEtiqueta, hpcb₁.tamanioEtiqueta⟩
    have hs₂ : Alojado B prog stack pid pcb (F.umv m₂.entorno) := by
      rw [← hm₂]
      exact hs₁
    have hdentro : m₂.estado.pcb.programCounter.toNat < prog.instrucciones_serializado.length := by
      rw [hnumero]
      omega
    obtain ⟨linea', position, bytes, hlinea', -, hbytes, htexto⟩ :=
      trae_de_alojado F (m := m₂) hs₂ hpcb₂ hprog hdentro
    rw [hnumero, hproxima] at hlinea'
    obtain rfl := Option.some_inj.1 hlinea'
    exact ⟨bytes, hbytes, htexto⟩

/-- **A jump reaches its label exactly when there are fewer than 128 instructions before it** and
the CPU can log the name, for every script that is admitted with a stack, every name that is defined
once in it and any activity of the UMV, when no store gets past the check of the UMV with a sum that
wraps around.  The index comes to the CPU in one machine, and the jump is made in another one that
still has it. -/
theorem salta_bien_iff (B : Bloque) (literal : Cadena) (prog : Prog) (stack : U32)
    (programa : Programa) (h h' : ℕ) {v₀ v : Admision} {tr : List Kernel.Intento}
    (hprog : nuevoPrograma literal = some prog) (hstack : stack ≠ 0#32)
    (hv₀ : Comienza B programa v₀) (hpcb₀ : ∃ pcb, v₀.pcb = nuevoPcb literal pcb)
    (hrun : Lts.Run (Lts.restrict SinDesbordes (PasoAdmision B prog stack programa h h')) v₀ tr v)
    (hloc : v.loc = .aceptado) (E : Entorno σ)
    (F : Frente B (Respeta prog stack (pidDe programa) v.pcb) (pidDe programa) E) {m m₁ : Maquina σ}
    {tr' tr₁ : List Umv.Evento}
    (hm : Lts.Run (Lts.restrict (Respeta prog stack (pidDe programa) v.pcb) (Umv.Paso B)) v.umv tr'
      (F.umv m.entorno)) (hpcb : DelPrograma v.pcb m.estado.pcb)
    (hm₁ : Lts.Run (Lts.restrict (Respeta prog stack (pidDe programa) v.pcb) (Umv.Paso B)) v.umv tr₁
      (F.umv m₁.entorno)) (hpcb₁ : DelPrograma v.pcb m₁.estado.pcb)
    (hbloque : m₁.estado.bloqueEtiquetas = (generarBloqueEtiquetas E m).estado.bloqueEtiquetas)
    {nombre : List Byte} {antes despues : List (List Byte)}
    (hdefine : Define literal nombre antes despues)
    {etiqueta : Texto} (hetiqueta : mismoNombre nombre (bytesDeTexto etiqueta)) :
    SaltaBien E antes despues etiqueta m₁ ↔
      instruccionesEn antes < 128 ∧ E.Registra (.irAlLabel etiqueta) := by
  obtain ⟨hs, htam⟩ := hv₀.alojado hrun hloc
  obtain ⟨pcb, hpcb₀⟩ := hpcb₀
  have htamanio : v.pcb.tamanioEtiqueta = prog.tamanioEtiqueta := by
    rw [htam, hpcb₀, nuevoPcb, Prog.tamanioEtiqueta, (Kernel.nuevoPrograma_areas hprog).2.2]
  exact salta_de_alojado F hprog hstack htamanio (hs.run hm) hpcb (hs.run hm₁) hpcb₁ hbloque
    hdefine hetiqueta

/-! ### A script with a label -/

open Umv (bloque16)
open Kernel (quieto enIntento Entra pcbNulo)

/-- A block with room for both scripts. -/
def bloque4096 : Bloque := ⟨0x1000#32, 4096#32, by decide, Umv.pagina_ne_null, by decide⟩

/-- Some instructions, a label and another instruction. -/
def textoSalto (n : ℕ) : List Byte :=
  (List.replicate n [97#8, 10#8]).flatten ++ [58#8, 120#8, 10#8, 98#8]

/-- A label after one instruction. -/
def literalCorta : Cadena := ⟨textoSalto 1, by decide, by decide⟩

/-- A label after 128 instructions. -/
def literalLarga : Cadena := ⟨textoSalto 128, by decide +kernel, by decide +kernel⟩

def progCorta : Prog := (nuevoPrograma literalCorta).get (by decide +kernel)

def progLarga : Prog := (nuevoPrograma literalLarga).get (by decide +kernel)

/-- The PCB of both scripts. -/
def pcbSalto : Pcb :=
  { pcbNulo with pid := 1002#32, tamanioEtiqueta := 6#32, cantidad_de_etiquetas := 1#32 }

/-- The segments of a script, with the sizes of its code and of its index of instructions. -/
def segmentosSalto (codigo indice : U32) : List Umv.TipoSegmento :=
  [⟨1002#32, codigo, 500#32, 0x1000#32⟩, ⟨1002#32, indice, 501#32, 0x1000#32 + codigo⟩,
    ⟨1002#32, 6#32, 502#32, 0x1000#32 + codigo + indice⟩,
    ⟨1002#32, 16#32, 503#32, 0x1006#32 + codigo + indice⟩]

/-- The sizes of the areas of a script. -/
def tamanioSalto (codigo indice : U32) (i : ℕ) : U32 :=
  ([codigo, indice, 6#32] : List U32).getD i 16#32

theorem entra_salto {codigo indice : U32}
    (h : codigo = 7#32 ∧ indice = 16#32 ∨ codigo = 261#32 ∧ indice = 1032#32) {i : ℕ} (hi : i < 4) :
    Entra bloque4096 .FF ((segmentosSalto codigo indice).take i) 1002#32
    (tamanioSalto codigo indice i)
      (BitVec.ofNat 32 (500 + i)) ((segmentosSalto codigo indice).take (i + 1)) := by
  refine .de_ceros [BitVec.ofNat 32 (500 + i)] ?_ ?_ ?_
  all_goals
    rcases h with ⟨rfl, rfl⟩ | ⟨rfl, rfl⟩
    all_goals
      obtain rfl | rfl | rfl | rfl : i = 0 ∨ i = 1 ∨ i = 2 ∨ i = 3 := by omega
      all_goals first | decide | rfl

/-- **A script with a label is admitted.** -/
theorem admite_salto {codigo indice : U32}
    (h : codigo = 7#32 ∧ indice = 16#32 ∨ codigo = 261#32 ∧ indice = 1032#32) {prog : Prog}
    (htamanios : ∀ i < 4, arrayDeTamano prog 16#32 i = tamanioSalto codigo indice i) :
    ∃ v₀ v tr, Comienza bloque4096 1 v₀ ∧ v₀.pcb = pcbSalto ∧
      Kernel.SinOtros bloque4096 prog 16#32 1 v₀ tr v ∧ v.loc = .aceptado ∧
      ∃ s, v.umv = quieto s := by
  have hfin : (Kernel.correr Kernel.conPids (Kernel.llegaPrograma ++
      [.principal pcbSalto, .principal pcbSalto, .principal pcbSalto, .plp none, .plp none])
      (Kernel.inicial Kernel.configuracionSola)).any
        (fun k => decide (k.plp = .guarda 1 ∧ k.comun.pcb 1 = pcbSalto)) = true := by
    decide +kernel
  obtain ⟨k, hk, hfin⟩ := Option.any_eq_true _ _ |>.1 hfin
  obtain ⟨hplp, hpcb⟩ := of_decide_eq_true hfin
  have hkernel := (Kernel.run_of_correr hk).restrict_mono fun _ _ => Kernel.conPids_of_test
  have hentra : ∀ i < 4, Entra bloque4096 .FF ((segmentosSalto codigo indice).take i) (pidDe 1)
      (arrayDeTamano prog 16#32 i) (BitVec.ofNat 32 (500 + i))
      ((segmentosSalto codigo indice).take (i + 1)) := by
    intro i hi
    rw [htamanios i hi]
    exact entra_salto h hi
  have hpid : pcbSalto.pid = pidDe 1 := rfl
  obtain ⟨tr, k', memoria, hrun⟩ := Kernel.sinOtros_cuatro (fun _ => 0#8) hplp hpid
    (fun i => (segmentosSalto codigo indice).take i) (fun i => BitVec.ofNat 32 (500 + i)) hentra
  have hcomienza : Comienza bloque4096 1
      ⟨k, quieto ⟨.FF, fun _ => 0#8, []⟩, ⟨0#32, 0#32⟩, .saluda false, pcbSalto⟩ :=
    ⟨⟨_, _, hkernel⟩, hplp, hpcb.symm, rfl, Umv.Sistema.Inicial.valido ⟨rfl, fun _ => rfl⟩⟩
  exact ⟨_, _, tr, hcomienza, rfl, hrun, rfl, _, rfl⟩

/-- The CPU that has the index of labels. -/
def maquinaSalto (pcb : Pcb) (s : Umv.Estado) : Maquina Umv.Estado :=
  (maquinaCon pcb s).conEtiquetas
    (generarBloqueEtiquetas (entornoSolo 1002#32) (maquinaCon pcb s)).estado.bloqueEtiquetas

/-- It has the index that was brought to the other one. -/
theorem maquinaSalto_trae (pcb : Pcb) (s : Umv.Estado) :
    DelPrograma pcb (maquinaSalto pcb s).estado.pcb ∧
      (maquinaSalto pcb s).estado.bloqueEtiquetas =
        (generarBloqueEtiquetas (entornoSolo 1002#32) (maquinaCon pcb s)).estado.bloqueEtiquetas :=
  ⟨⟨rfl, rfl, rfl, rfl⟩, rfl⟩

/-- The label after one instruction is reached. -/
theorem salta_bien_corta : ∃ m, SaltaBien (entornoSolo 1002#32) [[97#8]] [[98#8]] ['X'] m := by
  have htamanios : ∀ i < 4, arrayDeTamano progCorta 16#32 i = tamanioSalto 7#32 16#32 i := by
    decide +kernel
  obtain ⟨v₀, v, tr, hv₀, hpcb₀, hrun, hloc, s, hs⟩ := admite_salto (Or.inl ⟨rfl, rfl⟩) htamanios
  have hpcb : v₀.pcb = nuevoPcb literalCorta pcbSalto :=
    hpcb₀.trans (show pcbSalto = nuevoPcb literalCorta pcbSalto by decide +kernel)
  have hdefine : Define literalCorta [120#8] [[97#8]] [[98#8]] := by
    refine ⟨⟨[58#8, 120#8], by decide +kernel, by decide +kernel⟩, ?_⟩
    decide +kernel
  have hnada : Lts.Run
      (Lts.restrict (Respeta progCorta 16#32 (pidDe 1) v.pcb) (Umv.Paso bloque4096)) v.umv []
      (quieto s) := hs ▸ Lts.Run.nil
  have hmismo : mismoNombre [120#8] (bytesDeTexto ['X']) := by decide
  obtain ⟨hdel, hbloque⟩ := maquinaSalto_trae v.pcb s
  have hsalta : SaltaBien (entornoSolo 1002#32) [[97#8]] [[98#8]] ['X'] (maquinaSalto v.pcb s) ↔
      instruccionesEn [[97#8]] < 128 ∧ (entornoSolo 1002#32).Registra (.irAlLabel ['X']) :=
    salta_bien_iff bloque4096 literalCorta progCorta 16#32 1 0 1 (Option.some_get _).symm
      (by decide) hv₀
      ⟨_, hpcb⟩ hrun hloc (entornoSolo 1002#32) (frenteSolo bloque4096 fun _ _ _ _ => trivial)
      (m := maquinaCon v.pcb s) hnada ⟨rfl, rfl, rfl, rfl⟩ hnada hdel hbloque hdefine hmismo
  have hregistra : (entornoSolo 1002#32).Registra (.irAlLabel ['X']) := by
    rintro _ ⟨⟩
    exact Commons.registrable_of_not_mem (by decide) (by decide)
  exact ⟨_, hsalta.2 ⟨by decide +kernel, hregistra⟩⟩

/-- **A jump misses its label**: there are 128 instructions before it. -/
theorem no_salta_bien :
    ¬∀ (B : Bloque) (literal : Cadena) (prog : Prog) (stack : U32) (programa : Programa)
    (h h' : ℕ) (v₀ v : Admision) (tr : List Kernel.Intento), nuevoPrograma literal = some prog →
    Comienza B programa v₀ → (∃ pcb, v₀.pcb = nuevoPcb literal pcb) →
    Lts.Run (PasoAdmision B prog stack programa h h') v₀ tr v → v.loc = .aceptado →
    ∀ (σ : Type) (E : Entorno σ) (F : Frente B (DeOtros (pidDe programa)) (pidDe programa) E)
    (m m₁ : Maquina σ) (tr' tr₁ : List Umv.Evento),
    Lts.Run (Lts.restrict (DeOtros (pidDe programa)) (Umv.Paso B)) v.umv tr' (F.umv m.entorno) →
    DelPrograma v.pcb m.estado.pcb →
    Lts.Run (Lts.restrict (DeOtros (pidDe programa)) (Umv.Paso B)) v.umv tr₁ (F.umv m₁.entorno) →
    DelPrograma v.pcb m₁.estado.pcb →
    m₁.estado.bloqueEtiquetas = (generarBloqueEtiquetas E m).estado.bloqueEtiquetas →
    ∀ (nombre : List Byte) (antes despues : List (List Byte)), Define literal nombre antes despues →
    ∀ etiqueta, mismoNombre nombre (bytesDeTexto etiqueta) →
    SaltaBien E antes despues etiqueta m₁ := by
  intro hsiempre
  have htamanios : ∀ i < 4, arrayDeTamano progLarga 16#32 i = tamanioSalto 261#32 1032#32 i := by
    decide +kernel
  obtain ⟨v₀, v, tr, hv₀, hpcb₀, hrun, hloc, s, hs⟩ := admite_salto (Or.inr ⟨rfl, rfl⟩) htamanios
  have hprog : nuevoPrograma literalLarga = some progLarga := (Option.some_get _).symm
  have hpcb : v₀.pcb = nuevoPcb literalLarga pcbSalto :=
    hpcb₀.trans (show pcbSalto = nuevoPcb literalLarga pcbSalto by decide +kernel)
  have hdefine : Define literalLarga [120#8] (List.replicate 128 [97#8]) [[98#8]] := by
    refine ⟨⟨[58#8, 120#8], by decide +kernel, by decide +kernel⟩, ?_⟩
    decide +kernel
  have hmismo : mismoNombre [120#8] (bytesDeTexto ['x']) := by decide
  have hnada {ok : Umv.Sistema → Umv.Evento → Prop} :
      Lts.Run (Lts.restrict ok (Umv.Paso bloque4096)) v.umv [] (quieto s) := hs ▸ Lts.Run.nil
  have hok (s : Umv.Sistema) (h : ℕ) (sol : SolicitudBytes) (r : Option Umv.Respuesta) :
      DeOtros (pidDe 1) s ⟨h, .solicitarBytes 1002#32 sol, r⟩ := ⟨trivial, fun _ => ⟨sol, rfl⟩⟩
  have hsalta : SaltaBien (entornoSolo 1002#32) (List.replicate 128 [97#8]) [[98#8]] ['x']
      (maquinaSalto v.pcb s) :=
    hsiempre bloque4096 literalLarga progLarga 16#32 1 0 1 v₀ v tr hprog hv₀ ⟨_, hpcb⟩
      hrun.of_restrict hloc Umv.Estado (entornoSolo 1002#32) (frenteSolo bloque4096 hok)
      (maquinaCon v.pcb s) (maquinaSalto v.pcb s)
      [] [] hnada ⟨rfl, rfl, rfl, rfl⟩ hnada ⟨rfl, rfl, rfl, rfl⟩ rfl _ _ _ hdefine ['x'] hmismo
  obtain ⟨halojado, htam⟩ := hv₀.alojado hrun hloc
  have htamanio : v.pcb.tamanioEtiqueta = progLarga.tamanioEtiqueta := by
    rw [htam, hpcb₀]
    decide +kernel
  have halojado' : Alojado bloque4096 progLarga 16#32 (pidDe 1) v.pcb (quieto s) := hs ▸ halojado
  obtain ⟨hdel, hbloque⟩ := maquinaSalto_trae v.pcb s
  have hstack : (16#32 : U32) ≠ 0#32 := by decide
  have hpocas : instruccionesEn (List.replicate 128 [97#8]) < 128 ∧
      (entornoSolo 1002#32).Registra (.irAlLabel ['x']) := by
    refine (salta_de_alojado (frenteSolo bloque4096 fun _ _ _ _ => trivial) hprog hstack htamanio
      (m := maquinaCon v.pcb s) ?_ ⟨rfl, rfl, rfl, rfl⟩ ?_ hdel hbloque hdefine hmismo).1 hsalta
    · exact halojado'
    · exact halojado'
  exact absurd hpocas.1 (by decide +kernel)

end Ansisop.Cpu
