/-
**Programs that never end.**

A program with no variables of its own, which only talks with the kernel and jumps, is safe:
whatever the kernel answers, its next statement means something.  The producer and the consumer of
the scripts are two of them, so from their admission on any CPUs run them for ever without an error.

Main definitions:

* `Ansisop.Lenguaje.Conversa` — a line that only talks with the kernel;
* `Ansisop.Lenguaje.literalProductor`, `Ansisop.Lenguaje.literalConsumidor` — the scripts.

Main results:

* `Ansisop.Lenguaje.segura_de_conversa` — **a program that talks and jumps is safe**, with any
  kernel;
* `Ansisop.Lenguaje.segura_productor`, `Ansisop.Lenguaje.segura_consumidor` — so are the two
  scripts.
-/

import Ansisop.Cpu.Etiquetas
import Ansisop.Lenguaje.Admitido

set_option relaxedAutoImplicit false
set_option autoImplicit false

namespace Ansisop.Lenguaje

open Cpu (Nucleo Maquina Primitiva Linea Orden bytesDeTexto)
open Kernel (Prog nuevoPrograma)
open Relation (ReflTransGen)

variable {κ : Type*} {P : Guion κ} {e e' : Ejecucion κ} {orden : Orden}

/-! ### Talking with the kernel -/

/-- The primitives that only talk with the kernel. -/
def DeKernel : Primitiva → Prop
  | .obtenerValorCompartida _ => True
  | .asignarValorCompartida _ _ => True
  | .imprimir _ => True
  | .imprimirTexto _ => True
  | .entrarSalida _ _ => True
  | .waitAnsisop _ => True
  | .signalAnsisop _ => True
  | _ => False

/-- A line that only talks with the kernel. -/
def Conversa : Linea → Prop
  | .fin => True
  | .indefinida => False
  | .llamar a resto => DeKernel a ∧ ∀ v, Conversa (resto v)

/-- The contexts and the program counter are the same. -/
def MismoLugar (e e' : Ejecucion κ) : Prop :=
  e'.contextos = e.contextos ∧ e'.programCounter = e.programCounter

theorem mismoLugar_consultar {K : Nucleo κ} {mensaje : MensajeCpu} {respuesta : MensajeKernel}
    (h : e.consultar K mensaje = (respuesta, e')) : MismoLugar e e' :=
  ⟨congrArg (fun r => r.2.contextos) h.symm, congrArg (fun r => r.2.programCounter) h.symm⟩

/-- **The kernel may answer what it likes.** -/
theorem primitiva_deKernel {a : Primitiva} (ha : DeKernel a) (e : Ejecucion κ) :
    ∃ v e', P.primitiva e a = some (v, e') ∧ MismoLugar e e' := by
  cases a with
  | obtenerValorCompartida g =>
      rw [Guion.primitiva]
      split
      · next heq => exact ⟨_, _, rfl, (mismoLugar_consultar heq).1, (mismoLugar_consultar heq).2⟩
      · next heq => exact ⟨_, _, rfl, (mismoLugar_consultar heq).1, (mismoLugar_consultar heq).2⟩
  | asignarValorCompartida g w =>
      rw [Guion.primitiva]
      split
      · next heq => exact ⟨_, _, rfl, (mismoLugar_consultar heq).1, (mismoLugar_consultar heq).2⟩
      · next heq => exact ⟨_, _, rfl, (mismoLugar_consultar heq).1, (mismoLugar_consultar heq).2⟩
  | imprimir w =>
      rw [Guion.primitiva]
      split
      · exact ⟨_, _, rfl, rfl, rfl⟩
      · split
        · next heq => exact ⟨_, _, rfl, (mismoLugar_consultar heq).1, (mismoLugar_consultar heq).2⟩
        · next heq => exact ⟨_, _, rfl, (mismoLugar_consultar heq).1, (mismoLugar_consultar heq).2⟩
  | imprimirTexto t =>
      rw [Guion.primitiva]
      split
      · next heq => exact ⟨_, _, rfl, (mismoLugar_consultar heq).1, (mismoLugar_consultar heq).2⟩
      · next heq => exact ⟨_, _, rfl, (mismoLugar_consultar heq).1, (mismoLugar_consultar heq).2⟩
  | entrarSalida d t => exact ⟨_, _, rfl, rfl, rfl⟩
  | waitAnsisop i =>
      rw [Guion.primitiva]
      split
      · next heq => exact ⟨_, _, rfl, (mismoLugar_consultar heq).1, (mismoLugar_consultar heq).2⟩
      · next heq => exact ⟨_, _, rfl, (mismoLugar_consultar heq).1, (mismoLugar_consultar heq).2⟩
  | signalAnsisop i =>
      rw [Guion.primitiva]
      split
      · next heq => exact ⟨_, _, rfl, (mismoLugar_consultar heq).1, (mismoLugar_consultar heq).2⟩
      · next heq => exact ⟨_, _, rfl, (mismoLugar_consultar heq).1, (mismoLugar_consultar heq).2⟩
  | _ => exact ha.elim

theorem interpretar_conversa {linea : Linea} (h : Conversa linea) (e : Ejecucion κ) :
    ∃ e', P.interpretar linea e = some e' ∧ MismoLugar e e' := by
  induction linea generalizing e with
  | fin => exact ⟨e, rfl, rfl, rfl⟩
  | indefinida => exact h.elim
  | llamar a resto ih =>
      obtain ⟨v, e₁, hprim, hlugar⟩ := primitiva_deKernel (P := P) h.1 e
      obtain ⟨e', hinterp, hlugar'⟩ := ih v (h.2 v) e₁
      refine ⟨e', ?_, hlugar'.1.trans hlugar.1, hlugar'.2.trans hlugar.2⟩
      rw [Guion.interpretar, hprim]
      exact hinterp

/-! ### Programs that talk and jump -/

/-- **Each of the first instructions talks with the kernel, and the next one is one of them, or
jumps to one of them.** -/
def Gira (P : Guion κ) (orden : Orden) (n : ℕ) : Prop :=
  ∀ pc : U32, pc.toNat < n → ∃ s, P.sentencia pc = some s ∧
    ((Conversa (s.linea orden) ∧ (pc + 1#32).toNat < n) ∨
      ∃ l, s = .goto l ∧ (P.etiqueta l.texto).toNat < n)

/-- A statement of such a program means something, and the next one is one of its own. -/
theorem paso_gira {n : ℕ} (hgira : Gira P orden n) (he : e.programCounter.toNat < n) :
    ∃ e', P.paso orden e = some e' ∧ e'.programCounter.toNat < n := by
  obtain ⟨s, hs, ⟨hconversa, hn⟩ | ⟨l, rfl, hl⟩⟩ := hgira _ he
  · obtain ⟨e', hinterp, -, hpc⟩ :=
      interpretar_conversa (P := P) hconversa (e.conContador (e.programCounter + 1#32))
    refine ⟨e', ?_, ?_⟩
    · rw [Guion.paso, hs]
      exact hinterp
    · rw [hpc]
      exact hn
  · refine ⟨(e.conContador (e.programCounter + 1#32)).conContador (P.etiqueta l.texto), ?_, hl⟩
    rw [Guion.paso, hs]
    rfl

/-- **A program that talks and jumps is safe**, with any kernel. -/
theorem segura_de_gira {n : ℕ} (hgira : Gira P orden n) (he : e.programCounter.toNat < n) :
    P.Segura orden e := by
  intro e' hvive _
  have hpc : e'.programCounter.toNat < n := by
    clear * - hgira he hvive
    induction hvive with
    | refl => exact he
    | tail _ hpaso ih =>
        cases hpaso with
        | sentencia _ hpaso =>
            obtain ⟨e₂, hpaso', hpc⟩ := paso_gira hgira ih
            rw [hpaso] at hpaso'
            exact Option.some_inj.1 hpaso' ▸ hpc
        | turno _ _ => exact ih
  obtain ⟨e₂, hpaso, -⟩ := paso_gira hgira hpc
  rw [hpaso]
  rfl

/-! ### The producer and the consumer -/

/-- `productor.ansisop`. -/
def literalProductor : Cadena where
  bytes := bytesDeTexto (['\n'].intercalate [
    ['#', '!', '/', 'u', 's', 'r', '/', 'b', 'i', 'n', '/', 'a', 'n', 's', 'i', 's', 'o', 'p', '/',
      'P', 'r', 'o', 'g', 'r', 'a', 'm', 'a'],
    ['b', 'e', 'g', 'i', 'n', '\t'],
    ['\t', ':', 'e', 't', 'i', 'q', 'u', 'e', 't', 'a'],
    ['\t'],
    ['\t', 'w', 'a', 'i', 't', ' ', 'b'],
    ['\t', '\t', '!', 'c', 'o', 'l', 'a', 's', ' ', '=', ' ', '!', 'c', 'o', 'l', 'a', 's', ' ',
      '+', '1'],
    ['\t', 's', 'i', 'g', 'n', 'a', 'l', ' ', 'c'],
    ['\t'],
    ['\t', '#', 'C', 'i', 'c', 'l', 'a', 'r', ' ', 'i', 'n', 'd', 'e', 'f', 'i', 'n', 'i', 'd',
      'a', 'm', 'e', 'n', 't', 'e'],
    ['\t', 'g', 'o', 't', 'o', ' ', 'e', 't', 'i', 'q', 'u', 'e', 't', 'a'],
    [],
    ['e', 'n', 'd'],
    [],
    [],
    []])
  sinNul := by decide +kernel
  strlen_lt := by decide +kernel

/-- `consumidor.ansisop`. -/
def literalConsumidor : Cadena where
  bytes := bytesDeTexto (['\n'].intercalate [
    ['#', '!', '/', 'u', 's', 'r', '/', 'b', 'i', 'n', '/', 'a', 'n', 's', 'i', 's', 'o', 'p', '/',
      'P', 'r', 'o', 'g', 'r', 'a', 'm', 'a'],
    ['b', 'e', 'g', 'i', 'n', '\t'],
    ['\t', ':', 'e', 't', 'i', 'q', 'u', 'e', 't', 'a'],
    ['\t'],
    ['\t', 'w', 'a', 'i', 't', ' ', 'c'],
    ['\t', '\t', 'p', 'r', 'i', 'n', 't', ' ', '!', 'c', 'o', 'l', 'a', 's'],
    ['\t', 's', 'i', 'g', 'n', 'a', 'l', ' ', 'b'],
    ['\t'],
    ['\t', '#', 'C', 'i', 'c', 'l', 'a', 'r', ' ', 'i', 'n', 'd', 'e', 'f', 'i', 'n', 'i', 'd',
      'a', 'm', 'e', 'n', 't', 'e'],
    ['\t', 'g', 'o', 't', 'o', ' ', 'e', 't', 'i', 'q', 'u', 'e', 't', 'a'],
    [],
    ['e', 'n', 'd'],
    [],
    [],
    []])
  sinNul := by decide +kernel
  strlen_lt := by decide +kernel

def progProductor : Prog := (nuevoPrograma literalProductor).get (by decide +kernel)

def progConsumidor : Prog := (nuevoPrograma literalConsumidor).get (by decide +kernel)

/-- The names of the scripts. -/
def palabraB : Palabra := ⟨['b'], by simp, List.all_eq_true.1 (by decide)⟩
def palabraC : Palabra := ⟨['c'], by simp, List.all_eq_true.1 (by decide)⟩
def palabraEtiqueta : Palabra := ⟨"etiqueta".toList, by simp, List.all_eq_true.1 (by decide)⟩
def colas : Identificador := ⟨"colas".toList, by simp, List.all_eq_true.1 (by decide)⟩
def uno : Numero := ⟨['1'], by simp, List.all_eq_true.1 (by decide)⟩

/-- The statements of the producer, but the last one. -/
def sentenciasProductor : List Sentencia :=
  [.wait palabraB,
    .asignarCompartida colas (.mas (.atomo (.compartida colas)) (.atomo (.numero uno))),
    .signal palabraC]

/-- The statements of the consumer, but the last one. -/
def sentenciasConsumidor : List Sentencia :=
  [.wait palabraC, .print (.atomo (.compartida colas)), .signal palabraB]

theorem sentencias_productor : ∀ i < 4,
    sentenciaDe literalProductor (BitVec.ofNat 32 i) =
    (sentenciasProductor ++ [.goto palabraEtiqueta])[i]? := by
  decide +kernel

theorem sentencias_consumidor : ∀ i < 4,
    sentenciaDe literalConsumidor (BitVec.ofNat 32 i) =
    (sentenciasConsumidor ++ [.goto palabraEtiqueta])[i]? := by
  decide +kernel

/-- A script of four statements that are as in a list: three that talk and a jump to the first
one. -/
theorem gira_de_lista {K : Nucleo κ} {pcb : Pcb} {stack : U32} {literal : Cadena} {prog : Prog}
    {ss : List Sentencia} {l : Palabra} (hlen : ss.length = 3)
    (hss : ∀ i < 4, sentenciaDe literal (BitVec.ofNat 32 i) = (ss ++ [.goto l])[i]?)
    (hconversa : ∀ s ∈ ss, Conversa (s.linea orden))
    (hetiqueta : Cpu.metadataBuscarEtiqueta l.texto prog.etiquetas pcb.tamanioEtiqueta = 0#32) :
    Gira (Guion.deScript K pcb stack literal prog) orden 4 := by
  intro pc hpc
  have hs := hss pc.toNat hpc
  rw [BitVec.ofNat_toNat, BitVec.setWidth_eq] at hs
  by_cases hlt : pc.toNat < 3
  · rw [List.getElem?_append_left (hlen ▸ hlt)] at hs
    refine ⟨_, hs.trans (List.getElem?_eq_getElem (hlen ▸ hlt)),
      Or.inl ⟨hconversa _ (List.getElem_mem _), ?_⟩⟩
    bv_omega
  · rw [List.getElem?_append_right (by omega), hlen, show pc.toNat - 3 = 0 by omega] at hs
    refine ⟨_, hs, Or.inr ⟨l, rfl, ?_⟩⟩
    change (Cpu.metadataBuscarEtiqueta l.texto prog.etiquetas pcb.tamanioEtiqueta).toNat < 4
    rw [hetiqueta]
    decide

theorem conversa_productor (orden : Orden) :
    ∀ s ∈ sentenciasProductor, Conversa (s.linea orden) := by
  intro s hs
  obtain rfl | rfl | rfl := by simpa [sentenciasProductor] using hs
  · exact ⟨trivial, fun _ => trivial⟩
  · cases horden : orden.operandos with
    | true =>
        simp only [Sentencia.linea, Expr.linea, Cpu.ambos, horden]
        exact ⟨trivial, fun _ => ⟨trivial, fun _ => trivial⟩⟩
    | false =>
        simp only [Sentencia.linea, Expr.linea, Cpu.ambos, horden]
        exact ⟨trivial, fun _ => ⟨trivial, fun _ => trivial⟩⟩
  · exact ⟨trivial, fun _ => trivial⟩

theorem conversa_consumidor (orden : Orden) :
    ∀ s ∈ sentenciasConsumidor, Conversa (s.linea orden) := by
  intro s hs
  obtain rfl | rfl | rfl := by simpa [sentenciasConsumidor] using hs
  · exact ⟨trivial, fun _ => trivial⟩
  · exact ⟨trivial, fun _ => ⟨trivial, fun _ => trivial⟩⟩
  · exact ⟨trivial, fun _ => trivial⟩

/-- **The producer is safe**, with any kernel: it never runs into an error, however long it runs. -/
theorem segura_productor (K : Nucleo κ) {pcb : Pcb} (stack : U32) (orden : Orden)
    (htam : pcb.tamanioEtiqueta = progProductor.tamanioEtiqueta) (hpc : pcb.programCounter = 0#32)
    (resto : κ) :
    (Guion.deScript K pcb stack literalProductor progProductor).Segura orden
      ((Guion.deScript K pcb stack literalProductor progProductor).inicio resto) := by
  have hetiqueta : Cpu.metadataBuscarEtiqueta palabraEtiqueta.texto progProductor.etiquetas
      progProductor.tamanioEtiqueta = 0#32 := by
    decide +kernel
  refine segura_de_gira (gira_de_lista rfl sentencias_productor (conversa_productor orden)
    (htam ▸ hetiqueta))
    ?_
  change pcb.programCounter.toNat < 4
  rw [hpc]
  decide

/-- **The consumer is safe**, with any kernel. -/
theorem segura_consumidor (K : Nucleo κ) {pcb : Pcb} (stack : U32) (orden : Orden)
    (htam : pcb.tamanioEtiqueta = progConsumidor.tamanioEtiqueta) (hpc : pcb.programCounter = 0#32)
    (resto : κ) :
    (Guion.deScript K pcb stack literalConsumidor progConsumidor).Segura orden
      ((Guion.deScript K pcb stack literalConsumidor progConsumidor).inicio resto) := by
  have hetiqueta : Cpu.metadataBuscarEtiqueta palabraEtiqueta.texto progConsumidor.etiquetas
      progConsumidor.tamanioEtiqueta = 0#32 := by
    decide +kernel
  refine segura_de_gira
    (gira_de_lista rfl sentencias_consumidor (conversa_consumidor orden) (htam ▸ hetiqueta)) ?_
  change pcb.programCounter.toNat < 4
  rw [hpc]
  decide

/-! ### The consumer, from its admission on -/

/-- The PCB of the consumer, before its segments have addresses. -/
def pcbConsumidor : Pcb :=
  { Kernel.pcbNulo with pid := 1002#32, tamanioEtiqueta := 13#32, cantidad_de_etiquetas := 1#32 }

/-- The segments of the consumer. -/
def segmentosConsumidor : List Umv.TipoSegmento :=
  [⟨1002#32, 131#32, 500#32, 0x1000#32⟩, ⟨1002#32, 40#32, 501#32, 0x1083#32⟩,
    ⟨1002#32, 13#32, 502#32, 0x10ab#32⟩, ⟨1002#32, 16#32, 503#32, 0x10b8#32⟩]

theorem entra_consumidor {i : ℕ} (hi : i < 4) :
    Kernel.Entra Cpu.bloque4096 .FF (segmentosConsumidor.take i) 1002#32
      (([131#32, 40#32, 13#32, 16#32] : List U32).getD i 0#32) (BitVec.ofNat 32 (500 + i))
      (segmentosConsumidor.take (i + 1)) := by
  refine .de_ceros [BitVec.ofNat 32 (500 + i)] ?_ ?_ ?_
  all_goals
    obtain rfl | rfl | rfl | rfl : i = 0 ∨ i = 1 ∨ i = 2 ∨ i = 3 := by omega
    all_goals first | decide | rfl

/-- The consumer is admitted. -/
theorem admite_consumidor : ∃ v₀ v tr, Kernel.Comienza Cpu.bloque4096 1 v₀ ∧
    v₀.pcb = Kernel.nuevoPcb literalConsumidor pcbConsumidor ∧
    Kernel.SinOtros Cpu.bloque4096 progConsumidor 16#32 1 v₀ tr v ∧ v.loc = .aceptado ∧
    v.pcb.tamanioEtiqueta = progConsumidor.tamanioEtiqueta ∧ v.pcb.programCounter = 0#32 := by
  have hfin : (Kernel.correr Kernel.conPids (Kernel.llegaPrograma ++ [.principal pcbConsumidor,
      .principal pcbConsumidor, .principal pcbConsumidor, .plp none, .plp none])
      (Kernel.inicial Kernel.configuracionSola)).any
        (fun k => decide (k.plp = .guarda 1 ∧ k.comun.pcb 1 = pcbConsumidor)) = true := by
    decide +kernel
  obtain ⟨k, hk, hfin⟩ := Option.any_eq_true _ _ |>.1 hfin
  obtain ⟨hplp, hpcb⟩ := of_decide_eq_true hfin
  have hkernel := (Kernel.run_of_correr hk).restrict_mono fun _ _ => Kernel.conPids_of_test
  have htamanios : ∀ i < 4, Kernel.arrayDeTamano progConsumidor 16#32 i =
      ([131#32, 40#32, 13#32, 16#32] : List U32).getD i 0#32 := by
    decide +kernel
  have hentra :
      ∀ i < 4, Kernel.Entra Cpu.bloque4096 .FF (segmentosConsumidor.take i) (Kernel.pidDe 1)
      (Kernel.arrayDeTamano progConsumidor 16#32 i) (BitVec.ofNat 32 (500 + i))
      (segmentosConsumidor.take (i + 1)) := by
    intro i hi
    rw [htamanios i hi]
    exact entra_consumidor hi
  have hpid : pcbConsumidor.pid = Kernel.pidDe 1 := rfl
  obtain ⟨tr, k', memoria, hrun⟩ := Kernel.sinOtros_cuatro (fun _ => 0#8) hplp hpid
    (fun i => segmentosConsumidor.take i) (fun i => BitVec.ofNat 32 (500 + i)) hentra
  have hcomienza : Kernel.Comienza Cpu.bloque4096 1
      ⟨k, Kernel.quieto ⟨.FF, fun _ => 0#8, []⟩, ⟨0#32, 0#32⟩, .saluda false, pcbConsumidor⟩ :=
    ⟨⟨_, _, hkernel⟩, hplp, hpcb.symm, rfl, Umv.Sistema.Inicial.valido ⟨rfl, fun _ => rfl⟩⟩
  have hnuevo : pcbConsumidor = Kernel.nuevoPcb literalConsumidor pcbConsumidor := by decide +kernel
  have htam : (13#32 : U32) = progConsumidor.tamanioEtiqueta := by decide +kernel
  exact ⟨_, _, tr, hcomienza, hnuevo, hrun, rfl, htam, rfl⟩

/-- A CPU that is given a PCB, with the memory of the UMV around it. -/
def cpuEn (memoria : Umv.Abstracta) : Maquina (Cpu.Mundo Unit) :=
  { Cpu.maquinaInicial with entorno := ⟨memoria, 0#32, ()⟩ }

/-- The lines of the consumer are short, and have no `%`. -/
theorem registrables_consumidor {σ : Type*} (E : Cpu.Entorno σ) (orden : Orden) :
    Registrables E orden literalConsumidor := by
  intro linea hlinea
  have hbreves :
      ((Kernel.lineasEjecutables literalConsumidor).all fun l =>
      decide (Cpu.Breve (Cpu.textoDe l))) =
      true := by decide +kernel
  exact Cpu.registrable_of_breve E orden
    (of_decide_eq_true (List.all_eq_true.1 hbreves linea hlinea))

/-- **The consumer, after its admission**: its first burst ends, and the PCB that it sends is that
of the consumer at some moment of its life. -/
theorem vive_admitido_consumidor : ∃ v : Kernel.Admision, v.loc = .aceptado ∧
    ∃ m' e', Cpu.ciclo (Cpu.entornoUmv Cpu.nucleoContinuar) ⟨true, true⟩ v.pcb
        (cpuEn v.umv.estado.abstracta) = some m' ∧
      m'.estado.pcb = (Guion.deScript Cpu.nucleoContinuar v.pcb 16#32 literalConsumidor
        progConsumidor).pcbDe e' := by
  obtain ⟨v₀, v, tr, hv₀, hpcb₀, hrun, hloc, htam, hpc⟩ := admite_consumidor
  have hmemoria : (puestoUmv Cpu.nucleoContinuar).memoria (cpuEn v.umv.estado.abstracta).entorno
      (Kernel.pidDe 1) = v.umv.estado.abstracta (Kernel.pidDe 1) := rfl
  obtain ⟨m', e', hciclo, -, -, hpcb, -⟩ :=
    vive_admitido Cpu.bloque4096 literalConsumidor progConsumidor
    16#32 1 0 1 (Option.some_get _).symm (by decide) (by decide) hv₀ ⟨_, hpcb₀⟩ hrun hloc
    (puestoUmv Cpu.nucleoContinuar) hmemoria (Nat.zero_lt_succ 19)
    (segura_consumidor _ _ ⟨true, true⟩ htam hpc _) (registrables_consumidor _ _) .refl
  exact ⟨v, hloc, m', e', hciclo, hpcb⟩

end Ansisop.Lenguaje
