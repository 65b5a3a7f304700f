/-
**The meaning of AnSISOP.**

The state of a program, as its author sees it: its contexts, the instruction that comes next,
whether the burst goes on, and what it has said to the kernel.  A primitive means something only
when it is used as it is meant to be: a name that is defined, a pointer to a value of some context,
room in the stack, and a return that goes with its call.  The kernel is a parameter, as are the
values of the variables when they are defined.

Main definitions:

* `Ansisop.Lenguaje.Guion` — a program: its statements, the index of its labels, its stack and its
  kernel;
* `Ansisop.Lenguaje.Ejecucion` — the state of a program;
* `Ansisop.Lenguaje.Guion.primitiva`, `Ansisop.Lenguaje.Guion.interpretar` — **the meaning of a
  primitive and of a line**;
* `Ansisop.Lenguaje.Guion.paso`, `Ansisop.Lenguaje.Guion.rafaga` — a statement, and a burst of them.
-/

import Ansisop.Lenguaje.Contextos
import Ansisop.Lenguaje.Sentencias
import Ansisop.Cpu.Mundo

set_option relaxedAutoImplicit false
set_option autoImplicit false

namespace Ansisop.Lenguaje

open Cpu (Nucleo EstadoRafaga Primitiva Linea Orden metadataBuscarEtiqueta)

/-- **A program**: the kernel that answers it, what does not change of its PCB, the bytes of its
stack, the index of its labels and its statements, by number of instruction. -/
structure Guion (κ : Type*) where
  nucleo : Nucleo κ
  pcb : Pcb
  tamanioStack : ℕ
  bloqueEtiquetas : List Byte
  sentencia : U32 → Option Sentencia

/-- **The state of a program.**  `enviados` is what it has sent to the kernel, with the answers, and
`resto` the state of the kernel. -/
structure Ejecucion (κ : Type*) where
  contextos : Contextos
  programCounter : U32
  rafaga : EstadoRafaga
  enviados : List (MensajeCpu × Option MensajeKernel)
  resto : κ

variable {κ : Type*}

namespace Ejecucion

/-- A question to the kernel. -/
def consultar (K : Nucleo κ) (e : Ejecucion κ) (mensaje : MensajeCpu) :
    MensajeKernel × Ejecucion κ :=
  ((K.consultar e.resto mensaje).1, { e with
    enviados := e.enviados ++ [(mensaje, some (K.consultar e.resto mensaje).1)]
    resto := (K.consultar e.resto mensaje).2 })

/-- A notice to the kernel. -/
def enviar (K : Nucleo κ) (e : Ejecucion κ) (mensaje : MensajeCpu) : Ejecucion κ :=
  { e with
    enviados := e.enviados ++ [(mensaje, none)]
    resto := K.enviar e.resto mensaje }

/-- A value that nobody has chosen. -/
def basura (K : Nucleo κ) (e : Ejecucion κ) : U32 × Ejecucion κ :=
  ((K.basura e.resto).1, { e with resto := (K.basura e.resto).2 })

/-- The burst goes on, or it does not. -/
def conRafaga (e : Ejecucion κ) (rafaga : EstadoRafaga) : Ejecucion κ := { e with rafaga }

/-- The instruction that comes next. -/
def conContador (e : Ejecucion κ) (programCounter : U32) : Ejecucion κ := { e with programCounter }

/-- Other contexts. -/
def conContextos (e : Ejecucion κ) (contextos : Contextos) : Ejecucion κ := { e with contextos }

end Ejecucion

namespace Guion

variable (P : Guion κ)

/-- The address of a place of the stack. -/
def dir (i : ℕ) : TPuntero := P.pcb.segmentoStack + BitVec.ofNat 32 i

/-- The place of the stack that an address is. -/
def lugar (dir : TPuntero) : ℕ := (dir - P.pcb.segmentoStack).toNat

/-- The PCB of the program. -/
def pcbDe (e : Ejecucion κ) : Pcb :=
  { P.pcb with
    programCounter := e.programCounter
    cursorStack := P.dir e.contextos.pila.tope
    tamanioContexto := BitVec.ofNat 32 e.contextos.pila.celdas }

/-- The instruction of a label. -/
def etiqueta (nombre : Texto) : U32 :=
  metadataBuscarEtiqueta nombre P.bloqueEtiquetas P.pcb.tamanioEtiqueta

/-- A call: a context over the current one, if there is room for its header. -/
def llamada (e : Ejecucion κ) (funcion : Texto) (donde : Option TPuntero) : Option (Ejecucion κ) :=
  if e.contextos.pila.tope + Cpu.tamanioCabecera donde ≤ P.tamanioStack then
    some ((e.conContextos (.marco e.contextos e.programCounter donde [])).conContador
      (P.etiqueta funcion))
  else none

/-- The end of a context without a result, and of the program in the outermost one. -/
def fin (e : Ejecucion κ) : Option (Ejecucion κ) :=
  match e.contextos with
  | .base _ => some (e.conRafaga .notificarPorFinPrograma)
  | .marco c pc none _ => some ((e.conContextos c).conContador pc)
  | .marco _ _ (some _) _ => none

/-- The end of a context with a result. -/
def retorno (valor : U32) (e : Ejecucion κ) : Option (Ejecucion κ) :=
  match e.contextos with
  | .marco c pc (some dir) _ =>
      some ((e.conContextos (c.escribir valor (P.lugar dir))).conContador pc)
  | _ => none

/-- **The meaning of a primitive**, with its result.  There is none when it is not used as it is
meant to be. -/
def primitiva (e : Ejecucion κ) : Primitiva → Option (U32 × Ejecucion κ)
  | .definirVariable nombre =>
      if e.contextos.pila.tope + 5 ≤ P.tamanioStack then
        some (P.dir (e.contextos.pila.tope + 1),
          (e.basura P.nucleo).2.conContextos (e.contextos.definir nombre (e.basura P.nucleo).1))
      else none
  | .obtenerPosicionVariable nombre => (e.contextos.posicion nombre).map fun i => (P.dir i, e)
  | .dereferenciar dir => (e.contextos.leer (P.lugar dir)).map fun v => (v, e)
  | .asignar dir valor =>
      (e.contextos.leer (P.lugar dir)).map fun _ =>
        (0#32, e.conContextos (e.contextos.escribir valor (P.lugar dir)))
  | .irAlLabel nombre => some (0#32, e.conContador (P.etiqueta nombre))
  | .llamarSinRetorno funcion => (P.llamada e funcion none).map fun e => (0#32, e)
  | .llamarConRetorno funcion donde =>
      (e.contextos.leer (P.lugar donde)).bind fun _ =>
        (P.llamada e funcion (some donde)).map fun e => (0#32, e)
  | .finalizar => (fin e).map fun e => (0#32, e)
  | .retornar valor => (P.retorno valor e).map fun e => (0#32, e)
  | .obtenerValorCompartida nombre =>
      match e.consultar P.nucleo (.obtenerValorVarCompartida nombre) with
      | (.valorCompartida valor, e) => some (valor, e)
      | (_, e) => some ((e.conRafaga .notificarPorFinPrograma).basura P.nucleo)
  | .asignarValorCompartida nombre valor =>
      match e.consultar P.nucleo (.asignarValorVarCompartida nombre valor) with
      | (.continuar, e) => some (valor, e)
      | (_, e) => some (valor, e.conRafaga .notificarPorFinPrograma)
  | .imprimir valor =>
      if e.rafaga = .notificarPorFinPrograma then some (0#32, e)
      else
        match e.consultar P.nucleo (.imprimirKernel valor) with
        | (.continuar, e) => some (0#32, e)
        | (_, e) => some (0#32, e.conRafaga .notificarPorFinPrograma)
  | .imprimirTexto texto =>
      match e.consultar P.nucleo (.imprimirTextoKernel texto) with
      | (.continuar, e) => some (0#32, e)
      | (_, e) => some (0#32, e.conRafaga .notificarPorFinPrograma)
  | .entrarSalida dispositivo tiempo =>
      some (0#32, (e.conRafaga .entradaSalidaKernel).enviar P.nucleo
        (.entradaSalidaKernel dispositivo tiempo (P.pcbDe e)))
  | .waitAnsisop semaforo =>
      match e.consultar P.nucleo (.waitKernel semaforo (P.pcbDe e)) with
      | (.continuar, e) => some (0#32, e)
      | (_, e) => some (0#32, e.conRafaga .waitPcbBloqueado)
  | .signalAnsisop semaforo =>
      match e.consultar P.nucleo (.signalKernel semaforo) with
      | (.terminar, e) => some (0#32, e.conRafaga .notificarPorFinPrograma)
      | (_, e) => some (0#32, e)

/-- **The meaning of a line.** -/
def interpretar : Linea → Ejecucion κ → Option (Ejecucion κ)
  | .fin, e => some e
  | .indefinida, _ => none
  | .llamar a resto, e => (P.primitiva e a).bind fun r => interpretar (resto r.1) r.2

/-- **A statement**, with the program counter already at the next one. -/
def paso (orden : Orden) (e : Ejecucion κ) : Option (Ejecucion κ) :=
  (P.sentencia e.programCounter).bind fun s =>
    P.interpretar (s.linea orden) (e.conContador (e.programCounter + 1#32))

/-- **A burst**, of as many statements as the quantum leaves. -/
def rafaga (orden : Orden) : ℕ → Ejecucion κ → Option (Ejecucion κ)
  | 0, e => some e
  | turnos + 1, e =>
      if e.rafaga = .notificarPorFinRafaga then (P.paso orden e).bind (rafaga orden turnos)
      else some e

end Guion

end Ansisop.Lenguaje
