/-
**The CPU: its state and its environment.**

A CPU keeps its state in globals: the PCB of the program it runs, a dictionary from the names of the
variables of the current context to their addresses, the block of labels, and the state of the
burst.  Everything else it learns by asking: the UMV for bytes, the kernel for the rest.  The
environment is a parameter: a state of any type and functions that answer each request from it, so
that a theorem about all environments is about all sequences of replies.

Main definitions:

* `Ansisop.Cpu.Estado` — the globals of the CPU;
* `Ansisop.Cpu.Entorno`, `Ansisop.Cpu.Maquina` — the environment, and a CPU in it with the log of
  what it has sent to the kernel;
* `Ansisop.Cpu.dictionaryPut`, `Ansisop.Cpu.dictionaryGet` — the dictionary of the variables;
* `Ansisop.Cpu.excepcionSolicitud`, `Ansisop.Cpu.actualizarContexto`,
  `Ansisop.Cpu.generarBloqueEtiquetas`.
-/

import Ansisop.Lib.HashTable
import Ansisop.Protocolo.Mensajes

set_option relaxedAutoImplicit false
set_option autoImplicit false

namespace Ansisop.Cpu

/-! ### The state of the CPU -/

/-- The values of `estadoRafaga`. -/
inductive EstadoRafaga
  | notificarPorFinRafaga
  | notificarPorFinPrograma
  | entradaSalidaKernel
  | waitPcbBloqueado
  | exception
deriving DecidableEq, Repr

/-- The globals of the CPU. -/
structure Estado where
  pcb : Pcb
  diccionarioVariables : HashTable.Table TPuntero
  bloqueEtiquetas : List Byte
  inicioContexto : TPuntero
  quantumDeEjecucion : U32
  estadoRafaga : EstadoRafaga

/-- The environment of a CPU: the detail of its log, how the UMV and the kernel answer, and what is
in memory that the code reads before it has written it.  The UMV answers a request with what was
asked for or with the text of an error, such as `segmentation_fault`. -/
structure Entorno (σ : Type*) where
  /-- `lvl`, the second argument of the program -/
  lvl : ℕ
  solicitar : σ → SolicitudBytes → Except Texto (List Byte) × σ
  almacenar : σ → AlmacenarBytes → Except Texto Unit × σ
  cambioProcesoActivo : σ → U32 → σ
  /-- a message to the kernel that waits for the reply -/
  consultar : σ → MensajeCpu → MensajeKernel × σ
  /-- a message to the kernel that does not -/
  enviar : σ → MensajeCpu → σ
  basura : σ → U32 × σ

/-- A CPU in its environment.  `enviados` is the log of the messages sent to the kernel since the
last PCB was received, each with its reply if the CPU waits for one, and `errores` is the number of
requests that the UMV has answered with an error. -/
structure Maquina (σ : Type*) where
  estado : Estado
  entorno : σ
  enviados : List (MensajeCpu × Option MensajeKernel)
  errores : ℕ

/-- One for an error, none otherwise. -/
def contarError {α : Type*} : Except Texto α → ℕ
  | .ok _ => 0
  | .error _ => 1

variable {σ : Type*} (E : Entorno σ)

/-- `enviaYRecibeAOtroProceso` on a `solicitar` to the UMV. -/
def Maquina.solicitar (m : Maquina σ) (sol : SolicitudBytes) :
    Except Texto (List Byte) × Maquina σ :=
  ((E.solicitar m.entorno sol).1, { m with
    entorno := (E.solicitar m.entorno sol).2
    errores := m.errores + contarError (E.solicitar m.entorno sol).1 })

/-- `enviaYRecibeAOtroProceso` on an `almacenar` to the UMV. -/
def Maquina.almacenar (m : Maquina σ) (st : AlmacenarBytes) : Except Texto Unit × Maquina σ :=
  ((E.almacenar m.entorno st).1, { m with
    entorno := (E.almacenar m.entorno st).2
    errores := m.errores + contarError (E.almacenar m.entorno st).1 })

/-- `enviaYRecibeAOtroProceso` to the kernel. -/
def Maquina.consultar (m : Maquina σ) (mensaje : MensajeCpu) : MensajeKernel × Maquina σ :=
  ((E.consultar m.entorno mensaje).1, { m with
    entorno := (E.consultar m.entorno mensaje).2
    enviados := m.enviados ++ [(mensaje, some (E.consultar m.entorno mensaje).1)] })

/-- `enviarAKernel`. -/
def Maquina.enviarAKernel (m : Maquina σ) (mensaje : MensajeCpu) : Maquina σ :=
  { m with
    entorno := E.enviar m.entorno mensaje
    enviados := m.enviados ++ [(mensaje, none)] }

/-- The value of an uninitialised word. -/
def Maquina.basura (m : Maquina σ) : U32 × Maquina σ :=
  ((E.basura m.entorno).1, { m with entorno := (E.basura m.entorno).2 })

/-- A new PCB. -/
def Maquina.conPcb (m : Maquina σ) (pcb : Pcb) : Maquina σ :=
  { m with estado := { m.estado with pcb } }

/-- A new dictionary. -/
def Maquina.conDiccionario (m : Maquina σ) (diccionarioVariables : HashTable.Table TPuntero) :
    Maquina σ :=
  { m with estado := { m.estado with diccionarioVariables } }

/-- A new start of context. -/
def Maquina.conInicio (m : Maquina σ) (inicioContexto : TPuntero) : Maquina σ :=
  { m with estado := { m.estado with inicioContexto } }

/-- A new block of labels. -/
def Maquina.conEtiquetas (m : Maquina σ) (bloqueEtiquetas : List Byte) : Maquina σ :=
  { m with estado := { m.estado with bloqueEtiquetas } }

/-- A new state of the burst. -/
def Maquina.conRafaga (m : Maquina σ) (estadoRafaga : EstadoRafaga) : Maquina σ :=
  { m with estado := { m.estado with estadoRafaga } }

/-! ### The dictionary of the variables -/

/-- `dictionary_hash`. -/
def dictionaryHash (key : List Byte) : U32 :=
  let hash := key.foldl (fun (hash : U32) c =>
    let hash := hash + c.setWidth 32
    let hash := hash + hash <<< 10
    hash ^^^ hash >>> 6) 0#32
  let hash := hash + hash <<< 3
  let hash := hash ^^^ hash >>> 11
  hash + hash <<< 15

/-- The hash code of the name of a variable, a string of one character; it is empty when the
character is NUL. -/
def codigo (nombre : Byte) : ℕ :=
  (dictionaryHash (if nombre = 0#8 then [] else [nombre])).toNat

/-- `dictionary_put` on the name of a variable. -/
def dictionaryPut (diccionario : HashTable.Table TPuntero) (nombre : Byte) (puntero : TPuntero) :
    HashTable.Table TPuntero :=
  HashTable.put diccionario (codigo nombre, puntero)

/-- `dictionary_get` on the name of a variable. -/
def dictionaryGet (diccionario : HashTable.Table TPuntero) (nombre : Byte) : Option TPuntero :=
  HashTable.get diccionario (codigo nombre)

/-! ### The contexts and the labels -/

/-- `excepcionSolicitud`. -/
def excepcionSolicitud (m : Maquina σ) (texto : Texto) : Maquina σ :=
  (m.conRafaga .exception).enviarAKernel E (.exception texto)

/-- The loop of `actualizarContexto`: the bytes at `0`, `5`, `10`, … of the context are the names of
its variables, and the address of each one is that of the byte after its name. -/
def cargarVariables (diccionario : HashTable.Table TPuntero) (inicio : TPuntero)
    (data : List Byte) (tamanio : ℕ) : HashTable.Table TPuntero :=
  (List.range ((tamanio + 4) / 5)).foldl (fun diccionario k =>
    dictionaryPut diccionario (data.getD (5 * k) 0#8) (inicio + BitVec.ofNat 32 (5 * k + 1)))
    diccionario

/-- `actualizarContexto`. -/
def actualizarContexto (m : Maquina σ) : Maquina σ :=
  let pcb := m.estado.pcb
  let desplazamiento := pcb.cursorStack - m.estado.inicioContexto
  let tamanioContexto := desplazamiento.sdiv 5#32
  let offset := m.estado.inicioContexto - pcb.segmentoStack
  let m := m.conDiccionario (HashTable.clean m.estado.diccionarioVariables)
  let m := m.conPcb { pcb with tamanioContexto }
  match m.solicitar E ⟨pcb.segmentoStack, offset, tamanioContexto * 5#32⟩ with
  | (.ok data, m) =>
      m.conDiccionario (cargarVariables m.estado.diccionarioVariables (pcb.segmentoStack + offset)
        data (tamanioContexto * 5#32).toNat)
  | (.error texto, m) => excepcionSolicitud E m texto

/-- `generarBloqueEtiquetas`.  The loop that follows the copy computes values that nothing uses. -/
def generarBloqueEtiquetas (m : Maquina σ) : Maquina σ :=
  let pcb := m.estado.pcb
  if 0#32 < pcb.tamanioEtiqueta then
    match m.solicitar E ⟨pcb.indiceEtiqueta, 0#32, pcb.tamanioEtiqueta⟩ with
    | (.ok data, m) => m.conEtiquetas (data.take pcb.tamanioEtiqueta.toNat)
    | (.error texto, m) => excepcionSolicitud E m texto
  else m

end Ansisop.Cpu
