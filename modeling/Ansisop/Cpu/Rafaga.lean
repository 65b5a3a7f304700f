/-
**The burst.**

The loop of `main` receives a PCB, runs its program for a burst of at most a quantum of instructions
and sends the PCB back, unless the program has already left the CPU with an input/output, a wait
that blocks or an exception.  This module translates what happens between two receptions of a PCB.

Main definitions:

* `Ansisop.Cpu.recibirPcb`, `Ansisop.Cpu.traerProximaInstruccion`, `Ansisop.Cpu.ejecutarRafaga`,
  `Ansisop.Cpu.ciclo` — one turn of the loop of `main`.
-/

import Ansisop.Cpu.Analizador

set_option relaxedAutoImplicit false
set_option autoImplicit false

namespace Ansisop.Cpu

open Commons (logLevelInfo)

variable {σ : Type*} (E : Entorno σ) (orden : Orden)

/-! ### The loop of `main` -/

/-- The start of the current context, and its variables. -/
def recargarContexto (m : Maquina σ) : Maquina σ :=
  actualizarContexto E
    (m.conInicio (m.estado.pcb.cursorStack - m.estado.pcb.tamanioContexto * 5#32))

/-- `recibirPcb`, from the moment the message with the PCB has arrived.  The log of the messages to
the kernel starts again there. -/
def recibirPcb (pcb : Pcb) (m : Maquina σ) : Maquina σ :=
  let m := { m.conPcb pcb with
    enviados := []
    entorno := E.cambioProcesoActivo m.entorno pcb.pid }
  let m := generarBloqueEtiquetas E m
  if 0#32 < m.estado.pcb.tamanioContexto then recargarContexto E m else m

/-- `proximaLineaDeCodigo`: the line, up to its NUL, or nothing when the UMV does not give it. -/
def proximaLineaDeCodigo (instruccion : List Byte) (m : Maquina σ) :
    Option (List Byte) × Maquina σ :=
  let tamanio := palabra instruccion 4
  match m.solicitar E ⟨m.estado.pcb.segmentoCodigo, palabra instruccion 0, tamanio⟩ with
  | (.ok data, m) => (some ((data.take tamanio.toNat).takeWhile (· ≠ 0#8)), m)
  | (.error texto, m) => (none, excepcionSolicitud E m texto)

/-- `traerProximaInstruccion`. -/
def traerProximaInstruccion (m : Maquina σ) : Option (List Byte) × Maquina σ :=
  let pcb := m.estado.pcb
  match m.solicitar E ⟨pcb.indiceCodigo, 8#32 * pcb.programCounter, 8#32⟩ with
  | (.ok data, m) => proximaLineaDeCodigo E data m
  | (.error texto, m) => (none, excepcionSolicitud E m texto)

/-- The text of a line, without the newline at its end.  On an empty line the code looks at the byte
before it, which belongs to the header that `malloc` keeps there; the line is left as it is. -/
def sinSalto (linea : List Byte) : Texto :=
  (if linea.getLast? = some 10#8 then linea.dropLast else linea).map fun c => Char.ofNat c.toNat

/-- `puedeSeguirEjecutando`, once the quantum is not over. -/
def puedeSeguirEjecutando (m : Maquina σ) : Bool :=
  m.estado.estadoRafaga != .notificarPorFinPrograma &&
    m.estado.estadoRafaga != .entradaSalidaKernel &&
    m.estado.estadoRafaga != .exception &&
    m.estado.estadoRafaga != .waitPcbBloqueado

/-- What `ejecutarRafaga` logs of a line. -/
def registroLinea (lineaCodigo : Texto) : Texto :=
  "linea de codigo:[".toList ++ lineaCodigo ++ "]".toList

/-- The loop of `ejecutarRafaga`, with the turns that the quantum leaves.  There is no result when
the code reads through a null pointer, the missing line of `traerProximaInstruccion` among them, or
when the line cannot be logged. -/
def rafagaDesde : ℕ → Maquina σ → Option (Maquina σ)
  | 0, m => some m
  | turnos + 1, m =>
      if puedeSeguirEjecutando m then
        match traerProximaInstruccion E m with
        | (some linea, m) =>
            (E.registrarTexto logLevelInfo (registroLinea (sinSalto linea))).bind fun () =>
              let m := m.conPcb { m.estado.pcb with
                programCounter := m.estado.pcb.programCounter + 1#32 }
              (interpretar E (analizadorLinea orden (sinSalto linea)) m).bind (rafagaDesde turnos)
        | (none, _) => none
      else some m

/-- `ejecutarRafaga`. -/
def ejecutarRafaga (m : Maquina σ) : Option (Maquina σ) :=
  rafagaDesde E orden m.estado.quantumDeEjecucion.toNat (m.conRafaga .notificarPorFinRafaga)

/-- The end of a turn of the loop of `main`: `enviarPcbAKernel`, unless the program has left. -/
def enviarPcb (m : Maquina σ) : Maquina σ :=
  match m.estado.estadoRafaga with
  | .notificarPorFinRafaga => m.enviarAKernel E (.notificarPorFinRafaga m.estado.pcb)
  | .notificarPorFinPrograma => m.enviarAKernel E (.notificarPorFinPrograma m.estado.pcb)
  | _ => m

/-- What precedes the burst: `recibirPcb`, and the context again at the start of the loop. -/
def iniciarRafaga (pcb : Pcb) (m : Maquina σ) : Maquina σ :=
  recargarContexto E (recibirPcb E pcb m)

/-- From the reception of a PCB to the next one. -/
def ciclo (pcb : Pcb) (m : Maquina σ) : Option (Maquina σ) :=
  (ejecutarRafaga E orden (iniciarRafaga E pcb m)).map (enviarPcb E)

end Ansisop.Cpu
