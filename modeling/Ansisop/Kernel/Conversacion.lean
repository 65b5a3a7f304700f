/-
**A CPU and its thread of the kernel, over a stream of bytes.**

The messages between a CPU and the kernel carry no length, and `socket_recv` takes the bytes that
have arrived as one message: what was sent with several calls of `send` may be received together.  A
decoder reads one message at the start of the bytes, and what comes after it is lost.

Most of the time the two sides take turns, so there is never more than one message on its way.
There is an exception: a `wait` that blocks the program is answered, and then the PCB of the next
program is sent, with no message of the CPU in between.  If the CPU receives the two together,
`waitAnsisop` takes the answer, and the PCB is lost.

Main definitions:

* `Ansisop.Kernel.Flujo`, `Ansisop.Kernel.socketRecv` — a stream, and what is received from it;
* `Ansisop.Kernel.LocCpu`, `Ansisop.Kernel.trasRespuesta` — the CPU, as the kernel sees it;
* `Ansisop.Kernel.Loc.respuesta`, `Ansisop.Kernel.respuestaMensaje` — what the thread of the kernel
  sends;
* `Ansisop.Kernel.Conversacion`, `Ansisop.Kernel.pasoConversacion` — the CPU, the kernel and the two
  streams;
* `Ansisop.Kernel.PorTurnos`, `Ansisop.Kernel.Recibe` — the steps that keep to the turns, and what
  is asked for;
* `Ansisop.Kernel.EnTurno` — the invariant.

Main results:

* `Ansisop.Kernel.socketRecv_bytes` — the bytes arrive in the order in which they were sent;
* `Ansisop.Kernel.EnTurno.paso` — **every step that keeps to the turns keeps the invariant**;
* `Ansisop.Kernel.recibe_cada_pcb` — every PCB that is sent is received, in the runs that keep to
  the turns.
-/

import Ansisop.Cpu.FinDeRafaga
import Ansisop.Kernel.Perdidas
import Ansisop.Lib.Historia
import Ansisop.Protocolo.KernelCpu

set_option relaxedAutoImplicit false
set_option autoImplicit false

namespace Ansisop.Kernel

open Cpu (EstadoRafaga)

/-! ### Streams -/

/-- **A stream**: what was sent and has not been received, one element for each `send`. -/
abbrev Flujo := List (List Byte)

/-- **`socket_recv`**: the bytes of the first sends, one or more, together.  With nothing to receive
it waits. -/
def socketRecv (flujo : Flujo) (k : ℕ) : Option (List Byte × Flujo) :=
  if 0 < k ∧ k ≤ flujo.length then some ((flujo.take k).flatten, flujo.drop k) else none

/-- **The bytes arrive in the order in which they were sent.** -/
theorem socketRecv_bytes {flujo resto : Flujo} {k : ℕ} {data : List Byte}
    (h : socketRecv flujo k = some (data, resto)) : data ++ resto.flatten = flujo.flatten := by
  rw [socketRecv] at h
  split at h
  · cases h
    rw [← List.flatten_append, List.take_append_drop]
  · exact absurd h (by simp)

/-- From a stream with one message that message is received. -/
theorem socketRecv_uno {data data' : List Byte} {resto : Flujo} {k : ℕ}
    (h : socketRecv [data] k = some (data', resto)) : data' = data ∧ resto = [] := by
  rw [socketRecv] at h
  split at h
  · rename_i hk
    obtain rfl : k = 1 := by
      have := hk.2
      simp only [List.length_singleton] at this
      omega
    cases h
    simp
  · exact absurd h (by simp)

/-- Nothing is received from an empty stream. -/
theorem socketRecv_nil (k : ℕ) : socketRecv [] k = none := by
  rw [socketRecv, if_neg]
  rintro ⟨hpos, hle⟩
  exact absurd (hpos.trans_le hle) (lt_irrefl 0)

/-! ### The CPU -/

/-- **The locations of a CPU**, between its calls of `send` and `socket_recv` to the kernel. -/
inductive LocCpu
  /-- at `socket_recv` in `recibirPrimerMensajeKernel` -/
  | esperaSaludo
  /-- at `socket_recv` in `recibirPcb` -/
  | recibePcb
  /-- loading the labels and the context of the program; a request may have been answered with an
  error -/
  | prepara (fallo : Bool)
  /-- in `ejecutarRafaga` -/
  | ejecuta
  /-- at `socket_recv` in a primitive that waits for the reply to its message -/
  | esperaRespuesta (mensaje : EstructuraCpu)
  /-- it ended with `SIGUSR1` -/
  | fuera
deriving DecidableEq

/-- The messages for whose reply a primitive waits. -/
def esConsulta : EstructuraCpu → Bool
  | .obtenerValorVarCompartida _ => true
  | .asignarValorVarCompartida _ => true
  | .imprimirKernel _ => true
  | .imprimirTextoKernel _ => true
  | .waitKernel _ => true
  | .signalKernel _ => true
  | _ => false

/-- **What a primitive makes of the reply to its message.** -/
def trasRespuesta : EstructuraCpu → MensajeKernel → EstadoRafaga → EstadoRafaga
  | .obtenerValorVarCompartida _, .valorCompartida _, r => r
  | .obtenerValorVarCompartida _, _, _ => .notificarPorFinPrograma
  | .asignarValorVarCompartida _, .continuar, r => r
  | .asignarValorVarCompartida _, _, _ => .notificarPorFinPrograma
  | .imprimirKernel _, .continuar, r => r
  | .imprimirKernel _, _, _ => .notificarPorFinPrograma
  | .imprimirTextoKernel _, .continuar, r => r
  | .imprimirTextoKernel _, _, _ => .notificarPorFinPrograma
  | .waitKernel _, .continuar, r => r
  | .waitKernel _, _, _ => .waitPcbBloqueado
  | .signalKernel _, .terminar, _ => .notificarPorFinPrograma
  | .signalKernel _, _, r => r
  | _, _, r => r

/-- **It is what the primitives of the CPU make of the reply**; `imprimir` does not send its message
when the program has already ended. -/
theorem estadoRafaga_primitivas {σ : Type*} (E : Cpu.Entorno σ) (m m' : Cpu.Maquina σ) :
    (∀ nombre v, Cpu.obtenerValorCompartida E nombre.texto m = some (v, m') →
      m'.estado.estadoRafaga = trasRespuesta (.obtenerValorVarCompartida nombre)
        (E.consultar m.entorno (.obtenerValorVarCompartida nombre.texto)).1 m.estado.estadoRafaga) ∧
    (∀ varComp v, Cpu.asignarValorCompartida E varComp.nombre.texto varComp.valor m = some (v, m') →
      m'.estado.estadoRafaga = trasRespuesta (.asignarValorVarCompartida varComp)
        (E.consultar m.entorno (.asignarValorVarCompartida varComp.nombre.texto varComp.valor)).1
        m.estado.estadoRafaga) ∧
    (∀ valor, m.estado.estadoRafaga ≠ .notificarPorFinPrograma →
      (Cpu.imprimir E valor m).estado.estadoRafaga =
        trasRespuesta (.imprimirKernel valor) (E.consultar m.entorno (.imprimirKernel valor)).1
          m.estado.estadoRafaga) ∧
    (∀ texto, Cpu.imprimirTexto E texto.texto m = some m' →
      m'.estado.estadoRafaga = trasRespuesta (.imprimirTextoKernel texto)
        (E.consultar m.entorno (.imprimirTextoKernel texto.texto)).1 m.estado.estadoRafaga) ∧
    (∀ wait, Cpu.waitAnsisop E wait.semaforo.texto m = some m' →
      m'.estado.estadoRafaga = trasRespuesta (.waitKernel wait)
        (E.consultar m.entorno (.waitKernel wait.semaforo.texto m.estado.pcb)).1
        m.estado.estadoRafaga) ∧
    ∀ semaforo, Cpu.signalAnsisop E semaforo.texto m = some m' →
      m'.estado.estadoRafaga = trasRespuesta (.signalKernel semaforo)
        (E.consultar m.entorno (.signalKernel semaforo.texto)).1 m.estado.estadoRafaga := by
  refine ⟨?_, ?_, ?_, ?_, ?_, ?_⟩
  · intro nombre v h
    obtain ⟨-, h⟩ := E.registrar_map.1 h
    obtain rfl := congrArg Prod.snd h
    simp only [Cpu.Maquina.consultar]
    cases (E.consultar m.entorno (.obtenerValorVarCompartida nombre.texto)).1 <;> rfl
  · intro varComp v h
    obtain ⟨-, h⟩ := E.registrar_map.1 h
    obtain rfl := congrArg Prod.snd h
    simp only [Cpu.Maquina.consultar]
    cases (E.consultar m.entorno
      (.asignarValorVarCompartida varComp.nombre.texto varComp.valor)).1 <;> rfl
  · intro valor hno
    simp only [Cpu.imprimir, if_neg hno, Cpu.Maquina.consultar]
    cases (E.consultar m.entorno (.imprimirKernel valor)).1 <;> rfl
  · intro texto h
    obtain ⟨-, rfl⟩ := E.registrar_map.1 h
    simp only [Cpu.Maquina.consultar]
    cases (E.consultar m.entorno (.imprimirTextoKernel texto.texto)).1 <;> rfl
  · intro wait h
    obtain ⟨-, rfl⟩ := E.registrar_map.1 h
    simp only [Cpu.Maquina.consultar]
    cases (E.consultar m.entorno (.waitKernel wait.semaforo.texto m.estado.pcb)).1 <;> rfl
  · intro semaforo h
    obtain ⟨-, rfl⟩ := E.registrar_map.1 h
    simp only [Cpu.Maquina.consultar]
    cases (E.consultar m.entorno (.signalKernel semaforo.texto)).1 <;> rfl

/-! ### What the thread of the kernel sends -/

/-- **What a step of the thread of a CPU sends to it**: the PCB of the program that it has taken, or
the answer of `fnLock` or `fnUnlock` at its end. -/
def Loc.respuesta (c : Comun) : Loc → Loc → List MensajeKernel
  | agregaExec programa, _ => [.atendeProceso (c.pcb programa)]
  | lockCompara _ _ _, recibe _ => [.continuar]
  | lockTamanio _ _ _, recibe _ => [.continuar]
  | lockEncola _ _, _ => [.bloquear]
  | unlockCompara _ _, recibe _ => [.continuar]
  | unlockTamanio _ _, recibe _ => [.continuar]
  | unlockPost _ _, _ => [.continuar]
  | _, _ => []

/-- **What is sent at once when a message is received.**  The input is the value of a shared
variable, if there is one of that name, and whether something was printed. -/
def respuestaMensaje (c : Comun) (valor : Option U32) : MensajeCpu → List MensajeKernel
  | .obtenerValorVarCompartida _ => [valor.elim .terminar .valorCompartida]
  | .asignarValorVarCompartida _ _ => [valor.elim .terminar fun _ => .continuar]
  | .imprimirKernel _ => [valor.elim .terminar fun _ => .continuar]
  | .imprimirTextoKernel _ => [valor.elim .terminar fun _ => .continuar]
  | .waitKernel semaforo _ =>
      if c.semaforos.any fun unSem => unSem.szSemaforo == semaforo then [] else [.terminar]
  | .signalKernel semaforo =>
      if c.semaforos.any fun unSem => unSem.szSemaforo == semaforo then [] else [.terminar]
  | _ => []

/-! ### The two sides -/

/-- The beginning of `pfnControladorConexion`: the first message, and the one that is received for
it. -/
inductive Saludo
  | porSaludar
  | esperaOk
  | hecho
deriving DecidableEq

/-- **A CPU, the kernel and the two streams between them**: `bajada` from the kernel to the CPU,
`subida` from the CPU to the kernel. -/
structure Conversacion where
  sistema : Sistema
  saludo : Saludo
  cpu : LocCpu
  estadoRafaga : EstadoRafaga
  bajada : Flujo
  subida : Flujo

/-- What can happen next. -/
inductive Turno
  /-- a step of another thread of the kernel, or a message to it -/
  | otro (e : Evento)
  /-- the thread of the kernel sends the quantum and the delay -/
  | saluda (iEjecuciones iDelay : U32)
  /-- the thread of the kernel receives the first message, whatever it is -/
  | recibeOk (k : ℕ)
  /-- a step of the thread of the kernel -/
  | hilo
  /-- the thread of the kernel receives a message -/
  | mensaje (k : ℕ) (valor : Option U32)
  /-- the thread of the kernel finds that the CPU has gone -/
  | desconexion
  /-- the CPU receives -/
  | cpuRecibe (k : ℕ)
  /-- a request of `recibirPcb` or of the load of the context is answered with an error -/
  | cpuFalla (texto : Cadena)
  /-- the burst begins -/
  | cpuEmpieza
  /-- a primitive sends a message, and waits for the reply or leaves the burst -/
  | cpuLlama (mensaje : EstructuraCpu)
  /-- `finalizar` in the first context, or `retornar` to an empty stack -/
  | cpuMarcaFin
  /-- the burst ends -/
  | cpuTermina (pcb : Pcb)
  | sigusr1 (pcb : Pcb)

/-- The kernel after a step of the thread of a CPU. -/
def Sistema.conLoc (s : Sistema) (i : ℕ) (loc : Loc) (c : Comun) : Sistema :=
  { s with hilos := s.hilos.set i loc, comun := c }

/-- An event of another thread than the one with the given index. -/
def esDeOtro (i : ℕ) : Evento → Bool
  | .hilo k => k != i
  | .mensaje k _ => k != i
  | _ => true

/-- What a message without a reply leaves as the state of the burst. -/
def trasAviso : EstructuraCpu → Option EstadoRafaga
  | .entradaSalidaKernel _ => some .entradaSalidaKernel
  | .exception _ => some .exception
  | _ => none

/-- What the CPU makes of the bytes that it receives: where it goes, and what it sends.  A message
of another kind than the one that is expected in `recibirPcb` has no structure to be read as a
PCB. -/
def recibirCpu (v : Conversacion) (data : List Byte) : Option Conversacion :=
  (deserializarCpu data).bind fun mensaje =>
    match v.cpu, mensaje with
    | .esperaSaludo, .primerMsj _ _ =>
        some { v with cpu := .recibePcb, subida := v.subida ++ [serializarCpu .okCpu] }
    | .esperaSaludo, _ => some { v with cpu := .recibePcb }
    | .recibePcb, .atendeProceso _ => some { v with cpu := .prepara false }
    | .esperaRespuesta pregunta, respuesta => some { v with
        cpu := .ejecuta, estadoRafaga := trasRespuesta pregunta respuesta v.estadoRafaga }
    | _, _ => none

/-- **One step of a CPU, of its thread in the kernel, with index `i`, or of the rest of the
kernel.** -/
def pasoConversacion (i : ℕ) (v : Conversacion) : Turno → Option Conversacion
  | .otro e =>
      if esDeOtro i e then (paso v.sistema e).map fun s => { v with sistema := s } else none
  | .saluda iEjecuciones iDelay =>
      if v.saludo = .porSaludar then some { v with
        saludo := .esperaOk
        bajada := v.bajada ++ [serializarKernel (.primerMsj iEjecuciones iDelay)] }
      else none
  | .recibeOk k =>
      if v.saludo = .esperaOk then
        (socketRecv v.subida k).map fun r => { v with saludo := .hecho, subida := r.2 }
      else none
  | .hilo =>
      if v.saludo = .hecho then
        match v.sistema.hilos[i]? with
        | some loc => (pasoHilo v.sistema.comun loc).map fun r => { v with
            sistema := v.sistema.conLoc i r.1 r.2
            bajada := v.bajada ++ (loc.respuesta v.sistema.comun r.1).map serializarKernel }
        | none => none
      else none
  | .mensaje k valor =>
      match v.sistema.hilos[i]? with
      | some (.recibe programa) =>
          (socketRecv v.subida k).bind fun r => (deserializarKernel r.1).map fun m => { v with
            sistema := v.sistema.conLoc i
              (recibirMensaje v.sistema.comun programa (some m.mensaje)) v.sistema.comun
            bajada := v.bajada ++
              (respuestaMensaje v.sistema.comun valor m.mensaje).map serializarKernel
            subida := r.2 }
      | _ => none
  | .desconexion =>
      match v.sistema.hilos[i]? with
      | some (.recibe programa) =>
          if v.cpu = .fuera ∧ v.subida = [] then some { v with
            sistema := v.sistema.conLoc i (recibirMensaje v.sistema.comun programa none)
              v.sistema.comun }
          else none
      | _ => none
  | .cpuRecibe k =>
      (socketRecv v.bajada k).bind fun r => recibirCpu { v with bajada := r.2 } r.1
  | .cpuFalla texto =>
      match v.cpu with
      | .prepara _ => some { v with
          cpu := .prepara true
          estadoRafaga := .exception
          subida := v.subida ++ [serializarCpu (.exception texto)] }
      | _ => none
  | .cpuEmpieza =>
      match v.cpu with
      | .prepara _ => some { v with cpu := .ejecuta, estadoRafaga := .notificarPorFinRafaga }
      | _ => none
  | .cpuLlama mensaje =>
      if v.cpu = .ejecuta then
        if esConsulta mensaje then some { v with
          cpu := .esperaRespuesta mensaje, subida := v.subida ++ [serializarCpu mensaje] }
        else (trasAviso mensaje).map fun r => { v with
          estadoRafaga := r, subida := v.subida ++ [serializarCpu mensaje] }
      else none
  | .cpuMarcaFin =>
      if v.cpu = .ejecuta then some { v with estadoRafaga := .notificarPorFinPrograma } else none
  | .cpuTermina pcb =>
      if v.cpu = .ejecuta then
        match v.estadoRafaga with
        | .notificarPorFinRafaga => some { v with
            cpu := .recibePcb, subida := v.subida ++ [serializarCpu (.notificarPorFinRafaga pcb)] }
        | .notificarPorFinPrograma => some { v with
            cpu := .recibePcb, subida :=
              v.subida ++ [serializarCpu (.notificarPorFinPrograma pcb)] }
        | _ => some { v with cpu := .recibePcb }
      else none
  | .sigusr1 pcb =>
      if v.cpu = .fuera then none
      else some { v with
        cpu := .fuera, subida := v.subida ++ [serializarCpu (.notificarPorFinRafaga pcb)] }

/-- The steps of the conversation, as a relation. -/
def PasoConversacion (i : ℕ) (v : Conversacion) (e : Turno) (v' : Conversacion) : Prop :=
  pasoConversacion i v e = some v'

/-- A CPU connects to a kernel, whatever the kernel has done before. -/
def conversacionInicial (s : Sistema) : Conversacion where
  sistema := { s with hilos := s.hilos ++ [.esperaReady] }
  saludo := .porSaludar
  cpu := .esperaSaludo
  estadoRafaga := .notificarPorFinRafaga
  bajada := []
  subida := []

/-! ### The PCBs -/

/-- The PCB that a step sends. -/
def pcbEnviado (i : ℕ) (v : Conversacion) : Turno → List Pcb
  | .hilo =>
      match v.sistema.hilos[i]? with
      | some (.agregaExec programa) => [v.sistema.comun.pcb programa]
      | _ => []
  | _ => []

/-- The PCB of a message. -/
def pcbDe (data : List Byte) : Option Pcb :=
  match deserializarCpu data with
  | some (.atendeProceso pcb) => some pcb
  | _ => none

/-- The PCB that a step of the CPU decodes in `recibirPcb`. -/
def pcbRecibido (v : Conversacion) : Turno → List Pcb
  | .cpuRecibe k =>
      match v.cpu, socketRecv v.bajada k with
      | .recibePcb, some (data, _) => (pcbDe data).toList
      | _, _ => []
  | _ => []

/-- The conversation, with the PCBs that were sent with `atendeProceso` and those that were decoded
by `recibirPcb`. -/
def PasoConPcbs (i : ℕ) :
    Conversacion × Lts.Transito Pcb → Turno → Conversacion × Lts.Transito Pcb → Prop :=
  Lts.anotado (Lts.Transito.mas (pcbEnviado i) pcbRecibido) (PasoConversacion i)

/-- **What is asked for**: the PCBs that were sent are those that were decoded, in the same order,
and then those that are still on their way, one at most; and when the CPU is to receive a PCB, the
only thing that can be on its way is that PCB. -/
structure Recibe (p : Conversacion × Lts.Transito Pcb) : Prop where
  orden : p.2.entraron = p.2.salieron ++ p.1.bajada.filterMap pcbDe
  enCamino : (p.1.bajada.filterMap pcbDe).length ≤ 1
  recepcion : p.1.cpu = .recibePcb →
    p.1.bajada = [] ∨ ∃ pcb, p.1.bajada = [serializarKernel (.atendeProceso pcb)]

/-- **The steps that keep to the turns**: the reply to a message is not received together with what
comes after it; once the program has left the burst, or with a failed load before it, the CPU
neither sends anything nor marks the end of the program; and the CPU is not ended by a signal. -/
def PorTurnos (v : Conversacion) : Turno → Prop
  | .cpuRecibe k => ∀ mensaje, v.cpu = .esperaRespuesta mensaje → k = 1
  | .cpuFalla _ => False
  | .cpuLlama _ => v.estadoRafaga.terminada = false
  | .cpuMarcaFin => v.estadoRafaga.terminada = false
  | .sigusr1 _ => False
  | _ => True

/-! ### Turns -/

/-- The thread of the kernel is in `fnLock`. -/
def Loc.enWait : Loc → Bool
  | lockResta _ _ _ => true
  | lockCompara _ _ _ => true
  | lockTamanio _ _ _ => true
  | lockQuitaExec _ _ _ => true
  | lockEscribe _ _ _ => true
  | lockEncola _ _ => true
  | _ => false

/-- The thread of the kernel is in `fnUnlock`. -/
def Loc.enSignal : Loc → Bool
  | unlockSuma _ _ => true
  | unlockCompara _ _ => true
  | unlockTamanio _ _ => true
  | unlockSaca _ _ => true
  | unlockAgrega _ _ _ => true
  | unlockPost _ _ => true
  | _ => false

/-- The thread of the kernel is done with the program of its CPU, up to the next one. -/
def Loc.desocupado : Loc → Bool
  | recibe _ => false
  | loc => !loc.enWait && !loc.enSignal

/-- The messages that leave the burst, or end it. -/
def esFin : EstructuraCpu → Bool
  | .entradaSalidaKernel _ => true
  | .exception _ => true
  | .notificarPorFinRafaga _ => true
  | .notificarPorFinPrograma _ => true
  | _ => false

/-- **The turns**: where the thread of the kernel and the CPU can be, with what is on its way
between them. -/
inductive EnTurno : Saludo → Loc → LocCpu → EstadoRafaga → Flujo → Flujo → Prop
  | nuevo {r : EstadoRafaga} : EnTurno .porSaludar .esperaReady .esperaSaludo r [] []
  | saludado {r : EstadoRafaga} (iEjecuciones iDelay : U32) :
      EnTurno .esperaOk .esperaReady .esperaSaludo r
        [serializarKernel (.primerMsj iEjecuciones iDelay)] []
  | devuelto {r : EstadoRafaga} :
      EnTurno .esperaOk .esperaReady .recibePcb r [] [serializarCpu .okCpu]
  /-- the CPU waits for a PCB, and the thread for a program -/
  | sinPrograma {loc : Loc} {r : EstadoRafaga} (hloc : loc.desocupado = true) :
      EnTurno .hecho loc .recibePcb r [] []
  /-- the program was blocked, or its semaphore does not exist, and the CPU has not received the
  answer -/
  | bloqueado {loc : Loc} {r : EstadoRafaga} (wait : MsjWait) {respuesta : MensajeKernel}
      (hloc : loc.desocupado = true) (hno : respuesta ≠ .continuar)
      (hpcb : pcbDe (serializarKernel respuesta) = none) :
      EnTurno .hecho loc (.esperaRespuesta (.waitKernel wait)) r [serializarKernel respuesta] []
  /-- the program has left the burst, and the rest of its line is to be done -/
  | saliendo {loc : Loc} {r : EstadoRafaga} (hloc : loc.desocupado = true)
      (hr : r.terminada = true) : EnTurno .hecho loc .ejecuta r [] []
  | enWait {loc : Loc} {r : EstadoRafaga} (wait : MsjWait) (hloc : loc.enWait = true)
      (hr : r.terminada = false) :
      EnTurno .hecho loc (.esperaRespuesta (.waitKernel wait)) r [] []
  | enSignal {loc : Loc} {r : EstadoRafaga} (semaforo : Cadena) (hloc : loc.enSignal = true)
      (hr : r.terminada = false) :
      EnTurno .hecho loc (.esperaRespuesta (.signalKernel semaforo)) r [] []
  /-- a PCB was sent, and the CPU is about to receive it -/
  | despachado {x : Programa} {r : EstadoRafaga} (pcb : Pcb) :
      EnTurno .hecho (.recibe x) .recibePcb r [serializarKernel (.atendeProceso pcb)] []
  /-- a PCB was sent, and the CPU has not even received the answer before it -/
  | despachadoBloqueado {x : Programa} {r : EstadoRafaga} (wait : MsjWait)
      {respuesta : MensajeKernel}
      (pcb : Pcb) (hno : respuesta ≠ .continuar)
      (hpcb : pcbDe (serializarKernel respuesta) = none) :
      EnTurno .hecho (.recibe x) (.esperaRespuesta (.waitKernel wait)) r
        [serializarKernel respuesta, serializarKernel (.atendeProceso pcb)] []
  /-- a PCB was sent, and the CPU has still to do the rest of a line -/
  | despachadoSaliendo {x : Programa} {r : EstadoRafaga} (pcb : Pcb) (hr : r.terminada = true) :
      EnTurno .hecho (.recibe x) .ejecuta r [serializarKernel (.atendeProceso pcb)] []
  | prepara {x : Programa} {r : EstadoRafaga} : EnTurno .hecho (.recibe x) (.prepara false) r [] []
  | ejecuta {x : Programa} {r : EstadoRafaga} (hr : r.terminada = false) :
      EnTurno .hecho (.recibe x) .ejecuta r [] []
  | pregunta {x : Programa} {r : EstadoRafaga} (mensaje : EstructuraCpu)
      (hmensaje : esConsulta mensaje = true) (hr : r.terminada = false) :
      EnTurno .hecho (.recibe x) (.esperaRespuesta mensaje) r [] [serializarCpu mensaje]
  | respondido {x : Programa} {r : EstadoRafaga} (mensaje : EstructuraCpu)
      {respuesta : MensajeKernel} (hr : (trasRespuesta mensaje respuesta r).terminada = false)
      (hpcb : pcbDe (serializarKernel respuesta) = none) :
      EnTurno .hecho (.recibe x) (.esperaRespuesta mensaje) r [serializarKernel respuesta] []
  /-- the program has left the burst with a message that the kernel has not received -/
  | avisado {x : Programa} {r : EstadoRafaga} (mensaje : EstructuraCpu)
      (hmensaje : esFin mensaje = true) (hr : r.terminada = true) :
      EnTurno .hecho (.recibe x) .ejecuta r [] [serializarCpu mensaje]
  | terminado {x : Programa} {r : EstadoRafaga} (mensaje : EstructuraCpu)
      (hmensaje : esFin mensaje = true) :
      EnTurno .hecho (.recibe x) .recibePcb r [] [serializarCpu mensaje]

variable {c c' : Comun} {loc loc' : Loc} {i : ℕ} {v v' : Conversacion} {x : Programa}

@[simp] theorem pcbDe_serializarKernel (m : MensajeKernel) :
    pcbDe (serializarKernel m) = match m with
      | .atendeProceso pcb => some pcb
      | _ => none := by
  rw [pcbDe, kernelCpu_ida_y_vuelta.2 m]
  cases m <;> rfl

/-! ### The thread of the kernel -/

/-- **A thread that is done with its program** goes on without sending anything, until it sends the
PCB of the next one. -/
theorem desocupado_pasoHilo (hloc : loc.desocupado = true)
    (hpaso : pasoHilo c loc = some (loc', c')) :
    (loc'.desocupado = true ∧ loc.respuesta c loc' = [] ∧ ∀ x, loc ≠ .agregaExec x) ∨
      ∃ x, loc = .agregaExec x ∧ loc' = .recibe x := by
  cases pasoHilo_avanza hpaso with
  | agregaExec => exact Or.inr ⟨_, rfl, rfl⟩
  | _ =>
      first
        | exact (Bool.false_ne_true hloc).elim
        | exact Or.inl ⟨rfl, rfl, fun _ => Loc.noConfusion⟩

/-- **`fnLock` answers once**, at its end: the thread goes on with its program, or is done with
it. -/
theorem enWait_pasoHilo (hloc : loc.enWait = true) (hpaso : pasoHilo c loc = some (loc', c')) :
    (loc'.enWait = true ∧ loc.respuesta c loc' = []) ∨
    (∃ x, loc' = .recibe x ∧ loc.respuesta c loc' = [.continuar]) ∨
    (loc' = .esperaReady ∧ loc.respuesta c loc' = [.bloquear]) := by
  cases pasoHilo_avanza hpaso with
  | lockResta | lockCompara | lockTamanio | lockQuitaExec | lockEscribe => exact Or.inl ⟨rfl, rfl⟩
  | lockPasa | lockSinExec => exact Or.inr (Or.inl ⟨_, rfl, rfl⟩)
  | lockEncola => exact Or.inr (Or.inr ⟨rfl, rfl⟩)
  | _ => exact absurd hloc (by simp [Loc.enWait])

/-- **`fnUnlock` answers once**, at its end, and the thread goes on with its program. -/
theorem enSignal_pasoHilo (hloc : loc.enSignal = true) (hpaso : pasoHilo c loc = some (loc', c')) :
    (loc'.enSignal = true ∧ loc.respuesta c loc' = []) ∨
    ∃ x, loc' = .recibe x ∧ loc.respuesta c loc' = [.continuar] := by
  cases pasoHilo_avanza hpaso with
  | unlockSuma | unlockCompara | unlockTamanio | unlockSaca | unlockAgrega =>
      exact Or.inl ⟨rfl, rfl⟩
  | unlockPasa | unlockSinCola | unlockPost => exact Or.inr ⟨_, rfl, rfl⟩
  | _ => exact absurd hloc (by simp [Loc.enSignal])

/-- A name is found in the list of the semaphores if one has it. -/
theorem any_semaforos (c : Comun) (semaforo : Texto) :
    (c.semaforos.any fun unSem => unSem.szSemaforo == semaforo) =
      (c.semaforos.findIdx? fun unSem => unSem.szSemaforo == semaforo).isSome :=
  List.findIdx?_isSome.symm

/-- **The message of a program that goes on** is answered once, at once or by `fnLock` or
`fnUnlock`. -/
theorem consulta_recibirMensaje {m : EstructuraCpu} (hm : esConsulta m = true) (valor : Option U32)
    {r : EstadoRafaga} (hr : r.terminada = false) :
    ((∃ respuesta, recibirMensaje c x (some m.mensaje) = .recibe x ∧
        respuestaMensaje c valor m.mensaje = [respuesta] ∧
        (trasRespuesta m respuesta r).terminada = false ∧
        pcbDe (serializarKernel respuesta) = none)) ∨
    (∃ wait, m = .waitKernel wait ∧ (recibirMensaje c x (some m.mensaje)).enWait = true ∧
      respuestaMensaje c valor m.mensaje = []) ∨
    (∃ wait, m = .waitKernel wait ∧ recibirMensaje c x (some m.mensaje) = .esperaReady ∧
      respuestaMensaje c valor m.mensaje = [.terminar]) ∨
    (∃ semaforo, m = .signalKernel semaforo ∧
      (recibirMensaje c x (some m.mensaje)).enSignal = true ∧
      respuestaMensaje c valor m.mensaje = []) := by
  cases m with
  | waitKernel wait =>
      right
      simp only [EstructuraCpu.mensaje, recibirMensaje, respuestaMensaje, any_semaforos]
      cases hidx : c.semaforos.findIdx? fun unSem => unSem.szSemaforo == wait.semaforo.texto with
      | some j => exact Or.inl ⟨wait, rfl, rfl, rfl⟩
      | none => exact Or.inr (Or.inl ⟨wait, rfl, rfl, rfl⟩)
  | signalKernel semaforo =>
      simp only [EstructuraCpu.mensaje, recibirMensaje, respuestaMensaje, any_semaforos]
      cases hidx : c.semaforos.findIdx? fun unSem => unSem.szSemaforo == semaforo.texto with
      | some j => exact Or.inr (Or.inr (Or.inr ⟨semaforo, rfl, rfl, rfl⟩))
      | none => exact Or.inl ⟨.terminar, rfl, rfl, rfl, by simp⟩
  | obtenerValorVarCompartida nombre =>
      cases valor with
      | none => exact Or.inl ⟨.terminar, rfl, rfl, rfl, by simp⟩
      | some w => exact Or.inl ⟨.valorCompartida w, rfl, rfl, hr, by simp⟩
  | asignarValorVarCompartida varComp =>
      cases valor with
      | none => exact Or.inl ⟨.terminar, rfl, rfl, rfl, by simp⟩
      | some w => exact Or.inl ⟨.continuar, rfl, rfl, hr, by simp⟩
  | imprimirKernel w =>
      cases valor with
      | none => exact Or.inl ⟨.terminar, rfl, rfl, rfl, by simp⟩
      | some w => exact Or.inl ⟨.continuar, rfl, rfl, hr, by simp⟩
  | imprimirTextoKernel texto =>
      cases valor with
      | none => exact Or.inl ⟨.terminar, rfl, rfl, rfl, by simp⟩
      | some w => exact Or.inl ⟨.continuar, rfl, rfl, hr, by simp⟩
  | _ => exact absurd hm (by simp [esConsulta])

/-- **The message of a program that leaves** is not answered, and the thread is done with it. -/
theorem fin_recibirMensaje {m : EstructuraCpu} (hm : esFin m = true) (valor : Option U32) :
    (recibirMensaje c x (some m.mensaje)).desocupado = true ∧
      respuestaMensaje c valor m.mensaje = [] := by
  cases m with
  | entradaSalidaKernel entradaSalida => exact ⟨rfl, rfl⟩
  | exception texto => exact ⟨rfl, rfl⟩
  | notificarPorFinRafaga pcb => exact ⟨rfl, rfl⟩
  | notificarPorFinPrograma pcb => exact ⟨rfl, rfl⟩
  | _ => exact absurd hm (by simp [esFin])

/-! ### Every step that keeps to the turns keeps the invariant -/

/-- **The invariant**: the two sides are in turn, and the PCBs that were sent are those that were
decoded, and then those that are on their way. -/
structure EnOrdenDeTurno (i : ℕ) (p : Conversacion × Lts.Transito Pcb) : Prop where
  turno : ∃ loc, p.1.sistema.hilos[i]? = some loc ∧
    EnTurno p.1.saludo loc p.1.cpu p.1.estadoRafaga p.1.bajada p.1.subida
  orden : p.2.entraron = p.2.salieron ++ p.1.bajada.filterMap pcbDe

/-- What a step keeps: the turns, and the PCBs that are on their way, with the one that is sent and
the one that is decoded. -/
def Sigue (i : ℕ) (v : Conversacion) (e : Turno) (v' : Conversacion) : Prop :=
  (∃ loc, v'.sistema.hilos[i]? = some loc ∧
    EnTurno v'.saludo loc v'.cpu v'.estadoRafaga v'.bajada v'.subida) ∧
  v.bajada.filterMap pcbDe ++ pcbEnviado i v e = pcbRecibido v e ++ v'.bajada.filterMap pcbDe

/-- The thread is where it goes. -/
theorem getElem?_conLoc {s : Sistema} (hi : s.hilos[i]? = some loc) (loc' : Loc) (c : Comun) :
    (s.conLoc i loc' c).hilos[i]? = some loc' := by
  rw [Sistema.conLoc, List.getElem?_set, if_pos rfl, if_pos (List.getElem?_eq_some_iff.1 hi).1]

/-- The other threads leave the thread where it is. -/
theorem getElem?_paso_otro {s s' : Sistema} {e : Evento} (hi : s.hilos[i]? = some loc)
    (hotro : esDeOtro i e = true) (hpaso : paso s e = some s') : s'.hilos[i]? = some loc := by
  unfold paso at hpaso
  cases e with
  | conexion =>
      cases hpaso
      rw [List.getElem?_append_left (List.getElem?_eq_some_iff.1 hi).1]
      exact hi
  | hilo k =>
      have hne : k ≠ i := by simpa [esDeOtro] using hotro
      simp only at hpaso
      split at hpaso
      · obtain ⟨r, -, rfl⟩ := Option.map_eq_some_iff.1 hpaso
        rw [List.getElem?_set_ne hne]
        exact hi
      · exact absurd hpaso (by simp)
  | mensaje k mensaje =>
      have hne : k ≠ i := by simpa [esDeOtro] using hotro
      simp only at hpaso
      split at hpaso
      · cases hpaso
        rw [List.getElem?_set_ne hne]
        exact hi
      · exact absurd hpaso (by simp)
  | dispositivo j =>
      obtain ⟨r, -, rfl⟩ := Option.map_eq_some_iff.1 hpaso
      exact hi
  | plp peso =>
      obtain ⟨r, -, rfl⟩ := Option.map_eq_some_iff.1 hpaso
      exact hi
  | principal pcb =>
      obtain ⟨r, -, rfl⟩ := Option.map_eq_some_iff.1 hpaso
      exact hi
  | salida =>
      obtain ⟨r, -, rfl⟩ := Option.map_eq_some_iff.1 hpaso
      exact hi

/-- **A step of the thread of the kernel keeps the turns.** -/
theorem EnTurno.hilo (hi : v.sistema.hilos[i]? = some loc)
    (h : EnTurno v.saludo loc v.cpu v.estadoRafaga v.bajada v.subida)
    (hpaso : PasoConversacion i v .hilo v') : Sigue i v .hilo v' := by
  obtain ⟨s, saludo, cpu, r, bajada, subida⟩ := v
  unfold PasoConversacion pasoConversacion at hpaso
  simp only at hi h hpaso
  split at hpaso
  swap
  · exact absurd hpaso (by simp)
  rename_i hsaludo
  subst hsaludo
  simp only [hi] at hpaso
  obtain ⟨⟨loc', c'⟩, hloc, rfl⟩ := Option.map_eq_some_iff.1 hpaso
  have hvacio (hno : ∀ x, loc ≠ .agregaExec x) :
      pcbEnviado i ⟨s, .hecho, cpu, r, bajada, subida⟩ .hilo = [] := by
    simp only [pcbEnviado, hi]
    cases loc with
    | agregaExec x => exact absurd rfl (hno x)
    | _ => rfl
  have hdespacha (hdesocupado : loc.desocupado = true)
      (hsigue : loc'.desocupado = true → EnTurno .hecho loc' cpu r bajada subida)
      (hpcb : ∀ x pcb, loc' = .recibe x → EnTurno .hecho loc' cpu r
        (bajada ++ [serializarKernel (.atendeProceso pcb)]) subida) :
      Sigue i ⟨s, .hecho, cpu, r, bajada, subida⟩ .hilo ⟨s.conLoc i loc' c', .hecho, cpu, r,
        bajada ++ (loc.respuesta s.comun loc').map serializarKernel, subida⟩ := by
    rcases desocupado_pasoHilo hdesocupado hloc with ⟨hsig, hnada, hno⟩ | ⟨x, rfl, rfl⟩
    · rw [hnada, List.map_nil, List.append_nil]
      refine ⟨⟨loc', getElem?_conLoc hi loc' c', hsigue hsig⟩, ?_⟩
      rw [hvacio hno, List.append_nil]
      rfl
    · refine ⟨⟨.recibe x, getElem?_conLoc hi _ c', hpcb x _ rfl⟩, ?_⟩
      simp [pcbEnviado, pcbRecibido, hi, Loc.respuesta]
  have hcontesta {l : List MensajeKernel} (hresp : loc.respuesta s.comun loc' = l)
      (hno : ∀ x, loc ≠ .agregaExec x) (hpcb : (l.map serializarKernel).filterMap pcbDe = [])
      (hturno : EnTurno .hecho loc' cpu r (bajada ++ l.map serializarKernel) subida) :
      Sigue i ⟨s, .hecho, cpu, r, bajada, subida⟩ .hilo ⟨s.conLoc i loc' c', .hecho, cpu, r,
        bajada ++ (loc.respuesta s.comun loc').map serializarKernel, subida⟩ := by
    rw [hresp]
    refine ⟨⟨loc', getElem?_conLoc hi loc' c', hturno⟩, ?_⟩
    simp only [hvacio hno, List.filterMap_append, hpcb, pcbRecibido, List.nil_append]
  cases h with
  | sinPrograma hloc' =>
      exact hdespacha hloc' .sinPrograma fun x pcb heq => heq ▸ .despachado pcb
  | bloqueado wait hloc' hno hpcb =>
      exact hdespacha hloc' (fun hsig => .bloqueado wait hsig hno hpcb)
        fun x pcb heq => heq ▸ .despachadoBloqueado wait pcb hno hpcb
  | saliendo hloc' hr =>
      exact hdespacha hloc' (fun hsig => .saliendo hsig hr)
        fun x pcb heq => heq ▸ .despachadoSaliendo pcb hr
  | enWait wait hwait hr =>
      have hno : ∀ x, loc ≠ .agregaExec x := by
        rintro x rfl
        exact Bool.false_ne_true hwait
      rcases enWait_pasoHilo hwait hloc with ⟨hsig, hresp⟩ | ⟨x, rfl, hresp⟩ | ⟨rfl, hresp⟩
      · exact hcontesta hresp hno rfl (.enWait wait hsig hr)
      · exact hcontesta hresp hno (by simp) (.respondido (.waitKernel wait) hr (by simp))
      · exact hcontesta hresp hno (by simp) (.bloqueado wait rfl (by simp) (by simp))
  | enSignal semaforo hsignal hr =>
      have hno : ∀ x, loc ≠ .agregaExec x := by
        rintro x rfl
        exact Bool.false_ne_true hsignal
      rcases enSignal_pasoHilo hsignal hloc with ⟨hsig, hresp⟩ | ⟨x, rfl, hresp⟩
      · exact hcontesta hresp hno rfl (.enSignal semaforo hsig hr)
      · exact hcontesta hresp hno (by simp) (.respondido (.signalKernel semaforo) hr (by simp))
  | _ => exact absurd hloc (by simp [pasoHilo])

/-- **A message that the thread of the kernel receives keeps the turns.** -/
theorem EnTurno.mensaje (hi : v.sistema.hilos[i]? = some loc)
    (h : EnTurno v.saludo loc v.cpu v.estadoRafaga v.bajada v.subida) {k : ℕ} {valor : Option U32}
    (hpaso : PasoConversacion i v (.mensaje k valor) v') : Sigue i v (.mensaje k valor) v' := by
  obtain ⟨s, saludo, cpu, r, bajada, subida⟩ := v
  unfold PasoConversacion pasoConversacion at hpaso
  simp only [hi] at h hpaso
  split at hpaso
  swap
  · exact absurd hpaso (by simp)
  rename_i x heq
  obtain rfl := Option.some_inj.1 heq
  obtain ⟨⟨data, resto⟩, hrecv, hpaso⟩ := Option.bind_eq_some_iff.1 hpaso
  obtain ⟨m, hm, rfl⟩ := Option.map_eq_some_iff.1 hpaso
  have hlee {m₁ : EstructuraCpu} (hsubida : subida = [serializarCpu m₁]) :
      m.mensaje = m₁.mensaje ∧ resto = [] := by
    rw [hsubida] at hrecv
    obtain ⟨rfl, rfl⟩ := socketRecv_uno hrecv
    rw [kernelCpu_ida_y_vuelta.1] at hm
    obtain rfl := Option.some_inj.1 hm
    exact ⟨m₁.mensaje_recibida, rfl⟩
  have hsigue {l : List MensajeKernel} (hresp : respuestaMensaje s.comun valor m.mensaje = l)
      (hpcb : (l.map serializarKernel).filterMap pcbDe = [])
      (hturno : EnTurno saludo (recibirMensaje s.comun x (some m.mensaje)) cpu r
        (bajada ++ l.map serializarKernel) resto) :
      Sigue i ⟨s, saludo, cpu, r, bajada, subida⟩ (.mensaje k valor)
        ⟨s.conLoc i (recibirMensaje s.comun x (some m.mensaje)) s.comun, saludo, cpu, r,
          bajada ++ (respuestaMensaje s.comun valor m.mensaje).map serializarKernel, resto⟩ := by
    rw [hresp]
    refine ⟨⟨_, getElem?_conLoc hi _ _, hturno⟩, ?_⟩
    simp only [pcbEnviado, List.append_nil, List.filterMap_append, hpcb, pcbRecibido,
      List.nil_append]
  cases h with
  | pregunta mensaje hmensaje hr =>
      obtain ⟨hmismo, rfl⟩ := hlee rfl
      rcases consulta_recibirMensaje (c := s.comun) (x := x) hmensaje valor hr with
        ⟨respuesta, hloc, hresp, htras, hpcb⟩ | ⟨wait, rfl, hloc, hresp⟩ | ⟨wait, rfl,
          hloc, hresp⟩ |
          ⟨semaforo, rfl, hloc, hresp⟩
      · rw [← hmismo] at hloc hresp
        refine hsigue hresp (by simpa using hpcb) ?_
        rw [hloc]
        exact .respondido mensaje htras hpcb
      · rw [← hmismo] at hloc hresp
        exact hsigue hresp rfl (.enWait wait hloc hr)
      · rw [← hmismo] at hloc hresp
        refine hsigue hresp (by simp) ?_
        rw [hloc]
        exact .bloqueado wait rfl (by simp) (by simp)
      · rw [← hmismo] at hloc hresp
        exact hsigue hresp rfl (.enSignal semaforo hloc hr)
  | avisado mensaje hmensaje hr =>
      obtain ⟨hmismo, rfl⟩ := hlee rfl
      obtain ⟨hloc, hresp⟩ := fin_recibirMensaje (c := s.comun) (x := x) hmensaje valor
      rw [← hmismo] at hloc hresp
      exact hsigue hresp rfl (.saliendo hloc hr)
  | terminado mensaje hmensaje =>
      obtain ⟨hmismo, rfl⟩ := hlee rfl
      obtain ⟨hloc, hresp⟩ := fin_recibirMensaje (c := s.comun) (x := x) hmensaje valor
      rw [← hmismo] at hloc hresp
      exact hsigue hresp rfl (.sinPrograma hloc)
  | sinPrograma hloc => exact (Bool.false_ne_true hloc).elim
  | bloqueado wait hloc hno hpcb => exact (Bool.false_ne_true hloc).elim
  | saliendo hloc hr => exact (Bool.false_ne_true hloc).elim
  | enWait wait hloc hr => exact (Bool.false_ne_true hloc).elim
  | enSignal semaforo hloc hr => exact (Bool.false_ne_true hloc).elim
  | _ =>
      rw [socketRecv_nil] at hrecv
      exact absurd hrecv (by simp)

/-- **What the CPU receives keeps the turns**, if it takes no reply together with what comes after
it. -/
theorem EnTurno.cpuRecibe (hi : v.sistema.hilos[i]? = some loc)
    (h : EnTurno v.saludo loc v.cpu v.estadoRafaga v.bajada v.subida) {k : ℕ}
    (hturnos : PorTurnos v (.cpuRecibe k)) (hpaso : PasoConversacion i v (.cpuRecibe k) v') :
    Sigue i v (.cpuRecibe k) v' := by
  obtain ⟨s, saludo, cpu, r, bajada, subida⟩ := v
  unfold PasoConversacion pasoConversacion at hpaso
  simp only at hi h hpaso
  obtain ⟨⟨data, resto⟩, hrecv, hrecibe⟩ := Option.bind_eq_some_iff.1 hpaso
  obtain ⟨m, hm, hmueve⟩ := Option.bind_eq_some_iff.1 hrecibe
  have hlee {m₁ : MensajeKernel} (hbajada : bajada = [serializarKernel m₁]) :
      m = m₁ ∧ resto = [] := by
    rw [hbajada] at hrecv
    obtain ⟨rfl, rfl⟩ := socketRecv_uno hrecv
    rw [kernelCpu_ida_y_vuelta.2] at hm
    exact ⟨(Option.some_inj.1 hm).symm, rfl⟩
  have hno (hcpu : cpu ≠ .recibePcb) :
      pcbRecibido ⟨s, saludo, cpu, r, bajada, subida⟩ (.cpuRecibe k) = [] := by
    cases cpu with
    | recibePcb => exact absurd rfl hcpu
    | _ => rfl
  cases h with
  | saludado iEjecuciones iDelay =>
      obtain ⟨rfl, rfl⟩ := hlee rfl
      cases hmueve
      refine ⟨⟨_, hi, .devuelto⟩, ?_⟩
      rw [hno LocCpu.noConfusion]
      simp [pcbEnviado]
  | bloqueado wait hloc hcontinuar hpcb =>
      obtain ⟨rfl, rfl⟩ := hlee rfl
      cases hmueve
      refine ⟨⟨_, hi, .saliendo hloc ?_⟩, ?_⟩
      · cases m with
        | continuar => exact absurd rfl hcontinuar
        | _ => rfl
      · rw [hno LocCpu.noConfusion]
        simpa [pcbEnviado] using hpcb
  | despachado pcb =>
      obtain ⟨rfl, rfl⟩ := hlee rfl
      cases hmueve
      refine ⟨⟨_, hi, .prepara⟩, ?_⟩
      have hdata := (socketRecv_uno hrecv).1
      subst hdata
      simp [pcbEnviado, pcbRecibido, hrecv]
  | @despachadoBloqueado _ _ wait respuesta pcb hcontinuar hpcb =>
      obtain rfl := hturnos _ rfl
      obtain ⟨rfl, rfl⟩ : data = serializarKernel _ ∧
        resto = [serializarKernel (.atendeProceso pcb)] := by
        simpa [socketRecv, eq_comm] using hrecv
      rw [kernelCpu_ida_y_vuelta.2] at hm
      obtain rfl := Option.some_inj.1 hm
      cases hmueve
      refine ⟨⟨_, hi, .despachadoSaliendo pcb ?_⟩, ?_⟩
      · cases respuesta with
        | continuar => exact absurd rfl hcontinuar
        | _ => rfl
      · rw [hno LocCpu.noConfusion]
        simp only [pcbEnviado, List.append_nil, List.filterMap_cons, hpcb, List.nil_append]
  | despachadoSaliendo pcb hr => cases hmueve
  | respondido mensaje hr hpcb =>
      obtain ⟨rfl, rfl⟩ := hlee rfl
      cases hmueve
      refine ⟨⟨_, hi, .ejecuta hr⟩, ?_⟩
      rw [hno LocCpu.noConfusion]
      simpa [pcbEnviado] using hpcb
  | _ =>
      rw [socketRecv_nil] at hrecv
      exact absurd hrecv (by simp)

/-- A step that neither sends nor decodes a PCB. -/
theorem sigue_sin_pcb {e : Turno} (hi : v'.sistema.hilos[i]? = some loc)
    (hturno : EnTurno v'.saludo loc v'.cpu v'.estadoRafaga v'.bajada v'.subida)
    (henvia : pcbEnviado i v e = []) (hrecibe : pcbRecibido v e = [])
    (hbajada : v'.bajada.filterMap pcbDe = v.bajada.filterMap pcbDe) : Sigue i v e v' := by
  refine ⟨⟨loc, hi, hturno⟩, ?_⟩
  rw [henvia, hrecibe, hbajada, List.append_nil, List.nil_append]

/-- **The beginning of the conversation.** -/
theorem EnTurno.saludo {e : Turno} (hi : v.sistema.hilos[i]? = some loc)
    (h : EnTurno v.saludo loc v.cpu v.estadoRafaga v.bajada v.subida)
    (he : (∃ iEjecuciones iDelay, e = .saluda iEjecuciones iDelay) ∨ ∃ k, e = .recibeOk k)
    (hpaso : PasoConversacion i v e v') : Sigue i v e v' := by
  obtain ⟨s, saludo, cpu, r, bajada, subida⟩ := v
  unfold PasoConversacion at hpaso
  rcases he with ⟨iEjecuciones, iDelay, rfl⟩ | ⟨k, rfl⟩
  · simp only [pasoConversacion] at hi h hpaso
    split at hpaso
    · rename_i hsaludo
      subst hsaludo
      cases hpaso
      cases h
      exact sigue_sin_pcb hi (.saludado iEjecuciones iDelay) rfl rfl (by simp)
    · exact absurd hpaso (by simp)
  · simp only [pasoConversacion] at hi h hpaso
    split at hpaso
    · rename_i hsaludo
      subst hsaludo
      obtain ⟨⟨data, resto⟩, hrecv, rfl⟩ := Option.map_eq_some_iff.1 hpaso
      cases h with
      | devuelto =>
          obtain ⟨-, rfl⟩ := socketRecv_uno hrecv
          exact sigue_sin_pcb hi (.sinPrograma rfl) rfl rfl rfl
      | saludado iEjecuciones iDelay =>
          rw [socketRecv_nil] at hrecv
          exact absurd hrecv (by simp)
    · exact absurd hpaso (by simp)

/-- The message of a call that leaves the burst, and the state of the burst after it. -/
theorem esFin_of_trasAviso {m : EstructuraCpu} {r : EstadoRafaga} (h : trasAviso m = some r) :
    esFin m = true ∧ r.terminada = true := by
  cases m with
  | entradaSalidaKernel entradaSalida =>
      cases h
      exact ⟨rfl, rfl⟩
  | exception texto =>
      cases h
      exact ⟨rfl, rfl⟩
  | _ => exact absurd h (by simp [trasAviso])

/-- **What the CPU does in its burst keeps the turns**, as long as the program has not left it. -/
theorem EnTurno.enRafaga {e : Turno} (hi : v.sistema.hilos[i]? = some loc)
    (h : EnTurno v.saludo loc .ejecuta v.estadoRafaga v.bajada v.subida) (hcpu : v.cpu = .ejecuta)
    (he : (∃ mensaje, e = .cpuLlama mensaje) ∨ e = .cpuMarcaFin) (hturnos : PorTurnos v e)
    (hpaso : PasoConversacion i v e v') : Sigue i v e v' := by
  obtain ⟨s, saludo, cpu, r, bajada, subida⟩ := v
  have hr : r.terminada = false := by
    rcases he with ⟨mensaje, rfl⟩ | rfl <;> exact hturnos
  simp only at hi h hcpu
  subst hcpu
  unfold PasoConversacion at hpaso
  cases h with
  | ejecuta =>
      rcases he with ⟨mensaje, rfl⟩ | rfl
      · simp only [pasoConversacion, if_true] at hpaso
        split at hpaso
        · rename_i hmensaje
          cases hpaso
          exact sigue_sin_pcb hi (.pregunta mensaje hmensaje hr) rfl rfl rfl
        · obtain ⟨r', hr', rfl⟩ := Option.map_eq_some_iff.1 hpaso
          obtain ⟨hfin, hterminada⟩ := esFin_of_trasAviso hr'
          exact sigue_sin_pcb hi (.avisado mensaje hfin hterminada) rfl rfl rfl
      · cases hpaso
        exact sigue_sin_pcb hi (.ejecuta rfl) rfl rfl rfl
  | saliendo hloc hmal => exact absurd (hmal.symm.trans hr) (by simp)
  | despachadoSaliendo pcb hmal => exact absurd (hmal.symm.trans hr) (by simp)
  | avisado mensaje hmensaje hmal => exact absurd (hmal.symm.trans hr) (by simp)

/-- **The end of the burst keeps the turns.** -/
theorem EnTurno.cpuTermina {pcb : Pcb} (hi : v.sistema.hilos[i]? = some loc)
    (h : EnTurno v.saludo loc v.cpu v.estadoRafaga v.bajada v.subida)
    (hpaso : PasoConversacion i v (.cpuTermina pcb) v') : Sigue i v (.cpuTermina pcb) v' := by
  obtain ⟨s, saludo, cpu, r, bajada, subida⟩ := v
  unfold PasoConversacion at hpaso
  simp only [pasoConversacion] at hi h hpaso
  split at hpaso
  swap
  · exact absurd hpaso (by simp)
  rename_i hcpu
  subst hcpu
  have hsale (hr : r.terminada = true) :
      v' = ⟨s, saludo, .recibePcb, r, bajada, subida⟩ := by
    cases r with
    | notificarPorFinRafaga => exact absurd hr (by simp [EstadoRafaga.terminada])
    | notificarPorFinPrograma => exact absurd hr (by simp [EstadoRafaga.terminada])
    | _ => exact (Option.some_inj.1 hpaso).symm
  cases h with
  | ejecuta hr =>
      cases r with
      | notificarPorFinRafaga =>
          cases hpaso
          exact sigue_sin_pcb hi (.terminado (.notificarPorFinRafaga pcb) rfl) rfl rfl rfl
      | notificarPorFinPrograma =>
          cases hpaso
          exact sigue_sin_pcb hi (.terminado (.notificarPorFinPrograma pcb) rfl) rfl rfl rfl
      | _ => exact absurd hr (by simp [EstadoRafaga.terminada])
  | saliendo hloc hr =>
      obtain rfl := hsale hr
      exact sigue_sin_pcb hi (.sinPrograma hloc) rfl rfl rfl
  | despachadoSaliendo pcb' hr =>
      obtain rfl := hsale hr
      exact sigue_sin_pcb hi (.despachado pcb') rfl rfl rfl
  | avisado mensaje hmensaje hr =>
      obtain rfl := hsale hr
      exact sigue_sin_pcb hi (.terminado mensaje hmensaje) rfl rfl rfl

/-- The CPU is there. -/
theorem EnTurno.presente {saludo : Saludo} {cpu : LocCpu} {r : EstadoRafaga} {bajada subida : Flujo}
    (h : EnTurno saludo loc cpu r bajada subida) : cpu ≠ .fuera := by
  cases h <;> exact LocCpu.noConfusion

/-- **Every step that keeps to the turns keeps the invariant.** -/
theorem EnTurno.paso {e : Turno} (hi : v.sistema.hilos[i]? = some loc)
    (h : EnTurno v.saludo loc v.cpu v.estadoRafaga v.bajada v.subida) (hturnos : PorTurnos v e)
    (hpaso : PasoConversacion i v e v') : Sigue i v e v' := by
  cases e with
  | otro e =>
      unfold PasoConversacion at hpaso
      rw [pasoConversacion] at hpaso
      split at hpaso
      · rename_i hotro
        obtain ⟨s, hs, rfl⟩ := Option.map_eq_some_iff.1 hpaso
        exact sigue_sin_pcb (getElem?_paso_otro hi hotro hs) h rfl rfl rfl
      · exact absurd hpaso (by simp)
  | saluda iEjecuciones iDelay => exact h.saludo hi (Or.inl ⟨iEjecuciones, iDelay, rfl⟩) hpaso
  | recibeOk k => exact h.saludo hi (Or.inr ⟨k, rfl⟩) hpaso
  | hilo => exact h.hilo hi hpaso
  | mensaje k valor => exact h.mensaje hi hpaso
  | desconexion =>
      -- the CPU does not go
      unfold PasoConversacion at hpaso
      simp only [pasoConversacion] at hpaso
      split at hpaso
      · split at hpaso
        · rename_i hfuera
          exact absurd hfuera.1 h.presente
        · exact absurd hpaso (by simp)
      · exact absurd hpaso (by simp)
  | cpuRecibe k => exact h.cpuRecibe hi hturnos hpaso
  | cpuFalla texto => exact hturnos.elim
  | cpuEmpieza =>
      obtain ⟨s, saludo, cpu, r, bajada, subida⟩ := v
      unfold PasoConversacion at hpaso
      simp only [pasoConversacion] at hpaso
      split at hpaso
      · cases hpaso
        cases h
        exact sigue_sin_pcb hi (.ejecuta rfl) rfl rfl rfl
      · exact absurd hpaso (by simp)
  | cpuLlama mensaje =>
      have hcpu : v.cpu = .ejecuta := by
        unfold PasoConversacion at hpaso
        rw [pasoConversacion] at hpaso
        split at hpaso
        · assumption
        · exact absurd hpaso (by simp)
      exact (hcpu ▸ h).enRafaga hi hcpu (Or.inl ⟨mensaje, rfl⟩) hturnos hpaso
  | cpuMarcaFin =>
      have hcpu : v.cpu = .ejecuta := by
        unfold PasoConversacion at hpaso
        rw [pasoConversacion] at hpaso
        split at hpaso
        · assumption
        · exact absurd hpaso (by simp)
      exact (hcpu ▸ h).enRafaga hi hcpu (Or.inr rfl) hturnos hpaso
  | cpuTermina pcb => exact h.cpuTermina hi hpaso
  | sigusr1 pcb => exact hturnos.elim

/-- A conversation in turn, with its PCBs in order, is what is asked for. -/
theorem EnOrdenDeTurno.recibe {p : Conversacion × Lts.Transito Pcb} (h : EnOrdenDeTurno i p) :
    Recibe p := by
  obtain ⟨loc, -, hturno⟩ := h.turno
  obtain ⟨⟨s, saludo, cpu, r, bajada, subida⟩, transito⟩ := p
  refine ⟨h.orden, ?_, ?_⟩
  · cases hturno <;> simp_all
  · intro hcpu
    simp only at hcpu hturno
    subst hcpu
    cases hturno with
    | despachado pcb => exact Or.inr ⟨pcb, rfl⟩
    | _ => exact Or.inl rfl

/-- The invariant holds in every run that keeps to the turns. -/
theorem enOrdenDeTurno_run {s : Sistema} {tr : List Turno} {p : Conversacion × Lts.Transito Pcb}
    (hrun : Lts.Run (Lts.restrict (fun p e => PorTurnos p.1 e) (PasoConPcbs s.hilos.length))
      (conversacionInicial s, .nada) tr p) : EnOrdenDeTurno s.hilos.length p := by
  refine hrun.invariant (I := EnOrdenDeTurno s.hilos.length) ?_ ⟨⟨.esperaReady, ?_, .nuevo⟩, rfl⟩
  · rintro ⟨v, transito⟩ e ⟨v', transito'⟩ ⟨⟨loc, hi, hturno⟩, horden⟩ ⟨hturnos, hpaso, rfl⟩
    obtain ⟨hsigue, hpcbs⟩ := hturno.paso hi hturnos hpaso
    refine ⟨hsigue, ?_⟩
    calc transito.entraron ++ pcbEnviado s.hilos.length v e
        = transito.salieron ++ (v.bajada.filterMap pcbDe ++ pcbEnviado s.hilos.length v e) := by
          rw [horden, List.append_assoc]
      _ = transito.salieron ++ pcbRecibido v e ++ v'.bajada.filterMap pcbDe := by
          rw [hpcbs, List.append_assoc]
  · exact List.getElem?_concat_length

/-- **A reply that is received together with the PCB after it loses that PCB.** -/
theorem EnOrdenDeTurno.uno {p q : Conversacion × Lts.Transito Pcb} (h : EnOrdenDeTurno i p) {k : ℕ}
    {mensaje : EstructuraCpu} (hcpu : p.1.cpu = .esperaRespuesta mensaje)
    (hpaso : PasoConPcbs i p (.cpuRecibe k) q) (hq : Recibe q) : k = 1 := by
  obtain ⟨loc, -, hturno⟩ := h.turno
  have horden := h.orden
  have hq := hq.orden
  obtain ⟨⟨s, saludo, cpu, r, bajada, subida⟩, transito⟩ := p
  obtain ⟨v', transito'⟩ := q
  obtain ⟨hpaso, htransito⟩ := hpaso
  simp only at hturno horden hcpu hq htransito
  subst hcpu htransito
  unfold PasoConversacion pasoConversacion at hpaso
  obtain ⟨⟨data, resto⟩, hrecv, hrecibe⟩ := Option.bind_eq_some_iff.1 hpaso
  obtain ⟨m, hm, hmueve⟩ := Option.bind_eq_some_iff.1 hrecibe
  obtain rfl := Option.some_inj.1 hmueve
  have hk : 0 < k ∧ k ≤ bajada.length ∧ resto = bajada.drop k := by
    simp only [socketRecv] at hrecv
    split at hrecv
    · rename_i hk
      exact ⟨hk.1, hk.2, (congrArg Prod.snd (Option.some_inj.1 hrecv)).symm⟩
    · exact absurd hrecv (by simp)
  obtain ⟨hpos, hle, rfl⟩ := hk
  cases hturno with
  | @despachadoBloqueado _ _ wait respuesta pcb hno hpcb =>
      by_contra hne
      obtain rfl : k = 2 := by
        simp only [List.length_cons, List.length_nil] at hle
        omega
      -- the PCB was sent, and it is neither decoded nor on its way
      simp only [Lts.Transito.mas, pcbEnviado, pcbRecibido, List.append_nil, List.drop_succ_cons,
        List.drop_zero, List.filterMap_nil] at hq
      rw [horden] at hq
      simp [hpcb] at hq
  | _ =>
      simp only [List.length_cons, List.length_nil] at hle
      omega

/-- **Every PCB that is sent is received**, in the runs that keep to the turns: the PCBs that were
sent with `atendeProceso` are those that were decoded by `recibirPcb`, in the same order, and one at
most that is on its way; and when the CPU is to receive a PCB, nothing else is on its way.  A reply
that is received together with the PCB after it loses that PCB. -/
theorem recibe_cada_pcb (s : Sistema) {tr : List Turno} {p : Conversacion × Lts.Transito Pcb}
    (hrun : Lts.Run (Lts.restrict (fun p e => PorTurnos p.1 e) (PasoConPcbs s.hilos.length))
      (conversacionInicial s, .nada) tr p) :
    Recibe p ∧ ∀ k q mensaje, p.1.cpu = .esperaRespuesta mensaje →
      PasoConPcbs s.hilos.length p (.cpuRecibe k) q → (Recibe q ↔ k = 1) := by
  have hinv := enOrdenDeTurno_run hrun
  refine ⟨hinv.recibe, ?_⟩
  intro k q mensaje hcpu hpaso
  constructor
  · exact hinv.uno hcpu hpaso
  · rintro rfl
    refine (enOrdenDeTurno_run (hrun.snoc ⟨?_, hpaso⟩)).recibe
    exact fun _ _ => rfl

/-! ### A PCB that is lost -/

/-- One step of the conversation, with the PCBs. -/
def pasoConPcbs (i : ℕ) (p : Conversacion × Lts.Transito Pcb) (e : Turno) :
    Option (Conversacion × Lts.Transito Pcb) :=
  (pasoConversacion i p.1 e).map fun v' =>
    (v', Lts.Transito.mas (pcbEnviado i) pcbRecibido p.1 e p.2)

/-- The test of the steps that keep to the turns. -/
def porTurnos (v : Conversacion) : Turno → Bool
  | .cpuRecibe k =>
      match v.cpu with
      | .esperaRespuesta _ => k == 1
      | _ => true
  | .cpuFalla _ => false
  | .cpuLlama _ => !v.estadoRafaga.terminada
  | .cpuMarcaFin => !v.estadoRafaga.terminada
  | .sigusr1 _ => false
  | _ => true

theorem porTurnos_of_test {e : Turno} (h : porTurnos v e = true) : PorTurnos v e := by
  cases e with
  | cpuRecibe k =>
      intro mensaje hcpu
      simpa [porTurnos, hcpu] using h
  | cpuLlama mensaje => simpa [porTurnos, PorTurnos] using h
  | cpuMarcaFin => simpa [porTurnos, PorTurnos] using h
  | cpuFalla texto => exact absurd h (by simp [porTurnos])
  | sigusr1 pcb => exact absurd h (by simp [porTurnos])
  | _ => trivial

/-- Some steps that pass a test are a run. -/
theorem run_of_pasoConPcbs {ok : Conversacion × Lts.Transito Pcb → Turno → Bool}
    {Q : Conversacion × Lts.Transito Pcb → Turno → Prop} (hok : ∀ p e, ok p e = true → Q p e)
    {tr : List Turno} {p q : Conversacion × Lts.Transito Pcb}
    (hrun : Lts.ejecutar (pasoConPcbs i) ok tr p = some q) :
    Lts.Run (Lts.restrict Q (PasoConPcbs i)) p tr q := by
  refine (Lts.run_of_ejecutar hrun).simulation (R := Eq) ?_ rfl |>.elim fun q' hq => hq.2 ▸ hq.1
  rintro p e q _ rfl ⟨he, hpaso⟩
  obtain ⟨v', hv', rfl⟩ := Option.map_eq_some_iff.1 hpaso
  exact ⟨(v', Lts.Transito.mas (pcbEnviado i) pcbRecibido p.1 e p.2), ⟨hok p e he, hv', rfl⟩, rfl⟩

/-- A semaphore that is not free, and room for two programs. -/
def configuracionSemaforo : Configuracion := ⟨[("s".toList, 0)], [], 2⟩

/-- The message of a wait on it. -/
def mensajeWait : EstructuraCpu :=
  .waitKernel ⟨0#32, ⟨[115#8], by decide, by decide⟩, { pcbNulo with pid := 1001#32 }⟩

/-- Of two programs a CPU takes the first one, which waits on the semaphore; the kernel blocks it,
answers, and sends the PCB of the second one. -/
def trazaBloquea : List Turno :=
  (llegaPrograma ++ llegaPrograma).map Turno.otro ++
    [.saluda 3#32 0#32, .cpuRecibe 1, .recibeOk 1, .hilo, .hilo, .hilo, .cpuRecibe 1, .cpuEmpieza,
      .cpuLlama mensajeWait, .mensaje 1 none] ++ List.replicate 9 .hilo

/-- The CPU receives the answer, ends its burst, and receives the PCB. -/
theorem recibe_cada_pcb_bloquea : ∃ p,
    Lts.ejecutar (pasoConPcbs 0) (fun p e => porTurnos p.1 e)
      (trazaBloquea ++ [.cpuRecibe 1, .cpuTermina pcbNulo, .cpuRecibe 1])
      (conversacionInicial (inicial configuracionSemaforo), .nada) = some p ∧
    p.2.salieron = [{ pcbNulo with pid := 1001#32 }, { pcbNulo with pid := 1002#32 }] ∧
    Recibe p := by
  have hfin : (Lts.ejecutar (pasoConPcbs 0) (fun p e => porTurnos p.1 e)
      (trazaBloquea ++ [.cpuRecibe 1, .cpuTermina pcbNulo, .cpuRecibe 1])
      (conversacionInicial (inicial configuracionSemaforo), .nada)).any (fun p => decide
        (p.2.salieron = [{ pcbNulo with pid := 1001#32 }, { pcbNulo with pid := 1002#32 }])) =
          true := by
    decide +kernel
  obtain ⟨p, hp, hfin⟩ := Option.any_eq_true _ _ |>.1 hfin
  exact ⟨p, hp, of_decide_eq_true hfin, (recibe_cada_pcb (inicial configuracionSemaforo)
    (run_of_pasoConPcbs (fun _ _ => porTurnos_of_test) hp)).1⟩

/-- **The CPU receives the answer together with the PCB**, which is lost. -/
theorem no_recibe_cada_pcb : ¬∀ (s : Sistema) (tr : List Turno)
    (p : Conversacion × Lts.Transito Pcb), Lts.Run (PasoConPcbs s.hilos.length)
      (conversacionInicial s, .nada) tr p → Recibe p := by
  intro hsiempre
  have hfin : (Lts.ejecutar (pasoConPcbs 0) (fun _ _ => true) (trazaBloquea ++ [.cpuRecibe 2])
      (conversacionInicial (inicial configuracionSemaforo), .nada)).any (fun p => decide
        (p.1.bajada = [] ∧ p.2.entraron.length = 2 ∧ p.2.salieron.length = 1)) = true := by
    decide +kernel
  obtain ⟨p, hp, hfin⟩ := Option.any_eq_true _ _ |>.1 hfin
  obtain ⟨hbajada, hentraron, hsalieron⟩ := of_decide_eq_true hfin
  have hrun := run_of_pasoConPcbs (Q := fun _ _ => True) (fun _ _ _ => trivial) hp
  have horden := congrArg List.length
    (hsiempre (inicial configuracionSemaforo) _ p hrun.of_restrict).orden
  rw [hbajada, List.filterMap_nil, List.append_nil, hentraron, hsalieron] at horden
  exact absurd horden (by decide)

end Ansisop.Kernel
