/-
**The kernel as a system of threads.**

The kernel has a thread for each CPU, one for each device, the long-term scheduler, the thread that
ends programs and the one that receives new programs.  They share lists of programs and counting
semaphores.  Here each thread has a location in its code, with its local variables, and each
operation on a list, on a counter or on a semaphore is one step; the run of the kernel is any
interleaving of the steps of its threads with any messages of the CPUs.

A program is its position in the order of arrival, which stands for the pointer to it.  A step has
no result when the thread must wait, when the code reads through a null pointer and when an `int`
overflows.

Main definitions:

* `Ansisop.Kernel.Comun` — what the threads share;
* `Ansisop.Kernel.Loc`, `Ansisop.Kernel.pasoHilo`, `Ansisop.Kernel.recibirMensaje` — the threads
  that serve the CPUs (`pfnControladorConexion`, with `fnLock`, `fnUnlock`, `mandarADispositivo`,
  `moverAExit` and `recargarReady`);
* `Ansisop.Kernel.pasoDispositivo`, `Ansisop.Kernel.pasoPlp`, `Ansisop.Kernel.pasoPrincipal`,
  `Ansisop.Kernel.pasoSalida` — the other threads;
* `Ansisop.Kernel.Sistema`, `Ansisop.Kernel.Evento`, `Ansisop.Kernel.paso` — the kernel.

Main results:

* `Ansisop.Kernel.pasoHilo_avanza` and its siblings — **what a step of each thread can do**
  (`Avanza`);
* `Ansisop.Kernel.Paso.transicion` — **what a step of the kernel is**, for each thing that can
  happen.
-/

import Ansisop.Lib.Runs
import Ansisop.Protocolo.Mensajes
import Mathlib.Data.List.Sort

set_option relaxedAutoImplicit false
set_option autoImplicit false

namespace Ansisop.Kernel

/-! ### What the threads share -/

/-- A `t_nuevoPrograma *`: the programs are numbered in the order in which they arrive. -/
abbrev Programa := ℕ

/-- `tSemaforo`. -/
structure Semaforo where
  szSemaforo : Texto
  iSemaforo : ℤ
  progEncolados : List Programa
deriving DecidableEq

/-- The locations of the thread of a device. -/
inductive LocDispositivo
  | espera
  | saca
  | duerme (programa : Programa) (retardo : U32)
  | publica
deriving DecidableEq

/-- `tIO`, with the location of its thread. -/
structure Dispositivo where
  szDispositivo : Texto
  iRetardo : U32
  semaforo : ℕ
  progEncolados : List (Programa × U32)
  hilo : LocDispositivo
deriving DecidableEq

/-- The lists, the counters and the semaphores that the threads share.  `admitidos` and `entregados`
are the history: the programs that were put in Ready when they arrived, and those that were handed
to `exitProcesos`. -/
structure Comun where
  pcb : Programa → Pcb
  cantidad : ℕ
  lista_de_programas : List Programa
  newProcesos : List (Programa × ℤ)
  listaReady : List (Option Programa)
  listaExec : List Programa
  exitProcesos : List Programa
  semaforos : List Semaforo
  dispositivos : List Dispositivo
  productorConsumidor : ℕ
  semaforoExit : ℕ
  nuevoProgramaSem : ℕ
  estado_multiprogramacion : ℤ
  admitidos : List Programa
  entregados : List Programa

/-- A pid as an `int`: the first program gets `1001`. -/
def pidDe (programa : Programa) : U32 := BitVec.ofNat 32 (1001 + programa)

/-- `list_remove_by_condition` on `listaExec`, for a pid. -/
def quitarExec (c : Comun) (pid : U32) : Option Programa × Comun :=
  (c.listaExec.find? fun y => (c.pcb y).pid == pid,
    { c with listaExec := c.listaExec.eraseP fun y => (c.pcb y).pid == pid })

/-- `*programa->pcb = pcb`. -/
def escribirPcb (c : Comun) (programa : Programa) (pcb : Pcb) : Comun :=
  { c with pcb := Function.update c.pcb programa pcb }

/-- `list_add_in_index` at the end of `listaReady`. -/
def agregarReady (c : Comun) (programa : Option Programa) : Comun :=
  { c with listaReady := c.listaReady ++ [programa] }

/-- A new value for a semaphore of the list. -/
def conSemaforo (c : Comun) (j : ℕ) (semaf : Semaforo) : Comun :=
  { c with semaforos := c.semaforos.set j semaf }

/-- A new value for a device of the list. -/
def conDispositivo (c : Comun) (j : ℕ) (unDispo : Dispositivo) : Comun :=
  { c with dispositivos := c.dispositivos.set j unDispo }

/-! ### The threads that serve the CPUs -/

/-- **The locations of `pfnControladorConexion`**, with those of the functions that it calls and
their local variables.  A semaphore and a device are given by their position in the list. -/
inductive Loc
  /-- at `sem_wait(&productorConsumidor)` -/
  | esperaReady
  | sacaReady
  | agregaExec (programa : Programa)
  /-- at `socket_recv`, for the next message of the CPU that has the PCB of the program -/
  | recibe (programa : Programa)
  | entradaSalida (programa : Programa) (dispositivo : Texto) (tiempo : U32) (pcb : Pcb)
  | encolaDispositivo (programa : Programa) (unDispo : ℕ) (tiempo : U32)
  | quitaExecDispositivo (programa : Programa) (unDispo : ℕ)
  | postDispositivo (unDispo : ℕ)
  /-- `moverAExit`; the thread ends after it if the CPU is not there any more -/
  | moverAExit (programa : Programa) (fin : Bool)
  | agregaExit (programaBuscado : Programa) (fin : Bool)
  | aumentaMultiprogramacion (fin : Bool)
  | postExit (fin : Bool)
  | postNuevo (fin : Bool)
  | lockResta (programa : Programa) (semaf : ℕ) (pcb : Pcb)
  | lockCompara (programa : Programa) (semaf : ℕ) (pcb : Pcb)
  | lockTamanio (programa : Programa) (semaf : ℕ) (pcb : Pcb)
  | lockQuitaExec (programa : Programa) (semaf : ℕ) (pcb : Pcb)
  | lockEscribe (programa : Programa) (semaf : ℕ) (pcb : Pcb)
  | lockEncola (programa : Programa) (semaf : ℕ)
  | unlockSuma (programa : Programa) (semaf : ℕ)
  | unlockCompara (programa : Programa) (semaf : ℕ)
  | unlockTamanio (programa : Programa) (semaf : ℕ)
  | unlockSaca (programa : Programa) (semaf : ℕ)
  | unlockAgrega (programa : Programa) (semaf : ℕ) (desencolado : Option Programa)
  | unlockPost (programa : Programa) (semaf : ℕ)
  | recargaQuita (programa : Programa) (pcb : Pcb)
  | recargaEscribe (programaBuscado : Programa) (pcb : Pcb)
  | recargaAgrega (programaBuscado : Programa)
  | recargaPost
  | terminado
deriving DecidableEq

/-- The limits of an `int`. -/
def esInt (n : ℤ) : Bool := -2 ^ 31 ≤ n && n < 2 ^ 31

/-- The answer to a message, up to the first operation on something shared.  No message stands for a
CPU that is gone. -/
def recibirMensaje (c : Comun) (programa : Programa) : Option MensajeCpu → Loc
  | none => .moverAExit programa true
  | some (.entradaSalidaKernel dispositivo tiempo pcb) =>
      .entradaSalida programa dispositivo tiempo pcb
  | some (.waitKernel semaforo pcb) =>
      match c.semaforos.findIdx? fun unSem => unSem.szSemaforo == semaforo with
      | some j => .lockResta programa j pcb
      | none => .esperaReady
  | some (.signalKernel semaforo) =>
      match c.semaforos.findIdx? fun unSem => unSem.szSemaforo == semaforo with
      | some j => .unlockSuma programa j
      | none => .recibe programa
  | some (.notificarPorFinRafaga pcb) => .recargaQuita programa pcb
  | some (.notificarPorFinPrograma _) => .moverAExit programa false
  | some (.exception _) => .moverAExit programa false
  | some .okCpu => .terminado
  | some (.obtenerValorVarCompartida _) => .recibe programa
  | some (.asignarValorVarCompartida _ _) => .recibe programa
  | some (.imprimirKernel _) => .recibe programa
  | some (.imprimirTextoKernel _) => .recibe programa

/-- **What the answer to a message can be**, one case for each way through the switch. -/
inductive Contesta (c : Comun) (programa : Programa) : Option MensajeCpu → Loc → Prop
  | seFue : Contesta c programa none (.moverAExit programa true)
  | entradaSalida {dispositivo : Texto} {tiempo : U32} {pcb : Pcb} :
      Contesta c programa (some (.entradaSalidaKernel dispositivo tiempo pcb))
        (.entradaSalida programa dispositivo tiempo pcb)
  | wait {semaforo : Texto} {pcb : Pcb} {j : ℕ} :
      (c.semaforos.findIdx? fun unSem => unSem.szSemaforo == semaforo) = some j →
      Contesta c programa (some (.waitKernel semaforo pcb)) (.lockResta programa j pcb)
  | waitSinSemaforo {semaforo : Texto} {pcb : Pcb} :
      (c.semaforos.findIdx? fun unSem => unSem.szSemaforo == semaforo) = none →
      Contesta c programa (some (.waitKernel semaforo pcb)) .esperaReady
  | signal {semaforo : Texto} {j : ℕ} :
      (c.semaforos.findIdx? fun unSem => unSem.szSemaforo == semaforo) = some j →
      Contesta c programa (some (.signalKernel semaforo)) (.unlockSuma programa j)
  | signalSinSemaforo {semaforo : Texto} :
      (c.semaforos.findIdx? fun unSem => unSem.szSemaforo == semaforo) = none →
      Contesta c programa (some (.signalKernel semaforo)) (.recibe programa)
  | finRafaga {pcb : Pcb} :
      Contesta c programa (some (.notificarPorFinRafaga pcb)) (.recargaQuita programa pcb)
  | finPrograma {pcb : Pcb} :
      Contesta c programa (some (.notificarPorFinPrograma pcb)) (.moverAExit programa false)
  | exception {texto : Texto} :
      Contesta c programa (some (.exception texto)) (.moverAExit programa false)
  | okCpu : Contesta c programa (some .okCpu) .terminado
  | obtenerValor {nombre : Texto} :
      Contesta c programa (some (.obtenerValorVarCompartida nombre)) (.recibe programa)
  | asignarValor {nombre : Texto} {valor : U32} :
      Contesta c programa (some (.asignarValorVarCompartida nombre valor)) (.recibe programa)
  | imprimir {valor : U32} : Contesta c programa (some (.imprimirKernel valor)) (.recibe programa)
  | imprimirTexto {texto : Texto} :
      Contesta c programa (some (.imprimirTextoKernel texto)) (.recibe programa)

theorem recibirMensaje_contesta (c : Comun) (programa : Programa) (mensaje : Option MensajeCpu) :
    Contesta c programa mensaje (recibirMensaje c programa mensaje) := by
  cases mensaje with
  | none => exact .seFue
  | some m =>
      cases m with
      | waitKernel semaforo pcb =>
          rw [recibirMensaje]
          split
          · next hj => exact .wait hj
          · next hj => exact .waitSinSemaforo hj
      | signalKernel semaforo =>
          rw [recibirMensaje]
          split
          · next hj => exact .signal hj
          · next hj => exact .signalSinSemaforo hj
      | _ => constructor

/-- **One step of the thread of a CPU.** -/
def pasoHilo (c : Comun) : Loc → Option (Loc × Comun)
  | .esperaReady =>
      if 0 < c.productorConsumidor then
        some (.sacaReady, { c with productorConsumidor := c.productorConsumidor - 1 })
      else none
  | .sacaReady =>
      -- the code reads the pid of what it takes, so it must not be null
      match c.listaReady with
      | some programa :: resto => some (.agregaExec programa, { c with listaReady := resto })
      | _ => none
  | .agregaExec programa =>
      some (.recibe programa, { c with listaExec := c.listaExec ++ [programa] })
  | .recibe _ => none
  | .entradaSalida programa dispositivo tiempo pcb =>
      match c.dispositivos.findIdx? fun unDis => unDis.szDispositivo == dispositivo with
      | some j => some (.encolaDispositivo programa j tiempo, escribirPcb c programa pcb)
      | none => some (.moverAExit programa false, escribirPcb c programa pcb)
  | .encolaDispositivo programa j tiempo =>
      match c.dispositivos[j]? with
      | some unDispo => some (.quitaExecDispositivo programa j, conDispositivo c j
          { unDispo with progEncolados := unDispo.progEncolados ++ [(programa, tiempo)] })
      | none => none
  | .quitaExecDispositivo programa j =>
      some (.postDispositivo j, (quitarExec c (c.pcb programa).pid).2)
  | .postDispositivo j =>
      match c.dispositivos[j]? with
      | some unDispo => some (.esperaReady, conDispositivo c j
          { unDispo with semaforo := unDispo.semaforo + 1 })
      | none => none
  | .moverAExit programa fin =>
      -- the comparison of the pids reads through the pointer, also when it is null
      match quitarExec c (c.pcb programa).pid with
      | (some programaBuscado, c) => some (.agregaExit programaBuscado fin, c)
      | (none, _) => none
  | .agregaExit programaBuscado fin =>
      some (.aumentaMultiprogramacion fin, { c with
        exitProcesos := c.exitProcesos ++ [programaBuscado]
        entregados := c.entregados ++ [programaBuscado] })
  | .aumentaMultiprogramacion fin =>
      some (.postExit fin, { c with estado_multiprogramacion := c.estado_multiprogramacion + 1 })
  | .postExit fin => some (.postNuevo fin, { c with semaforoExit := c.semaforoExit + 1 })
  | .postNuevo fin =>
      some (if fin then .terminado else .esperaReady,
        { c with nuevoProgramaSem := c.nuevoProgramaSem + 1 })
  | .lockResta programa j pcb =>
      match c.semaforos[j]? with
      | some semaf =>
          if esInt (semaf.iSemaforo - 1) then
            some (.lockCompara programa j pcb,
              conSemaforo c j { semaf with iSemaforo := semaf.iSemaforo - 1 })
          else none
      | none => none
  | .lockCompara programa j pcb =>
      match c.semaforos[j]? with
      | some semaf =>
          some (if semaf.iSemaforo < 0 then .lockTamanio programa j pcb else .recibe programa, c)
      | none => none
  | .lockTamanio programa j pcb =>
      -- the second part of the condition: with nothing in execution the program goes on
      some (if c.listaExec ≠ [] then .lockQuitaExec programa j pcb else .recibe programa, c)
  | .lockQuitaExec programa j pcb =>
      some (.lockEscribe programa j pcb, (quitarExec c (c.pcb programa).pid).2)
  | .lockEscribe programa j pcb => some (.lockEncola programa j, escribirPcb c programa pcb)
  | .lockEncola programa j =>
      match c.semaforos[j]? with
      | some semaf => some (.esperaReady, conSemaforo c j
          { semaf with progEncolados := semaf.progEncolados ++ [programa] })
      | none => none
  | .unlockSuma programa j =>
      match c.semaforos[j]? with
      | some semaf =>
          if esInt (semaf.iSemaforo + 1) then
            some (.unlockCompara programa j,
              conSemaforo c j { semaf with iSemaforo := semaf.iSemaforo + 1 })
          else none
      | none => none
  | .unlockCompara programa j =>
      match c.semaforos[j]? with
      | some semaf =>
          some (if semaf.iSemaforo ≤ 0 then .unlockTamanio programa j else .recibe programa, c)
      | none => none
  | .unlockTamanio programa j =>
      match c.semaforos[j]? with
      | some semaf =>
          some (if semaf.progEncolados ≠ [] then .unlockSaca programa j else .recibe programa, c)
      | none => none
  | .unlockSaca programa j =>
      -- `list_remove` gives a null pointer for an empty list
      match c.semaforos[j]? with
      | some semaf => some (.unlockAgrega programa j semaf.progEncolados.head?,
          conSemaforo c j { semaf with progEncolados := semaf.progEncolados.tail })
      | none => none
  | .unlockAgrega programa j desencolado =>
      some (.unlockPost programa j, agregarReady c desencolado)
  | .unlockPost programa _ =>
      some (.recibe programa, { c with productorConsumidor := c.productorConsumidor + 1 })
  | .recargaQuita _ pcb =>
      -- the PCB is stored through the pointer that was found
      match quitarExec c pcb.pid with
      | (some programaBuscado, c) => some (.recargaEscribe programaBuscado pcb, c)
      | (none, _) => none
  | .recargaEscribe programaBuscado pcb =>
      some (.recargaAgrega programaBuscado, escribirPcb c programaBuscado pcb)
  | .recargaAgrega programaBuscado => some (.recargaPost, agregarReady c (some programaBuscado))
  | .recargaPost =>
      some (.esperaReady, { c with productorConsumidor := c.productorConsumidor + 1 })
  | .terminado => none

/-- **What a step of the thread of a CPU can do**, one case for each way through its code. -/
inductive Avanza (c : Comun) : Loc → Loc → Comun → Prop
  | esperaReady : 0 < c.productorConsumidor →
      Avanza c .esperaReady .sacaReady { c with productorConsumidor := c.productorConsumidor - 1 }
  | sacaReady {programa : Programa} {resto : List (Option Programa)} :
      c.listaReady = some programa :: resto →
      Avanza c .sacaReady (.agregaExec programa) { c with listaReady := resto }
  | agregaExec {programa : Programa} :
      Avanza c (.agregaExec programa) (.recibe programa)
        { c with listaExec := c.listaExec ++ [programa] }
  | entradaSalida {programa : Programa} {dispositivo : Texto} {tiempo : U32} {pcb : Pcb} {j : ℕ} :
      (c.dispositivos.findIdx? fun unDis => unDis.szDispositivo == dispositivo) = some j →
      Avanza c (.entradaSalida programa dispositivo tiempo pcb)
        (.encolaDispositivo programa j tiempo)
        (escribirPcb c programa pcb)
  | sinDispositivo {programa : Programa} {dispositivo : Texto} {tiempo : U32} {pcb : Pcb} :
      (c.dispositivos.findIdx? fun unDis => unDis.szDispositivo == dispositivo) = none →
      Avanza c (.entradaSalida programa dispositivo tiempo pcb) (.moverAExit programa false)
        (escribirPcb c programa pcb)
  | encolaDispositivo {programa : Programa} {j : ℕ} {tiempo : U32} {unDispo : Dispositivo} :
      c.dispositivos[j]? = some unDispo →
      Avanza c (.encolaDispositivo programa j tiempo) (.quitaExecDispositivo programa j)
        (conDispositivo c j
          { unDispo with progEncolados := unDispo.progEncolados ++ [(programa, tiempo)] })
  | quitaExecDispositivo {programa : Programa} {j : ℕ} :
      Avanza c (.quitaExecDispositivo programa j) (.postDispositivo j)
        (quitarExec c (c.pcb programa).pid).2
  | postDispositivo {j : ℕ} {unDispo : Dispositivo} : c.dispositivos[j]? = some unDispo →
      Avanza c (.postDispositivo j) .esperaReady
        (conDispositivo c j { unDispo with semaforo := unDispo.semaforo + 1 })
  | moverAExit {programa programaBuscado : Programa} {fin : Bool} :
      (quitarExec c (c.pcb programa).pid).1 = some programaBuscado →
      Avanza c (.moverAExit programa fin) (.agregaExit programaBuscado fin)
        (quitarExec c (c.pcb programa).pid).2
  | agregaExit {programaBuscado : Programa} {fin : Bool} :
      Avanza c (.agregaExit programaBuscado fin) (.aumentaMultiprogramacion fin)
        { c with
          exitProcesos := c.exitProcesos ++ [programaBuscado]
          entregados := c.entregados ++ [programaBuscado] }
  | aumentaMultiprogramacion {fin : Bool} :
      Avanza c (.aumentaMultiprogramacion fin) (.postExit fin)
        { c with estado_multiprogramacion := c.estado_multiprogramacion + 1 }
  | postExit {fin : Bool} :
      Avanza c (.postExit fin) (.postNuevo fin) { c with semaforoExit := c.semaforoExit + 1 }
  | postNuevo : Avanza c (.postNuevo false) .esperaReady
      { c with nuevoProgramaSem := c.nuevoProgramaSem + 1 }
  | postNuevoFin : Avanza c (.postNuevo true) .terminado
      { c with nuevoProgramaSem := c.nuevoProgramaSem + 1 }
  | lockResta {programa : Programa} {j : ℕ} {pcb : Pcb} {semaf : Semaforo} :
      c.semaforos[j]? = some semaf → esInt (semaf.iSemaforo - 1) = true →
      Avanza c (.lockResta programa j pcb) (.lockCompara programa j pcb)
        (conSemaforo c j { semaf with iSemaforo := semaf.iSemaforo - 1 })
  | lockCompara {programa : Programa} {j : ℕ} {pcb : Pcb} {semaf : Semaforo} :
      c.semaforos[j]? = some semaf → semaf.iSemaforo < 0 →
      Avanza c (.lockCompara programa j pcb) (.lockTamanio programa j pcb) c
  | lockPasa {programa : Programa} {j : ℕ} {pcb : Pcb} {semaf : Semaforo} :
      c.semaforos[j]? = some semaf → ¬semaf.iSemaforo < 0 →
      Avanza c (.lockCompara programa j pcb) (.recibe programa) c
  | lockTamanio {programa : Programa} {j : ℕ} {pcb : Pcb} : c.listaExec ≠ [] →
      Avanza c (.lockTamanio programa j pcb) (.lockQuitaExec programa j pcb) c
  | lockSinExec {programa : Programa} {j : ℕ} {pcb : Pcb} : c.listaExec = [] →
      Avanza c (.lockTamanio programa j pcb) (.recibe programa) c
  | lockQuitaExec {programa : Programa} {j : ℕ} {pcb : Pcb} :
      Avanza c (.lockQuitaExec programa j pcb) (.lockEscribe programa j pcb)
        (quitarExec c (c.pcb programa).pid).2
  | lockEscribe {programa : Programa} {j : ℕ} {pcb : Pcb} :
      Avanza c (.lockEscribe programa j pcb) (.lockEncola programa j) (escribirPcb c programa pcb)
  | lockEncola {programa : Programa} {j : ℕ} {semaf : Semaforo} : c.semaforos[j]? = some semaf →
      Avanza c (.lockEncola programa j) .esperaReady
        (conSemaforo c j { semaf with progEncolados := semaf.progEncolados ++ [programa] })
  | unlockSuma {programa : Programa} {j : ℕ} {semaf : Semaforo} : c.semaforos[j]? = some semaf →
      esInt (semaf.iSemaforo + 1) = true →
      Avanza c (.unlockSuma programa j) (.unlockCompara programa j)
        (conSemaforo c j { semaf with iSemaforo := semaf.iSemaforo + 1 })
  | unlockCompara {programa : Programa} {j : ℕ} {semaf : Semaforo} : c.semaforos[j]? = some semaf →
      semaf.iSemaforo ≤ 0 → Avanza c (.unlockCompara programa j) (.unlockTamanio programa j) c
  | unlockPasa {programa : Programa} {j : ℕ} {semaf : Semaforo} : c.semaforos[j]? = some semaf →
      ¬semaf.iSemaforo ≤ 0 → Avanza c (.unlockCompara programa j) (.recibe programa) c
  | unlockTamanio {programa : Programa} {j : ℕ} {semaf : Semaforo} : c.semaforos[j]? = some semaf →
      semaf.progEncolados ≠ [] → Avanza c (.unlockTamanio programa j) (.unlockSaca programa j) c
  | unlockSinCola {programa : Programa} {j : ℕ} {semaf : Semaforo} : c.semaforos[j]? = some semaf →
      semaf.progEncolados = [] → Avanza c (.unlockTamanio programa j) (.recibe programa) c
  | unlockSaca {programa : Programa} {j : ℕ} {semaf : Semaforo} : c.semaforos[j]? = some semaf →
      Avanza c (.unlockSaca programa j) (.unlockAgrega programa j semaf.progEncolados.head?)
        (conSemaforo c j { semaf with progEncolados := semaf.progEncolados.tail })
  | unlockAgrega {programa : Programa} {j : ℕ} {desencolado : Option Programa} :
      Avanza c (.unlockAgrega programa j desencolado) (.unlockPost programa j)
        (agregarReady c desencolado)
  | unlockPost {programa : Programa} {j : ℕ} :
      Avanza c (.unlockPost programa j) (.recibe programa)
        { c with productorConsumidor := c.productorConsumidor + 1 }
  | recargaQuita {programa programaBuscado : Programa} {pcb : Pcb} :
      (quitarExec c pcb.pid).1 = some programaBuscado →
      Avanza c (.recargaQuita programa pcb) (.recargaEscribe programaBuscado pcb)
        (quitarExec c pcb.pid).2
  | recargaEscribe {programaBuscado : Programa} {pcb : Pcb} :
      Avanza c (.recargaEscribe programaBuscado pcb) (.recargaAgrega programaBuscado)
        (escribirPcb c programaBuscado pcb)
  | recargaAgrega {programaBuscado : Programa} :
      Avanza c (.recargaAgrega programaBuscado) .recargaPost (agregarReady c (some programaBuscado))
  | recargaPost : Avanza c .recargaPost .esperaReady
      { c with productorConsumidor := c.productorConsumidor + 1 }

/-- **A step of the thread does one of these.** -/
theorem pasoHilo_avanza {c c' : Comun} {loc loc' : Loc} (h : pasoHilo c loc = some (loc', c')) :
    Avanza c loc loc' c' := by
  cases loc with
  | moverAExit programa fin =>
      rw [pasoHilo] at h
      split at h
      · next heq =>
          cases h
          have hquita : Avanza c (.moverAExit programa fin) (.agregaExit _ fin) _ :=
            .moverAExit (congrArg Prod.fst heq)
          rwa [heq] at hquita
      · exact absurd h (by simp)
  | recargaQuita programa pcb =>
      rw [pasoHilo] at h
      split at h
      · next heq =>
          cases h
          have hquita : Avanza c (.recargaQuita programa pcb) (.recargaEscribe _ pcb) _ :=
            .recargaQuita (congrArg Prod.fst heq)
          rwa [heq] at hquita
      · exact absurd h (by simp)
  | lockCompara programa j pcb =>
      rw [pasoHilo] at h
      split at h
      · next hj =>
          cases h
          split
          · next hneg => exact .lockCompara hj hneg
          · next hneg => exact .lockPasa hj hneg
      · exact absurd h (by simp)
  | lockTamanio programa j pcb =>
      rw [pasoHilo] at h
      cases h
      split
      · next hexec => exact .lockTamanio hexec
      · next hexec => exact .lockSinExec (not_not.1 hexec)
  | unlockCompara programa j =>
      rw [pasoHilo] at h
      split at h
      · next hj =>
          cases h
          split
          · next hle => exact .unlockCompara hj hle
          · next hle => exact .unlockPasa hj hle
      · exact absurd h (by simp)
  | unlockTamanio programa j =>
      rw [pasoHilo] at h
      split at h
      · next hj =>
          cases h
          split
          · next hcola => exact .unlockTamanio hj hcola
          · next hcola => exact .unlockSinCola hj (not_not.1 hcola)
      · exact absurd h (by simp)
  | postNuevo fin => cases fin <;> cases h <;> constructor
  | _ =>
      simp only [pasoHilo] at h
      repeat' split at h
      all_goals
        cases h <;> constructor <;> assumption

/-- `recargarReady`, its steps one after the other: the program whose PCB came back, and what is
shared then. -/
def recargarReady (c : Comun) (pcb : Pcb) : Option (Programa × Comun) :=
  match quitarExec c pcb.pid with
  | (some programaBuscado, c) => some (programaBuscado,
      { agregarReady (escribirPcb c programaBuscado pcb) (some programaBuscado) with
        productorConsumidor := c.productorConsumidor + 1 })
  | (none, _) => none

/-- It is what the thread of a CPU does when no other thread comes in between. -/
theorem recargarReady_pasos {c c' : Comun} {pcb : Pcb} {programa x : Programa}
    (h : recargarReady c pcb = some (programa, c')) :
    ∃ c₁ c₂ c₃, pasoHilo c (.recargaQuita x pcb) = some (.recargaEscribe programa pcb, c₁) ∧
      pasoHilo c₁ (.recargaEscribe programa pcb) = some (.recargaAgrega programa, c₂) ∧
      pasoHilo c₂ (.recargaAgrega programa) = some (.recargaPost, c₃) ∧
      pasoHilo c₃ .recargaPost = some (.esperaReady, c') := by
  rw [recargarReady] at h
  split at h
  · next c₁ heq =>
      cases h
      refine ⟨c₁, _, _, ?_, rfl, rfl, rfl⟩
      rw [pasoHilo, heq]
  · exact absurd h (by simp)

/-- The PCB is stored. -/
theorem pcb_recargarReady {c c' : Comun} {pcb : Pcb} {programa : Programa}
    (h : recargarReady c pcb = some (programa, c')) : c'.pcb programa = pcb := by
  rw [recargarReady] at h
  split at h
  · cases h
    exact Function.update_self ..
  · exact absurd h (by simp)

/-! ### The other threads -/

/-- One step of the thread of a device, `fnDispositivos`. -/
def pasoDispositivo (c : Comun) (j : ℕ) : Option Comun :=
  match c.dispositivos[j]? with
  | none => none
  | some unIO =>
      match unIO.hilo with
      | .espera =>
          if 0 < unIO.semaforo then
            some (conDispositivo c j { unIO with semaforo := unIO.semaforo - 1, hilo := .saca })
          else none
      | .saca =>
          match unIO.progEncolados with
          | (programa, retardo) :: resto => some (conDispositivo c j
              { unIO with progEncolados := resto, hilo := .duerme programa retardo })
          | [] => none
      | .duerme programa _ =>
          some (agregarReady (conDispositivo c j { unIO with hilo := .publica }) (some programa))
      | .publica =>
          some { conDispositivo c j { unIO with hilo := .espera } with
            productorConsumidor := c.productorConsumidor + 1 }

/-- What a step of the thread of a device can do. -/
inductive AvanzaDispositivo (c : Comun) (j : ℕ) : Comun → Prop
  | espera { unIO : Dispositivo} : c.dispositivos[j]? = some unIO → unIO.hilo = .espera →
      0 < unIO.semaforo → AvanzaDispositivo c j
        (conDispositivo c j { unIO with semaforo := unIO.semaforo - 1, hilo := .saca })
  | saca { unIO : Dispositivo} {programa : Programa} {retardo : U32}
      {resto : List (Programa × U32)} :
      c.dispositivos[j]? = some unIO → unIO.hilo = .saca →
      unIO.progEncolados = (programa, retardo) :: resto → AvanzaDispositivo c j
        (conDispositivo c j { unIO with progEncolados := resto, hilo := .duerme programa retardo })
  | duerme { unIO : Dispositivo} {programa : Programa} {retardo : U32} :
      c.dispositivos[j]? = some unIO → unIO.hilo = .duerme programa retardo → AvanzaDispositivo c j
        (agregarReady (conDispositivo c j { unIO with hilo := .publica }) (some programa))
  | publica { unIO : Dispositivo} : c.dispositivos[j]? = some unIO → unIO.hilo = .publica →
      AvanzaDispositivo c j
        { conDispositivo c j { unIO with hilo := .espera } with
          productorConsumidor := c.productorConsumidor + 1 }

theorem pasoDispositivo_avanza {c c' : Comun} {j : ℕ} (h : pasoDispositivo c j = some c') :
    AvanzaDispositivo c j c' := by
  rw [pasoDispositivo] at h
  split at h
  · exact absurd h (by simp)
  · next unIO hj =>
      split at h
      · next hhilo =>
          obtain ⟨hpos, h⟩ := Option.ite_none_right_eq_some.1 h
          cases h
          exact .espera hj hhilo hpos
      · next hhilo =>
          split at h
          · next hcola =>
              cases h
              exact .saca hj hhilo hcola
          · exact absurd h (by simp)
      · next hhilo =>
          cases h
          exact .duerme hj hhilo
      · next hhilo =>
          cases h
          exact .publica hj hhilo

/-- The locations of the long-term scheduler. -/
inductive LocPlp
  | espera
  | saca
  | guarda (programa : Programa)
  | pregunta
  | resta
  | mueve
  | publica
deriving DecidableEq

/-- One step of `planificar_programas`.  The input is the weight of the program if the UMV has room
for its segments, and nothing if it is rejected. -/
def pasoPlp (c : Comun) (peso : Option ℤ) : LocPlp → Option (LocPlp × Comun)
  | .espera =>
      if 0 < c.nuevoProgramaSem then
        some (.saca, { c with nuevoProgramaSem := c.nuevoProgramaSem - 1 })
      else none
  | .saca =>
      match c.lista_de_programas with
      | programa :: resto => some (.guarda programa, { c with lista_de_programas := resto })
      -- the wake-up of a program that ended: there is nothing to prepare
      | [] => some (.pregunta, c)
  | .guarda programa =>
      match peso with
      | some peso => some (.pregunta, { c with
          newProcesos := (c.newProcesos ++ [(programa, peso)]).mergeSort fun p q => p.2 ≤ q.2 })
      | none => some (.pregunta, c)
  | .pregunta =>
      some (if c.newProcesos ≠ [] ∧ 0 < c.estado_multiprogramacion then .resta else .espera, c)
  | .resta => some (.mueve, { c with estado_multiprogramacion := c.estado_multiprogramacion - 1 })
  | .mueve =>
      match c.newProcesos with
      | (programa, _) :: resto => some (.publica, { agregarReady c (some programa) with
          newProcesos := resto
          admitidos := c.admitidos ++ [programa] })
      | [] => none
  | .publica => some (.espera, { c with productorConsumidor := c.productorConsumidor + 1 })

/-- What a step of the scheduler can do. -/
inductive AvanzaPlp (c : Comun) : Option ℤ → LocPlp → LocPlp → Comun → Prop
  | espera {peso : Option ℤ} : 0 < c.nuevoProgramaSem →
      AvanzaPlp c peso .espera .saca { c with nuevoProgramaSem := c.nuevoProgramaSem - 1 }
  | saca {peso : Option ℤ} {programa : Programa} {resto : List Programa} :
      c.lista_de_programas = programa :: resto →
      AvanzaPlp c peso .saca (.guarda programa) { c with lista_de_programas := resto }
  | sinPrograma {peso : Option ℤ} : c.lista_de_programas = [] → AvanzaPlp c peso .saca .pregunta c
  | guarda {programa : Programa} {peso : ℤ} :
      AvanzaPlp c (some peso) (.guarda programa) .pregunta
        { c with
          newProcesos := (c.newProcesos ++ [(programa, peso)]).mergeSort fun p q => p.2 ≤ q.2 }
  | rechaza {programa : Programa} : AvanzaPlp c none (.guarda programa) .pregunta c
  | pregunta {peso : Option ℤ} : c.newProcesos ≠ [] → 0 < c.estado_multiprogramacion →
      AvanzaPlp c peso .pregunta .resta c
  | noHay {peso : Option ℤ} : ¬(c.newProcesos ≠ [] ∧ 0 < c.estado_multiprogramacion) →
      AvanzaPlp c peso .pregunta .espera c
  | resta {peso : Option ℤ} : AvanzaPlp c peso .resta .mueve
      { c with estado_multiprogramacion := c.estado_multiprogramacion - 1 }
  | mueve {peso : Option ℤ} {programa : Programa} {n : ℤ} {resto : List (Programa × ℤ)} :
      c.newProcesos = (programa, n) :: resto →
      AvanzaPlp c peso .mueve .publica
        { agregarReady c (some programa) with
          newProcesos := resto
          admitidos := c.admitidos ++ [programa] }
  | publica {peso : Option ℤ} : AvanzaPlp c peso .publica .espera
      { c with productorConsumidor := c.productorConsumidor + 1 }

theorem pasoPlp_avanza {c c' : Comun} {peso : Option ℤ} {l l' : LocPlp}
    (h : pasoPlp c peso l = some (l', c')) : AvanzaPlp c peso l l' c' := by
  cases l with
  | pregunta =>
      cases h
      split
      · next hhay => exact .pregunta hhay.1 hhay.2
      · next hnada => exact .noHay hnada
  | guarda programa =>
      cases peso with
      | some peso =>
          cases h
          exact .guarda
      | none =>
          cases h
          exact .rechaza
  | _ =>
      simp only [pasoPlp] at h
      repeat' split at h
      all_goals
        cases h <;> constructor <;> assumption

/-- The locations of the thread that receives the programs. -/
inductive LocPrincipal
  | escucha
  | agrega (programa : Programa)
  | publica
deriving DecidableEq

/-- One step of the loop of `main`.  The input is the PCB of the new program, but for its pid. -/
def pasoPrincipal (c : Comun) (pcb : Pcb) : LocPrincipal → Option (LocPrincipal × Comun)
  | .escucha =>
      if esInt (1001 + c.cantidad) then
        some (.agrega c.cantidad,
          { escribirPcb c c.cantidad { pcb with pid := pidDe c.cantidad } with
            cantidad := c.cantidad + 1 })
      else none
  | .agrega programa =>
      some (.publica, { c with lista_de_programas := c.lista_de_programas ++ [programa] })
  | .publica => some (.escucha, { c with nuevoProgramaSem := c.nuevoProgramaSem + 1 })

/-- What a step of the loop of `main` can do. -/
inductive AvanzaPrincipal (c : Comun) (pcb : Pcb) : LocPrincipal → LocPrincipal → Comun → Prop
  | escucha : esInt (1001 + c.cantidad) = true →
      AvanzaPrincipal c pcb .escucha (.agrega c.cantidad)
        { escribirPcb c c.cantidad { pcb with pid := pidDe c.cantidad } with
          cantidad := c.cantidad + 1 }
  | agrega {programa : Programa} : AvanzaPrincipal c pcb (.agrega programa) .publica
      { c with lista_de_programas := c.lista_de_programas ++ [programa] }
  | publica : AvanzaPrincipal c pcb .publica .escucha
      { c with nuevoProgramaSem := c.nuevoProgramaSem + 1 }

theorem pasoPrincipal_avanza {c c' : Comun} {pcb : Pcb} {l l' : LocPrincipal}
    (h : pasoPrincipal c pcb l = some (l', c')) : AvanzaPrincipal c pcb l l' c' := by
  cases l with
  | escucha =>
      rw [pasoPrincipal] at h
      split at h
      · next hint =>
          cases h
          exact .escucha hint
      · exact absurd h (by simp)
  | agrega programa =>
      cases h
      exact .agrega
  | publica =>
      cases h
      exact .publica

/-- The locations of the thread that ends programs. -/
inductive LocSalida
  | espera
  | saca
deriving DecidableEq

/-- One step of `terminarPrograma`. -/
def pasoSalida (c : Comun) : LocSalida → Option (LocSalida × Comun)
  | .espera =>
      if 0 < c.semaforoExit then some (.saca, { c with semaforoExit := c.semaforoExit - 1 })
      else none
  | .saca =>
      match c.exitProcesos with
      | _ :: resto => some (.espera, { c with exitProcesos := resto })
      | [] => none

/-- What a step of `terminarPrograma` can do. -/
inductive AvanzaSalida (c : Comun) : LocSalida → LocSalida → Comun → Prop
  | espera : 0 < c.semaforoExit →
      AvanzaSalida c .espera .saca { c with semaforoExit := c.semaforoExit - 1 }
  | saca {programa : Programa} {resto : List Programa} : c.exitProcesos = programa :: resto →
      AvanzaSalida c .saca .espera { c with exitProcesos := resto }

theorem pasoSalida_avanza {c c' : Comun} {l l' : LocSalida} (h : pasoSalida c l = some (l', c')) :
    AvanzaSalida c l l' c' := by
  cases l with
  | espera =>
      obtain ⟨hpos, h⟩ := Option.ite_none_right_eq_some.1 h
      cases h
      exact .espera hpos
  | saca =>
      rw [pasoSalida] at h
      split at h
      · next hlista =>
          cases h
          exact .saca hlista
      · exact absurd h (by simp)

/-! ### The kernel -/

/-- The kernel: what is shared, and the location of each thread. -/
structure Sistema where
  comun : Comun
  hilos : List Loc
  plp : LocPlp
  principal : LocPrincipal
  salida : LocSalida

/-- What can happen next: a CPU connects, a thread makes a step, or a message reaches the thread of
a CPU. -/
inductive Evento
  | conexion
  | hilo (i : ℕ)
  | mensaje (i : ℕ) (mensaje : Option MensajeCpu)
  | dispositivo (j : ℕ)
  | plp (peso : Option ℤ)
  | principal (pcb : Pcb)
  | salida

/-- **One step of the kernel.** -/
def paso (s : Sistema) : Evento → Option Sistema
  | .conexion => some { s with hilos := s.hilos ++ [.esperaReady] }
  | .hilo i =>
      match s.hilos[i]? with
      | some loc => (pasoHilo s.comun loc).map fun r =>
          { s with hilos := s.hilos.set i r.1, comun := r.2 }
      | none => none
  | .mensaje i mensaje =>
      match s.hilos[i]? with
      | some (.recibe programa) =>
          some { s with hilos := s.hilos.set i (recibirMensaje s.comun programa mensaje) }
      | _ => none
  | .dispositivo j => (pasoDispositivo s.comun j).map fun c => { s with comun := c }
  | .plp peso => (pasoPlp s.comun peso s.plp).map fun r => { s with plp := r.1, comun := r.2 }
  | .principal pcb => (pasoPrincipal s.comun pcb s.principal).map fun r =>
      { s with principal := r.1, comun := r.2 }
  | .salida => (pasoSalida s.comun s.salida).map fun r => { s with salida := r.1, comun := r.2 }

/-- The steps of the kernel, as a relation. -/
def Paso (s : Sistema) (e : Evento) (s' : Sistema) : Prop := paso s e = some s'

/-- **What a step of the kernel is**, for each thing that can happen. -/
inductive Transicion (s : Sistema) : Evento → Sistema → Prop
  | conexion : Transicion s .conexion { s with hilos := s.hilos ++ [.esperaReady] }
  | hilo {i : ℕ} {loc loc' : Loc} {c' : Comun} : s.hilos[i]? = some loc →
      pasoHilo s.comun loc = some (loc', c') →
      Transicion s (.hilo i) { s with hilos := s.hilos.set i loc', comun := c' }
  | mensaje {i : ℕ} {programa : Programa} {mensaje : Option MensajeCpu} :
      s.hilos[i]? = some (.recibe programa) → Transicion s (.mensaje i mensaje)
        { s with hilos := s.hilos.set i (recibirMensaje s.comun programa mensaje) }
  | dispositivo {j : ℕ} {c' : Comun} : pasoDispositivo s.comun j = some c' →
      Transicion s (.dispositivo j) { s with comun := c' }
  | plp {peso : Option ℤ} {plp : LocPlp} {c' : Comun} :
      pasoPlp s.comun peso s.plp = some (plp, c') →
      Transicion s (.plp peso) { s with plp := plp, comun := c' }
  | principal {pcb : Pcb} {principal : LocPrincipal} {c' : Comun} :
      pasoPrincipal s.comun pcb s.principal = some (principal, c') →
      Transicion s (.principal pcb) { s with principal := principal, comun := c' }
  | salida {salida : LocSalida} {c' : Comun} : pasoSalida s.comun s.salida = some (salida, c') →
      Transicion s .salida { s with salida := salida, comun := c' }

theorem Paso.transicion {s s' : Sistema} {e : Evento} (hpaso : Paso s e s') :
    Transicion s e s' := by
  unfold Paso paso at hpaso
  cases e with
  | conexion =>
      cases hpaso
      exact .conexion
  | hilo i =>
      simp only at hpaso
      split at hpaso
      · rename_i loc hi
        obtain ⟨⟨loc', c'⟩, hloc, rfl⟩ := Option.map_eq_some_iff.1 hpaso
        exact .hilo hi hloc
      · exact absurd hpaso (by simp)
  | mensaje i mensaje =>
      simp only at hpaso
      split at hpaso
      · rename_i programa hi
        cases hpaso
        exact .mensaje hi
      · exact absurd hpaso (by simp)
  | dispositivo j =>
      obtain ⟨c', hc, rfl⟩ := Option.map_eq_some_iff.1 hpaso
      exact .dispositivo hc
  | plp peso =>
      obtain ⟨⟨plp, c'⟩, hc, rfl⟩ := Option.map_eq_some_iff.1 hpaso
      exact .plp hc
  | principal pcb =>
      obtain ⟨⟨principal, c'⟩, hc, rfl⟩ := Option.map_eq_some_iff.1 hpaso
      exact .principal hc
  | salida =>
      obtain ⟨⟨salida, c'⟩, hc, rfl⟩ := Option.map_eq_some_iff.1 hpaso
      exact .salida hc

/-- The configuration: the names and values of the semaphores, the names and delays of the devices,
and the degree of multiprogramming. -/
structure Configuracion where
  semaforos : List (Texto × ℤ)
  dispositivos : List (Texto × U32)
  multiprogramacion : ℤ

/-- What a program that has not arrived has as its PCB. -/
def pcbNulo : Pcb := ⟨0#32, 0#32, 0#32, 0#32, 0#32, 0#32, 0#32, 0#32, 0#32, 0#32, 0#32⟩

/-- `inicializador`. -/
def inicial (configuracion : Configuracion) : Sistema where
  comun :=
    { pcb := fun _ => pcbNulo
      cantidad := 0
      lista_de_programas := []
      newProcesos := []
      listaReady := []
      listaExec := []
      exitProcesos := []
      semaforos := configuracion.semaforos.map fun p => ⟨p.1, p.2, []⟩
      dispositivos := configuracion.dispositivos.map fun p => ⟨p.1, p.2, 0, [], .espera⟩
      productorConsumidor := 0
      semaforoExit := 0
      nuevoProgramaSem := 0
      estado_multiprogramacion := configuracion.multiprogramacion
      admitidos := []
      entregados := [] }
  hilos := []
  plp := .espera
  principal := .escucha
  salida := .espera

/-- Some events, one after the other, as long as they meet a condition. -/
def correr (ok : Sistema → Evento → Bool) : List Evento → Sistema → Option Sistema
  | [], s => some s
  | e :: tr, s => if ok s e then (paso s e).bind (correr ok tr) else none

theorem run_of_correr {ok : Sistema → Evento → Bool} {tr : List Evento} {s s' : Sistema}
    (h : correr ok tr s = some s') :
    Lts.Run (Lts.restrict (fun s e => ok s e = true) Paso) s tr s' := by
  induction tr generalizing s with
  | nil =>
      obtain rfl := Option.some_inj.1 h
      exact Lts.Run.nil
  | cons e tr ih =>
      rw [correr] at h
      split at h
      · rename_i hok
        obtain ⟨s₁, h₁, h⟩ := Option.bind_eq_some_iff.1 h
        exact (Lts.Run.single ⟨hok, h₁⟩).trans (ih h)
      · exact absurd h (by simp)

/-- A program arrives and is put in Ready. -/
def llegaPrograma : List Evento :=
  [.principal pcbNulo, .principal pcbNulo, .principal pcbNulo, .plp none, .plp none, .plp (some 1),
    .plp none, .plp none, .plp none, .plp none]

/-- The thread of a CPU takes a program from Ready. -/
def tomaPrograma (i : ℕ) : List Evento := [.hilo i, .hilo i, .hilo i]

end Ansisop.Kernel
