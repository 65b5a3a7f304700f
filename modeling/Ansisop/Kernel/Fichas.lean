/-
**The tokens of the queues of the kernel.**

Ready, `exitProcesos` and the queue of each device are fed by several threads and emptied by others.
A thread that adds to a queue posts its semaphore in a later step, and a thread that removes from it
has waited on the semaphore in an earlier one.  So the tokens of a queue, with the threads that have
taken one and not removed their element and those that have added an element and not posted, are as
many as its elements.

Main definitions:

* `Ansisop.Kernel.Cola` — the queues, with their elements and their tokens;
* `Ansisop.Kernel.Loc.ficha`, `Ansisop.Kernel.Sistema.pasaron` — the threads between the list and
  the semaphore of a queue;
* `Ansisop.Kernel.entra`, `Ansisop.Kernel.sale` — what an event adds to a queue and takes from it;
* `Ansisop.Kernel.Cuentan` — the invariant: the tokens of a queue are its elements.

Main results:

* `Ansisop.Kernel.enOrden_pasoHilo` — **what a step of the thread of a CPU does to the queues**;
* `Ansisop.Kernel.Cuentan.paso` — **every step keeps the account of the queues**;
* `Ansisop.Kernel.fichas_de_las_colas` — no queue has more tokens than elements, and each one is
  first in, first out.
-/

import Ansisop.Kernel.Sistema
import Ansisop.Lib.Historia
import Ansisop.Lib.Totals
import Mathlib.Algebra.Order.Group.Nat

set_option relaxedAutoImplicit false
set_option autoImplicit false

namespace Ansisop.Kernel

open Totals

/-! ### The queues -/

/-- The queues that have a semaphore for their elements. -/
inductive Cola
  | ready
  | exit
  | dispositivo (j : ℕ)

/-- An element of a queue: the pointer to a program, and in the queue of a device its delay. -/
abbrev Elemento := Option Programa × Option U32

/-- **The elements of a queue.** -/
def Cola.lista (c : Comun) : Cola → List Elemento
  | ready => c.listaReady.map fun programa => (programa, none)
  | exit => c.exitProcesos.map fun programa => (some programa, none)
  | dispositivo j => (c.dispositivos[j]?).elim [] fun unDispo =>
      unDispo.progEncolados.map fun p => (some p.1, some p.2)

/-- **The value of the semaphore of a queue.** -/
def Cola.valor (c : Comun) : Cola → ℕ
  | ready => c.productorConsumidor
  | exit => c.semaforoExit
  | dispositivo j => (c.dispositivos[j]?).elim 0 fun unDispo => unDispo.semaforo

/-- The thread of a device has added to Ready, and has not posted. -/
def Dispositivo.porPublicar (unDispo : Dispositivo) : ℕ := if unDispo.hilo = .publica then 1 else 0

/-- The thread of a device has waited on its semaphore, and has not removed. -/
def Dispositivo.porSacar (unDispo : Dispositivo) : ℕ := if unDispo.hilo = .saca then 1 else 0

/-- The threads of the devices between the list and the semaphore of a queue. -/
def Cola.enDispositivos (c : Comun) : Cola → ℕ
  | ready => total Dispositivo.porPublicar c.dispositivos
  | exit => 0
  | dispositivo j => (c.dispositivos[j]?).elim 0 Dispositivo.porSacar

/-- The thread of a CPU is between the list and the semaphore of a queue: it has added and not
posted, or waited and not removed. -/
def Loc.ficha : Cola → Loc → ℕ
  | .ready, sacaReady => 1
  | .ready, unlockPost _ _ => 1
  | .ready, recargaPost => 1
  | .exit, aumentaMultiprogramacion _ => 1
  | .exit, postExit _ => 1
  | .dispositivo j, quitaExecDispositivo _ k => if k = j then 1 else 0
  | .dispositivo j, postDispositivo k => if k = j then 1 else 0
  | _, _ => 0

/-- The long-term scheduler has added to Ready, and has not posted. -/
def LocPlp.ficha : Cola → LocPlp → ℕ
  | .ready, publica => 1
  | _, _ => 0

/-- The thread that ends programs has waited on its semaphore, and has not removed. -/
def LocSalida.ficha : Cola → LocSalida → ℕ
  | .exit, saca => 1
  | _, _ => 0

/-- The thread of a CPU has waited on the semaphore of Ready, and has not removed. -/
def Loc.porSacar (loc : Loc) : ℕ := if loc = .sacaReady then 1 else 0

/-- **The threads that have waited on the semaphore of a queue and have not removed their
element.** -/
def Sistema.pasaron (s : Sistema) : Cola → ℕ
  | .ready => total Loc.porSacar s.hilos
  | .exit => if s.salida = .saca then 1 else 0
  | .dispositivo j => (s.comun.dispositivos[j]?).elim 0 Dispositivo.porSacar

/-! ### What enters and what leaves -/

/-- What a step of the thread of a CPU adds to a queue. -/
def Loc.agrega : Cola → Loc → List Elemento
  | .ready, unlockAgrega _ _ desencolado => [(desencolado, none)]
  | .ready, recargaAgrega programaBuscado => [(some programaBuscado, none)]
  | .exit, agregaExit programaBuscado _ => [(some programaBuscado, none)]
  | .dispositivo j, encolaDispositivo programa k tiempo =>
      if k = j then [(some programa, some tiempo)] else []
  | _, _ => []

/-- What a step of the thread of a CPU takes from a queue, with `list_remove` at the front. -/
def Loc.quita (c : Comun) : Cola → Loc → List Elemento
  | .ready, sacaReady => (Cola.ready.lista c).take 1
  | _, _ => []

/-- What a step of the thread of a device adds to a queue. -/
def Dispositivo.agrega (q : Cola) (unDispo : Dispositivo) : List Elemento :=
  match q, unDispo.hilo with
  | .ready, .duerme programa _ => [(some programa, none)]
  | _, _ => []

/-- What a step of the thread of a device takes from a queue, its own. -/
def Dispositivo.quita (c : Comun) (k : ℕ) (q : Cola) (unDispo : Dispositivo) : List Elemento :=
  match q, unDispo.hilo with
  | .dispositivo j, .saca => if k = j then (q.lista c).take 1 else []
  | _, _ => []

/-- What a step of the long-term scheduler adds to a queue. -/
def LocPlp.agrega (c : Comun) : Cola → LocPlp → List Elemento
  | .ready, mueve => (c.newProcesos.take 1).map fun p => (some p.1, none)
  | _, _ => []

/-- What a step of the thread that ends programs takes from a queue. -/
def LocSalida.quita (c : Comun) : Cola → LocSalida → List Elemento
  | .exit, saca => (Cola.exit.lista c).take 1
  | _, _ => []

/-- **What an event adds to a queue.** -/
def entra (q : Cola) (s : Sistema) : Evento → List Elemento
  | .hilo i => (s.hilos[i]?).elim [] fun loc => loc.agrega q
  | .dispositivo k => (s.comun.dispositivos[k]?).elim [] fun unDispo => unDispo.agrega q
  | .plp _ => s.plp.agrega s.comun q
  | _ => []

/-- **What an event takes from a queue.** -/
def sale (q : Cola) (s : Sistema) : Evento → List Elemento
  | .hilo i => (s.hilos[i]?).elim [] fun loc => loc.quita s.comun q
  | .dispositivo k => (s.comun.dispositivos[k]?).elim [] fun unDispo => unDispo.quita s.comun k q
  | .salida => s.salida.quita s.comun q
  | _ => []

variable {c c' : Comun} {loc loc' : Loc} {s s' : Sistema} {q : Cola}

/-- **What a step does to a queue**: what it adds goes to the end, what it takes comes from the
front, and the tokens follow. -/
structure EnOrden (q : Cola) (c c' : Comun) (agrega quita : List Elemento) (antes despues : ℕ) :
    Prop where
  orden : q.lista c ++ agrega = quita ++ q.lista c'
  fichas : q.valor c' + q.enDispositivos c' + despues + quita.length =
    q.valor c + q.enDispositivos c + antes + agrega.length

/-- The queues, their semaphores and the threads of the devices are the same. -/
structure MismasColas (c c' : Comun) : Prop where
  listaReady : c'.listaReady = c.listaReady
  exitProcesos : c'.exitProcesos = c.exitProcesos
  dispositivos : c'.dispositivos = c.dispositivos
  productorConsumidor : c'.productorConsumidor = c.productorConsumidor
  semaforoExit : c'.semaforoExit = c.semaforoExit

/-- A step that leaves the queues alone. -/
theorem enOrden_igual (h : MismasColas c c') : EnOrden q c c' [] [] 0 0 := by
  obtain ⟨hready, hexit, hdispositivos, hproductor, hsemaforo⟩ := h
  constructor
  · cases q with
    | ready => simp [Cola.lista, hready]
    | exit => simp [Cola.lista, hexit]
    | dispositivo j => simp [Cola.lista, hdispositivos]
  · cases q with
    | ready => simp [Cola.valor, Cola.enDispositivos, hproductor, hdispositivos]
    | exit => simp [Cola.valor, Cola.enDispositivos, hsemaforo]
    | dispositivo j => simp [Cola.valor, Cola.enDispositivos, hdispositivos]

/-- A step of the thread of a CPU that leaves the queues alone. -/
theorem enOrden_loc (h : MismasColas c c') (hagrega : ∀ q, loc.agrega q = [])
    (hquita : ∀ q, loc.quita c q = []) (hficha : ∀ q, loc'.ficha q = loc.ficha q) :
    EnOrden q c c' (loc.agrega q) (loc.quita c q) (loc.ficha q) (loc'.ficha q) := by
  obtain ⟨horden, hfichas⟩ := enOrden_igual (q := q) h
  rw [hagrega, hquita, hficha]
  refine ⟨horden, ?_⟩
  simp only [List.length_nil] at hfichas ⊢
  omega

theorem getElem?_conDispositivo {j k : ℕ} {a : Dispositivo} (h : c.dispositivos[k]? = some a)
    (b : Dispositivo) :
    (conDispositivo c k b).dispositivos[j]? = if k = j then some b else c.dispositivos[j]? := by
  rw [conDispositivo, List.getElem?_set]
  split
  · rename_i heq
    rw [if_pos (heq ▸ (List.getElem?_eq_some_iff.1 h).1)]
  · rfl

/-- A step of the thread of a CPU that changes a device, but not where its thread is. -/
theorem enOrden_conDispositivo {k : ℕ} {a : Dispositivo} (hk : c.dispositivos[k]? = some a)
    (b : Dispositivo) (hhilo : b.hilo = a.hilo)
    (hlista : a.progEncolados.map (fun p => (some p.1, some p.2)) ++ loc.agrega (.dispositivo k) =
      b.progEncolados.map fun p => (some p.1, some p.2))
    (hvalor : b.semaforo + loc'.ficha (.dispositivo k) =
      a.semaforo + loc.ficha (.dispositivo k) + (loc.agrega (.dispositivo k)).length)
    (hotro : ∀ q, q ≠ .dispositivo k → loc.agrega q = [] ∧ loc'.ficha q = loc.ficha q)
    (hquita : ∀ q, loc.quita c q = []) :
    EnOrden q c (conDispositivo c k b) (loc.agrega q) (loc.quita c q) (loc.ficha q)
    (loc'.ficha q) := by
  have hsaca : b.porSacar = a.porSacar := by rw [Dispositivo.porSacar, Dispositivo.porSacar, hhilo]
  have hpublica : b.porPublicar = a.porPublicar := by
    rw [Dispositivo.porPublicar, Dispositivo.porPublicar, hhilo]
  rw [hquita]
  cases q with
  | ready =>
      obtain ⟨hagrega, hficha⟩ := hotro .ready (by simp)
      have htotal := total_set Dispositivo.porPublicar hk b
      rw [hagrega, hficha]
      refine ⟨by simp [Cola.lista, conDispositivo], ?_⟩
      simp only [Cola.valor, Cola.enDispositivos, conDispositivo]
      omega
  | exit =>
      obtain ⟨hagrega, hficha⟩ := hotro .exit (by simp)
      rw [hagrega, hficha]
      exact ⟨by simp [Cola.lista, conDispositivo], rfl⟩
  | dispositivo j =>
      by_cases heq : k = j
      · subst heq
        refine ⟨?_, ?_⟩
        · simpa [Cola.lista, getElem?_conDispositivo hk, hk] using hlista
        · simp only [Cola.valor, Cola.enDispositivos, getElem?_conDispositivo hk, hk, if_true,
            Option.elim_some, List.length_nil]
          omega
      · obtain ⟨hagrega, hficha⟩ := hotro (.dispositivo j) (by simpa using Ne.symm heq)
        rw [hagrega, hficha]
        refine ⟨?_, ?_⟩
        · simp [Cola.lista, getElem?_conDispositivo hk, heq]
        · simp [Cola.valor, Cola.enDispositivos, getElem?_conDispositivo hk, heq]

/-- **What a step of the thread of a CPU does to the queues.** -/
theorem enOrden_pasoHilo (hpaso : pasoHilo c loc = some (loc', c')) :
    EnOrden q c c' (loc.agrega q) (loc.quita c q) (loc.ficha q) (loc'.ficha q) := by
  cases pasoHilo_avanza hpaso with
  | esperaReady hpos =>
      cases q with
      | ready =>
          refine ⟨by simp [Cola.lista, Loc.agrega, Loc.quita], ?_⟩
          simp only [Cola.valor, Cola.enDispositivos, Loc.ficha, Loc.agrega, Loc.quita,
            List.length_nil]
          omega
      | _ => exact ⟨List.append_nil _, rfl⟩
  | sacaReady hready =>
      cases q with
      | ready =>
          refine ⟨by simp [Cola.lista, Loc.agrega, Loc.quita, hready], ?_⟩
          simp [Cola.valor, Cola.enDispositivos, Loc.ficha, Loc.agrega, Loc.quita, Cola.lista,
            hready]
      | _ => exact ⟨List.append_nil _, rfl⟩
  | @encolaDispositivo x k tiempo unDispo hk | @postDispositivo k unDispo hk =>
      refine enOrden_conDispositivo hk _ rfl ?_ ?_ ?_ (by intro q; cases q <;> rfl)
      · simp [Loc.agrega]
      · simp [Loc.agrega, Loc.ficha]
      · intro q hne
        cases q with
        | dispositivo j =>
            have hkj : k ≠ j := fun heq => hne (by rw [heq])
            simp [Loc.agrega, Loc.ficha, hkj]
        | _ => exact ⟨rfl, rfl⟩
  | agregaExit =>
      cases q with
      | exit => exact ⟨by simp [Cola.lista, Loc.agrega, Loc.quita], rfl⟩
      | _ => exact ⟨List.append_nil _, rfl⟩
  | postExit =>
      cases q with
      | exit =>
          refine ⟨List.append_nil _, ?_⟩
          simp only [Cola.valor, Cola.enDispositivos, Loc.ficha, Loc.agrega, Loc.quita]
      | _ => exact ⟨List.append_nil _, rfl⟩
  | unlockAgrega | recargaAgrega =>
      cases q with
      | ready => exact ⟨by simp [Cola.lista, Loc.agrega, Loc.quita, agregarReady], rfl⟩
      | _ => exact ⟨List.append_nil _, rfl⟩
  | unlockPost | recargaPost =>
      cases q with
      | ready =>
          refine ⟨List.append_nil _, ?_⟩
          simp only [Cola.valor, Cola.enDispositivos, Loc.ficha, Loc.agrega, Loc.quita]
          omega
      | _ => exact ⟨List.append_nil _, rfl⟩
  | _ =>
      -- no other step touches a queue or its semaphore
      exact enOrden_loc ⟨rfl, rfl, rfl, rfl, rfl⟩ (by intro q; cases q <;> rfl)
        (by intro q; cases q <;> rfl) (by intro q; cases q <;> rfl)

/-- A step of the thread of a device changes its own queue, and Ready. -/
theorem enOrden_dispositivo {k : ℕ} {a b : Dispositivo} (hk : c.dispositivos[k]? = some a)
    (hdispositivos : c'.dispositivos = (conDispositivo c k b).dispositivos)
    (hexit : c'.exitProcesos = c.exitProcesos) (hsemaforo : c'.semaforoExit = c.semaforoExit)
    (hready : Cola.ready.lista c ++ a.agrega .ready = Cola.ready.lista c')
    (hpublica : c'.productorConsumidor + b.porPublicar =
      c.productorConsumidor + a.porPublicar + (a.agrega .ready).length)
    (hlista : a.progEncolados.map (fun p => (some p.1, some p.2)) =
      a.quita c k (.dispositivo k) ++ b.progEncolados.map fun p => (some p.1, some p.2))
    (hsaca : b.semaforo + b.porSacar + (a.quita c k (.dispositivo k)).length =
      a.semaforo + a.porSacar) : EnOrden q c c' (a.agrega q) (a.quita c k q) 0 0 := by
  cases q with
  | ready =>
      have htotal := total_set Dispositivo.porPublicar hk b
      refine ⟨hready, ?_⟩
      simp only [Cola.valor, Cola.enDispositivos, hdispositivos, conDispositivo, Dispositivo.quita,
        List.length_nil]
      omega
  | exit =>
      refine ⟨?_, ?_⟩
      · simp [Cola.lista, Dispositivo.agrega, Dispositivo.quita, hexit]
      · simp [Cola.valor, Cola.enDispositivos, Dispositivo.agrega, Dispositivo.quita, hsemaforo]
  | dispositivo j =>
      have hagrega : a.agrega (.dispositivo j) = [] := rfl
      rw [hagrega]
      by_cases heq : k = j
      · subst heq
        refine ⟨?_, ?_⟩
        · rw [List.append_nil]
          simpa [Cola.lista, hdispositivos, getElem?_conDispositivo hk, hk] using hlista
        · simp only [Cola.valor, Cola.enDispositivos, hdispositivos, getElem?_conDispositivo hk, hk,
            if_true, Option.elim_some, List.length_nil]
          omega
      · have hquita : a.quita c k (.dispositivo j) = [] := by
          cases hhilo : a.hilo <;> simp [Dispositivo.quita, hhilo, heq]
        rw [hquita]
        refine ⟨?_, ?_⟩
        · simp [Cola.lista, hdispositivos, getElem?_conDispositivo hk, heq]
        · simp [Cola.valor, Cola.enDispositivos, hdispositivos, getElem?_conDispositivo hk, heq]

/-- **What a step of the thread of a device does to the queues.** -/
theorem enOrden_pasoDispositivo {k : ℕ} {a : Dispositivo} (hk : c.dispositivos[k]? = some a)
    (hpaso : pasoDispositivo c k = some c') : EnOrden q c c' (a.agrega q) (a.quita c k q) 0 0 := by
  cases pasoDispositivo_avanza hpaso with
  | espera hj hhilo hpos =>
      obtain rfl := Option.some_inj.1 (hk.symm.trans hj)
      -- the token of the device is with its thread
      refine enOrden_dispositivo hk rfl rfl rfl ?_ ?_ ?_ ?_
      · simp [Cola.lista, conDispositivo, Dispositivo.agrega, hhilo]
      · simp [conDispositivo, Dispositivo.porPublicar, Dispositivo.agrega, hhilo]
      · simp [Dispositivo.quita, hhilo]
      · simp only [Dispositivo.porSacar, Dispositivo.quita, hhilo, if_true, List.length_nil,
          reduceCtorEq, if_false]
        omega
  | @saca unIO programa retardo resto hj hhilo hcola =>
      obtain rfl := Option.some_inj.1 (hk.symm.trans hj)
      have hquita : a.quita c k (.dispositivo k) = [(some programa, some retardo)] := by
        simp [Dispositivo.quita, hhilo, Cola.lista, hk, hcola]
      refine enOrden_dispositivo hk rfl rfl rfl ?_ ?_ ?_ ?_
      · simp [Cola.lista, conDispositivo, Dispositivo.agrega, hhilo]
      · simp [conDispositivo, Dispositivo.porPublicar, Dispositivo.agrega, hhilo]
      · rw [hquita, hcola]
        rfl
      · rw [hquita]
        simp [Dispositivo.porSacar, hhilo]
  | duerme hj hhilo =>
      obtain rfl := Option.some_inj.1 (hk.symm.trans hj)
      -- the program is in Ready, and its token is still to be posted
      refine enOrden_dispositivo hk rfl rfl rfl ?_ ?_ ?_ ?_
      · simp [Cola.lista, agregarReady, conDispositivo, Dispositivo.agrega, hhilo]
      · simp [agregarReady, conDispositivo, Dispositivo.porPublicar, Dispositivo.agrega, hhilo]
      · simp [Dispositivo.quita, hhilo]
      · simp [Dispositivo.porSacar, Dispositivo.quita, hhilo]
  | publica hj hhilo =>
      obtain rfl := Option.some_inj.1 (hk.symm.trans hj)
      refine enOrden_dispositivo hk rfl rfl rfl ?_ ?_ ?_ ?_
      · simp [Cola.lista, conDispositivo, Dispositivo.agrega, hhilo]
      · simp [Dispositivo.porPublicar, Dispositivo.agrega, hhilo]
      · simp [Dispositivo.quita, hhilo]
      · simp [Dispositivo.porSacar, Dispositivo.quita, hhilo]

/-- **What a step of the long-term scheduler does to the queues.** -/
theorem enOrden_pasoPlp {peso : Option ℤ} {l l' : LocPlp}
    (hpaso : pasoPlp c peso l = some (l', c')) :
    EnOrden q c c' (l.agrega c q) [] (l.ficha q) (l'.ficha q) := by
  cases pasoPlp_avanza hpaso with
  | mueve hnew =>
      cases q with
      | ready =>
          refine ⟨by simp [Cola.lista, LocPlp.agrega, agregarReady, hnew], ?_⟩
          simp only [LocPlp.agrega, hnew, LocPlp.ficha]
          rfl
      | _ => exact ⟨List.append_nil _, rfl⟩
  | publica =>
      cases q with
      | ready =>
          refine ⟨List.append_nil _, ?_⟩
          simp only [Cola.valor, Cola.enDispositivos, LocPlp.ficha, LocPlp.agrega]
          omega
      | _ => exact ⟨List.append_nil _, rfl⟩
  | _ =>
      -- no other step touches a queue or its semaphore
      cases q <;> exact ⟨List.append_nil _, rfl⟩

/-- What a step of the thread that ends programs does to the queues. -/
theorem enOrden_pasoSalida {l l' : LocSalida} (hpaso : pasoSalida c l = some (l', c')) :
    EnOrden q c c' [] (l.quita c q) (l.ficha q) (l'.ficha q) := by
  cases pasoSalida_avanza hpaso with
  | espera hpos =>
      cases q with
      | exit =>
          refine ⟨List.append_nil _, ?_⟩
          simp only [Cola.valor, Cola.enDispositivos, LocSalida.ficha, LocSalida.quita,
            List.length_nil]
          omega
      | _ => exact ⟨List.append_nil _, rfl⟩
  | saca hexit =>
      cases q with
      | exit =>
          refine ⟨by simp [Cola.lista, LocSalida.quita, hexit], ?_⟩
          simp only [LocSalida.quita, LocSalida.ficha, Cola.lista, hexit]
          rfl
      | _ => exact ⟨List.append_nil _, rfl⟩

/-- The thread that receives the programs leaves the queues alone. -/
theorem pasoPrincipal_colas {pcb : Pcb} {l l' : LocPrincipal}
    (hpaso : pasoPrincipal c pcb l = some (l', c')) : MismasColas c c' := by
  cases pasoPrincipal_avanza hpaso <;> exact ⟨rfl, rfl, rfl, rfl, rfl⟩

/-! ### The tokens -/

/-- The threads between the list and the semaphore of a queue, but for those of the devices. -/
def Sistema.fichas (q : Cola) (s : Sistema) : ℕ :=
  total (Loc.ficha q) s.hilos + s.plp.ficha q + s.salida.ficha q

/-- **The account of a queue**: its tokens, with those that are with a thread, are its elements. -/
def Cuentan (q : Cola) (s : Sistema) : Prop :=
  q.valor s.comun + q.enDispositivos s.comun + s.fichas q = (q.lista s.comun).length

/-- The location after a message is between no list and its semaphore. -/
theorem ficha_recibirMensaje (c : Comun) (x : Programa) (mensaje : Option MensajeCpu) (q : Cola) :
    (recibirMensaje c x mensaje).ficha q = 0 := by
  have hcontesta := recibirMensaje_contesta c x mensaje
  generalize recibirMensaje c x mensaje = loc at hcontesta
  cases hcontesta <;> cases q <;> rfl

/-- **What an event does to the queues.** -/
theorem enOrden_paso {e : Evento} (hpaso : Paso s e s') :
    EnOrden q s.comun s'.comun (entra q s e) (sale q s e) (s.fichas q) (s'.fichas q) := by
  cases hpaso.transicion with
  | conexion =>
      obtain ⟨horden, hfichas⟩ := enOrden_igual (q := q) (c := s.comun) ⟨rfl, rfl, rfl, rfl, rfl⟩
      have hnada : Loc.esperaReady.ficha q = 0 := by cases q <;> rfl
      refine ⟨horden, ?_⟩
      simp only [Sistema.fichas, total_concat, hnada]
      rfl
  | @hilo i loc loc' c' hi hloc =>
      obtain ⟨horden, hfichas⟩ := enOrden_pasoHilo (q := q) hloc
      have htotal := total_set (Loc.ficha q) hi loc'
      simp only [entra, sale, hi, Option.elim_some]
      refine ⟨horden, ?_⟩
      simp only [Sistema.fichas]
      omega
  | @mensaje i programa mensaje hi =>
      obtain ⟨horden, hfichas⟩ := enOrden_igual (q := q) (c := s.comun) ⟨rfl, rfl, rfl, rfl, rfl⟩
      have htotal := total_set (Loc.ficha q) hi (recibirMensaje s.comun programa mensaje)
      have hrecibe : (Loc.recibe programa).ficha q = 0 := by cases q <;> rfl
      rw [ficha_recibirMensaje, hrecibe] at htotal
      refine ⟨horden, ?_⟩
      simp only [Sistema.fichas, entra, sale]
      omega
  | @dispositivo k c' hc =>
      cases hk : s.comun.dispositivos[k]? with
      | none => exact absurd hc (by simp [pasoDispositivo, hk])
      | some unDispo =>
          obtain ⟨horden, hfichas⟩ := enOrden_pasoDispositivo (q := q) hk hc
          simp only [entra, sale, hk, Option.elim_some]
          refine ⟨horden, ?_⟩
          simp only [Sistema.fichas]
          omega
  | @plp peso plp c' hc =>
      obtain ⟨horden, hfichas⟩ := enOrden_pasoPlp (q := q) hc
      refine ⟨horden, ?_⟩
      simp only [Sistema.fichas, entra, sale]
      omega
  | @principal pcb principal c' hc =>
      obtain ⟨horden, hfichas⟩ := enOrden_igual (q := q) (pasoPrincipal_colas hc)
      refine ⟨horden, ?_⟩
      simp only [Sistema.fichas, entra, sale]
      omega
  | @salida salida c' hc =>
      obtain ⟨horden, hfichas⟩ := enOrden_pasoSalida (q := q) hc
      refine ⟨horden, ?_⟩
      simp only [Sistema.fichas, entra, sale]
      omega

/-- **Every step keeps the account of the queues.** -/
theorem Cuentan.paso {e : Evento} (h : Cuentan q s) (hpaso : Paso s e s') : Cuentan q s' := by
  obtain ⟨horden, hfichas⟩ := enOrden_paso (q := q) hpaso
  have hlargo := congrArg List.length horden
  rw [List.length_append, List.length_append] at hlargo
  unfold Cuentan at h ⊢
  omega

/-- The queues start empty, and nothing has passed through them. -/
theorem lista_inicial (configuracion : Configuracion) (q : Cola) :
    q.lista (inicial configuracion).comun = [] := by
  cases q with
  | dispositivo j =>
      simp only [Cola.lista, inicial, List.getElem?_map]
      cases configuracion.dispositivos[j]? <;> rfl
  | _ => rfl

theorem cuentan_inicial (configuracion : Configuracion) (q : Cola) :
    Cuentan q (inicial configuracion) := by
  rw [Cuentan, lista_inicial]
  cases q with
  | ready =>
      have hdis : total Dispositivo.porPublicar (inicial configuracion).comun.dispositivos = 0 :=
        total_eq_zero fun a ha => by
          obtain ⟨p, -, rfl⟩ := List.mem_map.1 ha
          rfl
      rw [Cola.enDispositivos, hdis]
      rfl
  | exit => rfl
  | dispositivo j =>
      simp only [Cola.valor, Cola.enDispositivos, inicial, List.getElem?_map]
      cases configuracion.dispositivos[j]? <;> rfl

/-- The threads that have waited are among those that are between the list and the semaphore. -/
theorem Sistema.pasaron_le (s : Sistema) (q : Cola) :
    s.pasaron q ≤ q.enDispositivos s.comun + s.fichas q := by
  cases q with
  | ready =>
      have htotal : total Loc.porSacar s.hilos ≤ total (Loc.ficha .ready) s.hilos := by
        refine total_le_total fun loc _ => ?_
        cases loc <;> simp [Loc.porSacar, Loc.ficha]
      simp only [Sistema.pasaron, Sistema.fichas]
      omega
  | exit =>
      have hsalida : (if s.salida = .saca then 1 else 0) = s.salida.ficha .exit := by
        cases s.salida <;> rfl
      simp only [Sistema.pasaron, Sistema.fichas, hsalida]
      omega
  | dispositivo j => exact Nat.le_add_right _ _

/-- A disk, and a program at most. -/
def configuracionUno : Configuracion := ⟨[], [("disco".toList, 10#32)], 1⟩

/-- **No queue has more tokens than elements.**  In every run, for Ready, for `exitProcesos` and for
the queue of each device: the value of its semaphore, with the threads that have waited on it and
have not removed their element, is at most the number of its elements; so no thread that has waited
finds it empty; and the elements that entered it are those that left, in the same order, and then
those that are in it. -/
theorem fichas_de_las_colas (configuracion : Configuracion) (q : Cola)
    {tr : List Evento} {s : Sistema} (h : Lts.Run Paso (inicial configuracion) tr s) :
    q.valor s.comun + s.pasaron q ≤ (q.lista s.comun).length ∧
    (0 < s.pasaron q → q.lista s.comun ≠ []) ∧
    ∃ transito, Lts.Run (Lts.anotado (Lts.Transito.mas (entra q) (sale q)) Paso)
        (inicial configuracion, Lts.Transito.nada) tr (s, transito) ∧
      transito.entraron = transito.salieron ++ q.lista s.comun := by
  have hcuentan : Cuentan q s :=
    h.invariant (fun _ _ _ hs he => hs.paso he) (cuentan_inicial configuracion q)
  have hpasaron := s.pasaron_le q
  unfold Cuentan at hcuentan
  refine ⟨by omega, ?_, ?_⟩
  · intro hpos hnil
    rw [hnil, List.length_nil] at hcuentan
    omega
  · have hstep (s e t) (hpaso : Paso s e t) :
        q.lista s.comun ++ entra q s e = sale q s e ++ q.lista t.comun := (enOrden_paso hpaso).orden
    obtain ⟨transito, hrun⟩ : ∃ transito, Lts.Run
        (Lts.anotado (Lts.Transito.mas (entra q) (sale q)) Paso)
        (inicial configuracion, Lts.Transito.nada) tr (s, transito) := h.anotar Lts.Transito.nada
    have hfifo := hrun.fifo hstep
    rw [lista_inicial, List.nil_append] at hfifo
    exact ⟨transito, hrun, hfifo⟩

/-- A CPU has waited for a program that is in Ready. -/
theorem fichas_de_las_colas_espera : ∃ s,
    correr (fun _ _ => true) (llegaPrograma ++ [.conexion, .hilo 0]) (inicial configuracionUno) =
    some s ∧
    s.pasaron .ready = 1 ∧ Cola.ready.lista s.comun ≠ [] := by
  have hfin : (correr (fun _ _ => true) (llegaPrograma ++ [.conexion, .hilo 0])
      (inicial configuracionUno)).map (fun s => s.pasaron .ready) = some 1 := by decide +kernel
  obtain ⟨s, hs, hpasaron⟩ := Option.map_eq_some_iff.1 hfin
  obtain ⟨-, hlista, -⟩ :=
    fichas_de_las_colas configuracionUno .ready (run_of_correr hs).of_restrict
  exact ⟨s, hs, hpasaron, hlista (by rw [hpasaron]; exact Nat.one_pos)⟩

end Ansisop.Kernel
