/-
**A program that was handed over is left alone.**

A thread hands a program over by adding it to Ready, to `exitProcesos` or to the queue of a device;
from then on another thread may take it, end it and free it.  Here the accesses of the threads to
the programs are steps of their own where other threads can come in between: the reads of the PCB
that is sent to a CPU, the line that is logged after `moverAExit`, the one that the long-term
scheduler logs after Ready, and the freeing of a program that ended.

Whoever removes a program from `listaExec` reads, under its mutex, the pids of those in front of it,
and some of these it may have handed over before.  Besides, the code logs the pid of a program that
it has just handed over, and `mandarADispositivo` removes from `listaExec` a program that is already
in the queue of a device.  There is nothing else: a thread that has a program in its hands has not
handed it over, and nobody has freed it.

Main definitions:

* `Ansisop.Kernel.Vigilado`, `Ansisop.Kernel.Suceso`, `Ansisop.Kernel.pasoVigilado` — the kernel,
  with the accesses to the programs;
* `Ansisop.Kernel.accesos`, `Ansisop.Kernel.toma`, `Ansisop.Kernel.entrega` — what a step reads or
  writes, what it takes out of a list and what it hands over;
* `Ansisop.Kernel.Entregas`, `Ansisop.Kernel.anotarEntregas` — the history: what each thread has
  handed over and not taken again, what was freed, and the accesses to these;
* `Ansisop.Kernel.EnRegla` — no access to what was handed over or freed, and no program in two
  lists;
* `Ansisop.Kernel.EnReglaDeHecho` — **what the threads do**;
* `Ansisop.Kernel.EnManos` — the invariant.

Main results:

* `Ansisop.Kernel.EnManos.paso` — **every step keeps the invariant**;
* `Ansisop.Kernel.entrega_respetada` — **programs that were handed over are left alone**, in any
  run, but for the reads of `listaExec` and what the code forgets;
* `Ansisop.Kernel.registros_tardios` — the lines that are logged are late accesses;
* `Ansisop.Kernel.entrega_no_respetada` — a thread reads a program that it handed over before.
-/

import Ansisop.Kernel.Llamadas
import Ansisop.Kernel.Fichas

set_option relaxedAutoImplicit false
set_option autoImplicit false

namespace Ansisop.Kernel

open Totals

/-! ### The kernel with its accesses -/

/-- The threads that handle programs. -/
inductive Quien
  | cpu (i : ℕ)
  | dispositivo (j : ℕ)
  | planificador
  | salida
deriving DecidableEq

/-- Why a program is read or written. -/
inductive Clase
  /-- the thread has it in its hands -/
  | propio
  /-- the line logged after `moverAExit` -/
  | registro
  /-- the line logged after it was put in Ready -/
  | registroReady
  /-- `mandarADispositivo` removes it from `listaExec` after putting it in the device's queue -/
  | quitaDispositivo
  /-- it is in front of the one that is looked for in `listaExec` -/
  | recorrida
  /-- it is in front of the one that is looked for in `listaExec`, and `mandarADispositivo` should
  have removed it from there -/
  | recorridaDispositivo
deriving DecidableEq

/-- A read or write of a `t_nuevoPrograma` or of its PCB, or a list operation keyed on it. -/
structure Acceso where
  quien : Quien
  programa : Programa
  clase : Clase
deriving DecidableEq

/-- **The kernel, with what its threads are still to do with a program**: the threads of the CPUs
and the long-term scheduler log a line about a program that they have handed over, and the thread
that ends programs frees the one that it has taken. -/
structure Vigilado where
  sistema : Sistema
  porRegistrar : ℕ → Option Programa
  porRegistrarReady : Option Programa
  porLiberar : Option Programa

/-- A step of the kernel, or one of the accesses. -/
inductive Suceso
  | kernel (e : Evento)
  /-- the thread of a CPU reads its program: its PCB, its pid or its socket -/
  | lee (i : ℕ)
  /-- the thread of a CPU logs a line after `moverAExit` -/
  | registra (i : ℕ)
  /-- the long-term scheduler logs a line after Ready -/
  | registraReady
  /-- the thread that ends programs destroys the segments of one and frees it -/
  | libera

/-- A thread with a line to log, or with a program to free, does that first. -/
def Vigilado.ocupado (v : Vigilado) : Evento → Bool
  | .hilo i => (v.porRegistrar i).isSome && v.sistema.hilos[i]? == some .esperaReady
  | .plp _ => v.porRegistrarReady.isSome && v.sistema.plp == .espera
  | .salida => v.porLiberar.isSome
  | _ => false

/-- What a step of the kernel leaves to be done. -/
def Vigilado.tras (v : Vigilado) (e : Evento) (s' : Sistema) : Vigilado :=
  match e with
  | .hilo i =>
      match v.sistema.hilos[i]? with
      | some (.moverAExit programa _) =>
          { v with sistema := s', porRegistrar := Function.update v.porRegistrar i (some programa) }
      | _ => { v with sistema := s' }
  | .plp _ =>
      match v.sistema.plp with
      | .mueve => { v with
          sistema := s', porRegistrarReady := (v.sistema.comun.newProcesos.head?).map Prod.fst }
      | _ => { v with sistema := s' }
  | .salida =>
      match v.sistema.salida with
      | .saca => { v with sistema := s', porLiberar := v.sistema.comun.exitProcesos.head? }
      | .espera => { v with sistema := s' }
  | _ => { v with sistema := s' }

/-- **One step of the kernel, with its accesses.** -/
def pasoVigilado (v : Vigilado) : Suceso → Option Vigilado
  | .kernel e => if v.ocupado e then none else (paso v.sistema e).map (v.tras e)
  | .lee i =>
      match v.sistema.hilos[i]? with
      | some (.recibe _) => some v
      | _ => none
  | .registra i =>
      match v.porRegistrar i, v.sistema.hilos[i]? with
      | some _, some .esperaReady =>
          some { v with porRegistrar := Function.update v.porRegistrar i none }
      | some _, some .terminado =>
          some { v with porRegistrar := Function.update v.porRegistrar i none }
      | _, _ => none
  | .registraReady =>
      match v.porRegistrarReady, v.sistema.plp with
      | some _, .espera => some { v with porRegistrarReady := none }
      | _, _ => none
  | .libera => v.porLiberar.map fun _ => { v with porLiberar := none }

/-- The steps of the kernel with its accesses, as a relation. -/
def PasoVigilado (v : Vigilado) (e : Suceso) (v' : Vigilado) : Prop := pasoVigilado v e = some v'

/-- The kernel at its start, with nothing to be done. -/
def vigiladoInicial (configuracion : Configuracion) : Vigilado :=
  ⟨inicial configuracion, fun _ => none, none, none⟩

@[simp] theorem sistema_tras (v : Vigilado) (e : Evento) (s' : Sistema) :
    (v.tras e s').sistema = s' := by
  unfold Vigilado.tras
  repeat' split
  all_goals rfl

/-- A step of the kernel in the kernel with its accesses. -/
theorem pasoVigilado_kernel {v v' : Vigilado} {e : Evento} (h : PasoVigilado v (.kernel e) v') :
    v.ocupado e = false ∧ ∃ s', Paso v.sistema e s' ∧ v' = v.tras e s' := by
  unfold PasoVigilado at h
  rw [pasoVigilado] at h
  split at h
  · exact absurd h (by simp)
  · rename_i hocupado
    obtain ⟨s', hs', rfl⟩ := Option.map_eq_some_iff.1 h
    exact ⟨Bool.eq_false_iff.2 hocupado, s', hs', rfl⟩

/-- **It is the same kernel**: its runs with the accesses are its runs. -/
theorem sistema_pasoVigilado {v v' : Vigilado} {e : Suceso} (h : PasoVigilado v e v') :
    (∃ e', e = .kernel e' ∧ Paso v.sistema e' v'.sistema) ∨
      ((∀ e', e ≠ .kernel e') ∧ v'.sistema = v.sistema) := by
  cases e with
  | kernel e' =>
      obtain ⟨-, s', hs', rfl⟩ := pasoVigilado_kernel h
      exact Or.inl ⟨e', rfl, (sistema_tras v e' s').symm ▸ hs'⟩
  | lee i =>
      unfold PasoVigilado pasoVigilado at h
      simp only at h
      split at h <;> cases h
      exact Or.inr ⟨fun _ => Suceso.noConfusion, rfl⟩
  | registra i =>
      unfold PasoVigilado pasoVigilado at h
      simp only at h
      split at h <;> cases h <;> exact Or.inr ⟨fun _ => Suceso.noConfusion, rfl⟩
  | registraReady =>
      unfold PasoVigilado pasoVigilado at h
      simp only at h
      split at h <;> cases h
      exact Or.inr ⟨fun _ => Suceso.noConfusion, rfl⟩
  | libera =>
      obtain ⟨x, -, rfl⟩ := Option.map_eq_some_iff.1 h
      exact Or.inr ⟨fun _ => Suceso.noConfusion, rfl⟩

/-! ### Accesses, taking and handing over -/

/-- The programs in front of the one that is looked for in `listaExec`, by its pid: each of them is
read. -/
def recorridos (c : Comun) (pid : U32) : List Programa :=
  c.listaExec.takeWhile fun y => (c.pcb y).pid != pid

/-- The accesses of `list_remove_by_condition` on `listaExec`: the programs that are passed over,
and the one that is found. -/
def accesosQuitarExec (c : Comun) (pid : U32) (clase : Clase) : List (Programa × Clase) :=
  (recorridos c pid).map (fun y => (y, .recorrida)) ++
    (quitarExec c pid).1.toList.map fun y => (y, clase)

/-- **The accesses of a step of the thread of a CPU.** -/
def Loc.accesos (c : Comun) : Loc → List (Programa × Clase)
  | agregaExec programa => [(programa, .propio)]
  | entradaSalida programa _ _ _ => [(programa, .propio)]
  | quitaExecDispositivo programa _ =>
      (programa, .quitaDispositivo) :: accesosQuitarExec c (c.pcb programa).pid .quitaDispositivo
  | moverAExit programa _ =>
      (programa, .propio) :: accesosQuitarExec c (c.pcb programa).pid .propio
  | agregaExit programaBuscado _ => [(programaBuscado, .propio)]
  | lockQuitaExec programa _ _ =>
      (programa, .propio) :: accesosQuitarExec c (c.pcb programa).pid .propio
  | lockEscribe programa _ _ => [(programa, .propio)]
  | recargaQuita _ pcb => accesosQuitarExec c pcb.pid .propio
  | recargaEscribe programaBuscado _ => [(programaBuscado, .propio)]
  | _ => []

/-- The programs that a step of the thread of a CPU takes out of a list, to have them in its
hands. -/
def Loc.toma (c : Comun) : Loc → List Programa
  | sacaReady => (c.listaReady.take 1).reduceOption
  | moverAExit programa _ => (quitarExec c (c.pcb programa).pid).1.toList
  | unlockSaca _ j => (c.semaforos[j]?).elim [] fun semaf => semaf.progEncolados.take 1
  | recargaQuita _ pcb => (quitarExec c pcb.pid).1.toList
  | _ => []

/-- The programs that a step of the thread of a CPU hands over: to the queue of a device, to
`exitProcesos` or to Ready. -/
def Loc.entrega : Loc → List Programa
  | encolaDispositivo programa _ _ => [programa]
  | agregaExit programaBuscado _ => [programaBuscado]
  | unlockAgrega _ _ desencolado => desencolado.toList
  | recargaAgrega programaBuscado => [programaBuscado]
  | _ => []

/-- The accesses of a step of the long-term scheduler: it prepares a program, and frees it if it is
rejected. -/
def LocPlp.accesos : LocPlp → List (Programa × Clase)
  | guarda programa => [(programa, .propio)]
  | _ => []

/-- The program that the long-term scheduler puts in Ready. -/
def LocPlp.entrega (c : Comun) : LocPlp → List Programa
  | mueve => (c.newProcesos.take 1).map Prod.fst
  | _ => []

/-- The accesses of a step of the thread of a device: it prints the pid of its program. -/
def LocDispositivo.accesos : LocDispositivo → List (Programa × Clase)
  | duerme programa _ => [(programa, .propio)]
  | _ => []

/-- The program that the thread of a device takes from its queue. -/
def Dispositivo.toma (unDispo : Dispositivo) : List Programa :=
  match unDispo.hilo with
  | .saca => (unDispo.progEncolados.take 1).map Prod.fst
  | _ => []

/-- The program that the thread of a device puts in Ready. -/
def LocDispositivo.entrega : LocDispositivo → List Programa
  | duerme programa _ => [programa]
  | _ => []

/-- `mandarADispositivo` has put the program in the queue of a device, and has not removed it from
`listaExec` yet. -/
def enTransito (s : Sistema) (programa : Programa) : Bool :=
  s.hilos.any fun
    | .quitaExecDispositivo x _ => x == programa
    | _ => false

/-- Why a program is accessed by the thread of a CPU, when it is known which programs
`mandarADispositivo` has left in `listaExec`. -/
def claseEn (s : Sistema) (programa : Programa) : Clase → Clase
  | .recorrida => if enTransito s programa then .recorridaDispositivo else .recorrida
  | clase => clase

/-- **The accesses of a step**, with the thread that makes them. -/
def accesos (v : Vigilado) : Suceso → List Acceso
  | .kernel (.hilo i) => (v.sistema.hilos[i]?).elim [] fun loc =>
      (loc.accesos v.sistema.comun).map fun p => ⟨.cpu i, p.1, claseEn v.sistema p.1 p.2⟩
  | .kernel (.dispositivo j) => (v.sistema.comun.dispositivos[j]?).elim [] fun unDispo =>
      unDispo.hilo.accesos.map fun p => ⟨.dispositivo j, p.1, p.2⟩
  | .kernel (.plp _) => v.sistema.plp.accesos.map fun p => ⟨.planificador, p.1, p.2⟩
  | .kernel _ => []
  | .lee i =>
      match v.sistema.hilos[i]? with
      | some (.recibe programa) => [⟨.cpu i, programa, .propio⟩]
      | _ => []
  | .registra i => (v.porRegistrar i).toList.map fun x => ⟨.cpu i, x, .registro⟩
  | .registraReady => v.porRegistrarReady.toList.map fun x => ⟨.planificador, x, .registroReady⟩
  | .libera => v.porLiberar.toList.map fun x => ⟨.salida, x, .propio⟩

/-- **What a step takes out of a list**, with the thread that has it then in its hands. -/
def toma (v : Vigilado) : Suceso → List (Quien × Programa)
  | .kernel (.hilo i) => (v.sistema.hilos[i]?).elim [] fun loc =>
      (loc.toma v.sistema.comun).map fun x => (.cpu i, x)
  | .kernel (.dispositivo j) => (v.sistema.comun.dispositivos[j]?).elim [] fun unDispo =>
      unDispo.toma.map fun x => (.dispositivo j, x)
  | .kernel (.plp _) => (v.sistema.plp.entrega v.sistema.comun).map fun x => (.planificador, x)
  | .kernel .salida =>
      match v.sistema.salida with
      | .saca => (v.sistema.comun.exitProcesos.take 1).map fun x => (.salida, x)
      | .espera => []
  | _ => []

/-- **What a step hands over**, with the thread that does it. -/
def entrega (v : Vigilado) : Suceso → List (Quien × Programa)
  | .kernel (.hilo i) => (v.sistema.hilos[i]?).elim [] fun loc =>
      loc.entrega.map fun x => (.cpu i, x)
  | .kernel (.dispositivo j) => (v.sistema.comun.dispositivos[j]?).elim [] fun unDispo =>
      unDispo.hilo.entrega.map fun x => (.dispositivo j, x)
  | .kernel (.plp _) => (v.sistema.plp.entrega v.sistema.comun).map fun x => (.planificador, x)
  | _ => []

/-! ### The history -/

/-- **The history**: what each thread has handed over and not taken out of a list again, the
programs that were freed, because they ended or because they were rejected, the accesses of a thread
to what it had handed over, and the accesses to what had been freed. -/
structure Entregas where
  cedidos : List (Quien × Programa)
  terminados : List Programa
  rechazados : List Programa
  tardios : List Acceso
  colgados : List Acceso

/-- Nothing was handed over. -/
def Entregas.nada : Entregas := ⟨[], [], [], [], []⟩

/-- The program that is rejected, if a step does that. -/
def rechaza (v : Vigilado) : Suceso → List Programa
  | .kernel (.plp none) =>
      match v.sistema.plp with
      | .guarda programa => [programa]
      | _ => []
  | _ => []

/-- What a step adds to the history.  A step that takes a program and hands it over takes it
first. -/
def anotarEntregas (v : Vigilado) (e : Suceso) (h : Entregas) : Entregas where
  cedidos := (h.cedidos.filter fun p => decide (p ∉ toma v e)) ++ entrega v e
  terminados := h.terminados ++ (match e with | .libera => v.porLiberar.toList | _ => [])
  rechazados := h.rechazados ++ rechaza v e
  tardios := h.tardios ++
    (accesos v e).filter fun a => decide ((a.quien, a.programa) ∈ h.cedidos)
  colgados := h.colgados ++
    (accesos v e).filter fun a => decide (a.programa ∈ h.terminados ++ h.rechazados)

/-- The kernel with its accesses and their history. -/
def PasoAnotado : Vigilado × Entregas → Suceso → Vigilado × Entregas → Prop :=
  Lts.anotado anotarEntregas PasoVigilado

/-- The programs in Ready, `listaExec`, `exitProcesos` and the queues of the semaphores and of the
devices. -/
def enListas (c : Comun) : Multiset Programa :=
  (c.listaReady.reduceOption : Multiset Programa) + (c.listaExec : Multiset Programa) +
    (c.exitProcesos : Multiset Programa) + total Semaforo.duenio c.semaforos +
    total (fun d : Dispositivo =>
      ((d.progEncolados.map Prod.fst : List Programa) : Multiset Programa))
      c.dispositivos

/-- **What is asked for**: no thread has accessed a program that it had handed over, nobody has
accessed a program that had been freed, and no program is in two lists. -/
structure EnRegla (p : Vigilado × Entregas) : Prop where
  tardios : p.2.tardios = []
  colgados : p.2.colgados = []
  listas : (enListas p.1.sistema.comun).Nodup

/-- What the code forgets: to log before it hands over, and to remove from `listaExec` before it
puts in the queue of a device. -/
def Clase.descuido : Clase → Bool
  | registro => true
  | registroReady => true
  | quitaDispositivo => true
  | recorridaDispositivo => true
  | _ => false

/-- **What the threads do**, what the code forgets left aside: of the programs that it has handed
over a thread accesses only those that it passes over in `listaExec`, nobody accesses a program that
has been freed, and a program that `mandarADispositivo` is not moving is not in two lists. -/
structure EnReglaDeHecho (p : Vigilado × Entregas) : Prop where
  tardios : ∀ a ∈ p.2.tardios, a.clase.descuido = false → a.clase = .recorrida
  colgados : ∀ a ∈ p.2.colgados, a.clase.descuido = true
  listas : ∀ x, enTransito p.1.sistema x = false → (enListas p.1.sistema.comun).count x ≤ 1

/-- The events in which the PCBs have the pid of their program. -/
def ConPidsVigilado (p : Vigilado × Entregas) : Suceso → Prop
  | .kernel e => ConPids p.1.sistema e
  | _ => True

variable {c c' : Comun} {loc loc' : Loc} {s s' : Sistema} {x y : Programa} {v v' : Vigilado}
  {h : Entregas}

/-! ### What the threads have in their hands -/

/-- **What the thread of a CPU has in its hands after a step** it had before or has just taken, and
it has not handed it over. -/
theorem duenio_pasoHilo (hnodup : loc.duenio.Nodup) (hpaso : pasoHilo c loc = some (loc', c'))
    (hx : x ∈ loc'.duenio) : (x ∈ loc.duenio ∨ x ∈ loc.toma c) ∧ x ∉ loc.entrega := by
  cases pasoHilo_avanza hpaso with
  | sacaReady hready =>
      obtain rfl := Multiset.mem_singleton.1 hx
      refine ⟨Or.inr ?_, List.not_mem_nil⟩
      simp [Loc.toma, hready, List.reduceOption]
  | moverAExit hbuscado | recargaQuita hbuscado =>
      obtain rfl := Multiset.mem_singleton.1 hx
      refine ⟨Or.inr ?_, List.not_mem_nil⟩
      simp [Loc.toma, hbuscado]
  | @unlockSaca _ _ semaf hj =>
      refine ⟨?_, List.not_mem_nil⟩
      rcases Multiset.mem_add.1 hx with hx | hx
      · exact Or.inl hx
      · right
        cases hcola : semaf.progEncolados with
        | nil => simp [hcola] at hx
        | cons z resto => simpa [Loc.toma, hj, hcola] using hx
  | unlockAgrega =>
      rw [Loc.duenio, Multiset.nodup_add] at hnodup
      refine ⟨Or.inl (Multiset.mem_add.2 (Or.inl hx)), ?_⟩
      intro hmem
      exact Multiset.disjoint_left.1 hnodup.2.2 hx (Multiset.mem_coe.2 hmem)
  | _ =>
      first
        | exact absurd hx (Multiset.notMem_zero x)
        | exact ⟨Or.inl hx, List.not_mem_nil⟩

/-- After a message the thread has its program in its hands, or nothing. -/
theorem duenio_recibirMensaje {mensaje : Option MensajeCpu}
    (hx : x ∈ (recibirMensaje c y mensaje).duenio) : x = y := by
  have hcontesta := recibirMensaje_contesta c y mensaje
  generalize recibirMensaje c y mensaje = loc at hcontesta hx
  cases hcontesta with
  | waitSinSemaforo _ | okCpu => exact absurd hx (Multiset.notMem_zero x)
  | _ => exact Multiset.mem_singleton.1 hx

/-- The threads of the CPUs leave the threads of the devices where they are. -/
theorem hilo_dispositivos (hpaso : pasoHilo c loc = some (loc', c')) {j : ℕ} {b : Dispositivo}
    (hb : c'.dispositivos[j]? = some b) : ∃ a, c.dispositivos[j]? = some a ∧ b.hilo = a.hilo := by
  cases pasoHilo_avanza hpaso with
  | @encolaDispositivo _ k _ unDispo hk | @postDispositivo k unDispo hk =>
      rw [getElem?_conDispositivo hk] at hb
      split at hb
      · rename_i heq
        cases hb
        exact ⟨unDispo, heq ▸ hk, rfl⟩
      · exact ⟨b, hb, rfl⟩
  | _ => exact ⟨b, hb, rfl⟩

/-- **What the thread of a device has in its hands after a step** it has just taken, and it has not
handed it over. -/
theorem duenio_pasoDispositivo {j : ℕ} {a : Dispositivo} (hj : c.dispositivos[j]? = some a)
    (hpaso : pasoDispositivo c j = some c') {k : ℕ} {b : Dispositivo}
    (hb : c'.dispositivos[k]? = some b) (hx : x ∈ b.hilo.duenio) :
    k = j ∧ x ∈ a.toma ∧ a.hilo.entrega = [] ∨ k ≠ j ∧ c.dispositivos[k]? = some b := by
  -- only the new value of the device is another one
  have hcambia {nuevo : Dispositivo} (hb : (conDispositivo c j nuevo).dispositivos[k]? = some b) :
      k = j ∧ b = nuevo ∨ k ≠ j ∧ c.dispositivos[k]? = some b := by
    rw [getElem?_conDispositivo hj] at hb
    split at hb
    · next heq => exact Or.inl ⟨heq.symm, (Option.some_inj.1 hb).symm⟩
    · next hne => exact Or.inr ⟨Ne.symm hne, hb⟩
  cases pasoDispositivo_avanza hpaso with
  | espera _ _ _ | duerme _ _ | publica _ _ =>
      rcases hcambia hb with ⟨-, rfl⟩ | hotro
      · exact absurd hx (Multiset.notMem_zero x)
      · exact Or.inr hotro
  | saca hj' hhilo hcola =>
      obtain rfl := Option.some_inj.1 (hj.symm.trans hj')
      rcases hcambia hb with ⟨rfl, rfl⟩ | hotro
      · obtain rfl := Multiset.mem_singleton.1 hx
        refine Or.inl ⟨rfl, ?_, ?_⟩
        · simp [Dispositivo.toma, hhilo, hcola]
        · simp [hhilo, LocDispositivo.entrega]
      · exact Or.inr hotro

/-- Looking for a program of the thread in `listaExec` finds it. -/
theorem mem_accesosQuitarExec (h : Pids c) (hy : y ∈ c.listaExec) {clase : Clase}
    (hx : (x, clase) ∈ accesosQuitarExec c (pidDe y) clase) (hclase : clase ≠ .recorrida) :
    x = y := by
  rw [accesosQuitarExec, quitarExec_eq h hy] at hx
  rcases List.mem_append.1 hx with hx | hx
  · obtain ⟨z, -, heq⟩ := List.mem_map.1 hx
    exact absurd (congrArg Prod.snd heq).symm hclase
  · obtain ⟨z, hz, heq⟩ := List.mem_map.1 hx
    cases heq
    simpa using hz

/-- **A thread reads and writes as its own only the programs that it has in its hands.** -/
theorem duenio_of_acceso (h : Pids c) (hloc : loc.Coherente c)
    (hx : (x, Clase.propio) ∈ loc.accesos c) : x ∈ loc.duenio := by
  have hquita (y : Programa) (pid : U32) (hy : y ∈ c.listaExec) (hpid : pid = pidDe y)
      (hx : (x, Clase.propio) ∈ accesosQuitarExec c pid .propio) : x = y := by
    subst hpid
    exact mem_accesosQuitarExec h hy hx (by decide)
  have hsuyo (y : Programa) (hy : y ∈ c.listaExec)
      (hx : (x, Clase.propio) ∈ (y, Clase.propio) :: accesosQuitarExec c (c.pcb y).pid .propio) :
      x = y := by
    rcases List.mem_cons.1 hx with heq | hx
    · exact congrArg Prod.fst heq
    · exact hquita y _ hy (h.pid y (h.exec y hy)) hx
  cases loc with
  | moverAExit y fin =>
      exact Multiset.mem_singleton.2 (hsuyo y (hloc.enExec y (by simp [Loc.enExec])) hx)
  | lockQuitaExec y j pcb =>
      exact Multiset.mem_singleton.2 (hsuyo y (hloc.enExec y (by simp [Loc.enExec])) hx)
  | recargaQuita y pcb =>
      exact Multiset.mem_singleton.2
        (hquita y _ (hloc.enExec y (by simp [Loc.enExec])) (hloc.pcb y pcb rfl).2 hx)
  | quitaExecDispositivo y j =>
      rcases List.mem_cons.1 hx with heq | hx
      · exact absurd (congrArg Prod.snd heq) (by simp)
      · rcases List.mem_append.1 hx with hx | hx
        all_goals
          obtain ⟨z, -, heq⟩ := List.mem_map.1 hx
          exact absurd (congrArg Prod.snd heq) (by simp)
  | _ =>
      simp only [Loc.accesos, List.mem_singleton, Prod.mk.injEq, and_true, List.not_mem_nil] at hx
      try exact Multiset.mem_singleton.2 hx

/-- What is passed over in `listaExec` is there. -/
theorem mem_listaExec_of_recorridos {pid : U32} (hx : x ∈ recorridos c pid) : x ∈ c.listaExec :=
  (List.takeWhile_sublist _).subset hx

theorem claseEn_eq_propio {clase : Clase} (hclase : claseEn s x clase = .propio) :
    clase = .propio := by
  cases clase with
  | recorrida =>
      rw [claseEn] at hclase
      split at hclase <;> exact absurd hclase (by decide)
  | _ => exact hclase

theorem claseEn_eq_recorrida {clase : Clase} (hclase : claseEn s x clase = .recorrida) :
    clase = .recorrida ∧ enTransito s x = false := by
  cases clase with
  | recorrida =>
      rw [claseEn] at hclase
      split at hclase
      · exact absurd hclase (by decide)
      · next htransito => exact ⟨rfl, Bool.eq_false_iff.2 htransito⟩
  | _ => exact absurd hclase (by simp [claseEn])

/-- No thread is removing from `listaExec` what `mandarADispositivo` is not moving. -/
theorem quitaExec_of_enTransito (htransito : enTransito s x = false) (j : ℕ) :
    Loc.quitaExecDispositivo x j ∉ s.hilos := by
  intro hloc
  refine absurd (List.any_eq_true.2 ⟨_, hloc, ?_⟩) (Bool.eq_false_iff.1 htransito)
  exact beq_self_eq_true x

/-- What the thread of a CPU passes over is in `listaExec`. -/
theorem mem_listaExec_of_acceso (hx : (x, Clase.recorrida) ∈ loc.accesos c) : x ∈ c.listaExec := by
  have hquita {pid : U32} {clase : Clase} (hclase : clase ≠ .recorrida)
      (hx : (x, Clase.recorrida) ∈ accesosQuitarExec c pid clase) : x ∈ c.listaExec := by
    rcases List.mem_append.1 hx with hx | hx
    · obtain ⟨y, hy, heq⟩ := List.mem_map.1 hx
      cases heq
      exact mem_listaExec_of_recorridos hy
    · obtain ⟨y, -, heq⟩ := List.mem_map.1 hx
      exact absurd (congrArg Prod.snd heq) hclase
  have hsuyo {pid : U32} {clase : Clase} {y : Programa} (hclase : clase ≠ .recorrida)
      (hx : (x, Clase.recorrida) ∈ (y, clase) :: accesosQuitarExec c pid clase) :
        x ∈ c.listaExec := by
    rcases List.mem_cons.1 hx with heq | hx
    · exact absurd (congrArg Prod.snd heq).symm hclase
    · exact hquita hclase hx
  cases loc with
  | moverAExit y fin => exact hsuyo (by decide) hx
  | lockQuitaExec y j pcb => exact hsuyo (by decide) hx
  | quitaExecDispositivo y j => exact hsuyo (by decide) hx
  | recargaQuita y pcb => exact hquita (by decide) hx
  | _ => exact absurd hx (by simp [Loc.accesos])

/-- **Only the threads of the CPUs pass over programs**, in `listaExec`. -/
theorem recorrida_of_acceso {e : Suceso} {a : Acceso} (ha : a ∈ accesos v e)
    (hclase : a.clase = .recorrida) :
    a.programa ∈ v.sistema.comun.listaExec ∧ enTransito v.sistema a.programa = false := by
  unfold accesos at ha
  split at ha
  · rename_i i
    cases hi : v.sistema.hilos[i]? with
    | none => exact absurd ha (by simp [hi])
    | some loc =>
        simp only [hi, Option.elim_some] at ha
        obtain ⟨⟨x, clase⟩, hx, rfl⟩ := List.mem_map.1 ha
        obtain ⟨rfl, htransito⟩ := claseEn_eq_recorrida hclase
        exact ⟨mem_listaExec_of_acceso hx, htransito⟩
  · rename_i j
    cases hj : v.sistema.comun.dispositivos[j]? with
    | none => exact absurd ha (by simp [hj])
    | some unDispo =>
        simp only [hj, Option.elim_some] at ha
        obtain ⟨⟨x, clase⟩, hx, rfl⟩ := List.mem_map.1 ha
        generalize unDispo.hilo = l at hx
        cases l with
        | duerme y retardo =>
            cases List.mem_singleton.1 hx
            exact absurd hclase (by simp)
        | _ => exact absurd hx List.not_mem_nil
  · obtain ⟨⟨x, clase⟩, hx, rfl⟩ := List.mem_map.1 ha
    generalize v.sistema.plp = l at hx
    cases l with
    | guarda y =>
        cases List.mem_singleton.1 hx
        exact absurd hclase (by simp)
    | _ => exact absurd hx List.not_mem_nil
  · exact absurd ha List.not_mem_nil
  · split at ha
    · obtain rfl := List.mem_singleton.1 ha
      exact absurd hclase (by simp)
    · exact absurd ha List.not_mem_nil
  all_goals
    obtain ⟨x, -, rfl⟩ := List.mem_map.1 ha
    exact absurd hclase (by simp)

/-- A step brings no program back that had arrived and is not on its way any more. -/
theorem llegadas_paso {e : Evento} (hpaso : Paso s e s') :
    s.comun.cantidad ≤ s'.comun.cantidad ∧
      ∀ x < s.comun.cantidad, x ∈ llegadas s' → x ∈ llegadas s := by
  cases hpaso.transicion with
  | conexion =>
      exact ⟨le_rfl, fun _ _ hx => hx⟩
  | @hilo i loc loc' c' hi hloc =>
      have hm := pasoHilo_marco hloc
      refine ⟨hm.cantidad.ge, ?_⟩
      intro x _ hx
      simpa only [llegadas, hm.admitidos, hm.newProcesos, hm.lista_de_programas] using hx
  | @mensaje i _ mensaje _ =>
      exact ⟨le_rfl, fun _ _ hx => hx⟩
  | @dispositivo j c' hc =>
      obtain ⟨ready, dispositivos, n, rfl⟩ := pasoDispositivo_marco hc
      exact ⟨le_rfl, fun _ _ hx => hx⟩
  | @plp peso plp c' hc =>
      exact ⟨(duenios_pasoPlp hc).2.2.2.ge,
        fun _ _ hx => Multiset.mem_of_le (llegadas_pasoPlp hc) hx⟩
  | @principal pcb principal c' hc =>
      rcases llegadas_pasoPrincipal hc with ⟨hllegadas, hcantidad⟩ | ⟨hllegadas, hcantidad⟩
      · exact ⟨hcantidad.ge, fun _ _ hx => hllegadas ▸ hx⟩
      · refine ⟨hcantidad.ge.trans' (Nat.le_succ _), ?_⟩
        intro x hlt hx
        rw [hllegadas, Multiset.mem_add, Multiset.mem_singleton] at hx
        exact hx.resolve_left hlt.ne
  | @salida salida c' hc =>
      generalize s.salida = l at hc
      cases pasoSalida_avanza hc <;> exact ⟨le_rfl, fun _ _ hx => hx⟩

/-- What the thread of a CPU hands to `exitProcesos` is what it adds to the history. -/
theorem entregados_pasoHilo (hpaso : pasoHilo c loc = some (loc', c')) :
    ∃ nuevos, c'.entregados = c.entregados ++ nuevos ∧
    c'.exitProcesos = c.exitProcesos ++ nuevos := by
  cases pasoHilo_avanza hpaso with
  | @agregaExit y => exact ⟨[y], rfl, rfl⟩
  | _ => exact ⟨[], (List.append_nil _).symm, (List.append_nil _).symm⟩

/-! ### The invariant -/

/-- What the thread of a CPU does between handing a program to `exitProcesos` and logging the line
about it. -/
def Loc.Saliendo (programa : Programa) (cedido : Prop) : Loc → Prop
  | agregaExit programaBuscado _ => programaBuscado = programa
  | aumentaMultiprogramacion _ => cedido
  | postExit _ => cedido
  | postNuevo _ => cedido
  | esperaReady => cedido
  | terminado => cedido
  | _ => False

/-- **The invariant**: what a thread has in its hands it has not handed over, and what was freed is
not on its way any more. -/
structure EnManos (v : Vigilado) (h : Entregas) : Prop where
  propio : Propio v.sistema
  cpu : ∀ i loc, v.sistema.hilos[i]? = some loc → ∀ x ∈ loc.duenio, (Quien.cpu i, x) ∉ h.cedidos
  dispositivo : ∀ j unDispo, v.sistema.comun.dispositivos[j]? = some unDispo →
    ∀ x ∈ unDispo.hilo.duenio, (Quien.dispositivo j, x) ∉ h.cedidos
  planificador : ∀ x, (Quien.planificador, x) ∈ h.cedidos → x ∈ v.sistema.comun.admitidos
  salida : ∀ x, (Quien.salida, x) ∉ h.cedidos
  terminados : v.sistema.comun.entregados =
    h.terminados ++ v.porLiberar.toList ++ v.sistema.comun.exitProcesos
  rechazados : ∀ x ∈ h.rechazados, x < v.sistema.comun.cantidad ∧ x ∉ llegadas v.sistema
  registro : ∀ i x, v.porRegistrar i = some x → ∃ loc, v.sistema.hilos[i]? = some loc ∧
    loc.Saliendo x ((Quien.cpu i, x) ∈ h.cedidos)
  registroReady : ∀ x, v.porRegistrarReady = some x → (Quien.planificador, x) ∈ h.cedidos

theorem enManos_inicial (configuracion : Configuracion) :
    EnManos (vigiladoInicial configuracion) .nada where
  propio := propio_inicial configuracion
  cpu := by
    intro i loc hi
    exact absurd hi (by simp [vigiladoInicial, inicial])
  dispositivo := fun _ _ _ _ _ => List.not_mem_nil
  planificador := fun _ hx => absurd hx List.not_mem_nil
  salida := fun _ => List.not_mem_nil
  terminados := rfl
  rechazados := fun _ hx => absurd hx List.not_mem_nil
  registro := fun _ _ hx => absurd hx (by simp [vigiladoInicial])
  registroReady := fun _ hx => absurd hx (by simp [vigiladoInicial])

/-- The thread that takes a step. -/
def Suceso.quien : Suceso → Option Quien
  | kernel (.hilo i) => some (.cpu i)
  | kernel (.dispositivo j) => some (.dispositivo j)
  | kernel (.plp _) => some .planificador
  | kernel .salida => some .salida
  | _ => none

/-- All programs of a list are paired with one thread. -/
theorem quien_of_mem_map {q q' : Quien} {l : List Programa} (hx : (q, x) ∈ l.map fun y => (q', y)) :
    some q' = some q := by
  obtain ⟨y, -, heq⟩ := List.mem_map.1 hx
  exact congrArg some (congrArg Prod.fst heq)

theorem quien_of_toma {e : Suceso} {q : Quien} (hx : (q, x) ∈ toma v e) : e.quien = some q := by
  unfold toma at hx
  split at hx
  · rename_i i
    cases hi : v.sistema.hilos[i]? with
    | none => exact absurd hx (by simp [hi])
    | some loc =>
        simp only [hi, Option.elim_some] at hx
        exact quien_of_mem_map hx
  · rename_i j
    cases hj : v.sistema.comun.dispositivos[j]? with
    | none => exact absurd hx (by simp [hj])
    | some unDispo =>
        simp only [hj, Option.elim_some] at hx
        exact quien_of_mem_map hx
  · exact quien_of_mem_map hx
  · split at hx
    · exact quien_of_mem_map hx
    · exact absurd hx List.not_mem_nil
  · exact absurd hx List.not_mem_nil

theorem quien_of_entrega {e : Suceso} {q : Quien} (hx : (q, x) ∈ entrega v e) :
    e.quien = some q := by
  unfold entrega at hx
  split at hx
  · rename_i i
    cases hi : v.sistema.hilos[i]? with
    | none => exact absurd hx (by simp [hi])
    | some loc =>
        simp only [hi, Option.elim_some] at hx
        exact quien_of_mem_map hx
  · rename_i j
    cases hj : v.sistema.comun.dispositivos[j]? with
    | none => exact absurd hx (by simp [hj])
    | some unDispo =>
        simp only [hj, Option.elim_some] at hx
        exact quien_of_mem_map hx
  · exact quien_of_mem_map hx
  · exact absurd hx List.not_mem_nil

/-- What was handed over before a step and is not taken, or is handed over in it. -/
theorem mem_cedidos {e : Suceso} {p : Quien × Programa} :
    p ∈ (anotarEntregas v e h).cedidos ↔
      (p ∈ h.cedidos ∧ p ∉ toma v e) ∨ p ∈ entrega v e := by
  simp [anotarEntregas]

/-- A step of another thread changes nothing of what a thread has handed over. -/
theorem mem_cedidos_otro {e : Suceso} {q : Quien} (hq : e.quien ≠ some q) :
    (q, x) ∈ (anotarEntregas v e h).cedidos ↔ (q, x) ∈ h.cedidos := by
  rw [mem_cedidos]
  constructor
  · rintro (⟨hx, -⟩ | hx)
    · exact hx
    · exact absurd (quien_of_entrega hx) hq
  · intro hx
    exact Or.inl ⟨hx, fun htoma => hq (quien_of_toma htoma)⟩

/-- A thread has not handed over what it has just taken, nor what it had not before and has not
now. -/
theorem not_mem_cedidos {e : Suceso} {p : Quien × Programa} (hp : p ∉ h.cedidos ∨ p ∈ toma v e)
    (hentrega : p ∉ entrega v e) : p ∉ (anotarEntregas v e h).cedidos := by
  rw [mem_cedidos]
  rintro (⟨hmem, htoma⟩ | hmem)
  · rcases hp with hp | hp
    · exact hp hmem
    · exact htoma hp
  · exact hentrega hmem

/-! ### Every step keeps the invariant -/

/-- A thread has no program in its hands twice. -/
theorem Propio.duenio_nodup (h : Propio s) (hloc : loc ∈ s.hilos) : loc.duenio.Nodup := by
  have hnodup := h.duenios_nodup
  rw [Kernel.duenios, Multiset.nodup_add] at hnodup
  exact Multiset.nodup_of_le (le_total hloc) hnodup.2.1

/-- **What the thread of a CPU has in its hands it has not handed over**, after a step of the
kernel. -/
theorem EnManos.cpu_paso (hv : EnManos v h) {e : Evento} (hpaso : Paso v.sistema e s') {i : ℕ}
    (hi : s'.hilos[i]? = some loc) (hx : x ∈ loc.duenio) :
    (Quien.cpu i, x) ∉ (anotarEntregas v (.kernel e) h).cedidos := by
  have hotro (hq : (Suceso.kernel e).quien ≠ some (.cpu i)) (hi : v.sistema.hilos[i]? = some loc) :
      (Quien.cpu i, x) ∉ (anotarEntregas v (.kernel e) h).cedidos := by
    rw [mem_cedidos_otro hq]
    exact hv.cpu i loc hi x hx
  cases hpaso.transicion with
  | conexion =>
      rw [List.getElem?_append] at hi
      split at hi
      · exact hotro (by simp [Suceso.quien]) hi
      · obtain rfl := List.mem_singleton.1 (List.mem_of_getElem? hi)
        exact absurd hx (Multiset.notMem_zero x)
  | @hilo k loc₁ loc' c' hk hloc =>
      simp only [List.getElem?_set] at hi
      split at hi
      · rename_i heq
        subst heq
        rw [if_pos (List.getElem?_eq_some_iff.1 hk).1] at hi
        cases hi
        have hnodup := hv.propio.duenio_nodup (List.mem_of_getElem? hk)
        obtain ⟨hantes, hentrega⟩ := duenio_pasoHilo hnodup hloc hx
        refine not_mem_cedidos ?_ ?_
        · rcases hantes with hantes | htoma
          · exact Or.inl (hv.cpu k loc₁ hk x hantes)
          · refine Or.inr ?_
            simpa only [toma, hk, Option.elim_some] using List.mem_map_of_mem htoma
        · simp only [entrega, hk, Option.elim_some]
          intro hmem
          obtain ⟨y, hy, heq⟩ := List.mem_map.1 hmem
          cases heq
          exact hentrega hy
      · rename_i hne
        refine hotro ?_ hi
        intro heq
        cases heq
        exact hne rfl
  | @mensaje k programa mensaje hk =>
      simp only [List.getElem?_set] at hi
      split at hi
      · rename_i heq
        subst heq
        rw [if_pos (List.getElem?_eq_some_iff.1 hk).1] at hi
        cases hi
        obtain rfl := duenio_recibirMensaje hx
        rw [mem_cedidos_otro (by simp [Suceso.quien])]
        exact hv.cpu k _ hk x (Multiset.mem_singleton_self x)
      · exact hotro (by simp [Suceso.quien]) hi
  | @dispositivo j c' hc =>
      exact hotro (by simp [Suceso.quien]) hi
  | @plp peso plp c' hc =>
      exact hotro (by simp [Suceso.quien]) hi
  | @principal pcb principal c' hc =>
      exact hotro (by simp [Suceso.quien]) hi
  | @salida salida c' hc =>
      exact hotro (by simp [Suceso.quien]) hi

/-- The long-term scheduler leaves the devices alone. -/
theorem dispositivos_pasoPlp {peso : Option ℤ} {l l' : LocPlp}
    (hpaso : pasoPlp c peso l = some (l', c')) : c'.dispositivos = c.dispositivos := by
  cases pasoPlp_avanza hpaso <;> rfl

/-- **What the thread of a device has in its hands it has not handed over**, after a step of the
kernel. -/
theorem EnManos.dispositivo_paso (hv : EnManos v h) {e : Evento}
    (hpaso : Paso v.sistema e s') {j : ℕ} {b : Dispositivo}
    (hj : s'.comun.dispositivos[j]? = some b) (hx : x ∈ b.hilo.duenio) :
    (Quien.dispositivo j, x) ∉ (anotarEntregas v (.kernel e) h).cedidos := by
  have hotro (hq : (Suceso.kernel e).quien ≠ some (.dispositivo j))
      (hantes : ∃ a, v.sistema.comun.dispositivos[j]? = some a ∧ b.hilo = a.hilo) :
      (Quien.dispositivo j, x) ∉ (anotarEntregas v (.kernel e) h).cedidos := by
    obtain ⟨a, ha, hhilo⟩ := hantes
    rw [mem_cedidos_otro hq]
    exact hv.dispositivo j a ha x (hhilo ▸ hx)
  cases hpaso.transicion with
  | conexion =>
      exact hotro (by simp [Suceso.quien]) ⟨b, hj, rfl⟩
  | @hilo k loc₁ loc' c' hk hloc =>
      exact hotro (by simp [Suceso.quien]) (hilo_dispositivos hloc hj)
  | @mensaje k _ mensaje _ =>
      exact hotro (by simp [Suceso.quien]) ⟨b, hj, rfl⟩
  | @dispositivo k c' hc =>
      cases hk : v.sistema.comun.dispositivos[k]? with
      | none =>
          rw [pasoDispositivo, hk] at hc
          exact absurd hc (by simp)
      | some a =>
          rcases duenio_pasoDispositivo hk hc hj hx with ⟨rfl, htoma, hentrega⟩ | ⟨hne, hantes⟩
          · refine not_mem_cedidos (Or.inr ?_) ?_
            · simpa only [toma, hk, Option.elim_some] using List.mem_map_of_mem htoma
            · simp [entrega, hk, hentrega]
          · refine hotro ?_ ⟨b, hantes, rfl⟩
            intro heq
            cases heq
            exact hne rfl
  | @plp peso plp c' hc =>
      refine hotro (by simp [Suceso.quien]) ⟨b, ?_, rfl⟩
      rw [← dispositivos_pasoPlp hc]
      exact hj
  | @principal pcb principal c' hc =>
      refine hotro (by simp [Suceso.quien]) ⟨b, ?_, rfl⟩
      rw [← (pasoPrincipal_colas hc).dispositivos]
      exact hj
  | @salida salida c' hc =>
      refine hotro (by simp [Suceso.quien]) ⟨b, ?_, rfl⟩
      generalize v.sistema.salida = l at hc
      cases pasoSalida_avanza hc <;> exact hj

/-- Only the long-term scheduler puts in Ready a program that arrives. -/
theorem admitidos_paso {e : Evento} (hpaso : Paso s e s') :
    (∀ peso, e ≠ .plp peso) ∧ s'.comun.admitidos = s.comun.admitidos ∨
      ∃ peso, e = .plp peso ∧ s'.comun.admitidos = s.comun.admitidos ++ s.plp.entrega s.comun := by
  cases hpaso.transicion with
  | conexion =>
      exact Or.inl ⟨fun _ => Evento.noConfusion, rfl⟩
  | @hilo k loc₁ loc' c' hk hloc =>
      exact Or.inl ⟨fun _ => Evento.noConfusion, (pasoHilo_marco hloc).admitidos⟩
  | @mensaje k _ mensaje _ =>
      exact Or.inl ⟨fun _ => Evento.noConfusion, rfl⟩
  | @dispositivo k c' hc =>
      obtain ⟨ready, dispositivos, n, rfl⟩ := pasoDispositivo_marco hc
      exact Or.inl ⟨fun _ => Evento.noConfusion, rfl⟩
  | @plp peso plp c' hc =>
      refine Or.inr ⟨peso, rfl, ?_⟩
      generalize s.plp = l at hc
      cases pasoPlp_avanza hc with
      | mueve hnew => simp [LocPlp.entrega, hnew]
      | _ => exact (List.append_nil _).symm
  | @principal pcb principal c' hc =>
      generalize s.principal = l at hc
      cases pasoPrincipal_avanza hc <;> exact Or.inl ⟨fun _ => Evento.noConfusion, rfl⟩
  | @salida salida c' hc =>
      generalize s.salida = l at hc
      cases pasoSalida_avanza hc <;> exact Or.inl ⟨fun _ => Evento.noConfusion, rfl⟩

/-- **What the long-term scheduler has handed over was put in Ready**, after a step of the
kernel. -/
theorem EnManos.planificador_paso (hv : EnManos v h) {e : Evento} (hpaso : Paso v.sistema e s')
    (hx : (Quien.planificador, x) ∈ (anotarEntregas v (.kernel e) h).cedidos) :
    x ∈ s'.comun.admitidos := by
  rcases admitidos_paso hpaso with ⟨hotro, hadmitidos⟩ | ⟨peso, rfl, hadmitidos⟩
  · have hquien : (Suceso.kernel e).quien ≠ some .planificador := by
      cases e with
      | plp peso => exact absurd rfl (hotro peso)
      | _ => exact fun heq => by simp [Suceso.quien] at heq
    rw [hadmitidos]
    exact hv.planificador x ((mem_cedidos_otro hquien).1 hx)
  · rw [hadmitidos, List.mem_append]
    rcases mem_cedidos.1 hx with ⟨hx, -⟩ | hx
    · exact Or.inl (hv.planificador x hx)
    · obtain ⟨y, hy, heq⟩ := List.mem_map.1 hx
      cases heq
      exact Or.inr hy

/-- What is left to be logged by the thread of a CPU is what was left, or the program that it is
about to end. -/
theorem porRegistrar_tras {e : Evento} {i : ℕ} (hx : (v.tras e s').porRegistrar i = some x) :
    (∃ fin, e = .hilo i ∧ v.sistema.hilos[i]? = some (.moverAExit x fin)) ∨
      v.porRegistrar i = some x := by
  unfold Vigilado.tras at hx
  split at hx
  · rename_i k
    split at hx
    · rename_i programa fin hk
      rcases eq_or_ne i k with rfl | hne
      · simp only [Function.update_self, Option.some_inj] at hx
        subst hx
        exact Or.inl ⟨fin, rfl, hk⟩
      · simp only [Function.update_of_ne hne] at hx
        exact Or.inr hx
    · exact Or.inr hx
  · split at hx <;> exact Or.inr hx
  · split at hx <;> exact Or.inr hx
  · exact Or.inr hx

/-- **The line to be logged is about a program that was handed over**, once the thread is to log it;
after a step of the kernel. -/
theorem EnManos.registro_paso (hv : EnManos v h) {e : Evento} (hocupado : v.ocupado e = false)
    (hpaso : Paso v.sistema e s') {i : ℕ} (htras : (v.tras e s').porRegistrar i = some x) :
    ∃ loc, s'.hilos[i]? = some loc ∧
      loc.Saliendo x ((Quien.cpu i, x) ∈ (anotarEntregas v (.kernel e) h).cedidos) := by
  rcases porRegistrar_tras htras with ⟨fin, rfl, hi⟩ | hx
  · have hmem := List.mem_of_getElem? hi
    have hexec := (hv.propio.coherente hmem).enExec x (Multiset.mem_singleton_self x)
    unfold Paso paso at hpaso
    simp only [hi, pasoHilo, quitarExec_propio hv.propio.pids hexec, Option.map_some,
      Option.some_inj] at hpaso
    subst hpaso
    refine ⟨.agregaExit x fin, ?_, rfl⟩
    rw [List.getElem?_set, if_pos rfl, if_pos (List.getElem?_eq_some_iff.1 hi).1]
  obtain ⟨loc, hi, hsale⟩ := hv.registro i x hx
  have hotro (hq : (Suceso.kernel e).quien ≠ some (.cpu i)) (hi' : s'.hilos[i]? = some loc) :
      ∃ loc, s'.hilos[i]? = some loc ∧
        loc.Saliendo x ((Quien.cpu i, x) ∈ (anotarEntregas v (.kernel e) h).cedidos) := by
    refine ⟨loc, hi', ?_⟩
    rw [mem_cedidos_otro hq]
    exact hsale
  cases hpaso.transicion with
  | conexion =>
      refine hotro (by simp [Suceso.quien]) ?_
      rw [List.getElem?_append_left (List.getElem?_eq_some_iff.1 hi).1]
      exact hi
  | @hilo k loc₁ loc' c' hk hloc =>
      rcases eq_or_ne k i with rfl | hne
      · obtain rfl := Option.some_inj.1 (hk.symm.trans hi)
        refine ⟨loc', ?_, ?_⟩
        · rw [List.getElem?_set, if_pos rfl, if_pos (List.getElem?_eq_some_iff.1 hi).1]
        have hsigue (hnada : loc₁.toma v.sistema.comun = [])
            (hcedido : (Quien.cpu k, x) ∈ h.cedidos) :
            (Quien.cpu k, x) ∈ (anotarEntregas v (.kernel (.hilo k)) h).cedidos :=
          mem_cedidos.2 (Or.inl ⟨hcedido, by simp [toma, hi, hnada]⟩)
        cases loc₁ with
        | agregaExit y fin =>
            cases hloc
            obtain rfl : y = x := hsale
            exact mem_cedidos.2 (Or.inr (by simp [entrega, hi, Loc.entrega]))
        | aumentaMultiprogramacion fin =>
            cases hloc
            exact hsigue rfl hsale
        | postExit fin =>
            cases hloc
            exact hsigue rfl hsale
        | postNuevo fin =>
            cases hloc
            cases fin <;> exact hsigue rfl hsale
        | esperaReady => exact absurd hocupado (by simp [Vigilado.ocupado, hx, hi])
        | terminado => exact absurd hloc (by simp [pasoHilo])
        | _ => exact hsale.elim
      · refine hotro ?_ ?_
        · intro heq
          cases heq
          exact hne rfl
        · rw [List.getElem?_set_ne hne]
          exact hi
  | @mensaje k programa mensaje hk =>
      refine hotro (by simp [Suceso.quien]) ?_
      rw [List.getElem?_set_ne]
      · exact hi
      · rintro rfl
        obtain rfl := Option.some_inj.1 (hk.symm.trans hi)
        exact hsale.elim
  | @dispositivo j c' hc =>
      exact hotro (by simp [Suceso.quien]) hi
  | @plp peso plp c' hc =>
      exact hotro (by simp [Suceso.quien]) hi
  | @principal pcb principal c' hc =>
      exact hotro (by simp [Suceso.quien]) hi
  | @salida salida c' hc =>
      exact hotro (by simp [Suceso.quien]) hi

/-- The line that the long-term scheduler is to log is about a program that it has handed over,
after a step of the kernel. -/
theorem EnManos.registroReady_paso (hv : EnManos v h) {e : Evento}
    (hx : (v.tras e s').porRegistrarReady = some x) :
    (Quien.planificador, x) ∈ (anotarEntregas v (.kernel e) h).cedidos := by
  have hqueda (hq : (Suceso.kernel e).quien ≠ some .planificador)
      (hx : v.porRegistrarReady = some x) :
      (Quien.planificador, x) ∈ (anotarEntregas v (.kernel e) h).cedidos :=
    (mem_cedidos_otro hq).2 (hv.registroReady x hx)
  cases e with
  | plp peso =>
      simp only [Vigilado.tras] at hx
      split at hx
      · rename_i hplp
        refine mem_cedidos.2 (Or.inr ?_)
        simp only [entrega, hplp, LocPlp.entrega]
        cases hnew : v.sistema.comun.newProcesos with
        | nil => exact absurd hx (by simp [hnew])
        | cons p resto =>
            obtain rfl : p.1 = x := by simpa [hnew] using hx
            simp
      · rename_i hplp
        refine mem_cedidos.2 (Or.inl ⟨hv.registroReady x hx, ?_⟩)
        have hnada : v.sistema.plp.entrega v.sistema.comun = [] := by
          generalize v.sistema.plp = l at hplp
          cases l with
          | mueve => exact absurd rfl hplp
          | _ => rfl
        simp [toma, hnada]
  | hilo k =>
      refine hqueda (by simp [Suceso.quien]) ?_
      simp only [Vigilado.tras] at hx
      split at hx <;> exact hx
  | salida =>
      refine hqueda (by simp [Suceso.quien]) ?_
      simp only [Vigilado.tras] at hx
      split at hx <;> exact hx
  | _ => exact hqueda (by simp [Suceso.quien]) hx

/-- **What was handed to `exitProcesos` was freed, is about to be freed or is there**, after a step
of the kernel. -/
theorem EnManos.terminados_paso (hv : EnManos v h) {e : Evento} (hocupado : v.ocupado e = false)
    (hpaso : Paso v.sistema e s') :
    s'.comun.entregados =
      h.terminados ++ (v.tras e s').porLiberar.toList ++ s'.comun.exitProcesos := by
  have hmismo (hliberar : (v.tras e s').porLiberar = v.porLiberar)
      (hnuevos : ∃ nuevos, s'.comun.entregados = v.sistema.comun.entregados ++ nuevos ∧
        s'.comun.exitProcesos = v.sistema.comun.exitProcesos ++ nuevos) :
      s'.comun.entregados =
        h.terminados ++ (v.tras e s').porLiberar.toList ++ s'.comun.exitProcesos := by
    obtain ⟨nuevos, hentregados, hexit⟩ := hnuevos
    rw [hentregados, hexit, hliberar, hv.terminados, List.append_assoc]
  have hnada (hentregados : s'.comun.entregados = v.sistema.comun.entregados)
      (hexit : s'.comun.exitProcesos = v.sistema.comun.exitProcesos) :
      ∃ nuevos, s'.comun.entregados = v.sistema.comun.entregados ++ nuevos ∧
        s'.comun.exitProcesos = v.sistema.comun.exitProcesos ++ nuevos :=
    ⟨[], by rw [hentregados, List.append_nil], by rw [hexit, List.append_nil]⟩
  cases hpaso.transicion with
  | conexion =>
      exact hmismo rfl (hnada rfl rfl)
  | @hilo k loc₁ loc' c' hk hloc =>
      refine hmismo ?_ (entregados_pasoHilo hloc)
      simp only [Vigilado.tras]
      split <;> rfl
  | @mensaje k _ mensaje _ =>
      exact hmismo rfl (hnada rfl rfl)
  | @dispositivo j c' hc =>
      obtain ⟨ready, dispositivos, n, rfl⟩ := pasoDispositivo_marco hc
      exact hmismo rfl (hnada rfl rfl)
  | @plp peso plp c' hc =>
      refine hmismo ?_ ?_
      · simp only [Vigilado.tras]
        split <;> rfl
      · generalize v.sistema.plp = l at hc
        cases pasoPlp_avanza hc <;> exact hnada rfl rfl
  | @principal pcb principal c' hc =>
      refine hmismo rfl ?_
      generalize v.sistema.principal = l at hc
      cases pasoPrincipal_avanza hc <;> exact hnada rfl rfl
  | @salida salida c' hc =>
      generalize hl : v.sistema.salida = l at hc
      cases pasoSalida_avanza hc with
      | espera _ =>
          refine hmismo ?_ (hnada rfl rfl)
          simp only [Vigilado.tras, hl]
      | saca hexit =>
          have hlibre : v.porLiberar = none := by
            simpa [Vigilado.ocupado] using hocupado
          simp only [Vigilado.tras, hl, hexit, List.head?_cons, Option.toList_some]
          rw [hv.terminados, hlibre, hexit]
          simp

/-- **What was rejected is not on its way any more**, after a step of the kernel. -/
theorem EnManos.rechazados_paso (hv : EnManos v h) {e : Evento} (hpaso : Paso v.sistema e s')
    (hmem : x ∈ (anotarEntregas v (.kernel e) h).rechazados) :
    x < s'.comun.cantidad ∧ x ∉ llegadas s' := by
  obtain ⟨hcantidad, hllegadas⟩ := llegadas_paso hpaso
  rcases List.mem_append.1 hmem with hx | hx
  · obtain ⟨hlt, hno⟩ := hv.rechazados x hx
    exact ⟨hlt.trans_le hcantidad, fun hvuelve => hno (hllegadas x hlt hvuelve)⟩
  · unfold rechaza at hx
    split at hx
    · rename_i heq
      cases heq
      split at hx
      · rename_i programa hplp
        obtain rfl := List.mem_singleton.1 hx
        unfold Paso paso at hpaso
        simp only [hplp, pasoPlp, Option.map_some, Option.some_inj] at hpaso
        have hresto : llegadas s' + {x} = llegadas v.sistema := by
          rw [← hpaso]
          simp only [llegadas, hplp, LocPlp.llegada, add_zero]
          abel
        have hnodup := hv.propio.unicas
        rw [← hresto, Multiset.nodup_add] at hnodup
        have hestaba : x ∈ llegadas v.sistema := by
          rw [← hresto]
          exact Multiset.mem_add.2 (Or.inr (Multiset.mem_singleton_self x))
        exact ⟨(hv.propio.llegadas x hestaba).trans_le hcantidad,
          fun hqueda => Multiset.disjoint_left.1 hnodup.2.2 hqueda (Multiset.mem_singleton_self x)⟩
      · exact absurd hx List.not_mem_nil
    · exact absurd hx List.not_mem_nil

/-- An access changes nothing of what was handed over. -/
theorem EnManos.igual (hv : EnManos v h) {h' : Entregas} (hsistema : v'.sistema = v.sistema)
    (hcedidos : h'.cedidos = h.cedidos) (hrechazados : h'.rechazados = h.rechazados)
    (hterminados : h'.terminados ++ v'.porLiberar.toList = h.terminados ++ v.porLiberar.toList)
    (hregistro : ∀ i x, v'.porRegistrar i = some x → v.porRegistrar i = some x)
    (hready : ∀ x, v'.porRegistrarReady = some x → v.porRegistrarReady = some x) :
    EnManos v' h' where
  propio := by
    rw [hsistema]
    exact hv.propio
  cpu := by
    rw [hsistema, hcedidos]
    exact hv.cpu
  dispositivo := by
    rw [hsistema, hcedidos]
    exact hv.dispositivo
  planificador := by
    rw [hsistema, hcedidos]
    exact hv.planificador
  salida := by
    rw [hcedidos]
    exact hv.salida
  terminados := by
    rw [hsistema, hterminados]
    exact hv.terminados
  rechazados := by
    rw [hsistema, hrechazados]
    exact hv.rechazados
  registro := by
    rw [hsistema, hcedidos]
    exact fun i x hx => hv.registro i x (hregistro i x hx)
  registroReady := by
    rw [hcedidos]
    exact fun x hx => hv.registroReady x (hready x hx)

/-- Nothing is taken or handed over but by the steps of the kernel. -/
theorem cedidos_acceso {e : Suceso} (he : ∀ e', e ≠ .kernel e') :
    (anotarEntregas v e h).cedidos = h.cedidos ∧
    (anotarEntregas v e h).rechazados = h.rechazados := by
  cases e with
  | kernel e' => exact absurd rfl (he e')
  | _ => constructor <;> simp [anotarEntregas, toma, entrega, rechaza]

/-- **Every step keeps the invariant.** -/
theorem EnManos.paso {e : Suceso} (hv : EnManos v h) (hpids : ConPidsVigilado (v, h) e)
    (hpaso : PasoVigilado v e v') : EnManos v' (anotarEntregas v e h) := by
  cases e with
  | kernel e =>
      obtain ⟨hocupado, s', hs', rfl⟩ := pasoVigilado_kernel hpaso
      constructor
      case propio =>
        rw [sistema_tras]
        exact hv.propio.paso hpids hs'
      case cpu =>
        rw [sistema_tras]
        exact fun i loc hi x hx => hv.cpu_paso hs' hi hx
      case dispositivo =>
        rw [sistema_tras]
        exact fun j unDispo hj x hx => hv.dispositivo_paso hs' hj hx
      case planificador =>
        rw [sistema_tras]
        exact fun x hx => hv.planificador_paso hs' hx
      case salida =>
        intro x hx
        rcases mem_cedidos.1 hx with ⟨hx, -⟩ | hx
        · exact hv.salida x hx
        · have hquien := quien_of_entrega hx
          cases e with
          | salida => exact absurd hx List.not_mem_nil
          | _ => exact absurd hquien (by simp [Suceso.quien])
      case terminados =>
        rw [sistema_tras]
        simpa only [anotarEntregas, List.append_nil] using hv.terminados_paso hocupado hs'
      case rechazados =>
        rw [sistema_tras]
        exact fun x hx => hv.rechazados_paso hs' hx
      case registro =>
        rw [sistema_tras]
        exact fun i x hx => hv.registro_paso hocupado hs' hx
      case registroReady => exact fun x hx => hv.registroReady_paso hx
  | lee i =>
      obtain ⟨hcedidos, hrechazados⟩ := cedidos_acceso (v := v) (h := h) (e := .lee i)
        fun _ => Suceso.noConfusion
      unfold PasoVigilado pasoVigilado at hpaso
      simp only at hpaso
      split at hpaso <;> cases hpaso
      exact hv.igual rfl hcedidos hrechazados (by simp [anotarEntregas]) (fun _ _ hx => hx)
        fun _ hx => hx
  | registra i =>
      obtain ⟨hcedidos, hrechazados⟩ := cedidos_acceso (v := v) (h := h) (e := .registra i)
        fun _ => Suceso.noConfusion
      have hmenos (k : ℕ) (x : Programa) (hx : Function.update v.porRegistrar i none k = some x) :
          v.porRegistrar k = some x := by
        rcases eq_or_ne k i with rfl | hne
        · exact absurd hx (by simp)
        · rwa [Function.update_of_ne hne] at hx
      unfold PasoVigilado pasoVigilado at hpaso
      simp only at hpaso
      split at hpaso <;> cases hpaso
      all_goals
        exact hv.igual rfl hcedidos hrechazados (by simp [anotarEntregas]) hmenos fun _ hx => hx
  | registraReady =>
      obtain ⟨hcedidos, hrechazados⟩ := cedidos_acceso (v := v) (h := h) (e := .registraReady)
        fun _ => Suceso.noConfusion
      unfold PasoVigilado pasoVigilado at hpaso
      simp only at hpaso
      split at hpaso <;> cases hpaso
      exact hv.igual rfl hcedidos hrechazados (by simp [anotarEntregas]) (fun _ _ hx => hx)
        fun _ hx => absurd hx (by simp)
  | libera =>
      obtain ⟨hcedidos, hrechazados⟩ := cedidos_acceso (v := v) (h := h) (e := .libera)
        fun _ => Suceso.noConfusion
      obtain ⟨y, hy, rfl⟩ := Option.map_eq_some_iff.1 hpaso
      exact hv.igual rfl hcedidos hrechazados (by simp [anotarEntregas, hy]) (fun _ _ hx => hx)
        fun _ hx => hx

/-- The invariant holds in every run. -/
theorem enManos_run {configuracion : Configuracion} {tr : List Suceso} {p : Vigilado × Entregas}
    (hrun : Lts.Run (Lts.restrict ConPidsVigilado PasoAnotado)
      (vigiladoInicial configuracion, .nada) tr p) : EnManos p.1 p.2 := by
  refine hrun.invariant (I := fun p => EnManos p.1 p.2) ?_ (enManos_inicial configuracion)
  rintro ⟨v, h⟩ e ⟨v', h'⟩ hv ⟨hpids, hpaso, rfl⟩
  exact hv.paso hpids hpaso

/-! ### The accesses -/

/-- A program that was put in Ready, or is on its way, and was not handed to `exitProcesos` has not
been freed. -/
theorem EnManos.vivo (hv : EnManos v h) (hllegada : x ∈ llegadas v.sistema)
    (hno : x ∉ v.sistema.comun.entregados) : x ∉ h.terminados ++ h.rechazados := by
  intro hmem
  rcases List.mem_append.1 hmem with hmem | hmem
  · refine hno ?_
    rw [hv.terminados, List.append_assoc]
    exact List.mem_append_left _ hmem
  · exact (hv.rechazados x hmem).2 hllegada

/-- A program that was put in Ready is on the way to it in the history. -/
theorem mem_llegadas_of_admitido (hx : x ∈ s.comun.admitidos) : x ∈ llegadas s :=
  Multiset.mem_of_le (admitidos_le_llegadas s) (Multiset.mem_coe.2 hx)

/-- What a thread of a CPU has in its hands was not handed to `exitProcesos`. -/
theorem Propio.no_entregado (h : Propio s) (hloc : loc ∈ s.hilos) (hx : x ∈ loc.duenio) :
    x ∉ s.comun.entregados := by
  intro hmem
  have hnodup := h.duenios_nodup
  rw [Kernel.duenios, Multiset.nodup_add] at hnodup
  refine Multiset.disjoint_left.1 hnodup.2.2 ?_ (Multiset.mem_of_le (le_total hloc) hx)
  exact Multiset.mem_add.2 (Or.inr (Multiset.mem_coe.2 hmem))

/-- What the thread of a device has in its hands was put in Ready, and was not handed to
`exitProcesos`. -/
theorem Propio.no_entregado_dispositivo (h : Propio s) {unDispo : Dispositivo}
    (hmem : unDispo ∈ s.comun.dispositivos) (hx : x ∈ unDispo.hilo.duenio) :
    x ∈ s.comun.admitidos ∧ x ∉ s.comun.entregados := by
  have htotal : x ∈ total Dispositivo.duenio s.comun.dispositivos :=
    Multiset.mem_of_le (le_total hmem) (Multiset.mem_add.2 (Or.inr hx))
  have hcomun : x ∈ duenios s :=
    Multiset.mem_add.2 (Or.inl (Multiset.mem_add.2 (Or.inl (Multiset.mem_add.2 (Or.inr htotal)))))
  refine ⟨Multiset.mem_coe.1 (Multiset.mem_of_le h.duenios_le hcomun), fun hentregado => ?_⟩
  have hnodup := h.duenios_nodup
  rw [Kernel.duenios, Multiset.nodup_add, dueniosComun, Multiset.nodup_add] at hnodup
  exact Multiset.disjoint_left.1 hnodup.1.2.2 (Multiset.mem_add.2 (Or.inr htotal))
    (Multiset.mem_coe.2 hentregado)

/-- **A thread accesses as its own only what it has in its hands**: it has not handed it over, and
nobody has freed it. -/
theorem EnManos.acceso_propio (hv : EnManos v h) {e : Suceso} {a : Acceso} (ha : a ∈ accesos v e)
    (hclase : a.clase = .propio) :
    (a.quien, a.programa) ∉ h.cedidos ∧ a.programa ∉ h.terminados ++ h.rechazados := by
  have hcpu {i : ℕ} {loc : Loc} {x : Programa} (hi : v.sistema.hilos[i]? = some loc)
      (hx : x ∈ loc.duenio) : (Quien.cpu i, x) ∉ h.cedidos ∧ x ∉ h.terminados ++ h.rechazados := by
    have hmem := List.mem_of_getElem? hi
    exact ⟨hv.cpu i loc hi x hx, hv.vivo (mem_llegadas_of_admitido (hv.propio.admitido hmem hx))
      (hv.propio.no_entregado hmem hx)⟩
  unfold accesos at ha
  split at ha
  · rename_i i
    cases hi : v.sistema.hilos[i]? with
    | none => exact absurd ha (by simp [hi])
    | some loc =>
        simp only [hi, Option.elim_some] at ha
        obtain ⟨⟨x, clase⟩, hx, rfl⟩ := List.mem_map.1 ha
        obtain rfl := claseEn_eq_propio hclase
        exact hcpu hi (duenio_of_acceso hv.propio.pids
          (hv.propio.coherente (List.mem_of_getElem? hi)) hx)
  · rename_i j
    cases hj : v.sistema.comun.dispositivos[j]? with
    | none => exact absurd ha (by simp [hj])
    | some unDispo =>
        simp only [hj, Option.elim_some] at ha
        obtain ⟨⟨x, clase⟩, hx, rfl⟩ := List.mem_map.1 ha
        have hduenio : x ∈ unDispo.hilo.duenio := by
          generalize unDispo.hilo = l at hx
          cases l with
          | duerme y retardo =>
              exact Multiset.mem_singleton.2 (congrArg Prod.fst (List.mem_singleton.1 hx))
          | _ => exact absurd hx List.not_mem_nil
        obtain ⟨hadmitido, hno⟩ :=
          hv.propio.no_entregado_dispositivo (List.mem_of_getElem? hj) hduenio
        exact ⟨hv.dispositivo j unDispo hj x hduenio,
          hv.vivo (mem_llegadas_of_admitido hadmitido) hno⟩
  · obtain ⟨⟨x, clase⟩, hx, rfl⟩ := List.mem_map.1 ha
    cases hplp : v.sistema.plp with
    | guarda y =>
        rw [hplp] at hx
        obtain rfl : x = y := congrArg Prod.fst (List.mem_singleton.1 hx)
        -- the program that is being prepared has not been put in Ready
        have hunicas := hv.propio.unicas
        have hmem : x ∈ v.sistema.plp.llegada := by
          rw [hplp]
          exact Multiset.mem_singleton_self x
        have hno : x ∉ v.sistema.comun.admitidos := by
          intro hadmitido
          rw [llegadas, Multiset.nodup_add, Multiset.nodup_add] at hunicas
          refine Multiset.disjoint_left.1 hunicas.1.2.2 ?_ hmem
          exact Multiset.mem_add.2
            (Or.inl (Multiset.mem_add.2 (Or.inl (Multiset.mem_coe.2 hadmitido))))
        refine ⟨fun hcedido => hno (hv.planificador x hcedido), hv.vivo ?_ ?_⟩
        · exact Multiset.mem_add.2 (Or.inl (Multiset.mem_add.2 (Or.inr hmem)))
        · intro hentregado
          exact hno (Multiset.mem_coe.1
            (Multiset.mem_of_le hv.propio.entregados_le (Multiset.mem_coe.2 hentregado)))
    | _ =>
        rw [hplp] at hx
        exact absurd hx List.not_mem_nil
  · exact absurd ha List.not_mem_nil
  · split at ha
    · rename_i programa hi
      obtain rfl := List.mem_singleton.1 ha
      exact hcpu hi (Multiset.mem_singleton_self programa)
    · exact absurd ha List.not_mem_nil
  · obtain ⟨x, -, rfl⟩ := List.mem_map.1 ha
    exact absurd hclase (by simp)
  · obtain ⟨x, -, rfl⟩ := List.mem_map.1 ha
    exact absurd hclase (by simp)
  · obtain ⟨x, hx, rfl⟩ := List.mem_map.1 ha
    -- the program that is about to be freed was handed to `exitProcesos` once
    have hnodup := hv.propio.entregados_nodup
    have hmem : x ∈ v.sistema.comun.entregados := by
      rw [hv.terminados]
      exact List.mem_append_left _ (List.mem_append_right _ hx)
    rw [hv.terminados, List.nodup_append, List.nodup_append] at hnodup
    refine ⟨hv.salida x, fun hfreed => ?_⟩
    rcases List.mem_append.1 hfreed with hterminado | hrechazado
    · exact hnodup.1.2.2 x hterminado x hx rfl
    · refine (hv.rechazados x hrechazado).2 (mem_llegadas_of_admitido ?_)
      exact Multiset.mem_coe.1
        (Multiset.mem_of_le hv.propio.entregados_le (Multiset.mem_coe.2 hmem))

/-- **What a thread passes over** is in `listaExec`; unless `mandarADispositivo` has left it there,
nobody has freed it. -/
theorem EnManos.acceso_recorrida (hv : EnManos v h) {e : Suceso} {a : Acceso} (ha : a ∈ accesos v e)
    (hclase : a.clase = .recorrida) : a.programa ∉ h.terminados ++ h.rechazados := by
  obtain ⟨hexec, htransito⟩ := recorrida_of_acceso ha hclase
  have hcount := hv.propio.count_exec_le (quitaExec_of_enTransito htransito)
  have hadmitidos := Multiset.nodup_iff_count_le_one.1
    (Multiset.coe_nodup.2 hv.propio.admitidos_nodup) a.programa
  have huna : 0 < (v.sistema.comun.listaExec : Multiset Programa).count a.programa :=
    Multiset.count_pos.2 (Multiset.mem_coe.2 hexec)
  rw [Multiset.count_add] at hcount
  refine hv.vivo (mem_llegadas_of_admitido ?_) fun hentregado => ?_
  · exact Multiset.mem_coe.1 (Multiset.count_pos.1 (by omega))
  · have hduenio : 0 < (dueniosComun v.sistema.comun).count a.programa :=
      Multiset.count_pos.2 (Multiset.mem_add.2 (Or.inr (Multiset.mem_coe.2 hentregado)))
    omega

/-- **A program that `mandarADispositivo` is not moving is not in two of the lists.** -/
theorem EnManos.listas (hv : EnManos v h) (htransito : enTransito v.sistema x = false) :
    (enListas v.sistema.comun).count x ≤ 1 := by
  have hexit : (v.sistema.comun.exitProcesos : Multiset Programa) ≤ v.sistema.comun.entregados := by
    rw [hv.terminados]
    exact Multiset.coe_le.2 (List.sublist_append_right _ _).subperm
  have hcolas : total (fun d : Dispositivo =>
      ((d.progEncolados.map Prod.fst : List Programa) : Multiset Programa))
        v.sistema.comun.dispositivos ≤ total Dispositivo.duenio v.sistema.comun.dispositivos :=
    total_le_total fun d _ => Multiset.le_add_right _ _
  have hlistas : enListas v.sistema.comun ≤
      dueniosComun v.sistema.comun + (v.sistema.comun.listaExec : Multiset Programa) :=
    calc enListas v.sistema.comun
        ≤ (v.sistema.comun.listaReady.reduceOption : Multiset Programa) +
            (v.sistema.comun.listaExec : Multiset Programa) +
            (v.sistema.comun.entregados : Multiset Programa) +
            total Semaforo.duenio v.sistema.comun.semaforos +
            total Dispositivo.duenio v.sistema.comun.dispositivos :=
          add_le_add (add_le_add (add_le_add le_rfl hexit) le_rfl) hcolas
      _ = dueniosComun v.sistema.comun + (v.sistema.comun.listaExec : Multiset Programa) := by
          rw [dueniosComun]
          abel
  calc (enListas v.sistema.comun).count x
      ≤ (dueniosComun v.sistema.comun + (v.sistema.comun.listaExec : Multiset Programa)).count x :=
        Multiset.count_le_of_le x hlistas
    _ ≤ (v.sistema.comun.admitidos : Multiset Programa).count x :=
        hv.propio.count_exec_le (quitaExec_of_enTransito htransito)
    _ ≤ 1 := Multiset.nodup_iff_count_le_one.1 (Multiset.coe_nodup.2 hv.propio.admitidos_nodup) x

/-- **A step keeps to what the threads do.** -/
theorem EnReglaDeHecho.paso {e : Suceso} (hp : EnReglaDeHecho (v, h)) (hv : EnManos v h)
    (hv' : EnManos v' (anotarEntregas v e h)) : EnReglaDeHecho (v', anotarEntregas v e h) where
  tardios := by
    intro a ha hclase
    rcases List.mem_append.1 ha with ha | ha
    · exact hp.tardios a ha hclase
    · obtain ⟨hacceso, hcedido⟩ := List.mem_filter.1 ha
      cases hpropio : a.clase with
      | propio => exact absurd (of_decide_eq_true hcedido) (hv.acceso_propio hacceso hpropio).1
      | recorrida => rfl
      | _ =>
          rw [hpropio] at hclase
          exact absurd hclase (by decide)
  colgados := by
    intro a ha
    rcases List.mem_append.1 ha with ha | ha
    · exact hp.colgados a ha
    · obtain ⟨hacceso, hliberado⟩ := List.mem_filter.1 ha
      cases hclase : a.clase with
      | propio => exact absurd (of_decide_eq_true hliberado) (hv.acceso_propio hacceso hclase).2
      | recorrida => exact absurd (of_decide_eq_true hliberado) (hv.acceso_recorrida hacceso hclase)
      | _ => rfl
  listas := fun _ htransito => hv'.listas htransito

/-- **Programs that were handed over are left alone.**  In every run in which the PCBs have the pid
of their program, but for the lines that are logged after a program was handed over and for what
`mandarADispositivo` does with a program that is already in the queue of a device: the only accesses
of a thread to programs that it had handed over are those to the programs that it passes over in
`listaExec`, nobody accesses a program that had been freed, and no program is in two lists. -/
theorem entrega_respetada (configuracion : Configuracion) {tr : List Suceso}
    {p : Vigilado × Entregas} (hrun : Lts.Run (Lts.restrict ConPidsVigilado PasoAnotado)
      (vigiladoInicial configuracion, .nada) tr p) : EnReglaDeHecho p := by
  have hinv : EnManos p.1 p.2 ∧ EnReglaDeHecho p := by
    refine hrun.invariant (I := fun p => EnManos p.1 p.2 ∧ EnReglaDeHecho p) ?_
      ⟨enManos_inicial configuracion, fun _ ha => absurd ha List.not_mem_nil,
        fun _ ha => absurd ha List.not_mem_nil, fun _ htransito =>
          (enManos_inicial configuracion).listas htransito⟩
    rintro ⟨v, h⟩ e ⟨v', h'⟩ ⟨hv, hregla⟩ ⟨hpids, hpaso, rfl⟩
    have hv' := hv.paso hpids hpaso
    exact ⟨hv', hregla.paso hv hv'⟩
  exact hinv.2

/-- **What is logged was handed over**: the line after `moverAExit` is about a program of
`exitProcesos`, and that of the long-term scheduler about one of Ready. -/
theorem EnManos.registro_cedido (hv : EnManos v h) {e : Suceso}
    (he : (∃ i, e = .registra i) ∨ e = .registraReady) (hpaso : PasoVigilado v e v') {a : Acceso}
    (ha : a ∈ accesos v e) : (a.quien, a.programa) ∈ h.cedidos := by
  rcases he with ⟨i, rfl⟩ | rfl
  · obtain ⟨x, hx, rfl⟩ := List.mem_map.1 ha
    rw [Option.mem_toList] at hx
    obtain ⟨loc, hi, hsale⟩ := hv.registro i x hx
    unfold PasoVigilado pasoVigilado at hpaso
    simp only [hx, hi] at hpaso
    cases loc with
    | esperaReady => exact hsale
    | terminado => exact hsale
    | _ => exact absurd hpaso (by simp)
  · obtain ⟨x, hx, rfl⟩ := List.mem_map.1 ha
    exact hv.registroReady x (Option.mem_toList.1 hx)

/-- **The lines that are logged are late accesses**, in any run. -/
theorem registros_tardios (configuracion : Configuracion) {tr : List Suceso}
    {p q : Vigilado × Entregas} (hrun : Lts.Run (Lts.restrict ConPidsVigilado PasoAnotado)
      (vigiladoInicial configuracion, .nada) tr p) {e : Suceso}
    (he : (∃ i, e = .registra i) ∨ e = .registraReady) (hpaso : PasoAnotado p e q) :
    ∀ a ∈ accesos p.1 e, a ∈ q.2.tardios := by
  obtain ⟨hpaso, hhistoria⟩ := hpaso
  intro a ha
  rw [hhistoria]
  refine List.mem_append_right _ (List.mem_filter.2 ⟨ha, decide_eq_true ?_⟩)
  exact (enManos_run hrun).registro_cedido he hpaso ha

/-! ### A program that is read after it was handed over -/

/-- One step of the kernel with its accesses and their history. -/
def pasoAnotado (p : Vigilado × Entregas) (e : Suceso) : Option (Vigilado × Entregas) :=
  (pasoVigilado p.1 e).map fun v' => (v', anotarEntregas p.1 e p.2)

/-- The test of `ConPidsVigilado`. -/
def conPidsVigilado (p : Vigilado × Entregas) : Suceso → Bool
  | .kernel e => conPids p.1.sistema e
  | _ => true

theorem conPidsVigilado_of_test {p : Vigilado × Entregas} {e : Suceso}
    (he : conPidsVigilado p e = true) : ConPidsVigilado p e := by
  cases e with
  | kernel e => exact conPids_of_test he
  | _ => trivial

/-- Some steps in which the PCBs have the pid of their program are a run. -/
theorem run_of_pasoAnotado {tr : List Suceso} {p q : Vigilado × Entregas}
    (hrun : Lts.ejecutar pasoAnotado conPidsVigilado tr p = some q) :
    Lts.Run (Lts.restrict ConPidsVigilado PasoAnotado) p tr q := by
  refine (Lts.run_of_ejecutar hrun).simulation (R := Eq) ?_ rfl |>.elim fun q' hq => hq.2 ▸ hq.1
  rintro p e q _ rfl ⟨he, hpaso⟩
  obtain ⟨v', hv', rfl⟩ := Option.map_eq_some_iff.1 hpaso
  exact ⟨(v', anotarEntregas p.1 e p.2), ⟨conPidsVigilado_of_test he, hv', rfl⟩, rfl⟩

/-- A CPU runs a program for a burst and another CPU takes it.  Then the first CPU takes a second
program, which ends. -/
def trazaRecorrida : List Suceso :=
  trazaRafaga.map Suceso.kernel ++ [.registraReady] ++
    (llegaPrograma ++ tomaPrograma 0 ++
      [Evento.mensaje 0 (some (.notificarPorFinPrograma pcbNulo)), .hilo 0]).map Suceso.kernel

/-- The thread of the first CPU has read the first program, which it had handed over; nobody has
read a program that was freed. -/
theorem entrega_respetada_recorrida : ∃ p,
    Lts.ejecutar pasoAnotado conPidsVigilado trazaRecorrida
    (vigiladoInicial configuracionDisco, .nada) =
      some p ∧
    p.2.tardios = [⟨.planificador, 0, .registroReady⟩, ⟨.cpu 0, 0, .recorrida⟩] ∧
    EnReglaDeHecho p := by
  have hfin : (Lts.ejecutar pasoAnotado conPidsVigilado trazaRecorrida
      (vigiladoInicial configuracionDisco, .nada)).any (fun p => decide (p.2.tardios =
        [⟨.planificador, 0, .registroReady⟩, ⟨.cpu 0, 0, .recorrida⟩])) = true := by decide +kernel
  obtain ⟨p, hp, hfin⟩ := Option.any_eq_true _ _ |>.1 hfin
  exact ⟨p, hp, of_decide_eq_true hfin,
    entrega_respetada configuracionDisco (run_of_pasoAnotado hp)⟩

/-- **A thread reads a program that it handed over before**, and that another CPU runs, when it
looks for its own in `listaExec`. -/
theorem entrega_no_respetada : ∃ (configuracion : Configuracion) (tr : List Suceso)
    (p : Vigilado × Entregas), Lts.Run (Lts.restrict ConPidsVigilado PasoAnotado)
      (vigiladoInicial configuracion, .nada) tr p ∧
    (⟨.cpu 0, 0, .recorrida⟩ : Acceso) ∈ p.2.tardios ∧ ¬EnRegla p := by
  have hfin : (Lts.ejecutar pasoAnotado conPidsVigilado trazaRecorrida
      (vigiladoInicial configuracionDisco, .nada)).any
        (fun p => decide ((⟨.cpu 0, 0, .recorrida⟩ : Acceso) ∈ p.2.tardios)) =
          true := by decide +kernel
  obtain ⟨p, hp, hfin⟩ := Option.any_eq_true _ _ |>.1 hfin
  have htardio := of_decide_eq_true hfin
  refine ⟨configuracionDisco, trazaRecorrida, p, run_of_pasoAnotado hp, htardio, fun hregla => ?_⟩
  rw [hregla.tardios] at htardio
  exact List.not_mem_nil htardio

/-- A program arrives, a CPU runs it to its end, and the thread that ends programs takes it and
frees it. -/
def trazaLibera : List Suceso :=
  (llegaPrograma ++ [Evento.conexion] ++ tomaPrograma 0).map Suceso.kernel ++ [.lee 0] ++
    [Evento.mensaje 0 (some (.notificarPorFinPrograma pcbNulo)), .hilo 0, .hilo 0, .hilo 0, .hilo 0,
      .hilo 0, .salida, .salida].map Suceso.kernel ++ [.libera]

/-- **The thread of the CPU logs the pid of a program that has been freed**, when the thread that
ends programs comes in between. -/
theorem registra_liberado : ∃ p, Lts.Run (Lts.restrict ConPidsVigilado PasoAnotado)
      (vigiladoInicial configuracionDisco, .nada) (trazaLibera ++ [.registra 0]) p ∧
    p.2.colgados = [⟨.cpu 0, 0, .registro⟩] := by
  have hfin : (Lts.ejecutar pasoAnotado conPidsVigilado (trazaLibera ++ [.registra 0])
      (vigiladoInicial configuracionDisco, .nada)).any
        (fun p => decide (p.2.colgados = [⟨.cpu 0, 0, .registro⟩])) = true := by decide +kernel
  obtain ⟨p, hp, hfin⟩ := Option.any_eq_true _ _ |>.1 hfin
  exact ⟨p, run_of_pasoAnotado hp, of_decide_eq_true hfin⟩

end Ansisop.Kernel
