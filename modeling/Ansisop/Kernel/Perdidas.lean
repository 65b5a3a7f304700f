/-
**No program is lost by the kernel.**

Every program that was put in Ready has exactly one owner, in every state of every run: a list, a
device, the thread of a CPU, or `exitProcesos`.

Two things can break it.  A wait on a semaphore that is not configured leaves the program in
`listaExec` and goes on to another one; and a PCB that is not the one that the CPU was given has the
pid of another program.  The results are about the runs without them.

Main definitions:

* `Ansisop.Kernel.Protocolo` — the messages of a CPU that keeps its side of the protocol;
* `Ansisop.Kernel.Valido` — the invariant: the owners of the programs are those that were put in
  Ready;
* `Ansisop.Kernel.Sistema.Tiene` — the places where a program can be while no message is being
  handled.

Main results:

* `Ansisop.Kernel.Valido.paso` — **every step keeps the invariant**;
* `Ansisop.Kernel.no_se_pierde` — no program is lost, in any run;
* `Ansisop.Kernel.duerme_fuera_de_las_listas` — a program that a device serves is in no list.
-/

import Ansisop.Kernel.Conservacion

set_option relaxedAutoImplicit false
set_option autoImplicit false

namespace Ansisop.Kernel

open Totals

/-! ### The protocol of the CPUs -/

/-- **A message of a CPU that has the PCB of a program**: it sends that PCB back, and it waits on
semaphores that are configured. -/
def MensajeCorrecto (c : Comun) (programa : Programa) : MensajeCpu → Prop
  | .entradaSalidaKernel _ _ pcb => pcb.pid = (c.pcb programa).pid
  | .waitKernel semaforo pcb =>
      pcb.pid = (c.pcb programa).pid ∧ ∃ unSem ∈ c.semaforos, unSem.szSemaforo = semaforo
  | .notificarPorFinRafaga pcb => pcb.pid = (c.pcb programa).pid
  | .okCpu => False
  | _ => True

/-- The events in which the CPUs keep their side of the protocol. -/
def Protocolo (s : Sistema) : Evento → Prop
  | .mensaje i (some mensaje) =>
      ∀ x, s.hilos[i]? = some (.recibe x) → MensajeCorrecto s.comun x mensaje
  | _ => True

instance (c : Comun) (programa : Programa) (mensaje : MensajeCpu) :
    Decidable (MensajeCorrecto c programa mensaje) :=
  match mensaje with
  | .entradaSalidaKernel _ _ pcb => inferInstanceAs (Decidable (pcb.pid = (c.pcb programa).pid))
  | .waitKernel semaforo pcb => inferInstanceAs (Decidable (pcb.pid = (c.pcb programa).pid ∧
      ∃ unSem ∈ c.semaforos, unSem.szSemaforo = semaforo))
  | .notificarPorFinRafaga pcb => inferInstanceAs (Decidable (pcb.pid = (c.pcb programa).pid))
  | .okCpu => isFalse id
  | .obtenerValorVarCompartida _ => isTrue trivial
  | .asignarValorVarCompartida _ _ => isTrue trivial
  | .imprimirKernel _ => isTrue trivial
  | .imprimirTextoKernel _ => isTrue trivial
  | .signalKernel _ => isTrue trivial
  | .notificarPorFinPrograma _ => isTrue trivial
  | .exception _ => isTrue trivial

/-- The test of `Protocolo`. -/
def protocolo (s : Sistema) : Evento → Bool
  | .mensaje i (some mensaje) =>
      match s.hilos[i]? with
      | some (.recibe x) => decide (MensajeCorrecto s.comun x mensaje)
      | _ => true
  | _ => true

variable {c c' : Comun} {loc loc' : Loc} {s s' : Sistema} {x : Programa}

theorem protocolo_of_test {e : Evento} (h : protocolo s e = true) : Protocolo s e := by
  cases e with
  | mensaje i mensaje =>
      cases mensaje with
      | none => trivial
      | some m =>
          intro x hx
          simpa only [protocolo, hx, decide_eq_true_eq] using h
  | _ => trivial

/-- A semaphore that is configured is found. -/
theorem findIdx_semaforo {semaforo : Texto}
    (h : ∃ unSem ∈ c.semaforos, unSem.szSemaforo = semaforo) :
    ∃ j, (c.semaforos.findIdx? fun unSem => unSem.szSemaforo == semaforo) = some j := by
  obtain ⟨unSem, hmem, rfl⟩ := h
  refine Option.isSome_iff_exists.1 (List.findIdx?_isSome.trans ?_)
  exact List.any_eq_true.2 ⟨unSem, hmem, by simp⟩

/-- **Receiving a message conserves.** -/
theorem recibirMensaje_conserva (h : Pids c) (hx : x < c.cantidad) {mensaje : Option MensajeCpu}
    (hmensaje : ∀ m, mensaje = some m → MensajeCorrecto c x m) :
    Conserva c c (.recibe x) (recibirMensaje c x mensaje) := by
  have hpid (pcb : Pcb) (hpcb : pcb.pid = (c.pcb x).pid) : pcb.pid = pidDe x :=
    hpcb.trans (h.pid x hx)
  have hcontesta := recibirMensaje_contesta c x mensaje
  generalize recibirMensaje c x mensaje = loc at hcontesta
  cases hcontesta with
  | entradaSalida =>
      refine ⟨rfl, rfl, h.pid, h.exec, ?_⟩
      intro y pcb heq
      cases heq
      exact ⟨hx, hpid _ (hmensaje _ rfl)⟩
  | wait _ =>
      refine ⟨rfl, rfl, h.pid, h.exec, ?_⟩
      intro y pcb heq
      cases heq
      exact ⟨hx, hpid _ (hmensaje _ rfl).1⟩
  | waitSinSemaforo hnone =>
      -- a semaphore that is not configured would leave the program with no owner
      obtain ⟨j, hj⟩ := findIdx_semaforo (hmensaje _ rfl).2
      exact absurd (hnone.symm.trans hj) (by simp)
  | finRafaga =>
      refine ⟨rfl, rfl, h.pid, h.exec, ?_⟩
      intro y pcb heq
      cases heq
      exact ⟨hx, hpid _ (hmensaje _ rfl)⟩
  | okCpu => exact (hmensaje _ rfl).elim
  | _ => exact ⟨rfl, rfl, h.pid, h.exec, by simp [Loc.porEscribir]⟩

/-! ### The invariant -/

/-- **The invariant of the kernel**: the owners of the programs are those that were put in Ready,
`listaExec` has the programs that the threads put there, and every program that the kernel speaks of
has arrived and has its pid. -/
structure Valido (s : Sistema) : Prop where
  duenios : (s.comun.admitidos : Multiset Programa) = duenios s
  exec : (s.comun.listaExec : Multiset Programa) = total Loc.enExec s.hilos
  pids : Pids s.comun
  porEscribir : ∀ loc ∈ s.hilos, ∀ x pcb, loc.porEscribir = some (x, pcb) →
    x < s.comun.cantidad ∧ pcb.pid = pidDe x
  admitidos : ∀ x ∈ s.comun.admitidos, x < s.comun.cantidad
  newProcesos : ∀ p ∈ s.comun.newProcesos, p.1 < s.comun.cantidad
  lista_de_programas : ∀ x ∈ s.comun.lista_de_programas, x < s.comun.cantidad
  plp : ∀ x, s.plp = .guarda x → x < s.comun.cantidad
  principal : ∀ x, s.principal = .agrega x → x < s.comun.cantidad

theorem valido_inicial (configuracion : Configuracion) : Valido (inicial configuracion) where
  duenios := by
    have hsem : total Semaforo.duenio (inicial configuracion).comun.semaforos = 0 :=
      total_eq_zero fun a ha => by
        obtain ⟨p, -, rfl⟩ := List.mem_map.1 ha
        rfl
    have hdis : total Dispositivo.duenio (inicial configuracion).comun.dispositivos = 0 :=
      total_eq_zero fun a ha => by
        obtain ⟨p, -, rfl⟩ := List.mem_map.1 ha
        rfl
    rw [Kernel.duenios, dueniosComun, hsem, hdis]
    rfl
  exec := rfl
  pids := ⟨fun x hx => absurd hx (Nat.not_lt_zero x), fun x hx => absurd hx (by simp [inicial]),
    Nat.zero_le _⟩
  porEscribir := by simp [inicial]
  admitidos := by simp [inicial]
  newProcesos := by simp [inicial]
  lista_de_programas := by simp [inicial]
  plp := by simp [inicial]
  principal := by simp [inicial]

/-- What a thread does with its program is coherent. -/
theorem Valido.coherente (h : Valido s) (hloc : loc ∈ s.hilos) : loc.Coherente s.comun where
  duenio := by
    intro x hx
    have hmem : x ∈ (s.comun.admitidos : Multiset Programa) := by
      rw [h.duenios, Kernel.duenios, Multiset.mem_add]
      exact Or.inr (mem_total.2 ⟨loc, hloc, hx⟩)
    exact h.admitidos x (Multiset.mem_coe.1 hmem)
  enExec := by
    intro x hx
    rw [← Multiset.mem_coe, h.exec]
    exact mem_total.2 ⟨loc, hloc, hx⟩
  pcb := h.porEscribir loc hloc

/-- **A step of a thread that conserves keeps the invariant.** -/
theorem Valido.hilo (h : Valido s) {i : ℕ} (hi : s.hilos[i]? = some loc)
    (hm : Marco s.comun c') (hc : Conserva s.comun c' loc loc') :
    Valido { s with hilos := s.hilos.set i loc', comun := c' } where
  duenios := by
    apply add_right_cancel (b := loc.duenio)
    calc (c'.admitidos : Multiset Programa) + loc.duenio
        = dueniosComun s.comun + loc.duenio + total Loc.duenio s.hilos := by
          rw [hm.admitidos, h.duenios, Kernel.duenios, add_right_comm]
      _ = dueniosComun c' + (total Loc.duenio s.hilos + loc'.duenio) := by
          rw [← hc.duenios, add_assoc, add_comm loc'.duenio]
      _ = dueniosComun c' + total Loc.duenio (s.hilos.set i loc') + loc.duenio := by
          rw [← total_set Loc.duenio hi, add_assoc]
  exec := by
    apply add_right_cancel (b := loc.enExec)
    rw [hc.exec, h.exec, total_set Loc.enExec hi]
  pids := h.pids.conserva hm hc
  porEscribir := by
    intro loc₁ hmem
    rw [show ({ s with hilos := s.hilos.set i loc', comun := c' } : Sistema).comun.cantidad =
      s.comun.cantidad from hm.cantidad]
    rcases List.mem_or_eq_of_mem_set hmem with hmem | rfl
    · exact h.porEscribir loc₁ hmem
    · exact hc.porEscribir
  admitidos := by
    simp only [hm.admitidos, hm.cantidad]
    exact h.admitidos
  newProcesos := by
    simp only [hm.newProcesos, hm.cantidad]
    exact h.newProcesos
  lista_de_programas := by
    simp only [hm.lista_de_programas, hm.cantidad]
    exact h.lista_de_programas
  plp := by
    simp only [hm.cantidad]
    exact h.plp
  principal := by
    simp only [hm.cantidad]
    exact h.principal

/-- A step of a thread of the kernel that is not the one of a CPU. -/
theorem Valido.otro (h : Valido s) (hhilos : s'.hilos = s.hilos)
    (hduenios : (s'.comun.admitidos : Multiset Programa) + dueniosComun s.comun =
      s.comun.admitidos + dueniosComun s'.comun)
    (hexec : s'.comun.listaExec = s.comun.listaExec) (hpids : Pids s'.comun)
    (hcantidad : s.comun.cantidad ≤ s'.comun.cantidad)
    (hadmitidos : ∀ x ∈ s'.comun.admitidos, x < s'.comun.cantidad)
    (hnew : ∀ p ∈ s'.comun.newProcesos, p.1 < s'.comun.cantidad)
    (hlista : ∀ x ∈ s'.comun.lista_de_programas, x < s'.comun.cantidad)
    (hplp : ∀ x, s'.plp = .guarda x → x < s'.comun.cantidad)
    (hprincipal : ∀ x, s'.principal = .agrega x → x < s'.comun.cantidad) : Valido s' where
  duenios := by
    apply add_right_cancel (b := dueniosComun s.comun)
    rw [hduenios, h.duenios, Kernel.duenios, Kernel.duenios, hhilos]
    abel
  exec := by rw [hexec, hhilos, h.exec]
  pids := hpids
  porEscribir := by
    rw [hhilos]
    intro loc hloc x pcb heq
    obtain ⟨hx, hpcb⟩ := h.porEscribir loc hloc x pcb heq
    exact ⟨hx.trans_le hcantidad, hpcb⟩
  admitidos := hadmitidos
  newProcesos := hnew
  lista_de_programas := hlista
  plp := hplp
  principal := hprincipal

/-- A device only changes Ready, the devices and `productorConsumidor`. -/
theorem pasoDispositivo_marco {j : ℕ} (hpaso : pasoDispositivo c j = some c') :
    ∃ ready dispositivos n, c' = { c with
      listaReady := ready, dispositivos := dispositivos, productorConsumidor := n } := by
  cases pasoDispositivo_avanza hpaso <;> exact ⟨_, _, _, rfl⟩

/-- A device hands over the programs that it takes. -/
theorem dueniosComun_pasoDispositivo {j : ℕ} (hpaso : pasoDispositivo c j = some c') :
    dueniosComun c' = dueniosComun c := by
  cases pasoDispositivo_avanza hpaso with
  | espera hj hhilo _ | publica hj hhilo =>
      refine (dueniosComun_dispositivo_mas hj ?_).trans (add_zero _)
      rw [Dispositivo.duenio, Dispositivo.duenio, hhilo, add_zero]
      rfl
  | saca hj hhilo hcola =>
      refine (dueniosComun_dispositivo_mas hj ?_).trans (add_zero _)
      rw [Dispositivo.duenio, Dispositivo.duenio, hhilo, hcola]
      simp only [LocDispositivo.duenio, List.map_cons, ← Multiset.cons_coe,
        ← Multiset.singleton_add]
      abel
  | @duerme unDispo programa retardo hj hhilo =>
      apply add_right_cancel (b := unDispo.duenio)
      rw [dueniosComun_agregarReady, add_right_comm, dueniosComun_conDispositivo hj, add_assoc]
      simp only [Dispositivo.duenio, LocDispositivo.duenio, hhilo, Option.toList_some,
        Multiset.coe_singleton, add_zero]

theorem Valido.dispositivo (h : Valido s) {j : ℕ} (hpaso : pasoDispositivo s.comun j = some c') :
    Valido { s with comun := c' } := by
  have hduenios := dueniosComun_pasoDispositivo hpaso
  obtain ⟨ready, dispositivos, n, rfl⟩ := pasoDispositivo_marco hpaso
  exact h.otro rfl (congrArg _ hduenios.symm) rfl (h.pids.igual rfl rfl rfl) le_rfl
    h.admitidos h.newProcesos
    h.lista_de_programas h.plp h.principal

/-- What the scheduler puts in Ready is what it adds to the history. -/
theorem duenios_pasoPlp {peso : Option ℤ} {l l' : LocPlp}
    (hpaso : pasoPlp c peso l = some (l', c')) :
    (c'.admitidos : Multiset Programa) + dueniosComun c = c.admitidos + dueniosComun c' ∧
      c'.listaExec = c.listaExec ∧ c'.pcb = c.pcb ∧ c'.cantidad = c.cantidad := by
  cases pasoPlp_avanza hpaso with
  | @mueve _ programa _ resto _ =>
      refine ⟨?_, rfl, rfl, rfl⟩
      have hready := dueniosComun_agregarReady c (some programa)
      have hcomun : dueniosComun { agregarReady c (some programa) with
          newProcesos := resto, admitidos := c.admitidos ++ [programa] } =
        dueniosComun (agregarReady c (some programa)) := rfl
      rw [hcomun, hready, ← Multiset.coe_add, Option.toList_some]
      abel
  | _ => exact ⟨rfl, rfl, rfl, rfl⟩

theorem Valido.planificador (h : Valido s) {peso : Option ℤ} {plp : LocPlp}
    (hpaso : pasoPlp s.comun peso s.plp = some (plp, c')) :
    Valido { s with plp := plp, comun := c' } := by
  obtain ⟨hduenios, -⟩ := duenios_pasoPlp hpaso
  generalize hloc : s.plp = l at hpaso
  cases pasoPlp_avanza hpaso with
  | @saca _ programa resto hlista =>
      have hlt := h.lista_de_programas
      rw [hlista] at hlt
      refine h.otro rfl rfl rfl (h.pids.igual rfl rfl rfl) le_rfl h.admitidos h.newProcesos
        (fun x hx => hlt x (List.mem_cons_of_mem _ hx)) ?_ h.principal
      intro x hx
      cases hx
      exact hlt _ List.mem_cons_self
  | @guarda programa peso =>
      refine h.otro rfl rfl rfl (h.pids.igual rfl rfl rfl) le_rfl h.admitidos ?_
        h.lista_de_programas (by simp) h.principal
      intro p hp
      rw [List.mem_mergeSort, List.mem_append, List.mem_singleton] at hp
      rcases hp with hp | rfl
      · exact h.newProcesos p hp
      · exact h.plp programa hloc
  | @mueve _ programa peso resto hnew =>
      have hlt := h.newProcesos
      rw [hnew] at hlt
      -- the only step that adds an owner, and it adds it to the history too
      refine h.otro rfl hduenios rfl (h.pids.igual rfl rfl rfl) le_rfl ?_
        (fun p hp => hlt p (List.mem_cons_of_mem _ hp)) h.lista_de_programas (by simp) h.principal
      intro x hx
      rcases List.mem_append.1 hx with hx | hx
      · exact h.admitidos x hx
      · obtain rfl := List.mem_singleton.1 hx
        exact hlt (x, peso) List.mem_cons_self
  | _ =>
      exact h.otro rfl rfl rfl (h.pids.igual rfl rfl rfl) le_rfl h.admitidos h.newProcesos
        h.lista_de_programas (by simp) h.principal

/-- A program that arrives gets its pid. -/
theorem Pids.llega (h : Pids c) (pcb : Pcb) (hint : esInt (1001 + c.cantidad) = true) :
    Pids { escribirPcb c c.cantidad { pcb with pid := pidDe c.cantidad } with
      cantidad := c.cantidad + 1 } where
  pid := by
    intro x hx
    rcases Nat.lt_succ_iff_lt_or_eq.1 hx with hlt | rfl
    · simpa [escribirPcb, hlt.ne] using h.pid x hlt
    · simp [escribirPcb]
  exec := fun x hx => Nat.lt_succ_of_lt (h.exec x hx)
  cantidad := by
    simp only [esInt, Bool.and_eq_true, decide_eq_true_eq] at hint
    show c.cantidad + 1 ≤ 2 ^ 32
    omega

theorem Valido.llegada (h : Valido s) {pcb : Pcb} {principal : LocPrincipal}
    (hpaso : pasoPrincipal s.comun pcb s.principal = some (principal, c')) :
    Valido { s with principal := principal, comun := c' } := by
  generalize hloc : s.principal = l at hpaso
  cases pasoPrincipal_avanza hpaso with
  | escucha hint =>
      refine h.otro rfl rfl rfl (h.pids.llega pcb hint) (Nat.le_succ _)
        (fun x hx => Nat.lt_succ_of_lt (h.admitidos x hx))
        (fun p hp => Nat.lt_succ_of_lt (h.newProcesos p hp))
        (fun x hx => Nat.lt_succ_of_lt (h.lista_de_programas x hx))
        (fun x hx => Nat.lt_succ_of_lt (h.plp x hx)) ?_
      intro x hx
      cases hx
      exact Nat.lt_succ_self _
  | agrega =>
      refine h.otro rfl rfl rfl (h.pids.igual rfl rfl rfl) le_rfl h.admitidos h.newProcesos ?_ h.plp
        (by simp)
      intro x hx
      rcases List.mem_append.1 hx with hx | hx
      · exact h.lista_de_programas x hx
      · obtain rfl := List.mem_singleton.1 hx
        exact h.principal x hloc
  | publica =>
      exact h.otro rfl rfl rfl (h.pids.igual rfl rfl rfl) le_rfl h.admitidos h.newProcesos
        h.lista_de_programas h.plp (by simp)

theorem Valido.fin (h : Valido s) {salida : LocSalida}
    (hpaso : pasoSalida s.comun s.salida = some (salida, c')) :
    Valido { s with salida := salida, comun := c' } := by
  generalize s.salida = l at hpaso
  cases pasoSalida_avanza hpaso <;>
    exact h.otro rfl rfl rfl (h.pids.igual rfl rfl rfl) le_rfl h.admitidos h.newProcesos
      h.lista_de_programas h.plp h.principal

/-- A CPU that connects has no program. -/
theorem Valido.conexion (h : Valido s) : Valido { s with hilos := s.hilos ++ [.esperaReady] } where
  duenios := by
    have hnada : Loc.esperaReady.duenio = 0 := rfl
    rw [h.duenios, Kernel.duenios, Kernel.duenios, total_concat, hnada, add_zero]
  exec := by
    rw [total_concat, h.exec]
    exact (add_zero _).symm
  pids := h.pids
  porEscribir := by
    intro loc hloc
    rcases List.mem_append.1 hloc with hloc | hloc
    · exact h.porEscribir loc hloc
    · obtain rfl := List.mem_singleton.1 hloc
      simp [Loc.porEscribir]
  admitidos := h.admitidos
  newProcesos := h.newProcesos
  lista_de_programas := h.lista_de_programas
  plp := h.plp
  principal := h.principal

/-- **Every step keeps the invariant.** -/
theorem Valido.paso {e : Evento} (h : Valido s) (hprotocolo : Protocolo s e)
    (hpaso : Paso s e s') : Valido s' := by
  cases hpaso.transicion with
  | conexion =>
      exact h.conexion
  | @hilo i loc loc' c' hi hloc =>
      exact h.hilo hi (pasoHilo_marco hloc)
        (pasoHilo_conserva h.pids (h.coherente (List.mem_of_getElem? hi)) hloc)
  | @mensaje i programa mensaje hi =>
      have hx : programa < s.comun.cantidad :=
        (h.coherente (List.mem_of_getElem? hi)).duenio programa (by simp [Loc.duenio])
      refine h.hilo hi ⟨rfl, rfl, rfl, rfl⟩ (recibirMensaje_conserva h.pids hx ?_)
      intro m hm
      subst hm
      exact hprotocolo programa hi
  | @dispositivo j c' hc =>
      exact h.dispositivo hc
  | @plp peso plp c' hc =>
      exact h.planificador hc
  | @principal pcb principal c' hc =>
      exact h.llegada hc
  | @salida salida c' hc =>
      exact h.fin hc

/-! ### No program is lost -/

/-- The thread of a CPU is not handling a message: it waits for a program or for a message, or it
has ended. -/
def Loc.quieto : Loc → Bool
  | esperaReady => true
  | recibe _ => true
  | terminado => true
  | _ => false

/-- **Where a program can be** while no message is being handled: in Ready, in the queue of a
semaphore or of a device, with the thread of a device, or with the thread of the CPU that has its
PCB. -/
def Sistema.Tiene (s : Sistema) (x : Programa) : Prop :=
  some x ∈ s.comun.listaReady ∨
  (∃ semaf ∈ s.comun.semaforos, x ∈ semaf.progEncolados) ∨
  (∃ unDispo ∈ s.comun.dispositivos, x ∈ unDispo.progEncolados.map Prod.fst) ∨
  (∃ unDispo ∈ s.comun.dispositivos, ∃ retardo, unDispo.hilo = .duerme x retardo) ∨
  Loc.recibe x ∈ s.hilos

/-- A thread that is not handling a message owns the program of its CPU, and nothing else. -/
theorem Loc.eq_recibe (hquieto : loc.quieto = true) (hx : x ∈ loc.duenio) : loc = .recibe x := by
  cases loc with
  | recibe y =>
      obtain rfl := Multiset.mem_singleton.1 hx
      rfl
  | esperaReady => exact absurd hx (Multiset.notMem_zero x)
  | terminado => exact absurd hx (Multiset.notMem_zero x)
  | _ => exact (Bool.false_ne_true hquieto).elim

/-- It has that program in `listaExec`. -/
theorem Loc.enExec_eq_duenio (hquieto : loc.quieto = true) : loc.enExec = loc.duenio := by
  cases loc with
  | recibe y => rfl
  | esperaReady => rfl
  | terminado => rfl
  | _ => exact (Bool.false_ne_true hquieto).elim

/-- The programs of a device are in its queue or with its thread. -/
theorem Dispositivo.mem_duenio {unDispo : Dispositivo} :
    x ∈ unDispo.duenio ↔
      x ∈ unDispo.progEncolados.map Prod.fst ∨ ∃ retardo, unDispo.hilo = .duerme x retardo := by
  rw [Dispositivo.duenio, Multiset.mem_add, Multiset.mem_coe]
  refine or_congr_right ?_
  cases unDispo.hilo with
  | duerme y retardo => simp [LocDispositivo.duenio, eq_comm]
  | _ => simp [LocDispositivo.duenio]

/-- **A program with an owner is in one of the places.** -/
theorem Valido.tiene (h : Valido s) (hquieto : ∀ loc ∈ s.hilos, loc.quieto = true)
    (hx : x ∈ s.comun.admitidos) (hentregado : x ∉ s.comun.entregados) : s.Tiene x := by
  rw [← Multiset.mem_coe, h.duenios, Kernel.duenios, dueniosComun, Multiset.mem_add,
    Multiset.mem_add, Multiset.mem_add, Multiset.mem_add] at hx
  rcases hx with (((hready | hsemaf) | hdispo) | hfin) | hhilo
  · exact Or.inl (List.reduceOption_mem_iff.1 (Multiset.mem_coe.1 hready))
  · obtain ⟨semaf, hmem, hcola⟩ := mem_total.1 hsemaf
    exact Or.inr (Or.inl ⟨semaf, hmem, Multiset.mem_coe.1 hcola⟩)
  · obtain ⟨unDispo, hmem, hx⟩ := mem_total.1 hdispo
    rcases Dispositivo.mem_duenio.1 hx with hcola | hduerme
    · exact Or.inr (Or.inr (Or.inl ⟨unDispo, hmem, hcola⟩))
    · exact Or.inr (Or.inr (Or.inr (Or.inl ⟨unDispo, hmem, hduerme⟩)))
  · exact absurd (Multiset.mem_coe.1 hfin) hentregado
  · obtain ⟨loc, hmem, hx⟩ := mem_total.1 hhilo
    rw [Loc.eq_recibe (hquieto loc hmem) hx] at hmem
    exact Or.inr (Or.inr (Or.inr (Or.inr hmem)))

/-- **A program in `listaExec` has a CPU.** -/
theorem Valido.tieneCpu (h : Valido s) (hquieto : ∀ loc ∈ s.hilos, loc.quieto = true)
    (hx : x ∈ s.comun.listaExec) : Loc.recibe x ∈ s.hilos := by
  rw [← Multiset.mem_coe, h.exec] at hx
  obtain ⟨loc, hmem, hx⟩ := mem_total.1 hx
  rw [Loc.enExec_eq_duenio (hquieto loc hmem)] at hx
  rwa [Loc.eq_recibe (hquieto loc hmem) hx] at hmem

/-- A disk, and two programs at most. -/
def configuracionDisco : Configuracion := ⟨[], [("disco".toList, 10#32)], 2⟩

/-- A CPU takes the first of two programs, which uses the disk, and then the second one. -/
def trazaDisco : List Evento :=
  llegaPrograma ++ llegaPrograma ++ [.conexion] ++ tomaPrograma 0 ++
    [.mensaje 0 (some (.entradaSalidaKernel "disco".toList 5#32 { pcbNulo with pid := 1001#32 })),
      .hilo 0, .hilo 0, .hilo 0, .hilo 0, .dispositivo 0, .dispositivo 0] ++ tomaPrograma 0

/-- **No program is lost.**  In every run in which the CPUs send back the PCB that they were given
and wait on semaphores that are configured, whenever no message is being handled: every program that
was put in Ready and was not handed to `exitProcesos` is in one of the places, and every program in
`listaExec` has a CPU. -/
theorem no_se_pierde (configuracion : Configuracion) {tr : List Evento} {s : Sistema}
    (h : Lts.Run (Lts.restrict Protocolo Paso) (inicial configuracion) tr s)
    (hquieto : ∀ loc ∈ s.hilos, loc.quieto = true) :
    (∀ x ∈ s.comun.admitidos, x ∉ s.comun.entregados → s.Tiene x) ∧
      ∀ x ∈ s.comun.listaExec, Loc.recibe x ∈ s.hilos := by
  have hvalido : Valido s :=
    h.invariant (fun _ _ _ hs he => hs.paso he.1 he.2) (valido_inicial configuracion)
  exact ⟨fun x hx hentregado => hvalido.tiene hquieto hx hentregado,
    fun x hx => hvalido.tieneCpu hquieto hx⟩

/-- The first program is with the disk, and the second one with the CPU. -/
theorem no_se_pierde_disco :
    ∃ s, correr protocolo trazaDisco (inicial configuracionDisco) = some s ∧
    s.comun.admitidos = [0, 1] ∧ s.Tiene 0 ∧ s.Tiene 1 ∧
    ∀ x ∈ s.comun.listaExec, Loc.recibe x ∈ s.hilos := by
  have hfin : (correr protocolo trazaDisco (inicial configuracionDisco)).map (fun s =>
      (s.comun.admitidos, s.comun.entregados, s.hilos)) = some ([0, 1], [], [.recibe 1]) := by
    decide +kernel
  obtain ⟨s, hs, heq⟩ := Option.map_eq_some_iff.1 hfin
  simp only [Prod.mk.injEq] at heq
  obtain ⟨hadmitidos, hentregados, hhilos⟩ := heq
  have hrun : Lts.Run (Lts.restrict Protocolo Paso) (inicial configuracionDisco) trazaDisco s :=
    (run_of_correr hs).restrict_mono fun _ _ => protocolo_of_test
  obtain ⟨hnada, hexec⟩ := no_se_pierde configuracionDisco hrun (by simp [hhilos, Loc.quieto])
  exact ⟨s, hs, hadmitidos, hnada 0 (by simp [hadmitidos]) (by simp [hentregados]),
    hnada 1 (by simp [hadmitidos]) (by simp [hentregados]), hexec⟩

/-- **A program that a device serves is in no list**, and no CPU has it. -/
theorem duerme_fuera_de_las_listas : ¬ ∀ (configuracion : Configuracion) (tr : List Evento)
    (s : Sistema), Lts.Run Paso (inicial configuracion) tr s →
    (∀ loc ∈ s.hilos, loc.quieto = true) → ∀ x ∈ s.comun.admitidos, x ∉ s.comun.entregados →
    some x ∈ s.comun.listaReady ∨ (∃ semaf ∈ s.comun.semaforos, x ∈ semaf.progEncolados) ∨
    (∃ unDispo ∈ s.comun.dispositivos, x ∈ unDispo.progEncolados.map Prod.fst) ∨
    Loc.recibe x ∈ s.hilos := by
  intro hclaim
  have hfin : (correr (fun _ _ => true) trazaDisco (inicial configuracionDisco)).map (fun s =>
      (s.hilos, s.comun.listaReady, s.comun.admitidos, s.comun.entregados,
        s.comun.semaforos.isEmpty && s.comun.dispositivos.all (·.progEncolados.isEmpty))) =
      some ([.recibe 1], [], [0, 1], [], true) := by
    decide +kernel
  obtain ⟨s, hs, heq⟩ := Option.map_eq_some_iff.1 hfin
  simp only [Prod.mk.injEq, Bool.and_eq_true, List.isEmpty_iff, List.all_eq_true] at heq
  obtain ⟨hhilos, hready, hadmitidos, hentregados, hsemaforos, hdispositivos⟩ := heq
  rcases hclaim configuracionDisco trazaDisco s (run_of_correr hs).of_restrict
    (by simp [hhilos, Loc.quieto]) 0
    (by simp [hadmitidos]) (by simp [hentregados]) with
      h | ⟨semaf, hmem, -⟩ | ⟨unDispo, hmem, hx⟩ | h
  · simp [hready] at h
  · simp [hsemaforos] at hmem
  · simp [hdispositivos unDispo hmem] at hx
  · simp [hhilos] at h

end Ansisop.Kernel
