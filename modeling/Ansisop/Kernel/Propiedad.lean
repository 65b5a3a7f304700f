/-
**Every program has one owner at most.**

Each program that arrives gets a number of its own, and it is put in Ready once.  From then on it is
handed over from one place to another, so no program has two owners, whatever the CPUs do with
semaphores: a wait on a semaphore that is not configured leaves a program with no owner, and not
with two.  The only thing that is asked of the CPUs is that a PCB in a message has the pid of the
program that the CPU was given.

It follows that the degree of multiprogramming is respected: the counter, with the programs in the
system, is what was configured.

Main definitions:

* `Ansisop.Kernel.ConPids`, `Ansisop.Kernel.conPids` — the events in which the PCBs have the pid of
  their program, and their test;
* `Ansisop.Kernel.llegadas` — the places of the programs that arrive, up to Ready;
* `Ansisop.Kernel.Propio` — the invariant: each program has one owner at most;
* `Ansisop.Kernel.cupo` — the counter, with the programs in the system.

Main results:

* `Ansisop.Kernel.Propio.paso` — **every step keeps the invariant**;
* `Ansisop.Kernel.cupo_paso` — **every step keeps the degree of multiprogramming**;
* `Ansisop.Kernel.grado_respetado` — the degree of multiprogramming is respected, in any run.
-/

import Ansisop.Kernel.Perdidas
import Ansisop.Kernel.Planificador

set_option relaxedAutoImplicit false
set_option autoImplicit false

namespace Ansisop.Kernel

open Totals

/-! ### The pids of the messages -/

/-- A message whose PCB has the pid of the program that the CPU was given. -/
def PidCorrecto (c : Comun) (programa : Programa) : MensajeCpu → Prop
  | .entradaSalidaKernel _ _ pcb => pcb.pid = (c.pcb programa).pid
  | .waitKernel _ pcb => pcb.pid = (c.pcb programa).pid
  | .notificarPorFinRafaga pcb => pcb.pid = (c.pcb programa).pid
  | _ => True

/-- **The events in which the PCBs have the pid of their program.** -/
def ConPids (s : Sistema) : Evento → Prop
  | .mensaje i (some mensaje) =>
      ∀ x, s.hilos[i]? = some (.recibe x) → PidCorrecto s.comun x mensaje
  | _ => True

instance (c : Comun) (programa : Programa) (mensaje : MensajeCpu) :
    Decidable (PidCorrecto c programa mensaje) :=
  match mensaje with
  | .entradaSalidaKernel _ _ pcb => inferInstanceAs (Decidable (pcb.pid = (c.pcb programa).pid))
  | .waitKernel _ pcb => inferInstanceAs (Decidable (pcb.pid = (c.pcb programa).pid))
  | .notificarPorFinRafaga pcb => inferInstanceAs (Decidable (pcb.pid = (c.pcb programa).pid))
  | .obtenerValorVarCompartida _ => isTrue trivial
  | .asignarValorVarCompartida _ _ => isTrue trivial
  | .imprimirKernel _ => isTrue trivial
  | .imprimirTextoKernel _ => isTrue trivial
  | .signalKernel _ => isTrue trivial
  | .notificarPorFinPrograma _ => isTrue trivial
  | .exception _ => isTrue trivial
  | .okCpu => isTrue trivial

/-- The test of `ConPids`. -/
def conPids (s : Sistema) : Evento → Bool
  | .mensaje i (some mensaje) =>
      match s.hilos[i]? with
      | some (.recibe x) => decide (PidCorrecto s.comun x mensaje)
      | _ => true
  | _ => true

theorem conPids_of_test {s : Sistema} {e : Evento} (h : conPids s e = true) : ConPids s e := by
  cases e with
  | mensaje i mensaje =>
      cases mensaje with
      | none => trivial
      | some m =>
          intro x hx
          simpa only [conPids, hx, decide_eq_true_eq] using h
  | _ => trivial

/-! ### The programs that arrive -/

/-- The program that the long-term scheduler is preparing. -/
def LocPlp.llegada : LocPlp → Multiset Programa
  | guarda x => {x}
  | _ => 0

/-- The program that has just been received. -/
def LocPrincipal.llegada : LocPrincipal → Multiset Programa
  | agrega x => {x}
  | _ => 0

/-- **The places of the programs that arrive**, up to Ready. -/
def llegadas (s : Sistema) : Multiset Programa :=
  (s.comun.admitidos : Multiset Programa) + (s.comun.newProcesos.map Prod.fst : Multiset Programa) +
    (s.comun.lista_de_programas : Multiset Programa) + s.plp.llegada + s.principal.llegada

variable {c c' : Comun} {loc loc' : Loc} {s s' : Sistema} {x : Programa}

/-- The scheduler moves the programs that arrive, and drops those that are rejected. -/
theorem llegadas_pasoPlp {peso : Option ℤ} {plp : LocPlp}
    (hpaso : pasoPlp s.comun peso s.plp = some (plp, c')) :
    llegadas { s with plp := plp, comun := c' } ≤ llegadas s := by
  generalize hloc : s.plp = l at hpaso
  cases pasoPlp_avanza hpaso with
  | saca hlista =>
      simp only [llegadas, hloc, hlista, LocPlp.llegada, ← Multiset.cons_coe,
        ← Multiset.singleton_add]
      apply le_of_eq
      abel
  | @guarda programa peso =>
      have hperm : ((s.comun.newProcesos ++ [(programa, peso)]).mergeSort
          fun p q => p.2 ≤ q.2).Perm (s.comun.newProcesos ++ [(programa, peso)]) :=
        List.mergeSort_perm _ _
      have hnew := Multiset.coe_eq_coe.2 (hperm.map Prod.fst)
      simp only [llegadas, hloc, LocPlp.llegada]
      rw [hnew]
      simp only [List.map_append, List.map_cons, List.map_nil, ← Multiset.coe_add,
        Multiset.coe_singleton]
      apply le_of_eq
      abel
  | rechaza =>
      simp only [llegadas, hloc, LocPlp.llegada, add_zero]
      exact add_le_add (Multiset.le_add_right _ _) le_rfl
  | mueve hnew =>
      simp only [llegadas, hloc, hnew, LocPlp.llegada, agregarReady, List.map_cons,
        ← Multiset.coe_add, ← Multiset.cons_coe, ← Multiset.singleton_add, Multiset.coe_nil]
      apply le_of_eq
      abel
  | _ =>
      simp only [llegadas, hloc]
      rfl

/-- The thread that receives the programs gives a new number to each one. -/
theorem llegadas_pasoPrincipal {pcb : Pcb} {principal : LocPrincipal}
    (hpaso : pasoPrincipal s.comun pcb s.principal = some (principal, c')) :
    llegadas { s with principal := principal, comun := c' } = llegadas s ∧
        c'.cantidad = s.comun.cantidad ∨
      llegadas { s with principal := principal, comun := c' } = {s.comun.cantidad} + llegadas s ∧
        c'.cantidad = s.comun.cantidad + 1 := by
  generalize hloc : s.principal = l at hpaso
  cases pasoPrincipal_avanza hpaso with
  | escucha _ =>
      refine Or.inr ⟨?_, rfl⟩
      simp only [llegadas, hloc, LocPrincipal.llegada, escribirPcb]
      abel
  | agrega =>
      refine Or.inl ⟨?_, rfl⟩
      simp only [llegadas, hloc, LocPrincipal.llegada, ← Multiset.coe_add, Multiset.coe_singleton]
      abel
  | publica =>
      refine Or.inl ⟨?_, rfl⟩
      simp only [llegadas, hloc]
      rfl

/-! ### One owner -/

/-- **What the thread of a CPU may do with the programs**: it hands them over, or leaves them in
`listaExec` with no owner, and the pids stay. -/
structure Cede (c c' : Comun) (loc loc' : Loc) : Prop where
  programas : ∃ abandonado : Multiset Programa,
    dueniosComun c' + loc'.duenio + abandonado = dueniosComun c + loc.duenio ∧
      (c'.listaExec : Multiset Programa) + loc.enExec = c.listaExec + loc'.enExec + abandonado
  pid : ∀ x < c.cantidad, (c'.pcb x).pid = pidDe x
  execLt : ∀ x ∈ c'.listaExec, x < c.cantidad
  porEscribir : ∀ x pcb, loc'.porEscribir = some (x, pcb) → x < c.cantidad ∧ pcb.pid = pidDe x

theorem Conserva.cede (h : Conserva c c' loc loc') : Cede c c' loc loc' :=
  ⟨⟨0, by rw [add_zero, h.duenios], by rw [add_zero, h.exec]⟩, h.pid, h.execLt, h.porEscribir⟩

/-- **Receiving a message gives no program a second owner.** -/
theorem recibirMensaje_cede (h : Pids c) (hx : x < c.cantidad) {mensaje : Option MensajeCpu}
    (hmensaje : ∀ m, mensaje = some m → PidCorrecto c x m) :
    Cede c c (.recibe x) (recibirMensaje c x mensaje) := by
  have hpid (pcb : Pcb) (hpcb : pcb.pid = (c.pcb x).pid) : pcb.pid = pidDe x :=
    hpcb.trans (h.pid x hx)
  have hqueda (loc' : Loc) (hduenio : loc'.duenio = {x}) (hexec : loc'.enExec = {x})
      (hescribir : ∀ y pcb, loc'.porEscribir = some (y, pcb) → y < c.cantidad ∧ pcb.pid = pidDe y) :
      Cede c c (.recibe x) loc' := by
    refine ⟨⟨0, ?_, ?_⟩, h.pid, h.exec, hescribir⟩
    · rw [hduenio, add_zero]
      rfl
    · rw [hexec, add_zero]
      rfl
  -- the program stays in `listaExec`, and no thread owns it
  have hsuelta (loc' : Loc) (hduenio : loc'.duenio = 0) (hexec : loc'.enExec = 0)
      (hescribir : loc'.porEscribir = none) : Cede c c (.recibe x) loc' := by
    refine ⟨⟨{x}, ?_, ?_⟩, h.pid, h.exec, by simp [hescribir]⟩
    · rw [hduenio, add_zero]
      rfl
    · rw [hexec, add_zero]
      rfl
  have hcontesta := recibirMensaje_contesta c x mensaje
  generalize recibirMensaje c x mensaje = loc at hcontesta
  cases hcontesta with
  | entradaSalida | wait _ | finRafaga =>
      refine hqueda _ rfl rfl ?_
      intro y pcb heq
      cases heq
      exact ⟨hx, hpid _ (hmensaje _ rfl)⟩
  | waitSinSemaforo _ => exact hsuelta _ rfl rfl rfl
  | okCpu => exact hsuelta _ rfl rfl rfl
  | _ => exact hqueda _ rfl rfl (by simp [Loc.porEscribir])

/-- **The invariant**: each program that has arrived is in one place on its way to Ready, and it is
put there once; those that were put there have one owner at most, and in `listaExec` there are,
once, those that a thread has there and some that have no owner. -/
structure Propio (s : Sistema) : Prop where
  programas : ∃ abandonados : Multiset Programa, duenios s + abandonados ≤ s.comun.admitidos ∧
    (s.comun.listaExec : Multiset Programa) = total Loc.enExec s.hilos + abandonados
  pids : Pids s.comun
  porEscribir : ∀ loc ∈ s.hilos, ∀ x pcb, loc.porEscribir = some (x, pcb) →
    x < s.comun.cantidad ∧ pcb.pid = pidDe x
  unicas : (llegadas s).Nodup
  llegadas : ∀ x ∈ llegadas s, x < s.comun.cantidad

theorem propio_inicial (configuracion : Configuracion) : Propio (inicial configuracion) where
  programas := by
    refine ⟨0, ?_, ?_⟩
    · rw [add_zero]
      exact (valido_inicial configuracion).duenios.ge
    · rw [add_zero]
      exact (valido_inicial configuracion).exec
  pids := (valido_inicial configuracion).pids
  porEscribir := (valido_inicial configuracion).porEscribir
  unicas := Multiset.nodup_zero
  llegadas := fun x hx => absurd hx (Multiset.notMem_zero x)

theorem admitidos_le_llegadas (s : Sistema) :
    (s.comun.admitidos : Multiset Programa) ≤ llegadas s := by
  simp only [Kernel.llegadas, add_assoc]
  exact Multiset.le_add_right _ _

/-- A program is put in Ready once. -/
theorem Propio.admitidos_nodup (h : Propio s) : s.comun.admitidos.Nodup :=
  Multiset.coe_nodup.1 (Multiset.nodup_of_le (admitidos_le_llegadas s) h.unicas)

theorem Propio.duenios_le (h : Propio s) : duenios s ≤ s.comun.admitidos := by
  obtain ⟨abandonados, hduenios, -⟩ := h.programas
  exact (Multiset.le_add_right _ _).trans hduenios

theorem Propio.enExec_le (h : Propio s) : total Loc.enExec s.hilos ≤ s.comun.listaExec := by
  obtain ⟨abandonados, -, hexec⟩ := h.programas
  rw [hexec]
  exact Multiset.le_add_right _ _

/-- A program has one owner at most. -/
theorem Propio.duenios_nodup (h : Propio s) : (duenios s).Nodup :=
  Multiset.nodup_of_le h.duenios_le (Multiset.coe_nodup.2 h.admitidos_nodup)

theorem Propio.duenio_lt (h : Propio s) (hx : x ∈ duenios s) : x < s.comun.cantidad :=
  h.llegadas x (Multiset.mem_of_le (admitidos_le_llegadas s) (Multiset.mem_of_le h.duenios_le hx))

/-- What a thread does with its program is coherent. -/
theorem Propio.coherente (h : Propio s) (hloc : loc ∈ s.hilos) : loc.Coherente s.comun where
  duenio := by
    intro x hx
    refine h.duenio_lt ?_
    rw [Kernel.duenios, Multiset.mem_add]
    exact Or.inr (mem_total.2 ⟨loc, hloc, hx⟩)
  enExec := by
    intro x hx
    rw [← Multiset.mem_coe]
    exact Multiset.mem_of_le h.enExec_le (mem_total.2 ⟨loc, hloc, hx⟩)
  pcb := h.porEscribir loc hloc

/-- **A step of the thread of a CPU that hands over its programs keeps the invariant.** -/
theorem Propio.hilo (h : Propio s) {i : ℕ} (hi : s.hilos[i]? = some loc) (hm : Marco s.comun c')
    (hc : Cede s.comun c' loc loc') :
    Propio { s with hilos := s.hilos.set i loc', comun := c' } := by
  have hllegadas : Kernel.llegadas { s with hilos := s.hilos.set i loc', comun := c' } =
      Kernel.llegadas s := by
    simp only [Kernel.llegadas, hm.admitidos, hm.newProcesos, hm.lista_de_programas]
  constructor
  case programas =>
    obtain ⟨abandonados, hduenios, hexec⟩ := h.programas
    obtain ⟨abandonado, hduenios', hexec'⟩ := hc.programas
    refine ⟨abandonados + abandonado, ?_, ?_⟩
    · apply le_of_add_le_add_right (a := loc.duenio)
      calc dueniosComun c' + total Loc.duenio (s.hilos.set i loc') + (abandonados + abandonado) +
            loc.duenio
          = dueniosComun c' + (total Loc.duenio (s.hilos.set i loc') + loc.duenio) + abandonado +
              abandonados := by abel
        _ = dueniosComun c' + loc'.duenio + abandonado + total Loc.duenio s.hilos +
            abandonados := by
            rw [total_set Loc.duenio hi]
            abel
        _ = Kernel.duenios s + abandonados + loc.duenio := by
            rw [hduenios', Kernel.duenios]
            abel
        _ ≤ c'.admitidos + loc.duenio := by
            rw [hm.admitidos]
            exact add_le_add hduenios le_rfl
    · apply add_right_cancel (b := loc.enExec)
      calc (c'.listaExec : Multiset Programa) + loc.enExec
          = total Loc.enExec s.hilos + loc'.enExec + abandonados + abandonado := by
            rw [hexec', hexec]
            abel
        _ = total Loc.enExec (s.hilos.set i loc') + (abandonados + abandonado) + loc.enExec := by
            rw [← total_set Loc.enExec hi]
            abel
  case pids =>
    exact ⟨hm.cantidad ▸ hc.pid, hm.cantidad ▸ hc.execLt, hm.cantidad ▸ h.pids.cantidad⟩
  case porEscribir =>
    intro loc₁ hmem
    rw [show ({ s with hilos := s.hilos.set i loc', comun := c' } : Sistema).comun.cantidad =
      s.comun.cantidad from hm.cantidad]
    rcases List.mem_or_eq_of_mem_set hmem with hmem | rfl
    · exact h.porEscribir loc₁ hmem
    · exact hc.porEscribir
  case unicas =>
    rw [hllegadas]
    exact h.unicas
  case llegadas =>
    rw [hllegadas,
      show ({ s with hilos := s.hilos.set i loc', comun := c' } : Sistema).comun.cantidad =
      s.comun.cantidad from hm.cantidad]
    exact h.llegadas

/-- A step of a thread that serves no CPU, and that brings no new program. -/
theorem Propio.otro (h : Propio s) (hhilos : s'.hilos = s.hilos)
    (hduenios : (s'.comun.admitidos : Multiset Programa) + dueniosComun s.comun =
      s.comun.admitidos + dueniosComun s'.comun)
    (hexec : s'.comun.listaExec = s.comun.listaExec) (hpcb : s'.comun.pcb = s.comun.pcb)
    (hcantidad : s'.comun.cantidad = s.comun.cantidad)
    (hllegadas : Kernel.llegadas s' ≤ Kernel.llegadas s) : Propio s' where
  programas := by
    obtain ⟨abandonados, hadmitidos, hlista⟩ := h.programas
    refine ⟨abandonados, ?_, ?_⟩
    · apply le_of_add_le_add_right (a := dueniosComun s.comun)
      rw [hduenios]
      calc Kernel.duenios s' + abandonados + dueniosComun s.comun
          = Kernel.duenios s + abandonados + dueniosComun s'.comun := by
            rw [Kernel.duenios, Kernel.duenios, hhilos]
            abel
        _ ≤ s.comun.admitidos + dueniosComun s'.comun := add_le_add hadmitidos le_rfl
    · rw [hhilos, hexec]
      exact hlista
  pids := h.pids.igual hpcb hexec hcantidad
  porEscribir := by
    rw [hhilos, hcantidad]
    exact h.porEscribir
  unicas := Multiset.nodup_of_le hllegadas h.unicas
  llegadas := by
    rw [hcantidad]
    exact fun x hx => h.llegadas x (Multiset.mem_of_le hllegadas hx)

/-- A program that arrives is new. -/
theorem Propio.llegada (h : Propio s) {pcb : Pcb} {principal : LocPrincipal}
    (hpaso : pasoPrincipal s.comun pcb s.principal = some (principal, c')) :
    Propio { s with principal := principal, comun := c' } := by
  have hllegadas := llegadas_pasoPrincipal hpaso
  generalize hloc : s.principal = l at hpaso
  cases pasoPrincipal_avanza hpaso with
  | escucha hint =>
      rcases hllegadas with ⟨-, hmal⟩ | ⟨hnueva, -⟩
      · exact absurd hmal (Nat.succ_ne_self _)
      refine ⟨h.programas, h.pids.llega pcb hint, ?_, ?_, ?_⟩
      · intro loc hmem x pcb heq
        obtain ⟨hx, hpcb⟩ := h.porEscribir loc hmem x pcb heq
        exact ⟨Nat.lt_succ_of_lt hx, hpcb⟩
      · rw [hnueva, Multiset.singleton_add, Multiset.nodup_cons]
        exact ⟨fun hmem => lt_irrefl _ (h.llegadas _ hmem), h.unicas⟩
      · rw [hnueva]
        intro x hx
        rcases Multiset.mem_add.1 hx with hx | hx
        · obtain rfl := Multiset.mem_singleton.1 hx
          exact Nat.lt_succ_self _
        · exact Nat.lt_succ_of_lt (h.llegadas x hx)
  | agrega | publica =>
      rcases hllegadas with ⟨hllegadas, -⟩ | ⟨-, hmal⟩
      · exact h.otro rfl rfl rfl rfl rfl hllegadas.le
      · exact absurd hmal (Nat.succ_ne_self _).symm

/-- **Every step keeps the invariant.** -/
theorem Propio.paso {e : Evento} (h : Propio s) (hpids : ConPids s e) (hpaso : Paso s e s') :
    Propio s' := by
  cases hpaso.transicion with
  | conexion =>
      have hnada : Loc.esperaReady.duenio = 0 := rfl
      have hnadaExec : Loc.esperaReady.enExec = 0 := rfl
      refine ⟨?_, h.pids, ?_, h.unicas, h.llegadas⟩
      · simp only [Kernel.duenios, total_concat, hnada, hnadaExec, add_zero]
        exact h.programas
      · intro loc hloc
        rcases List.mem_append.1 hloc with hloc | hloc
        · exact h.porEscribir loc hloc
        · obtain rfl := List.mem_singleton.1 hloc
          simp [Loc.porEscribir]
  | @hilo i loc loc' c' hi hloc =>
      exact h.hilo hi (pasoHilo_marco hloc)
        (pasoHilo_conserva h.pids (h.coherente (List.mem_of_getElem? hi)) hloc).cede
  | @mensaje i programa mensaje hi =>
      have hx : programa < s.comun.cantidad :=
        (h.coherente (List.mem_of_getElem? hi)).duenio programa (by simp [Loc.duenio])
      refine h.hilo hi ⟨rfl, rfl, rfl, rfl⟩ (recibirMensaje_cede h.pids hx ?_)
      intro m hm
      subst hm
      exact hpids programa hi
  | @dispositivo j c' hc =>
      have hduenios := dueniosComun_pasoDispositivo hc
      obtain ⟨ready, dispositivos, n, rfl⟩ := pasoDispositivo_marco hc
      exact h.otro rfl (congrArg _ hduenios.symm) rfl rfl rfl le_rfl
  | @plp peso plp c' hc =>
      obtain ⟨hduenios, hexec, hpcb, hcantidad⟩ := duenios_pasoPlp hc
      exact h.otro rfl hduenios hexec hpcb hcantidad (llegadas_pasoPlp hc)
  | @principal pcb principal c' hc =>
      exact h.llegada hc
  | @salida salida c' hc =>
      generalize s.salida = l at hc
      cases pasoSalida_avanza hc <;> exact h.otro rfl rfl rfl rfl rfl le_rfl

/-! ### The degree of multiprogramming -/

/-- The thread of a CPU has handed a program to `exitProcesos`, and has not counted it. -/
def Loc.porContar : Loc → ℤ
  | aumentaMultiprogramacion _ => 1
  | _ => 0

/-- The scheduler has counted a program, and has not put it in Ready. -/
def LocPlp.contado : LocPlp → ℤ
  | mueve => 1
  | _ => 0

/-- **The counter, with the programs in the system**: those that were put in Ready and not handed to
`exitProcesos`, with what the threads have done in part. -/
def cupo (s : Sistema) : ℤ :=
  s.comun.estado_multiprogramacion + total Loc.porContar s.hilos + s.plp.contado +
    (s.comun.admitidos.length - s.comun.entregados.length)

/-- The thread of a CPU hands a program to `exitProcesos`, and then counts it. -/
theorem pasoHilo_porContar (hpaso : pasoHilo c loc = some (loc', c')) :
    c'.estado_multiprogramacion + loc'.porContar - c'.entregados.length =
      c.estado_multiprogramacion + loc.porContar - c.entregados.length := by
  cases pasoHilo_avanza hpaso with
  | agregaExit =>
      simp only [Loc.porContar, List.length_append, List.length_singleton]
      omega
  | aumentaMultiprogramacion =>
      simp only [Loc.porContar]
      omega
  | _ => rfl

theorem porContar_recibirMensaje (c : Comun) (x : Programa) (mensaje : Option MensajeCpu) :
    (recibirMensaje c x mensaje).porContar = 0 := by
  have hcontesta := recibirMensaje_contesta c x mensaje
  generalize recibirMensaje c x mensaje = loc at hcontesta
  cases hcontesta <;> rfl

/-- The scheduler counts a program, and then puts it in Ready. -/
theorem pasoPlp_contado {peso : Option ℤ} {l l' : LocPlp}
    (hpaso : pasoPlp c peso l = some (l', c')) :
    c'.estado_multiprogramacion + l'.contado + (c'.admitidos.length - c'.entregados.length) =
      c.estado_multiprogramacion + l.contado + (c.admitidos.length - c.entregados.length) := by
  cases pasoPlp_avanza hpaso with
  | resta =>
      simp only [LocPlp.contado]
      omega
  | mueve _ =>
      simp only [LocPlp.contado, agregarReady, List.length_append, List.length_singleton]
      omega
  | _ => rfl

/-- **Every step keeps the degree of multiprogramming.** -/
theorem cupo_paso {e : Evento} (hpaso : Paso s e s') : cupo s' = cupo s := by
  cases hpaso.transicion with
  | conexion =>
      have hnada : Loc.esperaReady.porContar = 0 := rfl
      simp only [cupo, total_concat, hnada, add_zero]
  | @hilo i loc loc' c' hi hloc =>
      have hcontar := pasoHilo_porContar hloc
      have htotal := total_set Loc.porContar hi loc'
      simp only [cupo, (pasoHilo_marco hloc).admitidos]
      omega
  | @mensaje i programa mensaje hi =>
      have htotal := total_set Loc.porContar hi (recibirMensaje s.comun programa mensaje)
      have hrecibe : (Loc.recibe programa).porContar = 0 := rfl
      rw [porContar_recibirMensaje, hrecibe, add_zero, add_zero] at htotal
      simp only [cupo, htotal]
  | @dispositivo j c' hc =>
      obtain ⟨ready, dispositivos, n, rfl⟩ := pasoDispositivo_marco hc
      rfl
  | @plp peso plp c' hc =>
      have hcontado := pasoPlp_contado hc
      simp only [cupo]
      omega
  | @principal pcb principal c' hc =>
      generalize s.principal = l at hc
      cases pasoPrincipal_avanza hc <;> rfl
  | @salida salida c' hc =>
      generalize s.salida = l at hc
      cases pasoSalida_avanza hc <;> rfl

/-- The thread of a CPU is in `moverAExit`. -/
def Loc.enMoverAExit : Loc → Bool
  | moverAExit _ _ => true
  | agregaExit _ _ => true
  | aumentaMultiprogramacion _ => true
  | postExit _ => true
  | postNuevo _ => true
  | _ => false

/-- The scheduler is in `ponerEnReadyProgramas`, with room for a program. -/
def LocPlp.enPonerEnReady : LocPlp → Bool
  | resta => true
  | mueve => true
  | publica => true
  | _ => false

/-- The programs in the system: those that were put in Ready and not handed to `exitProcesos`. -/
def Comun.enSistema (c : Comun) : List Programa :=
  c.admitidos.filter fun x => decide (x ∉ c.entregados)

/-- What was handed to `exitProcesos` had been put in Ready. -/
theorem Propio.entregados_le (h : Propio s) :
    (s.comun.entregados : Multiset Programa) ≤ s.comun.admitidos := by
  refine le_trans ?_ h.duenios_le
  rw [Kernel.duenios, dueniosComun]
  exact (Multiset.le_add_left _ _).trans (Multiset.le_add_right _ _)

/-- A program is handed to `exitProcesos` once. -/
theorem Propio.entregados_nodup (h : Propio s) : s.comun.entregados.Nodup :=
  Multiset.coe_nodup.1 (Multiset.nodup_of_le h.entregados_le
    (Multiset.coe_nodup.2 h.admitidos_nodup))

/-- The programs in the system, counted. -/
theorem Propio.length_enSistema (h : Propio s) :
    (s.comun.enSistema.length : ℤ) = s.comun.admitidos.length - s.comun.entregados.length := by
  have hperm : (s.comun.admitidos.filter fun x => decide (x ∈ s.comun.entregados)).Perm
      s.comun.entregados := by
    rw [List.perm_ext_iff_of_nodup (h.admitidos_nodup.filter _) h.entregados_nodup]
    intro x
    rw [List.mem_filter, decide_eq_true_eq]
    refine ⟨And.right, fun hx => ⟨?_, hx⟩⟩
    exact Multiset.mem_coe.1 (Multiset.mem_of_le h.entregados_le (Multiset.mem_coe.2 hx))
  have hpartes := List.length_eq_length_filter_add (l := s.comun.admitidos)
    fun x => decide (x ∈ s.comun.entregados)
  have henSistema : s.comun.enSistema =
      s.comun.admitidos.filter fun x => !decide (x ∈ s.comun.entregados) :=
    List.filter_congr fun x _ => by simp
  rw [hperm.length_eq, ← henSistema] at hpartes
  omega

/-- Two programs and room for both: the first one ends. -/
def trazaTermina : List Evento :=
  llegaPrograma ++ llegaPrograma ++ [.conexion] ++ tomaPrograma 0 ++
    [.mensaje 0 (some (.notificarPorFinPrograma { pcbNulo with pid := 1001#32 })),
      .hilo 0, .hilo 0, .hilo 0, .hilo 0, .hilo 0]

/-- **The degree of multiprogramming is respected.**  With a degree that is not negative, in every
run in which the PCBs have the pid of their program: `estado_multiprogramacion` is never negative, a
program is put in Ready once and handed to `exitProcesos` once, and whenever no thread is in
`moverAExit` or in `ponerEnReadyProgramas`, `estado_multiprogramacion` and the number of programs
that were put in Ready and not handed to `exitProcesos` make up that degree. -/
theorem grado_respetado (configuracion : Configuracion)
    (hgrado : 0 ≤ configuracion.multiprogramacion) {tr : List Evento} {s : Sistema}
    (h : Lts.Run (Lts.restrict ConPids Paso) (inicial configuracion) tr s) :
    0 ≤ s.comun.estado_multiprogramacion ∧ s.comun.admitidos.Nodup ∧ s.comun.entregados.Nodup ∧
    ((∀ loc ∈ s.hilos, loc.enMoverAExit = false) → s.plp.enPonerEnReady = false →
      s.comun.estado_multiprogramacion + s.comun.enSistema.length =
        configuracion.multiprogramacion) := by
  have hpropio : Propio s :=
    h.invariant (fun _ _ _ hs he => hs.paso he.1 he.2) (propio_inicial configuracion)
  have hestado : NoNegativo s := h.of_restrict.invariant (fun _ _ _ hs he => hs.paso he)
    ⟨hgrado, by simp [inicial]⟩
  have hcupo : cupo s = configuracion.multiprogramacion := by
    refine h.of_restrict.invariant (I := fun s => cupo s = configuracion.multiprogramacion)
      (fun _ _ _ hs he => (cupo_paso he).trans hs) ?_
    simp [cupo, inicial, LocPlp.contado]
  refine ⟨hestado.estado, hpropio.admitidos_nodup, hpropio.entregados_nodup, ?_⟩
  intro hhilos hplp
  have hcontar : total Loc.porContar s.hilos = 0 := by
    refine total_eq_zero fun loc hloc => ?_
    have hfuera := hhilos loc hloc
    cases loc with
    | aumentaMultiprogramacion fin => exact absurd hfuera (by simp [Loc.enMoverAExit])
    | _ => rfl
  have hcontado : s.plp.contado = 0 := by
    cases hl : s.plp with
    | mueve => exact absurd hplp (by simp [hl, LocPlp.enPonerEnReady])
    | _ => rfl
  have hsistema := hpropio.length_enSistema
  rw [cupo, hcontar, hcontado] at hcupo
  omega

/-- Of two programs one ends. -/
theorem grado_respetado_termina : ∃ s,
    correr conPids trazaTermina (inicial configuracionDisco) = some s ∧
    s.comun.enSistema = [1] ∧ s.comun.estado_multiprogramacion + 1 = 2 := by
  have hfin : (correr conPids trazaTermina (inicial configuracionDisco)).any
      (fun s => decide (s.hilos = [.esperaReady] ∧ s.plp = .espera ∧
        s.comun.enSistema = [1])) = true := by decide +kernel
  obtain ⟨s, hs, hfin⟩ := Option.any_eq_true _ _ |>.1 hfin
  obtain ⟨hhilos, hplp, hsistema⟩ := of_decide_eq_true hfin
  obtain ⟨-, -, -, hgrado⟩ := grado_respetado configuracionDisco (by decide)
    ((run_of_correr hs).restrict_mono fun _ _ => conPids_of_test)
  have hsuma := hgrado (by simp [hhilos, Loc.enMoverAExit]) (by simp [hplp, LocPlp.enPonerEnReady])
  rw [hsistema] at hsuma
  exact ⟨s, hs, hsistema, hsuma⟩

end Ansisop.Kernel
