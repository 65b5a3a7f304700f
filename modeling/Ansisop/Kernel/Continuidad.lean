/-
**The PCB of a program is the one with which it left its last CPU.**

A program leaves a CPU with its PCB in the message, and the thread of the CPU stores it in the
program, in some cases before it has put the program in a queue and in others after it has removed
it from `listaExec`.  The program can be woken and sent to another CPU as soon as it is in a queue.

The history of a run is the PCB with which each program last left a CPU.  Between the message and
the store the thread of the CPU owns the program, so no other thread can send it; everywhere else
the PCB of a program is the one of the history.

Main definitions:

* `Ansisop.Kernel.ultimaSalida` — the history: the PCB of each program when it was put in Ready, or
  when it last left a CPU;
* `Ansisop.Kernel.Loc.saliente` — the PCB that is still to be stored;
* `Ansisop.Kernel.Continuo` — the invariant.

Main results:

* `Ansisop.Kernel.pasoHilo_pcb` — **what a step of the thread of a CPU does to the PCBs**;
* `Ansisop.Kernel.Continuo.paso` — **every step keeps the invariant**;
* `Ansisop.Kernel.continuidad` — the PCB that is sent to a CPU is the one of the history.
-/

import Ansisop.Kernel.Propiedad
import Ansisop.Lib.Historia

set_option relaxedAutoImplicit false
set_option autoImplicit false

namespace Ansisop.Kernel

open Totals

/-! ### The history -/

/-- The PCB with which a program leaves the CPU in a message.  A wait is not one of them: the
program leaves the CPU when `fnLock` decides to block it. -/
def MensajeCpu.pcbDeSalida : MensajeCpu → Option Pcb
  | .entradaSalidaKernel _ _ pcb => some pcb
  | .notificarPorFinRafaga pcb => some pcb
  | _ => none

/-- **The PCB of each program**: the one that it had when it was put in Ready, and then the one with
which it last left a CPU, in `notificarPorFinRafaga`, in `entradaSalidaKernel` or in a `waitKernel`
that blocks it. -/
def ultimaSalida (s : Sistema) (e : Evento) (ultimo : Programa → Pcb) : Programa → Pcb :=
  match e with
  | .plp _ =>
      match s.plp, s.comun.newProcesos with
      | .mueve, (programa, _) :: _ => Function.update ultimo programa (s.comun.pcb programa)
      | _, _ => ultimo
  | .mensaje i (some mensaje) =>
      match s.hilos[i]?, MensajeCpu.pcbDeSalida mensaje with
      | some (.recibe programa), some pcb => Function.update ultimo programa pcb
      | _, _ => ultimo
  | .hilo i =>
      match s.hilos[i]? with
      | some (.lockTamanio programa _ pcb) =>
          if s.comun.listaExec ≠ [] then Function.update ultimo programa pcb else ultimo
      | _ => ultimo
  | _ => ultimo

/-- The PCB with which the program of a thread has left the CPU, and that is still to be stored. -/
def Loc.saliente : Loc → Option (Programa × Pcb)
  | entradaSalida x _ _ pcb => some (x, pcb)
  | lockQuitaExec x _ pcb => some (x, pcb)
  | lockEscribe x _ pcb => some (x, pcb)
  | recargaQuita x pcb => some (x, pcb)
  | recargaEscribe y pcb => some (y, pcb)
  | _ => none

/-- The program whose PCB the thread sends to its CPU, from the moment in which it has it to the
next message. -/
def Loc.atiende : Loc → Option Programa
  | agregaExec x => some x
  | recibe x => some x
  | _ => none

variable {c c' : Comun} {loc loc' : Loc} {s s' : Sistema} {x y : Programa} {pcb : Pcb}
  {ultimo : Programa → Pcb}

/-- A program whose PCB is to be stored is the thread's own. -/
theorem Loc.mem_duenio_of_saliente (h : loc.saliente = some (x, pcb)) : x ∈ loc.duenio := by
  cases loc <;> simp_all [Loc.saliente, Loc.duenio]

theorem Loc.mem_duenio_of_atiende (h : loc.atiende = some x) : x ∈ loc.duenio := by
  cases loc <;> simp_all [Loc.atiende, Loc.duenio]

/-- **What a step of the thread of a CPU does to the PCBs**: it stores one that was to be stored, it
decides to block its program, or it does nothing. -/
theorem pasoHilo_pcb (h : Pids c) (hloc : loc.Coherente c)
    (hpaso : pasoHilo c loc = some (loc', c')) :
    (∃ x pcb, loc.saliente = some (x, pcb) ∧ loc'.saliente = none ∧
      c'.pcb = Function.update c.pcb x pcb) ∨
    (∃ x j pcb, loc = .lockTamanio x j pcb ∧ c.listaExec ≠ [] ∧ loc'.saliente = some (x, pcb) ∧
      c'.pcb = c.pcb) ∨
    ((∀ x j pcb, loc = .lockTamanio x j pcb → c.listaExec = []) ∧ loc'.saliente = loc.saliente ∧
      c'.pcb = c.pcb) := by
  cases pasoHilo_avanza hpaso with
  | entradaSalida _ | sinDispositivo _ | lockEscribe | recargaEscribe =>
      exact Or.inl ⟨_, _, rfl, rfl, rfl⟩
  | @lockTamanio x j pcb hexec => exact Or.inr (Or.inl ⟨x, j, pcb, rfl, hexec, rfl, rfl⟩)
  | lockSinExec hexec => exact Or.inr (Or.inr ⟨fun _ _ _ _ => hexec, rfl, rfl⟩)
  | @recargaQuita x _ pcb hbuscado =>
      -- the program that is found is the thread's own
      have hx : x ∈ c.listaExec := hloc.enExec x (by simp [Loc.enExec])
      rw [(hloc.pcb x pcb rfl).2, quitarExec_eq h hx] at hbuscado
      obtain rfl := Option.some_inj.1 hbuscado
      exact Or.inr (Or.inr ⟨fun _ _ _ heq => absurd heq (by simp), rfl, rfl⟩)
  | _ => exact Or.inr (Or.inr ⟨fun _ _ _ heq => absurd heq (by simp), rfl, rfl⟩)

/-! ### The invariant -/

/-- **The PCB of every program that was put in Ready is the one of the history**, but for those that
a thread is about to store, and that one is then the one of the history. -/
structure Continuo (s : Sistema) (ultimo : Programa → Pcb) : Prop where
  saliente : ∀ loc ∈ s.hilos, ∀ x pcb, loc.saliente = some (x, pcb) → ultimo x = pcb
  guardado : ∀ x ∈ s.comun.admitidos, (∀ loc ∈ s.hilos, ∀ pcb, loc.saliente ≠ some (x, pcb)) →
    s.comun.pcb x = ultimo x

/-- Two threads that own a program are the same one. -/
theorem Propio.mismo_hilo (h : Propio s) {i k : ℕ} (hi : s.hilos[i]? = some loc)
    (hk : s.hilos[k]? = some loc') (hx : x ∈ loc.duenio) (hx' : x ∈ loc'.duenio) : i = k := by
  have hnodup := h.duenios_nodup
  rw [Kernel.duenios, Multiset.nodup_add] at hnodup
  exact eq_of_nodup_total hnodup.2.1 hi hk hx hx'

/-- A program that a thread owns was put in Ready. -/
theorem Propio.admitido (h : Propio s) (hloc : loc ∈ s.hilos) (hx : x ∈ loc.duenio) :
    x ∈ s.comun.admitidos := by
  refine Multiset.mem_coe.1 (Multiset.mem_of_le h.duenios_le ?_)
  rw [Kernel.duenios, Multiset.mem_add]
  exact Or.inr (mem_total.2 ⟨loc, hloc, hx⟩)

/-- **A program that a thread sends to its CPU has the PCB of the history.** -/
theorem Continuo.atiende (h : Continuo s ultimo) (hpropio : Propio s) (hloc : loc ∈ s.hilos)
    (hx : loc.atiende = some x) : s.comun.pcb x = ultimo x := by
  have hduenio := Loc.mem_duenio_of_atiende hx
  refine h.guardado x (hpropio.admitido hloc hduenio) ?_
  intro loc' hloc' pcb hsaliente
  obtain ⟨i, hi⟩ := List.mem_iff_getElem?.1 hloc
  obtain ⟨k, hk⟩ := List.mem_iff_getElem?.1 hloc'
  obtain rfl := hpropio.mismo_hilo hi hk hduenio (Loc.mem_duenio_of_saliente hsaliente)
  obtain rfl : loc = loc' := by simpa [hi] using hk
  cases loc <;> simp_all [Loc.saliente, Loc.atiende]

/-- The other threads own other programs. -/
theorem Propio.otro_hilo (h : Propio s) {i : ℕ} (hi : s.hilos[i]? = some loc) (hx : x ∈ loc.duenio)
    {loc₁ : Loc} (hmem : loc₁ ∈ s.hilos.set i loc') (hne : loc₁ ≠ loc') :
    loc₁ ∈ s.hilos ∧ x ∉ loc₁.duenio := by
  obtain ⟨k, hk⟩ := List.mem_iff_getElem?.1 hmem
  rw [List.getElem?_set] at hk
  split at hk
  · split at hk
    · exact absurd (Option.some_inj.1 hk).symm hne
    · exact absurd hk (by simp)
  · rename_i hik
    refine ⟨List.mem_of_getElem? hk, ?_⟩
    intro hx'
    exact hik (h.mismo_hilo hi hk hx hx')

/-- A PCB that no thread is about to store is that of the history, also after a thread that was not
about to store it has moved. -/
theorem Continuo.guardado_hilo (h : Continuo s ultimo) {i : ℕ} (hi : s.hilos[i]? = some loc)
    (hx : x ∈ s.comun.admitidos) (hloc : ∀ pcb, loc.saliente ≠ some (x, pcb))
    (hno : ∀ loc₁ ∈ s.hilos.set i loc', ∀ pcb, loc₁.saliente ≠ some (x, pcb)) :
    s.comun.pcb x = ultimo x := by
  refine h.guardado x hx ?_
  intro loc₁ hmem pcb hsaliente
  obtain ⟨k, hk⟩ := List.mem_iff_getElem?.1 hmem
  rcases eq_or_ne k i with rfl | hki
  · obtain rfl : loc = loc₁ := by simpa [hi] using hk
    exact hloc pcb hsaliente
  · exact hno loc₁ (List.mem_of_getElem? (by rwa [List.getElem?_set_ne hki.symm])) pcb hsaliente

/-- A thread stores the PCB of its program. -/
theorem Continuo.guarda (h : Continuo s ultimo) {i : ℕ}
    (hi : s.hilos[i]? = some loc) (hloc : loc.saliente = some (x, pcb))
    (hloc' : loc'.saliente = none) (hpcb : c'.pcb = Function.update s.comun.pcb x pcb)
    (hadmitidos : c'.admitidos = s.comun.admitidos) :
    Continuo { s with hilos := s.hilos.set i loc', comun := c' } ultimo where
  saliente := by
    intro loc₁ hmem y pcb' hy
    rcases List.mem_or_eq_of_mem_set hmem with hmem | rfl
    · exact h.saliente loc₁ hmem y pcb' hy
    · exact absurd (hloc'.symm.trans hy) (by simp)
  guardado := by
    intro y hy hno
    simp only [hadmitidos] at hy
    simp only [hpcb]
    rcases eq_or_ne y x with rfl | hne
    · rw [Function.update_self]
      exact (h.saliente loc (List.mem_of_getElem? hi) y pcb hloc).symm
    · rw [Function.update_of_ne hne]
      exact h.guardado_hilo hi hy (by simp [hloc, hne.symm]) hno

/-- A program leaves its CPU. -/
theorem Continuo.sale (h : Continuo s ultimo) (hpropio : Propio s) {i : ℕ}
    (hi : s.hilos[i]? = some loc) (hx : x ∈ loc.duenio) (hloc : loc.saliente = none)
    (hloc' : loc'.saliente = some (x, pcb)) (hpcb : c'.pcb = s.comun.pcb)
    (hadmitidos : c'.admitidos = s.comun.admitidos) :
    Continuo { s with hilos := s.hilos.set i loc', comun := c' }
    (Function.update ultimo x pcb) where
  saliente := by
    intro loc₁ hmem y pcb' hy
    rcases eq_or_ne loc₁ loc' with rfl | hne
    · obtain ⟨rfl, rfl⟩ : x = y ∧ pcb = pcb' := by simpa [hloc'] using hy
      exact Function.update_self ..
    · obtain ⟨hmem, hno⟩ := hpropio.otro_hilo hi hx hmem hne
      have hyx : y ≠ x := by
        rintro rfl
        exact hno (Loc.mem_duenio_of_saliente hy)
      rw [Function.update_of_ne hyx]
      exact h.saliente loc₁ hmem y pcb' hy
  guardado := by
    intro y hy hno
    have hyx : y ≠ x := by
      rintro rfl
      have hmem : loc' ∈ s.hilos.set i loc' :=
        List.mem_set (List.getElem?_eq_some_iff.1 hi).1 loc'
      exact hno loc' hmem pcb hloc'
    simp only [hadmitidos] at hy
    simp only [hpcb]
    rw [Function.update_of_ne hyx]
    exact h.guardado_hilo hi hy (by simp [hloc]) hno

/-- A thread does nothing to the PCBs. -/
theorem Continuo.igual (h : Continuo s ultimo) {i : ℕ} (hi : s.hilos[i]? = some loc)
    (hloc' : loc'.saliente = loc.saliente) (hpcb : c'.pcb = s.comun.pcb)
    (hadmitidos : c'.admitidos = s.comun.admitidos) :
    Continuo { s with hilos := s.hilos.set i loc', comun := c' } ultimo where
  saliente := by
    intro loc₁ hmem y pcb' hy
    rcases List.mem_or_eq_of_mem_set hmem with hmem | rfl
    · exact h.saliente loc₁ hmem y pcb' hy
    · exact h.saliente loc (List.mem_of_getElem? hi) y pcb' (hloc' ▸ hy)
  guardado := by
    intro y hy hno
    simp only [hadmitidos] at hy
    simp only [hpcb]
    have hmem : loc' ∈ s.hilos.set i loc' := List.mem_set (List.getElem?_eq_some_iff.1 hi).1 loc'
    exact h.guardado_hilo hi hy (fun pcb => hloc' ▸ hno loc' hmem pcb) hno

/-- A step of a thread that serves no CPU, and that puts no program in Ready. -/
theorem Continuo.otro (h : Continuo s ultimo) (hhilos : s'.hilos = s.hilos)
    (hadmitidos : s'.comun.admitidos = s.comun.admitidos)
    (hpcb : ∀ x ∈ s.comun.admitidos, s'.comun.pcb x = s.comun.pcb x) : Continuo s' ultimo where
  saliente := by
    rw [hhilos]
    exact h.saliente
  guardado := by
    rw [hhilos, hadmitidos]
    intro x hx hno
    rw [hpcb x hx]
    exact h.guardado x hx hno

/-- **A step of the thread of a CPU keeps the invariant.** -/
theorem Continuo.hilo (h : Continuo s ultimo) (hpropio : Propio s) {i : ℕ}
    (hi : s.hilos[i]? = some loc) (hpaso : pasoHilo s.comun loc = some (loc', c')) :
    Continuo { s with hilos := s.hilos.set i loc', comun := c' }
      (ultimaSalida s (.hilo i) ultimo) := by
  have hmem := List.mem_of_getElem? hi
  have hadmitidos := (pasoHilo_marco hpaso).admitidos
  simp only [ultimaSalida, hi]
  rcases pasoHilo_pcb hpropio.pids (hpropio.coherente hmem) hpaso with
    ⟨x, pcb, hsaliente, hsaliente', hpcb⟩ | ⟨x, j, pcb, rfl, hexec, hsaliente', hpcb⟩ |
    ⟨hexec, hsaliente', hpcb⟩
  · have hultimo := h.guarda hi hsaliente hsaliente' hpcb hadmitidos
    cases loc with
    | lockTamanio x j pcb => exact absurd hsaliente (by simp [Loc.saliente])
    | _ => exact hultimo
  · simp only [ne_eq, hexec, not_false_eq_true, if_true]
    exact h.sale hpropio hi (by simp [Loc.duenio]) rfl hsaliente' hpcb hadmitidos
  · have hultimo := h.igual hi hsaliente' hpcb hadmitidos
    cases loc with
    | lockTamanio x j pcb =>
        simpa [hexec x j pcb rfl] using hultimo
    | _ => exact hultimo

/-- **A message keeps the invariant.** -/
theorem Continuo.mensaje (h : Continuo s ultimo) (hpropio : Propio s) {i : ℕ}
    (hi : s.hilos[i]? = some (.recibe x)) (mensaje : Option MensajeCpu) :
    Continuo { s with hilos := s.hilos.set i (recibirMensaje s.comun x mensaje) }
      (ultimaSalida s (.mensaje i mensaje) ultimo) := by
  have hcontesta := recibirMensaje_contesta s.comun x mensaje
  generalize recibirMensaje s.comun x mensaje = loc at hcontesta
  cases hcontesta with
  | entradaSalida | finRafaga =>
      simp only [ultimaSalida, hi]
      exact h.sale hpropio hi (by simp [Loc.duenio]) rfl rfl rfl rfl
  | seFue => exact h.igual hi rfl rfl rfl
  | _ =>
      simp only [ultimaSalida, hi]
      exact h.igual hi rfl rfl rfl

/-- The scheduler puts a program in Ready with its PCB. -/
theorem Continuo.planificador (h : Continuo s ultimo) (hpropio : Propio s) {peso : Option ℤ}
    {plp : LocPlp} (hpaso : pasoPlp s.comun peso s.plp = some (plp, c')) :
    Continuo { s with plp := plp, comun := c' } (ultimaSalida s (.plp peso) ultimo) := by
  simp only [ultimaSalida]
  generalize hloc : s.plp = l at hpaso
  cases pasoPlp_avanza hpaso with
  | @mueve _ programa peso resto hnew =>
      -- no thread has the PCB of a program that is still to be put in Ready
      have hnueva : programa ∉ s.comun.admitidos := by
        have hunicas := hpropio.unicas
        rw [Kernel.llegadas, add_assoc, add_assoc, add_assoc, Multiset.nodup_add] at hunicas
        intro hmem
        refine Multiset.disjoint_left.1 hunicas.2.2 (Multiset.mem_coe.2 hmem) ?_
        rw [Multiset.mem_add, hnew]
        exact Or.inl (by simp)
      simp only [hnew]
      constructor
      · intro loc hmem y pcb hsaliente
        have hy := hpropio.admitido hmem (Loc.mem_duenio_of_saliente hsaliente)
        have hne : y ≠ programa := by
          rintro rfl
          exact hnueva hy
        rw [Function.update_of_ne hne]
        exact h.saliente loc hmem y pcb hsaliente
      · intro y hy hno
        rcases eq_or_ne y programa with rfl | hne
        · rw [Function.update_self]
          rfl
        · rw [Function.update_of_ne hne]
          rcases List.mem_append.1 hy with hy | hy
          · exact h.guardado y hy hno
          · exact absurd (List.mem_singleton.1 hy) hne
  | _ => exact h.otro rfl rfl fun _ _ => rfl

/-- A program that arrives is not in Ready. -/
theorem Continuo.llegada (h : Continuo s ultimo) (hpropio : Propio s) {pcb : Pcb}
    {principal : LocPrincipal}
    (hpaso : pasoPrincipal s.comun pcb s.principal = some (principal, c')) :
    Continuo { s with principal := principal, comun := c' } ultimo := by
  generalize s.principal = l at hpaso
  cases pasoPrincipal_avanza hpaso with
  | escucha _ =>
      refine h.otro rfl rfl fun x hx => ?_
      have hlt : x < s.comun.cantidad :=
        hpropio.llegadas x (Multiset.mem_of_le (admitidos_le_llegadas s) (Multiset.mem_coe.2 hx))
      simp [escribirPcb, hlt.ne]
  | _ => exact h.otro rfl rfl fun _ _ => rfl

/-- **Every step keeps the invariant.** -/
theorem Continuo.paso {e : Evento} (h : Continuo s ultimo) (hpropio : Propio s)
    (hpaso : Paso s e s') : Continuo s' (ultimaSalida s e ultimo) := by
  cases hpaso.transicion with
  | conexion =>
      constructor
      · intro loc hmem x pcb hsaliente
        rcases List.mem_append.1 hmem with hmem | hmem
        · exact h.saliente loc hmem x pcb hsaliente
        · obtain rfl := List.mem_singleton.1 hmem
          exact absurd hsaliente (by simp [Loc.saliente])
      · intro x hx hno
        exact h.guardado x hx fun loc hmem => hno loc (List.mem_append_left _ hmem)
  | @hilo i loc loc' c' hi hloc =>
      exact h.hilo hpropio hi hloc
  | @mensaje i programa mensaje hi =>
      exact h.mensaje hpropio hi mensaje
  | @dispositivo j c' hc =>
      obtain ⟨ready, dispositivos, n, rfl⟩ := pasoDispositivo_marco hc
      exact h.otro rfl rfl fun _ _ => rfl
  | @plp peso plp c' hc =>
      exact h.planificador hpropio hc
  | @principal pcb principal c' hc =>
      exact h.llegada hpropio hc
  | @salida salida c' hc =>
      generalize s.salida = l at hc
      cases pasoSalida_avanza hc <;> exact h.otro rfl rfl fun _ _ => rfl

theorem continuo_inicial (configuracion : Configuracion) :
    Continuo (inicial configuracion) fun _ => pcbNulo where
  saliente := by simp [inicial]
  guardado := by simp [inicial]

/-! ### The PCB that is sent -/

/-- The PCB that the CPU sends when the burst of the first program ends. -/
def pcbDeRafaga : Pcb := { pcbNulo with pid := 1001#32, programCounter := 7#32 }

/-- A program is put in Ready, a CPU runs it for a burst, and another CPU takes it. -/
def trazaRafaga : List Evento :=
  llegaPrograma ++ [.conexion, .conexion] ++ tomaPrograma 0 ++
    [.mensaje 0 (some (.notificarPorFinRafaga pcbDeRafaga)), .hilo 0, .hilo 0, .hilo 0, .hilo 0] ++
    tomaPrograma 1

/-- **The PCB that is sent to a CPU is the one with which the program left its last CPU**, or the
one with which it was put in Ready if it never ran.  It holds in every run in which the PCBs have
the pid of their program, for the thread of every CPU, at each moment from when it takes a program
out of Ready until the next message of its CPU, so at any moment in which it can read the PCB to
send it. -/
theorem continuidad (configuracion : Configuracion) {tr : List Evento} {s : Sistema}
    {ultimo : Programa → Pcb}
    (h : Lts.Run (Lts.anotado ultimaSalida (Lts.restrict ConPids Paso))
      (inicial configuracion, fun _ => pcbNulo) tr (s, ultimo)) :
    ∀ loc ∈ s.hilos, ∀ x, loc.atiende = some x → s.comun.pcb x = ultimo x := by
  have hinv : Propio s ∧ Continuo s ultimo := by
    refine h.invariant (I := fun p => Propio p.1 ∧ Continuo p.1 p.2) ?_
      ⟨propio_inicial configuracion, continuo_inicial configuracion⟩
    rintro ⟨s₁, u₁⟩ e ⟨s₂, u₂⟩ ⟨hpropio, hcontinuo⟩ ⟨⟨hpids, hpaso⟩, hu⟩
    obtain rfl : u₂ = ultimaSalida s₁ e u₁ := hu
    exact ⟨hpropio.paso hpids hpaso, hcontinuo.paso hpropio hpaso⟩
  intro loc hloc x hx
  exact hinv.2.atiende hinv.1 hloc hx

/-- The second CPU gets the PCB that the first one sent. -/
theorem continuidad_rafaga : ∃ s ultimo,
    correr conPids trazaRafaga (inicial configuracionDisco) = some s ∧
    Lts.Run (Lts.anotado ultimaSalida (Lts.restrict ConPids Paso))
      (inicial configuracionDisco, fun _ => pcbNulo) trazaRafaga (s, ultimo) ∧
    s.hilos = [.esperaReady, .recibe 0] ∧ s.comun.pcb 0 = pcbDeRafaga ∧ ultimo 0 = pcbDeRafaga := by
  have hfin : (correr conPids trazaRafaga (inicial configuracionDisco)).any
      (fun s => decide (s.hilos = [.esperaReady, .recibe 0] ∧ s.comun.pcb 0 = pcbDeRafaga)) =
        true := by
    decide +kernel
  obtain ⟨s, hs, hfin⟩ := Option.any_eq_true _ _ |>.1 hfin
  obtain ⟨hhilos, hpcb⟩ := of_decide_eq_true hfin
  have hrun : Lts.Run (Lts.restrict ConPids Paso) (inicial configuracionDisco) trazaRafaga s :=
    (run_of_correr hs).restrict_mono fun _ _ => conPids_of_test
  obtain ⟨ultimo, hrun⟩ : ∃ ultimo, Lts.Run (Lts.anotado ultimaSalida (Lts.restrict ConPids Paso))
      (inicial configuracionDisco, fun _ => pcbNulo) trazaRafaga (s, ultimo) := hrun.anotar _
  have hultimo := continuidad configuracionDisco hrun (.recibe 0) (by simp [hhilos]) 0 rfl
  exact ⟨s, ultimo, hs, hrun, hhilos, hpcb, hultimo.symm.trans hpcb⟩

end Ansisop.Kernel
