/-
**What the threads of the CPUs conserve.**

A program is always in the hands of someone: a list, a device, or the thread of a CPU.  Each step of
the thread of a CPU hands its program over to one other place, so the owners, counted, do not
change.  The same holds of `listaExec` and the threads that have put a program there.

A program is removed from `listaExec` by its pid, so the pids of the PCBs have to stay those that
the kernel gave.

Main definitions:

* `Ansisop.Kernel.Loc.duenio`, `Ansisop.Kernel.Loc.enExec` — the program that a thread owns, and the
  one that it has in `listaExec`;
* `Ansisop.Kernel.dueniosComun`, `Ansisop.Kernel.duenios` — the owners of the programs;
* `Ansisop.Kernel.Pids` — the programs that have arrived have their pids;
* `Ansisop.Kernel.Conserva` — what a step conserves.

Main results:

* `Ansisop.Kernel.quitarExec_eq` — removing by pid removes the program;
* `Ansisop.Kernel.pasoHilo_conserva` — **every step of the thread of a CPU conserves**.
-/

import Ansisop.Kernel.Sistema
import Ansisop.Lib.Totals
import Mathlib.Data.List.ReduceOption
import Mathlib.Tactic.Abel

set_option relaxedAutoImplicit false
set_option autoImplicit false

namespace Ansisop.Kernel

open Totals

/-! ### Owners -/

/-- The programs that the thread of a CPU owns. -/
def Loc.duenio : Loc → Multiset Programa
  | agregaExec x => {x}
  | recibe x => {x}
  | entradaSalida x _ _ _ => {x}
  | encolaDispositivo x _ _ => {x}
  | moverAExit x _ => {x}
  | agregaExit y _ => {y}
  | lockResta x _ _ => {x}
  | lockCompara x _ _ => {x}
  | lockTamanio x _ _ => {x}
  | lockQuitaExec x _ _ => {x}
  | lockEscribe x _ _ => {x}
  | lockEncola x _ => {x}
  | unlockSuma x _ => {x}
  | unlockCompara x _ => {x}
  | unlockTamanio x _ => {x}
  | unlockSaca x _ => {x}
  | unlockAgrega x _ y => {x} + (y.toList : Multiset Programa)
  | unlockPost x _ => {x}
  | recargaQuita x _ => {x}
  | recargaEscribe y _ => {y}
  | recargaAgrega y => {y}
  | _ => 0

/-- The programs that the thread of a CPU has put in `listaExec` and not removed. -/
def Loc.enExec : Loc → Multiset Programa
  | recibe x => {x}
  | entradaSalida x _ _ _ => {x}
  | encolaDispositivo x _ _ => {x}
  | quitaExecDispositivo x _ => {x}
  | moverAExit x _ => {x}
  | lockResta x _ _ => {x}
  | lockCompara x _ _ => {x}
  | lockTamanio x _ _ => {x}
  | lockQuitaExec x _ _ => {x}
  | unlockSuma x _ => {x}
  | unlockCompara x _ => {x}
  | unlockTamanio x _ => {x}
  | unlockSaca x _ => {x}
  | unlockAgrega x _ _ => {x}
  | unlockPost x _ => {x}
  | recargaQuita x _ => {x}
  | _ => 0

/-- The PCB that the thread of a CPU is to store, with its program. -/
def Loc.porEscribir : Loc → Option (Programa × Pcb)
  | entradaSalida x _ _ pcb => some (x, pcb)
  | lockResta x _ pcb => some (x, pcb)
  | lockCompara x _ pcb => some (x, pcb)
  | lockTamanio x _ pcb => some (x, pcb)
  | lockQuitaExec x _ pcb => some (x, pcb)
  | lockEscribe x _ pcb => some (x, pcb)
  | recargaQuita x pcb => some (x, pcb)
  | recargaEscribe y pcb => some (y, pcb)
  | _ => none

/-- The program that a device serves. -/
def LocDispositivo.duenio : LocDispositivo → Multiset Programa
  | duerme x _ => {x}
  | _ => 0

/-- The programs of a device: those in its queue, and the one that it serves. -/
def Dispositivo.duenio (d : Dispositivo) : Multiset Programa :=
  (d.progEncolados.map Prod.fst : Multiset Programa) + d.hilo.duenio

/-- The programs in the queue of a semaphore. -/
def Semaforo.duenio (s : Semaforo) : Multiset Programa := s.progEncolados

/-- The programs in the lists that the threads share. -/
def dueniosComun (c : Comun) : Multiset Programa :=
  (c.listaReady.reduceOption : Multiset Programa) + total Semaforo.duenio c.semaforos +
    total Dispositivo.duenio c.dispositivos + (c.entregados : Multiset Programa)

/-- **The owners of the programs.** -/
def duenios (s : Sistema) : Multiset Programa := dueniosComun s.comun + total Loc.duenio s.hilos

variable {c c' : Comun} {loc loc' : Loc} {s s' : Sistema} {x : Programa}

theorem dueniosComun_agregarReady (c : Comun) (y : Option Programa) :
    dueniosComun (agregarReady c y) = dueniosComun c + (y.toList : Multiset Programa) := by
  have hready : ((c.listaReady ++ [y]).reduceOption : Multiset Programa) =
      (c.listaReady.reduceOption : Multiset Programa) + (y.toList : Multiset Programa) := by
    rw [List.reduceOption_append, ← Multiset.coe_add]
    cases y <;> rfl
  simp only [dueniosComun, agregarReady, hready]
  abel

theorem dueniosComun_conSemaforo {j : ℕ} {a : Semaforo} (h : c.semaforos[j]? = some a)
    (b : Semaforo) :
    dueniosComun (conSemaforo c j b) + a.duenio = dueniosComun c + b.duenio := by
  have := total_set Semaforo.duenio h b
  simp only [dueniosComun, conSemaforo]
  calc _ = (c.listaReady.reduceOption : Multiset Programa) +
        (total Semaforo.duenio (c.semaforos.set j b) + a.duenio) +
        total Dispositivo.duenio c.dispositivos + (c.entregados : Multiset Programa) := by abel
    _ = _ := by rw [this]; abel

theorem dueniosComun_conDispositivo {j : ℕ} {a : Dispositivo} (h : c.dispositivos[j]? = some a)
    (b : Dispositivo) :
    dueniosComun (conDispositivo c j b) + a.duenio = dueniosComun c + b.duenio := by
  have := total_set Dispositivo.duenio h b
  simp only [dueniosComun, conDispositivo]
  calc _ = (c.listaReady.reduceOption : Multiset Programa) +
        total Semaforo.duenio c.semaforos +
        (total Dispositivo.duenio (c.dispositivos.set j b) + a.duenio) +
        (c.entregados : Multiset Programa) := by abel
    _ = _ := by rw [this]; abel

/-- A semaphore to whose queue something is added. -/
theorem dueniosComun_semaforo_mas {j : ℕ} {a b : Semaforo} {m : Multiset Programa}
    (h : c.semaforos[j]? = some a) (hb : b.duenio = a.duenio + m) :
    dueniosComun (conSemaforo c j b) = dueniosComun c + m := by
  apply add_right_cancel (b := a.duenio)
  rw [dueniosComun_conSemaforo h, hb]
  abel

/-- A semaphore whose queue does not change. -/
theorem dueniosComun_semaforo_igual {j : ℕ} {a b : Semaforo} (h : c.semaforos[j]? = some a)
    (hb : b.duenio = a.duenio) : dueniosComun (conSemaforo c j b) = dueniosComun c :=
  (dueniosComun_semaforo_mas h (hb.trans (add_zero _).symm)).trans (add_zero _)

/-- A device to whose programs something is added. -/
theorem dueniosComun_dispositivo_mas {j : ℕ} {a b : Dispositivo} {m : Multiset Programa}
    (h : c.dispositivos[j]? = some a) (hb : b.duenio = a.duenio + m) :
    dueniosComun (conDispositivo c j b) = dueniosComun c + m := by
  apply add_right_cancel (b := a.duenio)
  rw [dueniosComun_conDispositivo h, hb]
  abel

/-! ### Pids -/

/-- The pids are different as long as the counter does not come round. -/
theorem pidDe_inj {n x y : ℕ} (hn : n ≤ 2 ^ 32) (hx : x < n) (hy : y < n)
    (h : pidDe x = pidDe y) : x = y := by
  have := congrArg BitVec.toNat h
  simp only [pidDe, BitVec.toNat_ofNat] at this
  omega

/-- The programs that have arrived have their pids, and those in `listaExec` have arrived. -/
structure Pids (c : Comun) : Prop where
  pid : ∀ x < c.cantidad, (c.pcb x).pid = pidDe x
  exec : ∀ x ∈ c.listaExec, x < c.cantidad
  cantidad : c.cantidad ≤ 2 ^ 32

/-- The pids depend on the PCBs, on `listaExec` and on the counter. -/
theorem Pids.igual (h : Pids c) (hpcb : c'.pcb = c.pcb) (hexec : c'.listaExec = c.listaExec)
    (hcantidad : c'.cantidad = c.cantidad) : Pids c' where
  pid := by
    rw [hpcb, hcantidad]
    exact h.pid
  exec := by
    rw [hexec, hcantidad]
    exact h.exec
  cantidad := by
    rw [hcantidad]
    exact h.cantidad

/-- Looking for the only element with a property finds it. -/
theorem find_eraseP_of_unico {p : Programa → Bool} {l : List Programa}
    (hp : ∀ y ∈ l, p y = (y == x)) :
    (x ∈ l → l.find? p = some x) ∧ l.eraseP p = l.erase x := by
  induction l with
  | nil => simp
  | cons y l ih =>
      obtain ⟨hfind, herase⟩ := ih fun z hz => hp z (by simp [hz])
      rw [List.find?_cons, List.eraseP_cons, List.erase_cons, hp y (by simp)]
      rcases eq_or_ne y x with rfl | hne
      · simp
      · rw [beq_false_of_ne hne]
        simpa [hne, hne.symm] using ⟨hfind, herase⟩

/-- **Removing by pid removes the program.** -/
theorem quitarExec_eq (h : Pids c) (hx : x ∈ c.listaExec) :
    quitarExec c (pidDe x) = (some x, { c with listaExec := c.listaExec.erase x }) := by
  have hpid : ∀ y ∈ c.listaExec, ((c.pcb y).pid == pidDe x) = (y == x) := by
    intro y hy
    rw [h.pid y (h.exec y hy), Bool.eq_iff_iff, beq_iff_eq, beq_iff_eq]
    exact ⟨pidDe_inj h.cantidad (h.exec y hy) (h.exec x hx), congrArg pidDe⟩
  obtain ⟨hfind, herase⟩ := find_eraseP_of_unico hpid
  rw [quitarExec, hfind hx, herase]

/-! ### The threads of the CPUs -/

/-- What the thread of a CPU keeps about its program: it has arrived, it is in `listaExec` if the
thread has put it there, and the PCB to store is its own. -/
structure Loc.Coherente (c : Comun) (loc : Loc) : Prop where
  duenio : ∀ x ∈ loc.duenio, x < c.cantidad
  enExec : ∀ x ∈ loc.enExec, x ∈ c.listaExec
  pcb : ∀ x pcb, loc.porEscribir = some (x, pcb) → x < c.cantidad ∧ pcb.pid = pidDe x

/-- What the threads of the CPUs do not touch: the programs that arrive. -/
structure Marco (c c' : Comun) : Prop where
  cantidad : c'.cantidad = c.cantidad
  admitidos : c'.admitidos = c.admitidos
  newProcesos : c'.newProcesos = c.newProcesos
  lista_de_programas : c'.lista_de_programas = c.lista_de_programas

/-- The threads of the CPUs leave the programs that arrive alone. -/
theorem pasoHilo_marco (hpaso : pasoHilo c loc = some (loc', c')) : Marco c c' := by
  cases pasoHilo_avanza hpaso <;> exact ⟨rfl, rfl, rfl, rfl⟩

/-- **What a step of the thread of a CPU conserves**: the owners, `listaExec` and what the threads
have in it, and the pids. -/
structure Conserva (c c' : Comun) (loc loc' : Loc) : Prop where
  duenios : dueniosComun c' + loc'.duenio = dueniosComun c + loc.duenio
  exec : (c'.listaExec : Multiset Programa) + loc.enExec = c.listaExec + loc'.enExec
  pid : ∀ x < c.cantidad, (c'.pcb x).pid = pidDe x
  execLt : ∀ x ∈ c'.listaExec, x < c.cantidad
  porEscribir : ∀ x pcb, loc'.porEscribir = some (x, pcb) → x < c.cantidad ∧ pcb.pid = pidDe x

theorem Pids.conserva (h : Pids c) (hm : Marco c c') (hc : Conserva c c' loc loc') : Pids c' where
  pid := by
    rw [hm.cantidad]
    exact hc.pid
  exec := by
    rw [hm.cantidad]
    exact hc.execLt
  cantidad := by
    rw [hm.cantidad]
    exact h.cantidad

/-- Storing a PCB of the same program. -/
theorem pid_escribirPcb (h : Pids c) {pcb : Pcb} (hpcb : pcb.pid = pidDe x) :
    ∀ y < c.cantidad, ((escribirPcb c x pcb).pcb y).pid = pidDe y := by
  intro y hy
  rw [escribirPcb]
  rcases eq_or_ne y x with rfl | hne
  · simpa using hpcb
  · simpa [hne] using h.pid y hy

/-- A thread removes its own program. -/
theorem quitarExec_propio (h : Pids c) (hx : x ∈ c.listaExec) :
    quitarExec c (c.pcb x).pid = (some x, { c with listaExec := c.listaExec.erase x }) := by
  rw [h.pid x (h.exec x hx), quitarExec_eq h hx]

theorem coe_erase_add {l : List Programa} (hx : x ∈ l) :
    ((l.erase x : List Programa) : Multiset Programa) + {x} = l := by
  rw [← Multiset.coe_erase, add_comm, Multiset.singleton_add,
    Multiset.cons_erase (Multiset.mem_coe.2 hx)]

theorem execLt_erase (h : Pids c) : ∀ y ∈ c.listaExec.erase x, y < c.cantidad :=
  fun y hy => h.exec y (List.mem_of_mem_erase hy)

/-- A step that changes neither the lists nor the PCBs, from a location to another one with the same
programs. -/
theorem conserva_loc (h : Pids c) (hloc : loc.Coherente c)
    (hcomun : dueniosComun c' = dueniosComun c) (hexec : c'.listaExec = c.listaExec)
    (hpcb : c'.pcb = c.pcb) (hduenio : loc'.duenio = loc.duenio)
    (henExec : loc'.enExec = loc.enExec)
    (hescribir : loc'.porEscribir = none ∨ loc'.porEscribir = loc.porEscribir) :
    Conserva c c' loc loc' where
  duenios := by rw [hcomun, hduenio]
  exec := by rw [hexec, henExec]
  pid := by
    rw [hpcb]
    exact h.pid
  execLt := by
    rw [hexec]
    exact h.exec
  porEscribir := by
    intro y pcb hy
    rcases hescribir with hnone | hsame
    · exact absurd (hnone.symm.trans hy) (by simp)
    · exact hloc.pcb y pcb (hsame ▸ hy)

/-- A program that is taken out of `listaExec`, where its thread had it. -/
theorem conserva_quita (h : Pids c) (hx : x ∈ c.listaExec) (hduenio : loc'.duenio = loc.duenio)
    (henExec : (loc.enExec : Multiset Programa) = loc'.enExec + {x})
    (hescribir : ∀ y pcb, loc'.porEscribir = some (y, pcb) → y < c.cantidad ∧ pcb.pid = pidDe y) :
    Conserva c { c with listaExec := c.listaExec.erase x } loc loc' where
  duenios := by
    rw [hduenio]
    rfl
  exec := by
    rw [henExec, ← coe_erase_add hx]
    abel
  pid := h.pid
  execLt := execLt_erase h
  porEscribir := hescribir

/-- **Every step of the thread of a CPU conserves.** -/
theorem pasoHilo_conserva (h : Pids c) (hloc : loc.Coherente c)
    (hpaso : pasoHilo c loc = some (loc', c')) : Conserva c c' loc loc' := by
  have hexec (x : Programa) (henExec : loc.enExec = {x}) : x ∈ c.listaExec :=
    hloc.enExec x (henExec ▸ Multiset.mem_singleton_self x)
  cases pasoHilo_avanza hpaso with
  | sacaReady hready =>
      refine ⟨?_, rfl, h.pid, h.exec, by simp [Loc.porEscribir]⟩
      -- from Ready to the thread
      simp only [dueniosComun, hready, Loc.duenio, List.reduceOption_cons_of_some,
        ← Multiset.cons_coe, ← Multiset.singleton_add]
      abel
  | agregaExec =>
      refine ⟨rfl, ?_, h.pid, ?_, by simp [Loc.porEscribir]⟩
      · simp only [Loc.enExec, ← Multiset.coe_add, Multiset.coe_singleton, add_zero]
      · intro y hy
        rcases List.mem_append.1 hy with hy | hy
        · exact h.exec y hy
        · obtain rfl := List.mem_singleton.1 hy
          exact hloc.duenio y (by simp [Loc.duenio])
  | entradaSalida _ | sinDispositivo _ =>
      exact ⟨rfl, rfl, pid_escribirPcb h (hloc.pcb _ _ rfl).2, h.exec, by simp [Loc.porEscribir]⟩
  | encolaDispositivo hj =>
      refine ⟨?_, rfl, h.pid, h.exec, by simp [Loc.porEscribir]⟩
      -- from the thread to the queue of the device, and still in `listaExec`
      refine (add_zero _).trans (dueniosComun_dispositivo_mas hj ?_)
      simp only [Dispositivo.duenio, Loc.duenio, List.map_append, ← Multiset.coe_add,
        List.map_cons, List.map_nil, Multiset.coe_singleton]
      abel
  | quitaExecDispositivo =>
      rw [quitarExec_propio h (hexec _ rfl)]
      exact conserva_quita h (hexec _ rfl) rfl (zero_add _).symm (by simp [Loc.porEscribir])
  | postDispositivo hj =>
      refine ⟨?_, rfl, h.pid, h.exec, by simp [Loc.porEscribir]⟩
      exact (add_zero _).trans (dueniosComun_dispositivo_mas hj (add_zero _).symm)
  | moverAExit hbuscado =>
      rw [quitarExec_propio h (hexec _ rfl)] at hbuscado ⊢
      obtain rfl := Option.some_inj.1 hbuscado
      exact conserva_quita h (hexec _ rfl) rfl (zero_add _).symm (by simp [Loc.porEscribir])
  | agregaExit =>
      refine ⟨?_, rfl, h.pid, h.exec, by simp [Loc.porEscribir]⟩
      simp only [dueniosComun, Loc.duenio, ← Multiset.coe_add, Multiset.coe_singleton, add_zero,
        add_assoc]
  | lockResta hj _ =>
      exact conserva_loc h hloc (dueniosComun_semaforo_igual hj rfl) rfl rfl rfl rfl (Or.inr rfl)
  | lockQuitaExec =>
      rw [quitarExec_propio h (hexec _ rfl)]
      exact conserva_quita h (hexec _ rfl) rfl (zero_add _).symm hloc.pcb
  | lockEscribe | recargaEscribe =>
      exact ⟨rfl, rfl, pid_escribirPcb h (hloc.pcb _ _ rfl).2, h.exec, by simp [Loc.porEscribir]⟩
  | lockEncola hj =>
      refine ⟨?_, rfl, h.pid, h.exec, by simp [Loc.porEscribir]⟩
      refine (add_zero _).trans (dueniosComun_semaforo_mas hj ?_)
      simp only [Semaforo.duenio, Loc.duenio, ← Multiset.coe_add, Multiset.coe_singleton]
  | unlockSuma hj _ =>
      exact conserva_loc h hloc (dueniosComun_semaforo_igual hj rfl) rfl rfl rfl rfl (Or.inl rfl)
  | @unlockSaca _ _ semaf hj =>
      refine ⟨?_, rfl, h.pid, h.exec, by simp [Loc.porEscribir]⟩
      apply add_right_cancel (b := semaf.duenio)
      rw [add_right_comm, dueniosComun_conSemaforo hj]
      -- with an empty queue the thread takes a null pointer, which is no program
      cases hcola : semaf.progEncolados with
      | nil => simp [Semaforo.duenio, Loc.duenio, hcola]
      | cons y resto =>
          simp only [Semaforo.duenio, Loc.duenio, hcola, List.head?_cons, List.tail_cons,
            Option.toList_some, ← Multiset.cons_coe, ← Multiset.singleton_add]
          abel
  | unlockAgrega =>
      refine ⟨?_, rfl, h.pid, h.exec, by simp [Loc.porEscribir]⟩
      rw [dueniosComun_agregarReady, Loc.duenio, Loc.duenio]
      abel
  | @recargaQuita x _ pcb hbuscado =>
      have hpid : pcb.pid = (c.pcb x).pid :=
        (hloc.pcb x pcb rfl).2.trans (h.pid x (hloc.pcb x pcb rfl).1).symm
      rw [hpid, quitarExec_propio h (hexec _ rfl)] at hbuscado ⊢
      obtain rfl := Option.some_inj.1 hbuscado
      exact conserva_quita h (hexec _ rfl) rfl (zero_add _).symm hloc.pcb
  | recargaAgrega =>
      refine ⟨?_, rfl, h.pid, h.exec, by simp [Loc.porEscribir]⟩
      exact (add_zero _).trans (dueniosComun_agregarReady c (some _))
  | lockCompara _ _ | lockTamanio _ => exact conserva_loc h hloc rfl rfl rfl rfl rfl (Or.inr rfl)
  | _ => exact conserva_loc h hloc rfl rfl rfl rfl rfl (Or.inl rfl)

end Ansisop.Kernel
