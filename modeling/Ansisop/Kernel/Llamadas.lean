/-
**The semaphores of the kernel, when the calls come one after the other.**

When no call of `fnLock` or `fnUnlock` overlaps another one, each of them is a function of what the
threads share.  Between two calls the rest of the kernel may do anything that respects the programs
that wait: it does not touch the semaphores, and it neither puts a waiting program in `listaExec`
nor changes its PCB.

The history of a semaphore is its signals, the waits that were answered `continuar`, the programs
that were blocked, with the PCB of their wait, and those that were woken.  Its counter is its
initial value with the signals and without the waits, and its queue is the programs that were
blocked and not woken, in the order in which they were blocked.

Main definitions:

* `Ansisop.Kernel.fnLock`, `Ansisop.Kernel.fnUnlock` — the calls;
* `Ansisop.Kernel.Aparte`, `Ansisop.Kernel.Serial` — the runs of calls;
* `Ansisop.Kernel.Cuentas`, `Ansisop.Kernel.anotarLlamada` — the history of a semaphore;
* `Ansisop.Kernel.EnCuenta` — the invariant.

Main results:

* `Ansisop.Kernel.fnLock_pasos`, `Ansisop.Kernel.fnUnlock_pasos` — **a call is what the thread of a
  CPU does when no other thread comes in between**;
* `Ansisop.Kernel.aparte_paso` — the rest of the kernel respects the programs that wait;
* `Ansisop.Kernel.EnCuenta.paso` — **every call keeps the invariant**;
* `Ansisop.Kernel.semaforo_serializado` — the semantics of a semaphore, in any run of calls.
-/

import Ansisop.Kernel.Continuidad
import Ansisop.Kernel.Semaforos
import Mathlib.Algebra.Order.Group.Nat

set_option relaxedAutoImplicit false
set_option autoImplicit false

namespace Ansisop.Kernel

open Totals

/-! ### The calls -/

/-- The answer of `fnLock` and `fnUnlock`, a text in the code. -/
inductive Respuesta
  | exit
  | continuar
  | bloquear
deriving DecidableEq

/-- `list_find` on the semaphores, by name. -/
def Comun.buscaSemaforo (c : Comun) (nombre : Texto) : Option ℕ :=
  c.semaforos.findIdx? fun unSem => unSem.szSemaforo == nombre

/-- **`fnLock`.**  It has no result when the counter overflows. -/
def fnLock (c : Comun) (nombre : Texto) (pcb : Pcb) (programa : Programa) :
    Option (Respuesta × Comun) :=
  match c.buscaSemaforo nombre with
  | none => some (.exit, c)
  | some j =>
      match c.semaforos[j]? with
      | none => none
      | some semaf =>
          if esInt (semaf.iSemaforo - 1) then
            if semaf.iSemaforo - 1 < 0 ∧ c.listaExec ≠ [] then
              some (.bloquear, conSemaforo
                (escribirPcb (quitarExec c (c.pcb programa).pid).2 programa pcb) j
                { semaf with
                  iSemaforo := semaf.iSemaforo - 1
                  progEncolados := semaf.progEncolados ++ [programa] })
            else some (.continuar, conSemaforo c j { semaf with iSemaforo := semaf.iSemaforo - 1 })
          else none

/-- **`fnUnlock`.**  It has no result when the counter overflows. -/
def fnUnlock (c : Comun) (nombre : Texto) : Option (Respuesta × Comun) :=
  match c.buscaSemaforo nombre with
  | none => some (.exit, c)
  | some j =>
      match c.semaforos[j]? with
      | none => none
      | some semaf =>
          if esInt (semaf.iSemaforo + 1) then
            if semaf.iSemaforo + 1 ≤ 0 ∧ semaf.progEncolados ≠ [] then
              some (.continuar, { agregarReady (conSemaforo c j { semaf with
                  iSemaforo := semaf.iSemaforo + 1
                  progEncolados := semaf.progEncolados.tail }) semaf.progEncolados.head? with
                productorConsumidor := c.productorConsumidor + 1 })
            else some (.continuar, conSemaforo c j { semaf with iSemaforo := semaf.iSemaforo + 1 })
          else none

/-- Some steps of the thread of a CPU, with no other thread in between. -/
def pasosHilo : ℕ → Comun → Loc → Option (Loc × Comun)
  | 0, c, loc => some (loc, c)
  | n + 1, c, loc => (pasoHilo c loc).bind fun r => pasosHilo n r.2 r.1

variable {c c' : Comun} {nombre : Texto} {pcb : Pcb} {x : Programa} {r : Respuesta}
  {s s' : Sistema}

theorem conSemaforo_conSemaforo (c : Comun) (j : ℕ) (a b : Semaforo) :
    conSemaforo (conSemaforo c j a) j b = conSemaforo c j b := by
  simp [conSemaforo, List.set_set]

/-- **What `fnLock` does.** -/
theorem fnLock_casos (h : fnLock c nombre pcb x = some (r, c')) :
    (c.buscaSemaforo nombre = none ∧ r = .exit ∧ c' = c) ∨
    ∃ j semaf, c.buscaSemaforo nombre = some j ∧ c.semaforos[j]? = some semaf ∧
      esInt (semaf.iSemaforo - 1) = true ∧
      ((semaf.iSemaforo - 1 < 0 ∧ c.listaExec ≠ [] ∧ r = .bloquear ∧
          c' = conSemaforo (escribirPcb (quitarExec c (c.pcb x).pid).2 x pcb) j
            { semaf with
              iSemaforo := semaf.iSemaforo - 1
              progEncolados := semaf.progEncolados ++ [x] }) ∨
        (¬(semaf.iSemaforo - 1 < 0 ∧ c.listaExec ≠ []) ∧ r = .continuar ∧
          c' = conSemaforo c j { semaf with iSemaforo := semaf.iSemaforo - 1 })) := by
  rw [fnLock] at h
  split at h
  · rename_i hbusca
    cases h
    exact Or.inl ⟨hbusca, rfl, rfl⟩
  · rename_i j hbusca
    right
    split at h
    · exact absurd h (by simp)
    · rename_i semaf hj
      split at h
      · rename_i hint
        refine ⟨j, semaf, hbusca, hj, hint, ?_⟩
        split at h
        · rename_i hbloquea
          cases h
          exact Or.inl ⟨hbloquea.1, hbloquea.2, rfl, rfl⟩
        · rename_i hsigue
          cases h
          exact Or.inr ⟨hsigue, rfl, rfl⟩
      · exact absurd h (by simp)

/-- **What `fnUnlock` does.** -/
theorem fnUnlock_casos (h : fnUnlock c nombre = some (r, c')) :
    (c.buscaSemaforo nombre = none ∧ c' = c) ∨
    ∃ j semaf, c.buscaSemaforo nombre = some j ∧ c.semaforos[j]? = some semaf ∧
      esInt (semaf.iSemaforo + 1) = true ∧
      ((semaf.iSemaforo + 1 ≤ 0 ∧ (∃ y resto, semaf.progEncolados = y :: resto ∧
          c' = { agregarReady (conSemaforo c j { semaf with
              iSemaforo := semaf.iSemaforo + 1, progEncolados := resto }) (some y) with
            productorConsumidor := c.productorConsumidor + 1 })) ∨
        (¬(semaf.iSemaforo + 1 ≤ 0 ∧ semaf.progEncolados ≠ []) ∧
          c' = conSemaforo c j { semaf with iSemaforo := semaf.iSemaforo + 1 })) := by
  rw [fnUnlock] at h
  split at h
  · rename_i hbusca
    cases h
    exact Or.inl ⟨hbusca, rfl⟩
  · rename_i j hbusca
    right
    split at h
    · exact absurd h (by simp)
    · rename_i semaf hj
      split at h
      · rename_i hint
        refine ⟨j, semaf, hbusca, hj, hint, ?_⟩
        split at h
        · rename_i hdespierta
          cases h
          obtain ⟨y, resto, hcola⟩ := List.exists_cons_of_ne_nil hdespierta.2
          exact Or.inl ⟨hdespierta.1, y, resto, hcola, by simp [hcola]⟩
        · rename_i hnadie
          cases h
          exact Or.inr ⟨hnadie, rfl⟩
      · exact absurd h (by simp)

theorem pasosHilo_succ {n : ℕ} {loc loc' : Loc} (h : pasoHilo c loc = some (loc', c')) :
    pasosHilo (n + 1) c loc = pasosHilo n c' loc' := by
  rw [pasosHilo, h]
  rfl

theorem getElem?_conSemaforo_self {j : ℕ} {a : Semaforo} (h : c.semaforos[j]? = some a)
    (b : Semaforo) : (conSemaforo c j b).semaforos[j]? = some b := by
  rw [getElem?_conSemaforo h, if_pos rfl]

theorem pasoHilo_lockCompara {j : ℕ} {semaf : Semaforo} (hj : c.semaforos[j]? = some semaf)
    (hneg : semaf.iSemaforo < 0) :
    pasoHilo c (.lockCompara x j pcb) = some (.lockTamanio x j pcb, c) := by
  simp only [pasoHilo, hj, hneg, if_true]

theorem pasoHilo_lockTamanio {j : ℕ} (hexec : c.listaExec ≠ []) :
    pasoHilo c (.lockTamanio x j pcb) = some (.lockQuitaExec x j pcb, c) := by
  simp only [pasoHilo, hexec, ne_eq, not_false_eq_true, if_true]

theorem pasoHilo_unlockCompara {j : ℕ} {semaf : Semaforo} (hj : c.semaforos[j]? = some semaf)
    (hneg : semaf.iSemaforo ≤ 0) :
    pasoHilo c (.unlockCompara x j) = some (.unlockTamanio x j, c) := by
  simp only [pasoHilo, hj, hneg, if_true]

theorem pasoHilo_unlockTamanio {j : ℕ} {semaf : Semaforo} (hj : c.semaforos[j]? = some semaf)
    (hcola : semaf.progEncolados ≠ []) :
    pasoHilo c (.unlockTamanio x j) = some (.unlockSaca x j, c) := by
  simp only [pasoHilo, hj, hcola, ne_eq, not_false_eq_true, if_true]

theorem pasoHilo_unlockTamanio_vacia {j : ℕ} {semaf : Semaforo} (hj : c.semaforos[j]? = some semaf)
    (hcola : semaf.progEncolados = []) : pasoHilo c (.unlockTamanio x j) = some (.recibe x, c) := by
  simp only [pasoHilo, hj, hcola, ne_eq, not_true_eq_false, if_false]

theorem pasoHilo_lockEncola {j : ℕ} {semaf : Semaforo} (hj : c.semaforos[j]? = some semaf) :
    pasoHilo c (.lockEncola x j) = some (.esperaReady,
      conSemaforo c j { semaf with progEncolados := semaf.progEncolados ++ [x] }) := by
  simp only [pasoHilo, hj]

theorem pasoHilo_unlockSaca {j : ℕ} {semaf : Semaforo} (hj : c.semaforos[j]? = some semaf) :
    pasoHilo c (.unlockSaca x j) = some (.unlockAgrega x j semaf.progEncolados.head?,
      conSemaforo c j { semaf with progEncolados := semaf.progEncolados.tail }) := by
  simp only [pasoHilo, hj]

/-- **`fnLock` is what the thread of a CPU does when no other thread comes in between.** -/
theorem fnLock_pasos (h : fnLock c nombre pcb x = some (r, c')) :
    ∃ n, pasosHilo n c (recibirMensaje c x (some (.waitKernel nombre pcb))) =
      some (if r = .continuar then .recibe x else .esperaReady, c') := by
  obtain ⟨hbusca, rfl, rfl⟩ | ⟨j, semaf, hbusca, hj, hint, hcaso⟩ := fnLock_casos h
  · refine ⟨0, ?_⟩
    rw [Comun.buscaSemaforo] at hbusca
    simp [recibirMensaje, hbusca, pasosHilo]
  · rw [Comun.buscaSemaforo] at hbusca
    simp only [recibirMensaje, hbusca]
    have hj' := getElem?_conSemaforo_self hj { semaf with iSemaforo := semaf.iSemaforo - 1 }
    have hresta : pasoHilo c (.lockResta x j pcb) = some (.lockCompara x j pcb,
        conSemaforo c j { semaf with iSemaforo := semaf.iSemaforo - 1 }) := by
      simp [pasoHilo, hj, hint]
    obtain ⟨hneg, hexec, rfl, rfl⟩ | ⟨hno, rfl, rfl⟩ := hcaso
    · refine ⟨6, ?_⟩
      generalize hc₁ : conSemaforo c j { semaf with iSemaforo := semaf.iSemaforo - 1 } = c₁
        at hresta hj'
      have hexec₁ : c₁.listaExec ≠ [] := by
        rw [← hc₁]
        exact hexec
      have hencola := pasoHilo_lockEncola (x := x)
        (c := escribirPcb (quitarExec c₁ (c₁.pcb x).pid).2 x pcb) hj'
      rw [pasosHilo_succ hresta, pasosHilo_succ (pasoHilo_lockCompara hj' hneg),
        pasosHilo_succ (pasoHilo_lockTamanio hexec₁), pasosHilo_succ rfl, pasosHilo_succ rfl,
        pasosHilo_succ hencola, pasosHilo, ← hc₁]
      simp [conSemaforo, escribirPcb, quitarExec]
    · by_cases hneg : semaf.iSemaforo - 1 < 0
      · have hexec : c.listaExec = [] := by
          by_contra hexec
          exact hno ⟨hneg, hexec⟩
        refine ⟨3, ?_⟩
        rw [pasosHilo_succ hresta, pasosHilo_succ (pasoHilo_lockCompara hj' hneg)]
        simp [pasosHilo, pasoHilo, conSemaforo, hexec]
      · refine ⟨2, ?_⟩
        rw [pasosHilo_succ hresta]
        simp [pasosHilo, pasoHilo, hj', hneg]

/-- **`fnUnlock` is what the thread of a CPU does when no other thread comes in between.** -/
theorem fnUnlock_pasos (h : fnUnlock c nombre = some (r, c')) :
    ∃ n, pasosHilo n c (recibirMensaje c x (some (.signalKernel nombre))) =
      some (.recibe x, c') := by
  obtain ⟨hbusca, rfl⟩ | ⟨j, semaf, hbusca, hj, hint, hcaso⟩ := fnUnlock_casos h
  · refine ⟨0, ?_⟩
    rw [Comun.buscaSemaforo] at hbusca
    simp [recibirMensaje, hbusca, pasosHilo]
  · rw [Comun.buscaSemaforo] at hbusca
    simp only [recibirMensaje, hbusca]
    have hj' := getElem?_conSemaforo_self hj { semaf with iSemaforo := semaf.iSemaforo + 1 }
    have hsuma : pasoHilo c (.unlockSuma x j) = some (.unlockCompara x j,
        conSemaforo c j { semaf with iSemaforo := semaf.iSemaforo + 1 }) := by
      simp [pasoHilo, hj, hint]
    obtain ⟨hneg, y, resto, hcola, rfl⟩ | ⟨hno, rfl⟩ := hcaso
    · refine ⟨6, ?_⟩
      rw [pasosHilo_succ hsuma, pasosHilo_succ (pasoHilo_unlockCompara hj' hneg),
        pasosHilo_succ (pasoHilo_unlockTamanio hj' (by simp [hcola]))]
      rw [pasosHilo_succ (pasoHilo_unlockSaca hj'), pasosHilo_succ rfl,
        pasosHilo_succ rfl, pasosHilo, conSemaforo_conSemaforo]
      simp [agregarReady, conSemaforo, hcola]
    · by_cases hneg : semaf.iSemaforo + 1 ≤ 0
      · have hcola : semaf.progEncolados = [] := by
          by_contra hcola
          exact hno ⟨hneg, hcola⟩
        refine ⟨3, ?_⟩
        rw [pasosHilo_succ hsuma, pasosHilo_succ (pasoHilo_unlockCompara hj' hneg),
          pasosHilo_succ (pasoHilo_unlockTamanio_vacia hj' hcola), pasosHilo]
      · refine ⟨2, ?_⟩
        rw [pasosHilo_succ hsuma]
        simp [pasosHilo, pasoHilo, hj', hneg]

/-! ### Runs of calls -/

/-- **What the rest of the kernel does between two calls**: it leaves the semaphores alone, and the
programs that wait stay out of `listaExec` with their PCBs. -/
structure Aparte (c c' : Comun) : Prop where
  semaforos : c'.semaforos = c.semaforos
  pids : Pids c'
  exec : c'.listaExec.Nodup
  encolados : ∀ semaf ∈ c.semaforos, ∀ x ∈ semaf.progEncolados,
    x ∉ c'.listaExec ∧ c'.pcb x = c.pcb x

/-- A call, or a change by the rest of the kernel. -/
inductive Llamada
  | wait (programa : Programa) (nombre : Texto) (pcb : Pcb)
  | signal (nombre : Texto)
  | aparte (c' : Comun)

/-- **A call runs to completion**: a wait by a program in `listaExec`, with its own PCB, or a
signal. -/
def Serial (c : Comun) : Llamada → Comun → Prop
  | .wait programa nombre pcb, c' =>
      programa ∈ c.listaExec ∧ pcb.pid = (c.pcb programa).pid ∧
        ∃ r, fnLock c nombre pcb programa = some (r, c')
  | .signal nombre, c' => ∃ r, fnUnlock c nombre = some (r, c')
  | .aparte d, c' => c' = d ∧ Aparte c d

/-- **The history of a semaphore**: its signals, the waits that were answered `continuar`, those
that were answered `bloquear`, and the programs that were put back in Ready. -/
structure Cuentas where
  seniales : ℕ
  continuan : ℕ
  bloqueados : List (Programa × Pcb)
  despertados : List Programa

/-- The history before the first call. -/
def Cuentas.nada : Cuentas := ⟨0, 0, [], []⟩

/-- The programs that a step has put in Ready. -/
def agregadosReady (c c' : Comun) : List Programa :=
  (c'.listaReady.drop c.listaReady.length).reduceOption

/-- What a call adds to the history of the semaphore `j`. -/
def anotarLlamada (j : ℕ) (c : Comun) (llamada : Llamada) (cuentas : Cuentas) : Cuentas :=
  match llamada with
  | .wait programa nombre pcb =>
      if c.buscaSemaforo nombre = some j then
        match fnLock c nombre pcb programa with
        | some (.continuar, _) => { cuentas with continuan := cuentas.continuan + 1 }
        | some (.bloquear, _) =>
            { cuentas with bloqueados := cuentas.bloqueados ++ [(programa, pcb)] }
        | _ => cuentas
      else cuentas
  | .signal nombre =>
      if c.buscaSemaforo nombre = some j then
        match fnUnlock c nombre with
        | some (_, c') =>
            { cuentas with
              seniales := cuentas.seniales + 1
              despertados := cuentas.despertados ++ agregadosReady c c' }
        | none => cuentas
      else cuentas
  | .aparte _ => cuentas

/-- **The counter and the queue of a semaphore are what its history says**, and the programs in the
queue are out of `listaExec`, with the PCBs of their waits. -/
structure EnCuenta (valor : ℤ) (c : Comun) (semaf : Semaforo) (cuentas : Cuentas) : Prop where
  pids : Pids c
  exec : c.listaExec.Nodup
  contador : semaf.iSemaforo =
    valor + cuentas.seniales - cuentas.continuan - cuentas.bloqueados.length
  largo : (semaf.progEncolados.length : ℤ) = max 0 (-semaf.iSemaforo)
  orden : cuentas.bloqueados.map Prod.fst = cuentas.despertados ++ semaf.progEncolados
  unicos : semaf.progEncolados.Nodup
  fuera : ∀ x ∈ semaf.progEncolados, x ∉ c.listaExec
  pcb : ∀ p ∈ cuentas.bloqueados.drop cuentas.despertados.length, c.pcb p.1 = p.2

variable {valor : ℤ} {semaf : Semaforo} {cuentas : Cuentas} {j : ℕ}

/-- The programs that were blocked and not woken are those in the queue. -/
theorem EnCuenta.map_drop (h : EnCuenta valor c semaf cuentas) :
    (cuentas.bloqueados.drop cuentas.despertados.length).map Prod.fst = semaf.progEncolados := by
  rw [List.map_drop, h.orden, List.drop_left]

/-- A change that the semaphore does not depend on. -/
theorem EnCuenta.igual (h : EnCuenta valor c semaf cuentas) (hpids : Pids c')
    (hexec : c'.listaExec.Nodup)
    (hencolados : ∀ x ∈ semaf.progEncolados, x ∉ c'.listaExec ∧ c'.pcb x = c.pcb x) :
    EnCuenta valor c' semaf cuentas where
  pids := hpids
  exec := hexec
  contador := h.contador
  largo := h.largo
  orden := h.orden
  unicos := h.unicos
  fuera := fun x hx => (hencolados x hx).1
  pcb := by
    intro p hp
    have hmem : p.1 ∈ semaf.progEncolados := h.map_drop ▸ List.mem_map_of_mem hp
    rw [(hencolados p.1 hmem).2]
    exact h.pcb p hp

/-- What a wait that blocks leaves: the program is out of `listaExec`, and it has the PCB of the
wait. -/
theorem comun_bloqueado (hpids : Pids c) (hx : x ∈ c.listaExec) (hpcb : pcb.pid = (c.pcb x).pid)
    (k : ℕ) (b : Semaforo) :
    ∃ c', c' = conSemaforo (escribirPcb (quitarExec c (c.pcb x).pid).2 x pcb) k b ∧ Pids c' ∧
      c'.semaforos = (conSemaforo c k b).semaforos ∧ c'.listaExec = c.listaExec.erase x ∧
      c'.pcb = Function.update c.pcb x pcb := by
  have hpid : pcb.pid = pidDe x := hpcb.trans (hpids.pid x (hpids.exec x hx))
  refine ⟨_, rfl, ?_⟩
  rw [quitarExec_propio hpids hx]
  refine ⟨⟨?_, execLt_erase hpids, hpids.cantidad⟩, rfl, rfl, rfl⟩
  exact pid_escribirPcb hpids hpid

/-- **A wait keeps the invariant.** -/
theorem EnCuenta.wait (h : EnCuenta valor c semaf cuentas) (hj : c.semaforos[j]? = some semaf)
    (hx : x ∈ c.listaExec) (hpcb : pcb.pid = (c.pcb x).pid)
    (hpaso : fnLock c nombre pcb x = some (r, c')) :
    ∃ semaf', c'.semaforos[j]? = some semaf' ∧
      EnCuenta valor c' semaf' (anotarLlamada j c (.wait x nombre pcb) cuentas) := by
  have hno : c.listaExec ≠ [] := List.ne_nil_of_mem hx
  have hxno : x ∉ semaf.progEncolados := fun hmem => h.fuera x hmem hx
  simp only [anotarLlamada, hpaso]
  obtain ⟨hbusca, rfl, rfl⟩ | ⟨k, a, hbusca, hk, -, hcaso⟩ := fnLock_casos hpaso
  · simp only [hbusca, reduceCtorEq, if_false]
    exact ⟨semaf, hj, h⟩
  · simp only [hbusca, Option.some.injEq]
    obtain ⟨hneg, -, rfl, hc'⟩ | ⟨hsigue, rfl, rfl⟩ := hcaso
    · obtain ⟨d, hd, hpids, hsemaforos, hexec, hpcbs⟩ := comun_bloqueado h.pids hx hpcb k
        { a with iSemaforo := a.iSemaforo - 1, progEncolados := a.progEncolados ++ [x] }
      obtain rfl : c' = d := hc'.trans hd.symm
      have hnodup : c'.listaExec.Nodup := hexec ▸ h.exec.erase x
      have hencolados : ∀ y ∈ semaf.progEncolados, y ∉ c'.listaExec ∧ c'.pcb y = c.pcb y := by
        intro y hy
        have hne : y ≠ x := by
          rintro rfl
          exact hxno hy
        rw [hexec, hpcbs]
        exact ⟨fun hmem => h.fuera y hy (List.mem_of_mem_erase hmem), Function.update_of_ne hne ..⟩
      rw [hsemaforos, getElem?_conSemaforo hk]
      by_cases heq : k = j
      · subst heq
        obtain rfl : a = semaf := by simpa [hk] using hj
        have hcontador := h.contador
        have hlargo := h.largo
        have hmenor : cuentas.despertados.length ≤ cuentas.bloqueados.length := by
          have hlargos := congrArg List.length h.orden
          rw [List.length_map, List.length_append] at hlargos
          omega
        simp only [if_true]
        refine ⟨_, rfl, hpids, hnodup, ?_, ?_, ?_, ?_, ?_, ?_⟩
        · simp only [List.length_append, List.length_singleton]
          omega
        · simp only [List.length_append, List.length_singleton]
          omega
        · simp [h.orden]
        · rw [← List.concat_eq_append]
          exact h.unicos.concat hxno
        · intro y hy
          rcases List.mem_append.1 hy with hy | hy
          · exact (hencolados y hy).1
          · obtain rfl := List.mem_singleton.1 hy
            rw [hexec]
            exact h.exec.not_mem_erase
        · intro p hp
          rw [List.drop_append_of_le_length hmenor] at hp
          rcases List.mem_append.1 hp with hp | hp
          · exact (h.igual hpids hnodup hencolados).pcb p hp
          · obtain rfl := List.mem_singleton.1 hp
            rw [hpcbs]
            exact Function.update_self ..
      · rw [if_neg heq, if_neg heq]
        exact ⟨semaf, hj, h.igual hpids hnodup hencolados⟩
    · rw [getElem?_conSemaforo hk]
      have higual : EnCuenta valor
          (conSemaforo c k { a with iSemaforo := a.iSemaforo - 1 }) semaf cuentas :=
        h.igual (h.pids.igual rfl rfl rfl) h.exec fun y hy => ⟨h.fuera y hy, rfl⟩
      by_cases heq : k = j
      · subst heq
        obtain rfl : a = semaf := by simpa [hk] using hj
        have hcontador := h.contador
        have hlargo := h.largo
        have hpos : ¬a.iSemaforo - 1 < 0 := fun hneg => hsigue ⟨hneg, hno⟩
        simp only [if_true]
        refine ⟨_, rfl, higual.pids, higual.exec, ?_, ?_, higual.orden, higual.unicos,
          higual.fuera, higual.pcb⟩
        · simp only
          omega
        · simp only
          omega
      · rw [if_neg heq, if_neg heq]
        exact ⟨semaf, hj, higual⟩

/-- **A signal wakes the first program of the queue**, if there is one. -/
theorem EnCuenta.despertar (h : EnCuenta valor c semaf cuentas) (hj : c.semaforos[j]? = some semaf)
    (hbusca : c.buscaSemaforo nombre = some j) (hpaso : fnUnlock c nombre = some (r, c')) :
    (semaf.progEncolados = [] ∧ 0 ≤ semaf.iSemaforo ∧
      c' = conSemaforo c j { semaf with iSemaforo := semaf.iSemaforo + 1 }) ∨
    ∃ y resto, semaf.progEncolados = y :: resto ∧
      c' = { agregarReady (conSemaforo c j { semaf with
          iSemaforo := semaf.iSemaforo + 1, progEncolados := resto }) (some y) with
        productorConsumidor := c.productorConsumidor + 1 } := by
  have hlargo := h.largo
  obtain ⟨hnada, -⟩ | ⟨k, a, hk', hk, -, hcaso⟩ := fnUnlock_casos hpaso
  · exact absurd (hbusca.symm.trans hnada) (by simp)
  · obtain rfl : j = k := Option.some_inj.1 (hbusca.symm.trans hk')
    obtain rfl : a = semaf := by simpa [hk] using hj
    obtain ⟨-, y, resto, hcola, rfl⟩ | ⟨hno, rfl⟩ := hcaso
    · exact Or.inr ⟨y, resto, hcola, rfl⟩
    · -- with the counter below zero there is a program in the queue
      have hpos : 0 ≤ a.iSemaforo := by
        by_contra hneg
        refine hno ⟨by omega, ?_⟩
        intro hnil
        rw [hnil, List.length_nil] at hlargo
        omega
      refine Or.inl ⟨List.eq_nil_of_length_eq_zero ?_, hpos, rfl⟩
      omega

theorem agregadosReady_agregarReady {d : Comun} {y : Programa}
    (h : d.listaReady = c.listaReady ++ [some y]) : agregadosReady c d = [y] := by
  rw [agregadosReady, h, List.drop_left]
  rfl

theorem agregadosReady_igual {d : Comun} (h : d.listaReady = c.listaReady) :
    agregadosReady c d = [] := by
  rw [agregadosReady, h, List.drop_length]
  rfl

/-- **A signal keeps the invariant.** -/
theorem EnCuenta.signal (h : EnCuenta valor c semaf cuentas) (hj : c.semaforos[j]? = some semaf)
    (hpaso : fnUnlock c nombre = some (r, c')) :
    ∃ semaf', c'.semaforos[j]? = some semaf' ∧
      EnCuenta valor c' semaf' (anotarLlamada j c (.signal nombre) cuentas) := by
  have hcontador := h.contador
  have hlargo := h.largo
  by_cases hbusca : c.buscaSemaforo nombre = some j
  · simp only [anotarLlamada, hpaso, hbusca, if_true]
    obtain ⟨hcola, hpos, rfl⟩ | ⟨y, resto, hcola, rfl⟩ := h.despertar hj hbusca hpaso
    · have higual : EnCuenta valor
          (conSemaforo c j { semaf with iSemaforo := semaf.iSemaforo + 1 }) semaf cuentas :=
        h.igual (h.pids.igual rfl rfl rfl) h.exec fun y hy => ⟨h.fuera y hy, rfl⟩
      have hnadie : agregadosReady c
          (conSemaforo c j { semaf with iSemaforo := semaf.iSemaforo + 1 }) = [] :=
        agregadosReady_igual rfl
      rw [getElem?_conSemaforo_self hj, hnadie, List.append_nil]
      refine ⟨_, rfl, higual.pids, higual.exec, ?_, ?_, higual.orden, higual.unicos,
        higual.fuera, higual.pcb⟩
      · push_cast
        omega
      · rw [hcola] at hlargo ⊢
        simp only [List.length_nil] at hlargo ⊢
        omega
    · have horden := h.orden
      have hunicos := h.unicos
      have hfuera := h.fuera
      have hpcb := h.pcb
      rw [hcola] at hlargo horden hunicos hfuera
      rw [List.length_cons] at hlargo
      rw [agregadosReady_agregarReady rfl]
      refine ⟨_, getElem?_conSemaforo_self hj _, h.pids.igual rfl rfl rfl, h.exec, ?_, ?_, ?_, ?_,
        ?_, ?_⟩
      · push_cast
        omega
      · push_cast at hlargo
        simp only
        omega
      · simp [horden]
      · exact (List.nodup_cons.1 hunicos).2
      · exact fun z hz => hfuera z (List.mem_cons_of_mem _ hz)
      · intro p hp
        rw [List.length_append, List.length_singleton, ← List.drop_drop] at hp
        exact hpcb p (List.mem_of_mem_drop hp)
  · simp only [anotarLlamada, if_neg hbusca]
    obtain ⟨-, rfl⟩ | ⟨k, a, hk', hk, -, hcaso⟩ := fnUnlock_casos hpaso
    · exact ⟨semaf, hj, h⟩
    · have hne : k ≠ j := fun heq => hbusca (heq ▸ hk')
      have hotro (b : Semaforo) : (conSemaforo c k b).semaforos[j]? = some semaf := by
        rw [getElem?_conSemaforo hk, if_neg hne, hj]
      obtain ⟨-, y, resto, -, rfl⟩ | ⟨-, rfl⟩ := hcaso
      · exact ⟨semaf, hotro _, h.igual (h.pids.igual rfl rfl rfl) h.exec
          fun y hy => ⟨h.fuera y hy, rfl⟩⟩
      · exact ⟨semaf, hotro _, h.igual (h.pids.igual rfl rfl rfl) h.exec
          fun y hy => ⟨h.fuera y hy, rfl⟩⟩

/-- **Every call keeps the invariant**, and so does the rest of the kernel. -/
theorem EnCuenta.paso {llamada : Llamada} (h : EnCuenta valor c semaf cuentas)
    (hj : c.semaforos[j]? = some semaf) (hpaso : Serial c llamada c') :
    ∃ semaf', c'.semaforos[j]? = some semaf' ∧
      EnCuenta valor c' semaf' (anotarLlamada j c llamada cuentas) := by
  cases llamada with
  | wait programa nombre pcb =>
      obtain ⟨hx, hpcb, r, hlock⟩ := hpaso
      exact h.wait hj hx hpcb hlock
  | signal nombre =>
      obtain ⟨r, hunlock⟩ := hpaso
      exact h.signal hj hunlock
  | aparte d =>
      obtain ⟨rfl, haparte⟩ := hpaso
      refine ⟨semaf, haparte.semaforos ▸ hj, h.igual haparte.pids haparte.exec ?_⟩
      exact haparte.encolados semaf (List.mem_of_getElem? hj)

/-! ### The rest of the kernel -/

/-- A program that is not in the queue of a device while it is still in `listaExec` has one owner at
most, counting `listaExec` as one. -/
theorem Propio.count_exec_le (h : Propio s) {x : Programa}
    (hdispositivo : ∀ j, Loc.quitaExecDispositivo x j ∉ s.hilos) :
    (dueniosComun s.comun + (s.comun.listaExec : Multiset Programa)).count x ≤
      (s.comun.admitidos : Multiset Programa).count x := by
  obtain ⟨abandonados, hduenios, hexec⟩ := h.programas
  have hle : (total Loc.enExec s.hilos).count x ≤ (total Loc.duenio s.hilos).count x := by
    rw [count_total, count_total]
    refine total_le_total fun loc hloc => ?_
    cases loc with
    | quitaExecDispositivo y j =>
        rw [Loc.enExec, Multiset.count_singleton, if_neg]
        · exact Nat.zero_le _
        · rintro rfl
          exact hdispositivo j hloc
    | unlockAgrega y j z => exact Multiset.count_le_of_le x (Multiset.le_add_right _ _)
    | _ => first | exact le_rfl | exact Nat.zero_le _
  refine le_trans ?_ (Multiset.count_le_of_le x hduenios)
  rw [hexec, Kernel.duenios, ← add_assoc]
  simp only [Multiset.count_add]
  exact Nat.add_le_add_right (Nat.add_le_add_left hle _) _

/-- With no program that is in the queue of a device and still in `listaExec`, those in `listaExec`
are in no other list. -/
theorem Propio.exec_le (h : Propio s) (hdispositivo : ∀ loc ∈ s.hilos, ∀ x j,
    loc ≠ .quitaExecDispositivo x j) :
    dueniosComun s.comun + (s.comun.listaExec : Multiset Programa) ≤ s.comun.admitidos :=
  Multiset.le_iff_count.2 fun x => h.count_exec_le fun j hloc => hdispositivo _ hloc x j rfl

/-- With no program that is in the queue of a device and still in `listaExec`, the lists have no
program twice. -/
theorem Propio.exec_nodup (h : Propio s) (hdispositivo : ∀ loc ∈ s.hilos, ∀ x j,
    loc ≠ .quitaExecDispositivo x j) :
    (dueniosComun s.comun + (s.comun.listaExec : Multiset Programa)).Nodup :=
  Multiset.nodup_of_le (h.exec_le hdispositivo) (Multiset.coe_nodup.2 h.admitidos_nodup)

/-- A thread that is in no call leaves the semaphores alone. -/
theorem pasoHilo_semaforos {loc loc' : Loc} (hfuera : ∀ j, loc.enCurso j = false)
    (hpaso : pasoHilo c loc = some (loc', c')) : c'.semaforos = c.semaforos := by
  cases pasoHilo_avanza hpaso with
  | @lockResta _ k | @lockEncola _ k | @unlockSuma _ k | @unlockSaca _ k =>
      exact absurd (hfuera k) (by simp [Loc.enCurso])
  | _ => rfl

/-- **The rest of the kernel respects the programs that wait**, as long as no program is in the
queue of a device and still in `listaExec`. -/
theorem aparte_paso {e : Evento} (h : Propio s) (hpids : ConPids s e) (hpaso : Paso s e s')
    (hfuera : ∀ i loc, e = .hilo i → s.hilos[i]? = some loc → ∀ j, loc.enCurso j = false)
    (hdispositivo : ∀ loc ∈ s'.hilos, ∀ x j, loc ≠ .quitaExecDispositivo x j) :
    Aparte s.comun s'.comun := by
  have hpropio := h.paso hpids hpaso
  have hnodup := hpropio.exec_nodup hdispositivo
  rw [Multiset.nodup_add] at hnodup
  have hcola {x : Programa} {semaf : Semaforo} {c : Comun} (hsemaf : semaf ∈ c.semaforos)
      (hx : x ∈ semaf.progEncolados) : x ∈ dueniosComun c := by
    simp only [dueniosComun, Multiset.mem_add]
    exact Or.inl (Or.inl (Or.inr (mem_total.2 ⟨semaf, hsemaf, Multiset.mem_coe.2 hx⟩)))
  have hresto (hsemaforos : s'.comun.semaforos = s.comun.semaforos)
      (hpcb : ∀ x ∈ dueniosComun s.comun, s'.comun.pcb x = s.comun.pcb x) :
      Aparte s.comun s'.comun := by
    refine ⟨hsemaforos, hpropio.pids, Multiset.coe_nodup.1 hnodup.2.1, ?_⟩
    intro semaf hsemaf x hx
    refine ⟨?_, hpcb x (hcola hsemaf hx)⟩
    intro hmem
    rw [← hsemaforos] at hsemaf
    exact Multiset.disjoint_left.1 hnodup.2.2 (hcola hsemaf hx) (Multiset.mem_coe.2 hmem)
  cases hpaso.transicion with
  | conexion =>
      exact hresto rfl fun _ _ => rfl
  | @hilo i loc loc' c' hi hloc =>
      have hmem := List.mem_of_getElem? hi
      refine hresto (pasoHilo_semaforos (hfuera i loc rfl hi) hloc) ?_
      intro x hx
      rcases pasoHilo_pcb h.pids (h.coherente hmem) hloc with
        ⟨y, pcb, hsaliente, -, hpcb⟩ | ⟨y, j, pcb, -, -, -, hpcb⟩ | ⟨-, -, hpcb⟩
      · -- the PCB that the thread stores is the one of its own program
        have hne : x ≠ y := by
          rintro rfl
          have hduenios := h.duenios_nodup
          rw [Kernel.duenios, Multiset.nodup_add] at hduenios
          exact Multiset.disjoint_left.1 hduenios.2.2 hx
            (mem_total.2 ⟨loc, hmem, Loc.mem_duenio_of_saliente hsaliente⟩)
        simp only [hpcb]
        exact Function.update_of_ne hne ..
      · simp only [hpcb]
      · simp only [hpcb]
  | @mensaje i _ mensaje _ =>
      exact hresto rfl fun _ _ => rfl
  | @dispositivo j c' hc =>
      obtain ⟨ready, dispositivos, n, rfl⟩ := pasoDispositivo_marco hc
      exact hresto rfl fun _ _ => rfl
  | @plp peso plp c' hc =>
      exact hresto (pasoPlp_semaforos hc) fun _ _ => congrFun (duenios_pasoPlp hc).2.2.1 _
  | @principal pcb principal c' hc =>
      refine hresto (pasoPrincipal_semaforos hc) ?_
      intro x hx
      have hlt : x < s.comun.cantidad := by
        refine h.duenio_lt ?_
        rw [Kernel.duenios, Multiset.mem_add]
        exact Or.inl hx
      generalize s.principal = l at hc
      cases pasoPrincipal_avanza hc <;> simp [escribirPcb, hlt.ne]
  | @salida salida c' hc =>
      refine hresto (pasoSalida_semaforos hc) ?_
      generalize s.salida = l at hc
      cases pasoSalida_avanza hc <;> exact fun _ _ => rfl

/-! ### The semantics of a semaphore -/

/-- The queue of the semaphore `j`. -/
def Comun.cola (c : Comun) (j : ℕ) : List Programa :=
  (c.semaforos[j]?).elim [] Semaforo.progEncolados

theorem enCuenta_inicial {configuracion : Configuracion} {p : Texto × ℤ}
    (hp : configuracion.semaforos[j]? = some p) (hvalor : 0 ≤ p.2) :
    ∃ semaf, (inicial configuracion).comun.semaforos[j]? = some semaf ∧
      EnCuenta p.2 (inicial configuracion).comun semaf Cuentas.nada := by
  refine ⟨⟨p.1, p.2, []⟩, by simp [inicial, hp], (propio_inicial configuracion).pids,
    List.nodup_nil, ?_, ?_, rfl, List.nodup_nil, by simp, by simp [Cuentas.nada]⟩
  · simp [Cuentas.nada]
  · simp only [List.length_nil]
    omega

theorem Comun.cola_eq (hj : c.semaforos[j]? = some semaf) : c.cola j = semaf.progEncolados := by
  rw [Comun.cola, hj]
  rfl

/-- **The answer to a wait**: `bloquear` when the program is then in the queue and out of
`listaExec`, and `continuar` when the lists stay as they are. -/
theorem EnCuenta.respuesta_wait (h : EnCuenta valor c semaf cuentas)
    (hj : c.semaforos[j]? = some semaf) (hbusca : c.buscaSemaforo nombre = some j)
    (hx : x ∈ c.listaExec) (hpcb : pcb.pid = (c.pcb x).pid)
    (hlock : fnLock c nombre pcb x = some (r, c')) :
    (r = .bloquear ↔ x ∈ c'.cola j ∧ x ∉ c'.listaExec) ∧
    (r ≠ .bloquear → r = .continuar ∧ c'.cola j = c.cola j ∧ c'.listaExec = c.listaExec) := by
  obtain ⟨hnada, -⟩ | ⟨k, a, hk', hk, -, hcaso⟩ := fnLock_casos hlock
  · exact absurd (hbusca.symm.trans hnada) (by simp)
  obtain rfl : j = k := Option.some_inj.1 (hbusca.symm.trans hk')
  obtain rfl : a = semaf := by simpa [hk] using hj
  obtain ⟨-, -, rfl, hc'⟩ | ⟨-, rfl, rfl⟩ := hcaso
  · obtain ⟨d, hd, -, hsemaforos, hexec, -⟩ := comun_bloqueado h.pids hx hpcb j
      { a with iSemaforo := a.iSemaforo - 1, progEncolados := a.progEncolados ++ [x] }
    obtain rfl : c' = d := hc'.trans hd.symm
    refine ⟨⟨fun _ => ⟨?_, ?_⟩, fun _ => rfl⟩, fun hno => absurd rfl hno⟩
    · simp [Comun.cola, hsemaforos, getElem?_conSemaforo_self hk]
    · rw [hexec]
      exact h.exec.not_mem_erase
  · refine ⟨⟨fun hno => absurd hno (by simp), fun hbloqueado => absurd hx hbloqueado.2⟩,
      fun _ => ⟨rfl, ?_, rfl⟩⟩
    rw [Comun.cola_eq (getElem?_conSemaforo_self hk _), Comun.cola_eq hk]

/-- The program in front of the queue is the first one that was blocked and not woken. -/
theorem EnCuenta.primero {y : Programa} {resto : List Programa} (h : EnCuenta valor c semaf cuentas)
    (hcons : semaf.progEncolados = y :: resto) :
    cuentas.bloqueados[cuentas.despertados.length]? = some (y, c.pcb y) := by
  obtain ⟨⟨z, pcb⟩, otros, hdrop, rfl, -⟩ := List.map_eq_cons_iff.1 (h.map_drop.trans hcons)
  have hpcb : c.pcb z = pcb := h.pcb (z, pcb) (by simp [hdrop])
  rw [← Nat.add_zero cuentas.despertados.length, ← List.getElem?_drop, hdrop, hpcb]
  rfl

/-- **What a signal does**: it moves the program in front of the queue, if there is one, to the end
of Ready, with the PCB of its wait and one token. -/
theorem EnCuenta.respuesta_signal (h : EnCuenta valor c semaf cuentas)
    (hj : c.semaforos[j]? = some semaf) (hbusca : c.buscaSemaforo nombre = some j)
    (hunlock : fnUnlock c nombre = some (r, c')) :
    (c.cola j = [] → c'.cola j = [] ∧ c'.listaReady = c.listaReady ∧
      c'.productorConsumidor = c.productorConsumidor) ∧
    ∀ y resto, c.cola j = y :: resto → c'.cola j = resto ∧
      c'.listaReady = c.listaReady ++ [some y] ∧
      c'.productorConsumidor = c.productorConsumidor + 1 ∧
      cuentas.bloqueados[cuentas.despertados.length]? = some (y, c'.pcb y) := by
  rw [Comun.cola_eq hj]
  obtain ⟨hnil, -, rfl⟩ | ⟨y, resto, hcons, rfl⟩ := h.despertar hj hbusca hunlock
  · refine ⟨fun _ => ⟨?_, rfl, rfl⟩, ?_⟩
    · simp [Comun.cola, getElem?_conSemaforo_self hj, hnil]
    · intro y resto hcons
      exact absurd (hnil.symm.trans hcons) (by simp)
  · refine ⟨fun hnil => absurd (hnil.symm.trans hcons) (by simp), ?_⟩
    intro y' resto' hcons'
    obtain ⟨rfl, rfl⟩ := List.cons.inj (hcons.symm.trans hcons')
    refine ⟨?_, rfl, rfl, h.primero hcons⟩
    simp [Comun.cola, agregarReady, getElem?_conSemaforo_self hj]

/-- A program in `listaExec`, with a semaphore `mutex` of value zero. -/
def comunEjecuta : Comun :=
  { (inicial configuracionMutex).comun with
    pcb := fun _ => { pcbNulo with pid := 1001#32 }
    cantidad := 1
    listaExec := [0] }

/-- **The semantics of a semaphore whose initial value is not negative**, in every run of calls,
each of them to completion: the waits that were answered `continuar` and the programs that were put
back in Ready are together at most its initial value and its signals; its queue is the programs that
were blocked and not woken, in order, and no program twice; a wait is answered `bloquear` exactly
when its program is then in the queue and out of `listaExec`; and a signal moves the program that
has waited longest, if there is one, to the end of Ready, with the PCB of its wait and one token. -/
theorem semaforo_serializado (configuracion : Configuracion) (j : ℕ) (p : Texto × ℤ)
    (hp : configuracion.semaforos[j]? = some p) (hvalor : 0 ≤ p.2) {tr : List Llamada} {c : Comun}
    {cuentas : Cuentas} (h : Lts.Run (Lts.anotado (anotarLlamada j) Serial)
      ((inicial configuracion).comun, Cuentas.nada) tr (c, cuentas)) :
    (cuentas.continuan + cuentas.despertados.length : ℤ) ≤ p.2 + cuentas.seniales ∧
    cuentas.bloqueados.map Prod.fst = cuentas.despertados ++ c.cola j ∧ (c.cola j).Nodup ∧
    (∀ x nombre pcb r c', c.buscaSemaforo nombre = some j → x ∈ c.listaExec →
      pcb.pid = (c.pcb x).pid → fnLock c nombre pcb x = some (r, c') →
      (r = .bloquear ↔ x ∈ c'.cola j ∧ x ∉ c'.listaExec) ∧
      (r ≠ .bloquear → r = .continuar ∧ c'.cola j = c.cola j ∧ c'.listaExec = c.listaExec)) ∧
    ∀ nombre r c', c.buscaSemaforo nombre = some j → fnUnlock c nombre = some (r, c') →
      (c.cola j = [] → c'.cola j = [] ∧ c'.listaReady = c.listaReady ∧
        c'.productorConsumidor = c.productorConsumidor) ∧
      ∀ y resto, c.cola j = y :: resto → c'.cola j = resto ∧
        c'.listaReady = c.listaReady ++ [some y] ∧
        c'.productorConsumidor = c.productorConsumidor + 1 ∧
        cuentas.bloqueados[cuentas.despertados.length]? = some (y, c'.pcb y) := by
  obtain ⟨semaf, hj, henCuenta⟩ : ∃ semaf, c.semaforos[j]? = some semaf ∧
      EnCuenta p.2 c semaf cuentas := by
    refine h.invariant (I := fun q => ∃ semaf, q.1.semaforos[j]? = some semaf ∧
      EnCuenta p.2 q.1 semaf q.2) ?_ (enCuenta_inicial hp hvalor)
    rintro ⟨c₁, k₁⟩ llamada ⟨c₂, k₂⟩ ⟨semaf, hj, henCuenta⟩ ⟨hpaso, hk⟩
    obtain rfl : k₂ = anotarLlamada j c₁ llamada k₁ := hk
    exact henCuenta.paso hj hpaso
  have hcola := Comun.cola_eq hj
  refine ⟨?_, hcola ▸ henCuenta.orden, hcola ▸ henCuenta.unicos, ?_, ?_⟩
  · have hlargos := congrArg List.length henCuenta.orden
    have hcontador := henCuenta.contador
    have hlargo := henCuenta.largo
    rw [List.length_map, List.length_append] at hlargos
    omega
  · exact fun x nombre pcb r c' hbusca hx hpcb hlock =>
      henCuenta.respuesta_wait hj hbusca hx hpcb hlock
  · exact fun nombre r c' hbusca hunlock => henCuenta.respuesta_signal hj hbusca hunlock

/-- A program waits, and is woken. -/
theorem semaforo_serializado_despierta : ∃ c₁ c₂ cuentas,
    fnLock comunEjecuta "mutex".toList { pcbNulo with pid := 1001#32 } 0 = some (.bloquear, c₁) ∧
    fnUnlock c₁ "mutex".toList = some (.continuar, c₂) ∧
    Lts.Run (Lts.anotado (anotarLlamada 0) Serial)
      ((inicial configuracionMutex).comun, Cuentas.nada)
      [.aparte comunEjecuta, .wait 0 "mutex".toList { pcbNulo with pid := 1001#32 }]
      (c₁, cuentas) ∧
    c₁.cola 0 = [0] ∧ c₂.listaReady = c₁.listaReady ++ [some 0] := by
  have hfin : ((fnLock comunEjecuta "mutex".toList { pcbNulo with pid := 1001#32 } 0).bind fun q =>
      (fnUnlock q.2 "mutex".toList).map fun q' =>
        (q.1, q'.1, q.2.cola 0, q.2.buscaSemaforo "mutex".toList)) =
      some (.bloquear, .continuar, [0], some 0) := by decide +kernel
  obtain ⟨⟨r₁, c₁⟩, hlock, hfin⟩ := Option.bind_eq_some_iff.1 hfin
  obtain ⟨⟨r₂, c₂⟩, hunlock, hfin⟩ := Option.map_eq_some_iff.1 hfin
  simp only [Prod.mk.injEq] at hfin
  obtain ⟨rfl, rfl, hcola, hbusca⟩ := hfin
  have haparte : Aparte (inicial configuracionMutex).comun comunEjecuta := by
    refine ⟨rfl, ⟨?_, ?_, by decide⟩, by decide, ?_⟩
    · intro x hx
      obtain rfl : x = 0 := Nat.lt_one_iff.1 hx
      rfl
    · intro x hx
      obtain rfl := List.mem_singleton.1 hx
      exact Nat.one_pos
    · intro semaf hsemaf x hx
      obtain rfl := List.mem_singleton.1 hsemaf
      exact absurd hx (by simp)
  have hrun : Lts.Run Serial (inicial configuracionMutex).comun
      [.aparte comunEjecuta, .wait 0 "mutex".toList { pcbNulo with pid := 1001#32 }] c₁ :=
    (Lts.Run.single ⟨rfl, haparte⟩).snoc ⟨by decide, rfl, _, hlock⟩
  obtain ⟨cuentas, hrun⟩ : ∃ cuentas, Lts.Run (Lts.anotado (anotarLlamada 0) Serial)
      ((inicial configuracionMutex).comun, Cuentas.nada) _ (c₁, cuentas) := hrun.anotar _
  obtain ⟨-, -, -, -, hsignal⟩ := semaforo_serializado configuracionMutex 0 ("mutex".toList, 0) rfl
    le_rfl hrun
  obtain ⟨-, hready, -, -⟩ := (hsignal _ _ _ hbusca hunlock).2 0 [] hcola
  exact ⟨c₁, c₂, cuentas, hlock, hunlock, hrun, hcola, hready⟩

end Ansisop.Kernel
