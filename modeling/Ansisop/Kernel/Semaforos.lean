/-
**The semaphores of the kernel, and the wake-ups that they lose.**

`fnLock` and `fnUnlock` change the counter, look at it again and change the queue in different
steps, so the calls of two threads can overlap.  A call that tests the counter sees the changes of
the calls that have not made their own test.

A thread that has made its test owes the queue a program, or has one to take from it.  As long as
every test comes out as it would without the changes of the calls that have not tested, the queue,
with what is owed, is what the counter says.  When two calls overlap so that a test comes out
differently, a wake-up can be lost.

Main definitions:

* `Ansisop.Kernel.Loc.debe`, `Ansisop.Kernel.Loc.pendiente` — what a thread owes the queue, and its
  change of the counter if it has not tested it;
* `Ansisop.Kernel.Loc.acuerda`, `Ansisop.Kernel.Acuerdo` — the tests that come out as they would
  without the other calls;
* `Ansisop.Kernel.Cuadra` — the invariant: the queue is what the counter says.

Main results:

* `Ansisop.Kernel.pasoHilo_cuenta` — **a step of a thread whose tests agree keeps the account**;
* `Ansisop.Kernel.Cuadra.acuerdo_solo` — the tests of a call that no other call overlaps agree;
* `Ansisop.Kernel.despierta` — no wake-up is lost in any run whose tests agree;
* `Ansisop.Kernel.no_despierta_solapadas` — two calls that overlap lose a wake-up.
-/

import Ansisop.Kernel.Sistema
import Ansisop.Lib.Totals

set_option relaxedAutoImplicit false
set_option autoImplicit false

namespace Ansisop.Kernel

open Totals

/-! ### The calls of `fnLock` and `fnUnlock` -/

/-- The thread is in `fnLock` or `fnUnlock`, for the semaphore. -/
def Loc.enCurso (j : ℕ) : Loc → Bool
  | lockResta _ k _ => k == j
  | lockCompara _ k _ => k == j
  | lockTamanio _ k _ => k == j
  | lockQuitaExec _ k _ => k == j
  | lockEscribe _ k _ => k == j
  | lockEncola _ k => k == j
  | unlockSuma _ k => k == j
  | unlockCompara _ k => k == j
  | unlockTamanio _ k => k == j
  | unlockSaca _ k => k == j
  | unlockAgrega _ k _ => k == j
  | unlockPost _ k => k == j
  | _ => false

/-- **What a thread owes the queue of the semaphore**: one program if it has decided to put it
there, and one less if it has decided to take it. -/
def Loc.debe (j : ℕ) : Loc → ℤ
  | lockTamanio _ k _ => if k = j then 1 else 0
  | lockQuitaExec _ k _ => if k = j then 1 else 0
  | lockEscribe _ k _ => if k = j then 1 else 0
  | lockEncola _ k => if k = j then 1 else 0
  | unlockTamanio _ k => if k = j then -1 else 0
  | unlockSaca _ k => if k = j then -1 else 0
  | _ => 0

/-- **The change of the counter by a call that has not tested it.** -/
def Loc.pendiente (j : ℕ) : Loc → ℤ
  | lockCompara _ k _ => if k = j then -1 else 0
  | unlockCompara _ k => if k = j then 1 else 0
  | _ => 0

/-- The thread is to put a null program in Ready, from the empty queue of the semaphore. -/
def Loc.conNulo (j : ℕ) : Loc → Bool
  | unlockAgrega _ k none => k == j
  | _ => false

/-- **A test that agrees**: the counter is on the same side of zero with and without the changes of
the other calls that have not tested, and the lists that the call is to take a program from are not
empty. -/
def Loc.acuerda (c : Comun) (j : ℕ) (otras : ℤ) : Loc → Bool
  | lockCompara _ k _ => k != j || (c.semaforos[j]?).all fun semaf =>
      decide (semaf.iSemaforo < 0) == decide (semaf.iSemaforo - otras < 0)
  | lockTamanio _ k _ => k != j || !c.listaExec.isEmpty
  | unlockCompara _ k => k != j || (c.semaforos[j]?).all fun semaf =>
      decide (semaf.iSemaforo ≤ 0) == decide (semaf.iSemaforo - otras ≤ 0)
  | unlockTamanio _ k => k != j || (c.semaforos[j]?).all fun semaf => !semaf.progEncolados.isEmpty
  | unlockSaca _ k => k != j || (c.semaforos[j]?).all fun semaf => !semaf.progEncolados.isEmpty
  | _ => true

/-- The changes of the counter by the calls that have not tested it. -/
def pendientes (j : ℕ) (s : Sistema) : ℤ := total (Loc.pendiente j) s.hilos

/-- **The steps whose tests agree.** -/
def acuerdo (j : ℕ) (s : Sistema) : Evento → Bool
  | .hilo i => (s.hilos[i]?).all fun loc =>
      loc.acuerda s.comun j (pendientes j s - loc.pendiente j)
  | _ => true

variable {c c' : Comun} {loc loc' : Loc} {s s' : Sistema} {j k : ℕ}

theorem getElem?_conSemaforo {a : Semaforo} (h : c.semaforos[k]? = some a) (b : Semaforo) :
    (conSemaforo c k b).semaforos[j]? = if k = j then some b else c.semaforos[j]? := by
  rw [conSemaforo, List.getElem?_set]
  split
  · rename_i heq
    rw [if_pos (heq ▸ (List.getElem?_eq_some_iff.1 h).1)]
  · rfl

/-- The account of a semaphore: its queue, with what the threads owe it, is what its counter says
without the calls that have not tested. -/
def Cuenta (semaf : Semaforo) (deuda pendientes : ℤ) : Prop :=
  (semaf.progEncolados.length : ℤ) + deuda = max 0 (-(semaf.iSemaforo - pendientes))

/-- A step that leaves the semaphores alone, from a location to another one with the same share of
the account. -/
theorem cuenta_loc {semaf : Semaforo} {deuda otras : ℤ} (hj : c.semaforos[j]? = some semaf)
    (hcuenta : Cuenta semaf (deuda + loc.debe j) (otras + loc.pendiente j))
    (hsemaforos : c'.semaforos = c.semaforos) (hdebe : loc'.debe j = loc.debe j)
    (hpendiente : loc'.pendiente j = loc.pendiente j) (hnulo : loc'.conNulo j = false) :
    ∃ semaf', c'.semaforos[j]? = some semaf' ∧
      Cuenta semaf' (deuda + loc'.debe j) (otras + loc'.pendiente j) ∧ loc'.conNulo j = false := by
  refine ⟨semaf, hsemaforos ▸ hj, ?_, hnulo⟩
  rw [hdebe, hpendiente]
  exact hcuenta

/-- A step that changes a semaphore. -/
theorem cuenta_conSemaforo {semaf a b : Semaforo} {deuda otras : ℤ}
    (hj : c.semaforos[j]? = some semaf) (hk : c.semaforos[k]? = some a)
    (hcuenta : Cuenta semaf (deuda + loc.debe j) (otras + loc.pendiente j))
    (hmismo : k = j → Cuenta semaf (deuda + loc.debe j) (otras + loc.pendiente j) →
      Cuenta b (deuda + loc'.debe j) (otras + loc'.pendiente j))
    (hotro : k ≠ j → loc'.debe j = loc.debe j ∧ loc'.pendiente j = loc.pendiente j)
    (hnulo : loc'.conNulo j = false) :
    ∃ semaf', (conSemaforo c k b).semaforos[j]? = some semaf' ∧
      Cuenta semaf' (deuda + loc'.debe j) (otras + loc'.pendiente j) ∧ loc'.conNulo j = false := by
  rw [getElem?_conSemaforo hk]
  by_cases heq : k = j
  · rw [if_pos heq]
    exact ⟨b, rfl, hmismo heq hcuenta, hnulo⟩
  · rw [if_neg heq]
    refine ⟨semaf, hj, ?_, hnulo⟩
    rw [(hotro heq).1, (hotro heq).2]
    exact hcuenta

/-- **A step of a thread whose tests agree keeps the account.** -/
theorem pasoHilo_cuenta {semaf : Semaforo} {deuda otras : ℤ} (hj : c.semaforos[j]? = some semaf)
    (hcuenta : Cuenta semaf (deuda + loc.debe j) (otras + loc.pendiente j))
    (hacuerda : loc.acuerda c j otras = true) (hpaso : pasoHilo c loc = some (loc', c')) :
    ∃ semaf', c'.semaforos[j]? = some semaf' ∧
      Cuenta semaf' (deuda + loc'.debe j) (otras + loc'.pendiente j) ∧ loc'.conNulo j = false := by
  cases pasoHilo_avanza hpaso with
  | lockResta hk _ | lockEncola hk | unlockSuma hk _ =>
      refine cuenta_conSemaforo hj hk hcuenta ?_
        (fun hne => by simp [Loc.debe, Loc.pendiente, hne]) rfl
      rintro rfl hcuenta
      obtain rfl := Option.some_inj.1 (hk.symm.trans hj)
      simp only [Cuenta, Loc.debe, Loc.pendiente, if_pos, List.length_append, List.length_singleton,
        Nat.cast_add, Nat.cast_one] at hcuenta ⊢
      omega
  | @lockCompara x k pcb a hk hneg | @lockPasa x k pcb a hk hneg =>
      by_cases heq : k = j
      · subst heq
        obtain rfl := Option.some_inj.1 (hk.symm.trans hj)
        -- the change of this call counts from now on, and with it what it owes
        have htest : a.iSemaforo < 0 ↔ a.iSemaforo - otras < 0 := by
          simpa [Loc.acuerda, hk] using hacuerda
        refine ⟨a, hk, ?_, rfl⟩
        simp only [Cuenta, Loc.debe, Loc.pendiente, if_pos] at hcuenta ⊢
        omega
      · exact cuenta_loc hj hcuenta rfl (by simp [Loc.debe, heq]) (by simp [Loc.pendiente, heq]) rfl
  | @unlockCompara x k a hk hle | @unlockPasa x k a hk hle =>
      by_cases heq : k = j
      · subst heq
        obtain rfl := Option.some_inj.1 (hk.symm.trans hj)
        have htest : a.iSemaforo ≤ 0 ↔ a.iSemaforo - otras ≤ 0 := by
          simpa [Loc.acuerda, hk] using hacuerda
        refine ⟨a, hk, ?_, rfl⟩
        simp only [Cuenta, Loc.debe, Loc.pendiente, if_pos] at hcuenta ⊢
        omega
      · exact cuenta_loc hj hcuenta rfl (by simp [Loc.debe, heq]) (by simp [Loc.pendiente, heq]) rfl
  | lockTamanio _ => exact cuenta_loc hj hcuenta rfl rfl rfl rfl
  | @lockSinExec x k pcb hexec =>
      by_cases heq : k = j
      · simp [Loc.acuerda, heq, hexec] at hacuerda
      · exact cuenta_loc hj hcuenta rfl (by simp [Loc.debe, heq]) rfl rfl
  | unlockTamanio _ _ => exact cuenta_loc hj hcuenta rfl rfl rfl rfl
  | @unlockSinCola x k a hk hcola =>
      by_cases heq : k = j
      · subst heq
        simp [Loc.acuerda, hk, hcola] at hacuerda
      · exact cuenta_loc hj hcuenta rfl (by simp [Loc.debe, heq]) rfl rfl
  | @unlockSaca x k a hk =>
      refine cuenta_conSemaforo hj hk hcuenta ?_
        (fun hne => by simp [Loc.debe, Loc.pendiente, hne]) ?_
      · rintro rfl hcuenta
        obtain rfl := Option.some_inj.1 (hk.symm.trans hj)
        have hcola : a.progEncolados ≠ [] := by simpa [Loc.acuerda, hk] using hacuerda
        have hlargo := List.length_pos_iff.2 hcola
        simp only [Cuenta, Loc.debe, Loc.pendiente, if_pos, List.length_tail] at hcuenta ⊢
        omega
      · by_cases heq : k = j
        · subst heq
          have hcola : a.progEncolados ≠ [] := by simpa [Loc.acuerda, hk] using hacuerda
          rw [List.head?_eq_some_head hcola]
          rfl
        · cases a.progEncolados.head? with
          | none => exact beq_false_of_ne heq
          | some y => rfl
  | _ =>
      -- no other step touches a semaphore
      exact cuenta_loc hj hcuenta rfl rfl rfl rfl

/-- A message only brings a thread to the start of a call. -/
theorem recibirMensaje_cuenta (c : Comun) (x : Programa) (mensaje : Option MensajeCpu) (j : ℕ) :
    (recibirMensaje c x mensaje).debe j = 0 ∧ (recibirMensaje c x mensaje).pendiente j = 0 ∧
      (recibirMensaje c x mensaje).conNulo j = false := by
  have hcontesta := recibirMensaje_contesta c x mensaje
  generalize recibirMensaje c x mensaje = loc at hcontesta
  cases hcontesta <;> exact ⟨rfl, rfl, rfl⟩

/-! ### The invariant -/

/-- **The queue of the semaphore is what its counter says**, with what the threads owe it and
without the calls that have not tested; and no thread has a null program from it. -/
def Cuadra (j : ℕ) (s : Sistema) : Prop :=
  (∃ semaf, s.comun.semaforos[j]? = some semaf ∧
    Cuenta semaf (total (Loc.debe j) s.hilos) (pendientes j s)) ∧
  ∀ loc ∈ s.hilos, loc.conNulo j = false

/-- A step of a thread that is not the one of a CPU. -/
theorem Cuadra.otro (h : Cuadra j s) (hhilos : s'.hilos = s.hilos)
    (hsemaforos : s'.comun.semaforos = s.comun.semaforos) : Cuadra j s' := by
  unfold Cuadra pendientes
  rw [hhilos, hsemaforos]
  exact h

/-- **A step of the thread of a CPU that keeps the account.** -/
theorem Cuadra.hilo (h : Cuadra j s) {i : ℕ} (hi : s.hilos[i]? = some loc)
    (hpaso : ∀ (semaf : Semaforo) (deuda otras : ℤ), s.comun.semaforos[j]? = some semaf →
      pendientes j s - loc.pendiente j = otras →
      Cuenta semaf (deuda + loc.debe j) (otras + loc.pendiente j) →
      ∃ semaf', c'.semaforos[j]? = some semaf' ∧
        Cuenta semaf' (deuda + loc'.debe j) (otras + loc'.pendiente j) ∧ loc'.conNulo j = false) :
    Cuadra j { s with hilos := s.hilos.set i loc', comun := c' } := by
  obtain ⟨⟨semaf, hj, hcuenta⟩, hnulo⟩ := h
  have hdebe := total_set (Loc.debe j) hi loc'
  have hpendiente := total_set (Loc.pendiente j) hi loc'
  obtain ⟨semaf', hj', hcuenta', hnulo'⟩ := hpaso semaf (total (Loc.debe j) s.hilos - loc.debe j)
    (pendientes j s - loc.pendiente j) hj rfl (by simpa using hcuenta)
  refine ⟨⟨semaf', hj', ?_⟩, ?_⟩
  · have hdeuda : total (Loc.debe j) (s.hilos.set i loc') =
        total (Loc.debe j) s.hilos - loc.debe j + loc'.debe j := by omega
    have hotras : total (Loc.pendiente j) (s.hilos.set i loc') =
        pendientes j s - loc.pendiente j + loc'.pendiente j := by
      unfold pendientes
      omega
    unfold pendientes
    rw [hdeuda, hotras]
    exact hcuenta'
  · intro loc₁ hmem
    rcases List.mem_or_eq_of_mem_set hmem with hmem | rfl
    · exact hnulo loc₁ hmem
    · exact hnulo'

theorem pasoPlp_semaforos {peso : Option ℤ} {l l' : LocPlp}
    (hpaso : pasoPlp c peso l = some (l', c')) : c'.semaforos = c.semaforos := by
  cases pasoPlp_avanza hpaso <;> rfl

theorem pasoPrincipal_semaforos {pcb : Pcb} {l l' : LocPrincipal}
    (hpaso : pasoPrincipal c pcb l = some (l', c')) : c'.semaforos = c.semaforos := by
  cases pasoPrincipal_avanza hpaso <;> rfl

theorem pasoSalida_semaforos {l l' : LocSalida} (hpaso : pasoSalida c l = some (l', c')) :
    c'.semaforos = c.semaforos := by
  cases pasoSalida_avanza hpaso <;> rfl

theorem pasoDispositivo_semaforos {d : ℕ} (hpaso : pasoDispositivo c d = some c') :
    c'.semaforos = c.semaforos := by
  cases pasoDispositivo_avanza hpaso <;> rfl

/-- **Every step whose tests agree keeps the invariant.** -/
theorem Cuadra.paso {e : Evento} (h : Cuadra j s) (hacuerdo : acuerdo j s e = true)
    (hpaso : Paso s e s') : Cuadra j s' := by
  cases hpaso.transicion with
  | conexion =>
      obtain ⟨⟨semaf, hj, hcuenta⟩, hnulo⟩ := h
      refine ⟨⟨semaf, hj, ?_⟩, ?_⟩
      · simpa [pendientes, total_concat, Loc.debe, Loc.pendiente] using hcuenta
      · intro loc hloc
        rcases List.mem_append.1 hloc with hloc | hloc
        · exact hnulo loc hloc
        · obtain rfl := List.mem_singleton.1 hloc
          rfl
  | @hilo i loc loc' c' hi hloc =>
      simp only [acuerdo, hi, Option.all_some] at hacuerdo
      refine h.hilo hi fun semaf deuda otras hj hotras hcuenta => ?_
      subst hotras
      exact pasoHilo_cuenta hj hcuenta hacuerdo hloc
  | @mensaje i programa mensaje hi =>
      obtain ⟨hdebe, hpendiente, hnulo⟩ := recibirMensaje_cuenta s.comun programa mensaje j
      exact h.hilo hi fun semaf deuda otras hj _ hcuenta =>
        cuenta_loc hj hcuenta rfl hdebe hpendiente hnulo
  | @dispositivo d c' hc =>
      exact h.otro rfl (pasoDispositivo_semaforos hc)
  | @plp peso plp c' hc =>
      exact h.otro rfl (pasoPlp_semaforos hc)
  | @principal pcb principal c' hc =>
      exact h.otro rfl (pasoPrincipal_semaforos hc)
  | @salida salida c' hc =>
      exact h.otro rfl (pasoSalida_semaforos hc)

/-- A semaphore whose value is not negative starts with an empty queue. -/
theorem cuadra_inicial {configuracion : Configuracion} {p : Texto × ℤ}
    (hp : configuracion.semaforos[j]? = some p) (hvalor : 0 ≤ p.2) :
    Cuadra j (inicial configuracion) := by
  refine ⟨⟨⟨p.1, p.2, []⟩, by simp [inicial, hp], ?_⟩, by simp [inicial]⟩
  show (0 : ℤ) + 0 = max 0 (-(p.2 - 0))
  omega

/-! ### No wake-up is lost -/

/-- A thread that is not in a call owes nothing. -/
theorem Loc.debe_eq_zero (h : loc.enCurso j = false) : loc.debe j = 0 := by
  cases loc <;> simp_all [Loc.enCurso, Loc.debe]

theorem Loc.pendiente_eq_zero (h : loc.enCurso j = false) : loc.pendiente j = 0 := by
  cases loc <;> simp_all [Loc.enCurso, Loc.pendiente]

/-- **A call that no other call overlaps agrees.** -/
theorem Cuadra.acuerdo_solo (h : Cuadra j s) {i : ℕ} (hi : s.hilos[i]? = some loc)
    (hsolo : ∀ k loc', k ≠ i → s.hilos[k]? = some loc' → loc'.enCurso j = false)
    (hexec : s.comun.listaExec ≠ []) : acuerdo j s (.hilo i) = true := by
  obtain ⟨⟨semaf, hj, hcuenta⟩, -⟩ := h
  have hdebe : total (Loc.debe j) s.hilos = loc.debe j :=
    total_eq_of_only hi fun k loc' hk hloc' => Loc.debe_eq_zero (hsolo k loc' hk hloc')
  have hpendiente : pendientes j s = loc.pendiente j :=
    total_eq_of_only hi fun k loc' hk hloc' => Loc.pendiente_eq_zero (hsolo k loc' hk hloc')
  rw [hdebe, hpendiente] at hcuenta
  simp only [acuerdo, hi, Option.all_some, hpendiente, sub_self]
  -- a call that is to take a program from the queue owes it one less, so there is one
  have hcola (hdebe : loc.debe j = -1) (hpendiente : loc.pendiente j = 0) :
      semaf.progEncolados ≠ [] := by
    intro hnil
    rw [hdebe, hpendiente, Cuenta, hnil, List.length_nil] at hcuenta
    omega
  cases loc with
  | lockCompara x k pcb => simp [Loc.acuerda]
  | lockTamanio x k pcb => simp [Loc.acuerda, hexec]
  | unlockCompara x k => simp [Loc.acuerda]
  | unlockTamanio x k =>
      by_cases heq : k = j
      · have hcola := hcola (if_pos heq) rfl
        simp [Loc.acuerda, hj, hcola]
      · simp [Loc.acuerda, heq]
  | unlockSaca x k =>
      by_cases heq : k = j
      · have hcola := hcola (if_pos heq) rfl
        simp [Loc.acuerda, hj, hcola]
      · simp [Loc.acuerda, heq]
  | _ => rfl

/-- A semaphore `mutex` with the value zero, and two programs at most. -/
def configuracionMutex : Configuracion := ⟨[("mutex".toList, 0)], [], 2⟩

/-- Two CPUs with a program each. -/
def dosProgramas : List Evento :=
  llegaPrograma ++ llegaPrograma ++ [.conexion, .conexion] ++ tomaPrograma 0 ++ tomaPrograma 1

/-- The first program waits, and then the second one signals. -/
def trazaOrdenada : List Evento :=
  dosProgramas ++ [.mensaje 0 (some (.waitKernel "mutex".toList { pcbNulo with pid := 1001#32 })),
    .hilo 0, .hilo 0, .hilo 0, .hilo 0, .hilo 0, .hilo 0,
    .mensaje 1 (some (.signalKernel "mutex".toList)),
    .hilo 1, .hilo 1, .hilo 1, .hilo 1, .hilo 1, .hilo 1]

/-- The second program signals when the first one has decided to wait, and is not in the queue. -/
def trazaSolapada : List Evento :=
  dosProgramas ++ [.mensaje 0 (some (.waitKernel "mutex".toList { pcbNulo with pid := 1001#32 })),
    .hilo 0, .hilo 0, .mensaje 1 (some (.signalKernel "mutex".toList)), .hilo 1, .hilo 1, .hilo 1,
    .hilo 0, .hilo 0, .hilo 0, .hilo 0]

/-- **No wake-up is lost** in a run whose tests agree: for a semaphore whose initial value is not
negative, whenever no call of `fnLock` or `fnUnlock` for it is in progress its queue has as many
programs as its counter says, and `fnUnlock` never has a null program to put in Ready. -/
theorem despierta (configuracion : Configuracion) (j : ℕ) (p : Texto × ℤ)
    (hp : configuracion.semaforos[j]? = some p) (hvalor : 0 ≤ p.2) {tr : List Evento} {s : Sistema}
    (h : Lts.Run (Lts.restrict (fun s e => acuerdo j s e = true) Paso)
      (inicial configuracion) tr s) :
    ((∀ loc ∈ s.hilos, loc.enCurso j = false) → ∃ semaf, s.comun.semaforos[j]? = some semaf ∧
      (semaf.progEncolados.length : ℤ) = max 0 (-semaf.iSemaforo)) ∧
    ∀ x, Loc.unlockAgrega x j none ∉ s.hilos := by
  obtain ⟨⟨semaf, hj, hcuenta⟩, hnulo⟩ : Cuadra j s :=
    h.invariant (fun _ _ _ hs he => hs.paso he.1 he.2) (cuadra_inicial hp hvalor)
  constructor
  · intro hquieto
    refine ⟨semaf, hj, ?_⟩
    have hdebe : total (Loc.debe j) s.hilos = 0 :=
      total_eq_zero fun loc hloc => Loc.debe_eq_zero (hquieto loc hloc)
    have hpendiente : pendientes j s = 0 :=
      total_eq_zero fun loc hloc => Loc.pendiente_eq_zero (hquieto loc hloc)
    simpa only [Cuenta, hdebe, hpendiente, add_zero, sub_zero] using hcuenta
  · intro x hmem
    simpa [Loc.conNulo] using hnulo _ hmem

/-- A wait and a signal, one after the other. -/
theorem despierta_ordenada : ∃ s,
    correr (acuerdo 0) trazaOrdenada (inicial configuracionMutex) = some s ∧
    s.hilos = [.esperaReady, .recibe 1] ∧
    ∃ semaf, s.comun.semaforos[0]? = some semaf ∧
      (semaf.progEncolados.length : ℤ) = max 0 (-semaf.iSemaforo) := by
  have hfin : (correr (acuerdo 0) trazaOrdenada (inicial configuracionMutex)).map
      (fun s => s.hilos) = some [.esperaReady, .recibe 1] := by decide +kernel
  obtain ⟨s, hs, hhilos⟩ := Option.map_eq_some_iff.1 hfin
  obtain ⟨hcola, -⟩ := despierta configuracionMutex 0 ("mutex".toList, 0) rfl le_rfl
    (run_of_correr hs)
  exact ⟨s, hs, hhilos, hcola (by simp [hhilos, Loc.enCurso])⟩

/-- **Two calls that overlap lose a wake-up**: the queue has a program and the counter says that it
has none. -/
theorem no_despierta_solapadas : ¬ ∀ (configuracion : Configuracion) (j : ℕ) (p : Texto × ℤ),
    configuracion.semaforos[j]? = some p → 0 ≤ p.2 → ∀ (tr : List Evento) (s : Sistema),
    Lts.Run Paso (inicial configuracion) tr s →
    ((∀ loc ∈ s.hilos, loc.enCurso j = false) → ∃ semaf, s.comun.semaforos[j]? = some semaf ∧
      (semaf.progEncolados.length : ℤ) = max 0 (-semaf.iSemaforo)) ∧
    ∀ x, Loc.unlockAgrega x j none ∉ s.hilos := by
  intro hclaim
  have hfin : (correr (fun _ _ => true) trazaSolapada (inicial configuracionMutex)).map
      (fun s => (s.hilos, s.comun.semaforos)) =
      some ([.esperaReady, .recibe 1], [⟨"mutex".toList, 0, [0]⟩]) := by decide +kernel
  obtain ⟨s, hs, heq⟩ := Option.map_eq_some_iff.1 hfin
  obtain ⟨hhilos, hsemaforos⟩ := Prod.mk.inj heq
  obtain ⟨hcola, -⟩ := hclaim configuracionMutex 0 ("mutex".toList, 0) rfl le_rfl trazaSolapada s
    (run_of_correr hs).of_restrict
  obtain ⟨semaf, hj, hlargo⟩ := hcola (by simp [hhilos, Loc.enCurso])
  rw [hsemaforos] at hj
  obtain rfl := Option.some_inj.1 hj
  exact absurd hlargo (by decide)

end Ansisop.Kernel
