/-
**The long-term scheduler does not sleep on work that it could do.**

The long-term scheduler waits on one semaphore for two kinds of event: a program arrives, or a
program ends and makes room for another one.  Each turn of its loop takes at most one arrival and
puts at most one program in Ready, and a program that is rejected uses up a turn without using the
room.

The tokens of the semaphore, with those that a thread is about to post, are at least as many as the
programs that have arrived and those that can be put in Ready.  In the middle of a turn the token of
the turn counts as well.

Main definitions:

* `Ansisop.Kernel.Sistema.avisos` — the tokens, with those to be posted;
* `Ansisop.Kernel.LocPlp.despierto`, `Ansisop.Kernel.Despierto` — the account of the scheduler;
* `Ansisop.Kernel.NoNegativo` — the counter is not negative.

Main results:

* `Ansisop.Kernel.LocPlp.despierto_paso` — **a turn of the scheduler keeps its account**;
* `Ansisop.Kernel.Despierto.paso` — every step keeps it;
* `Ansisop.Kernel.planificador_despierto` — the scheduler does not sleep on work that it could do.
-/

import Ansisop.Kernel.Sistema
import Ansisop.Lib.Totals

set_option relaxedAutoImplicit false
set_option autoImplicit false

namespace Ansisop.Kernel

open Totals

variable {c c' : Comun} {loc loc' : Loc} {s s' : Sistema}

/-! ### The account -/

/-- The thread of a CPU has counted a program that ended, and has not told the scheduler. -/
def Loc.debeNuevo : Loc → ℕ
  | postExit _ => 1
  | postNuevo _ => 1
  | _ => 0

/-- The thread that receives the programs has added one, and has not told the scheduler. -/
def LocPrincipal.debeNuevo : LocPrincipal → ℕ
  | publica => 1
  | _ => 0

/-- The tokens of `nuevoProgramaSem`, with those that are to be posted. -/
def Sistema.avisos (s : Sistema) : ℕ :=
  s.comun.nuevoProgramaSem + total Loc.debeNuevo s.hilos + s.principal.debeNuevo

/-- How many programs of `newProcesos` can be put in Ready. -/
def admisibles (nuevos : ℕ) (estado : ℤ) : ℤ := min nuevos (max 0 estado)

/-- **The account of the scheduler**, at each place of its loop: there is a token for each program
that has arrived and for each one that can be put in Ready, but for those of the turn that it is
in. -/
def LocPlp.despierto (llegados nuevos : ℕ) (estado avisos : ℤ) : LocPlp → Prop
  | espera => llegados + admisibles nuevos estado ≤ avisos
  | saca => llegados + admisibles nuevos estado ≤ avisos + 1
  | guarda _ => llegados + admisibles nuevos estado ≤ avisos
  | pregunta => llegados ≤ avisos ∧ llegados + admisibles nuevos estado ≤ avisos + 1
  | resta => llegados + admisibles nuevos estado ≤ avisos + 1 ∧ 0 < nuevos ∧ 0 < estado
  | mueve => llegados + admisibles nuevos (estado + 1) ≤ avisos + 1 ∧ 0 < nuevos ∧ 0 ≤ estado
  | publica => llegados + admisibles nuevos estado ≤ avisos

/-- **The scheduler has a token for each thing that it can do.** -/
def Despierto (s : Sistema) : Prop :=
  s.plp.despierto s.comun.lista_de_programas.length s.comun.newProcesos.length
    s.comun.estado_multiprogramacion s.avisos

/-- The end of a program makes room for one more, and is told. -/
theorem LocPlp.despierto_fin {l : LocPlp} {llegados nuevos : ℕ} {estado estado' avisos avisos' : ℤ}
    (h : l.despierto llegados nuevos estado avisos) (hestado : estado ≤ estado')
    (havisos : avisos' - estado' = avisos - estado) :
    l.despierto llegados nuevos estado' avisos' := by
  cases l <;> simp only [LocPlp.despierto, admisibles] at h ⊢ <;> omega

/-- An arrival is told. -/
theorem LocPlp.despierto_llegada {l : LocPlp} {llegados llegados' nuevos : ℕ}
    {estado avisos avisos' : ℤ} (h : l.despierto llegados nuevos estado avisos)
    (havisos : avisos' - llegados' = avisos - llegados) :
    l.despierto llegados' nuevos estado avisos' := by
  cases l <;> simp only [LocPlp.despierto, admisibles] at h ⊢ <;> omega

/-- **What a step of the thread of a CPU does to the account of the scheduler**: it makes room for a
program, and it is to tell the scheduler. -/
theorem pasoHilo_avisos (hpaso : pasoHilo c loc = some (loc', c')) :
    c.estado_multiprogramacion ≤ c'.estado_multiprogramacion ∧
    (c'.nuevoProgramaSem + loc'.debeNuevo : ℤ) - c'.estado_multiprogramacion =
      c.nuevoProgramaSem + loc.debeNuevo - c.estado_multiprogramacion ∧
    c'.lista_de_programas = c.lista_de_programas ∧ c'.newProcesos = c.newProcesos := by
  cases pasoHilo_avanza hpaso with
  | aumentaMultiprogramacion =>
      refine ⟨by simp, ?_, rfl, rfl⟩
      simp only [Loc.debeNuevo]
      omega
  | postNuevo | postNuevoFin => exact ⟨le_rfl, by simp [Loc.debeNuevo], rfl, rfl⟩
  | _ => exact ⟨le_rfl, rfl, rfl, rfl⟩

theorem debeNuevo_recibirMensaje (c : Comun) (x : Programa) (mensaje : Option MensajeCpu) :
    (recibirMensaje c x mensaje).debeNuevo = 0 := by
  have hcontesta := recibirMensaje_contesta c x mensaje
  generalize recibirMensaje c x mensaje = loc at hcontesta
  cases hcontesta <;> rfl

/-- What the account of the scheduler speaks of does not change. -/
structure MismosAvisos (c c' : Comun) : Prop where
  lista_de_programas : c'.lista_de_programas = c.lista_de_programas
  newProcesos : c'.newProcesos = c.newProcesos
  estado_multiprogramacion : c'.estado_multiprogramacion = c.estado_multiprogramacion
  nuevoProgramaSem : c'.nuevoProgramaSem = c.nuevoProgramaSem

/-- A step that the scheduler does not depend on. -/
theorem Despierto.igual (h : Despierto s) (hc : MismosAvisos s.comun c')
    (hhilos : total Loc.debeNuevo s'.hilos = total Loc.debeNuevo s.hilos) (hcomun : s'.comun = c')
    (hplp : s'.plp = s.plp) (hprincipal : s'.principal = s.principal) : Despierto s' := by
  obtain ⟨hlista, hnew, hestado, hsem⟩ := hc
  subst hcomun
  rw [Despierto, Sistema.avisos, hlista, hnew, hestado, hsem, hhilos, hplp, hprincipal]
  exact h

theorem pasoDispositivo_avisos {k : ℕ} (hpaso : pasoDispositivo c k = some c') :
    MismosAvisos c c' := by
  cases pasoDispositivo_avanza hpaso <;> exact ⟨rfl, rfl, rfl, rfl⟩

theorem pasoSalida_avisos {l l' : LocSalida} (hpaso : pasoSalida c l = some (l', c')) :
    MismosAvisos c c' := by
  cases pasoSalida_avanza hpaso <;> exact ⟨rfl, rfl, rfl, rfl⟩

/-- A program that arrives is told to the scheduler. -/
theorem Despierto.llegada {pcb : Pcb} {principal : LocPrincipal} (h : Despierto s)
    (hpaso : pasoPrincipal s.comun pcb s.principal = some (principal, c')) :
    Despierto { s with principal := principal, comun := c' } := by
  generalize hloc : s.principal = l at hpaso
  rw [Despierto, Sistema.avisos, hloc] at h
  cases pasoPrincipal_avanza hpaso with
  | escucha _ => exact h
  | agrega =>
      refine LocPlp.despierto_llegada h ?_
      simp only [Sistema.avisos, LocPrincipal.debeNuevo, List.length_append, List.length_singleton]
      omega
  | publica =>
      refine LocPlp.despierto_llegada h ?_
      simp only [Sistema.avisos, LocPrincipal.debeNuevo]
      omega

theorem pasoPrincipal_estado {pcb : Pcb} {l l' : LocPrincipal}
    (hpaso : pasoPrincipal c pcb l = some (l', c')) :
    c'.estado_multiprogramacion = c.estado_multiprogramacion := by
  cases pasoPrincipal_avanza hpaso <;> rfl

/-- **A turn of the scheduler keeps its account.** -/
theorem LocPlp.despierto_paso {peso : Option ℤ} {l l' : LocPlp} (otros : ℕ)
    (h : l.despierto c.lista_de_programas.length c.newProcesos.length c.estado_multiprogramacion
      (c.nuevoProgramaSem + otros))
    (hpaso : pasoPlp c peso l = some (l', c')) :
    l'.despierto c'.lista_de_programas.length c'.newProcesos.length c'.estado_multiprogramacion
      (c'.nuevoProgramaSem + otros) := by
  cases pasoPlp_avanza hpaso with
  | espera hpos =>
      simp only [LocPlp.despierto] at h ⊢
      omega
  | saca hlista =>
      simp only [LocPlp.despierto, hlista, List.length_cons] at h ⊢
      omega
  | sinPrograma hlista =>
      -- a token with no arrival: the end of a program
      simp only [LocPlp.despierto, hlista, List.length_nil] at h ⊢
      omega
  | guarda =>
      simp only [LocPlp.despierto, admisibles, List.length_mergeSort, List.length_append,
        List.length_singleton] at h ⊢
      omega
  | rechaza =>
      simp only [LocPlp.despierto, admisibles] at h ⊢
      omega
  | pregunta hnew hpos => exact ⟨h.2, List.length_pos_iff.2 hnew, hpos⟩
  | noHay hno =>
      -- nothing can be put in Ready
      have hcero : c.newProcesos.length = 0 ∨ c.estado_multiprogramacion ≤ 0 := by
        rw [List.length_eq_zero_iff]
        by_contra hcon
        push Not at hcon
        exact hno hcon
      simp only [LocPlp.despierto, admisibles] at h ⊢
      omega
  | resta =>
      simp only [LocPlp.despierto, admisibles] at h ⊢
      omega
  | mueve hnew =>
      simp only [LocPlp.despierto, admisibles, hnew, List.length_cons, agregarReady] at h ⊢
      omega
  | publica => exact h

/-- **Every step keeps the account of the scheduler.** -/
theorem Despierto.paso {e : Evento} (h : Despierto s) (hpaso : Paso s e s') : Despierto s' := by
  cases hpaso.transicion with
  | conexion =>
      refine h.igual ⟨rfl, rfl, rfl, rfl⟩ ?_ rfl rfl rfl
      rw [total_concat]
      rfl
  | @hilo i loc loc' c' hi hloc =>
      obtain ⟨hestado, havisos, hlista, hnew⟩ := pasoHilo_avisos hloc
      have htotal := total_set Loc.debeNuevo hi loc'
      rw [Despierto]
      simp only [hlista, hnew]
      refine LocPlp.despierto_fin h hestado ?_
      simp only [Sistema.avisos]
      omega
  | @mensaje i programa mensaje hi =>
      refine h.igual ⟨rfl, rfl, rfl, rfl⟩ ?_ rfl rfl rfl
      have htotal := total_set Loc.debeNuevo hi (recibirMensaje s.comun programa mensaje)
      have hrecibe : (Loc.recibe programa).debeNuevo = 0 := rfl
      rw [debeNuevo_recibirMensaje, hrecibe] at htotal
      exact htotal
  | @dispositivo k c' hc =>
      exact h.igual (pasoDispositivo_avisos hc) rfl rfl rfl rfl
  | @plp peso plp c' hc =>
      rw [Despierto, Sistema.avisos, add_assoc, Nat.cast_add] at h ⊢
      exact LocPlp.despierto_paso _ h hc
  | @principal pcb principal c' hc =>
      exact h.llegada hc
  | @salida salida c' hc =>
      exact h.igual (pasoSalida_avisos hc) rfl rfl rfl rfl

/-! ### The scheduler waits -/

theorem despierto_inicial (configuracion : Configuracion) : Despierto (inicial configuracion) := by
  simp [Despierto, LocPlp.despierto, admisibles, inicial]

/-- **The counter does not become negative**: only the scheduler decrements it, after having seen
that it is positive. -/
structure NoNegativo (s : Sistema) : Prop where
  estado : 0 ≤ s.comun.estado_multiprogramacion
  resta : s.plp = .resta → 0 < s.comun.estado_multiprogramacion

/-- A step of a thread that is not the scheduler only increments it. -/
theorem NoNegativo.otro (h : NoNegativo s) (hplp : s'.plp = s.plp)
    (hestado : s.comun.estado_multiprogramacion ≤ s'.comun.estado_multiprogramacion) :
    NoNegativo s' where
  estado := h.estado.trans hestado
  resta := fun hresta => (h.resta (hplp ▸ hresta)).trans_le hestado

theorem NoNegativo.planificador (h : NoNegativo s) {peso : Option ℤ} {plp : LocPlp}
    (hpaso : pasoPlp s.comun peso s.plp = some (plp, c')) :
    NoNegativo { s with plp := plp, comun := c' } := by
  generalize hloc : s.plp = l at hpaso
  cases pasoPlp_avanza hpaso with
  | pregunta _ hpos => exact ⟨h.estado, fun _ => hpos⟩
  | resta =>
      have hpos := h.resta hloc
      exact ⟨by simp only; omega, by simp⟩
  | _ => exact ⟨h.estado, by simp⟩

theorem NoNegativo.paso {e : Evento} (h : NoNegativo s) (hpaso : Paso s e s') : NoNegativo s' := by
  cases hpaso.transicion with
  | conexion =>
      exact h.otro rfl le_rfl
  | @hilo i loc loc' c' hi hloc =>
      exact h.otro rfl (pasoHilo_avisos hloc).1
  | @mensaje i _ mensaje _ =>
      exact h.otro rfl le_rfl
  | @dispositivo k c' hc =>
      exact h.otro rfl (pasoDispositivo_avisos hc).estado_multiprogramacion.ge
  | @plp peso plp c' hc =>
      exact h.planificador hc
  | @principal pcb principal c' hc =>
      exact h.otro rfl (pasoPrincipal_estado hc).ge
  | @salida salida c' hc =>
      exact h.otro rfl (pasoSalida_avisos hc).estado_multiprogramacion.ge

/-- A program at most. -/
def configuracionSola : Configuracion := ⟨[], [], 1⟩

/-- A degree of multiprogramming that is negative. -/
def configuracionNegativa : Configuracion := ⟨[], [], -1⟩

/-- **The scheduler does not sleep on work that it could do.**  In every run, with any of the
programs rejected: when it waits on `nuevoProgramaSem`, which has no token, and no thread has added
a program or counted one that ended without having posted yet, then no program has arrived that it
did not look at, and either none is waiting to be put in Ready or `estado_multiprogramacion` is not
positive.  With a degree of multiprogramming that is not negative, it is zero then. -/
theorem planificador_despierto (configuracion : Configuracion) {tr : List Evento} {s : Sistema}
    (h : Lts.Run Paso (inicial configuracion) tr s) (hplp : s.plp = .espera)
    (hsem : s.comun.nuevoProgramaSem = 0) (hprincipal : s.principal ≠ .publica)
    (hhilos : ∀ loc ∈ s.hilos, ∀ fin, loc ≠ .postExit fin ∧ loc ≠ .postNuevo fin) :
    s.comun.lista_de_programas = [] ∧
    (s.comun.newProcesos = [] ∨ s.comun.estado_multiprogramacion ≤ 0) ∧
    (0 ≤ configuracion.multiprogramacion →
      s.comun.newProcesos = [] ∨ s.comun.estado_multiprogramacion = 0) := by
  have hdespierto : Despierto s :=
    h.invariant (fun _ _ _ hs he => hs.paso he) (despierto_inicial configuracion)
  have hdebe : total Loc.debeNuevo s.hilos = 0 := by
    refine total_eq_zero fun loc hloc => ?_
    have hno := hhilos loc hloc
    cases loc with
    | postExit fin => exact absurd rfl (hno fin).1
    | postNuevo fin => exact absurd rfl (hno fin).2
    | _ => rfl
  have hllega : s.principal.debeNuevo = 0 := by
    cases hl : s.principal with
    | publica => exact absurd hl hprincipal
    | _ => rfl
  have havisos : s.avisos = 0 := by rw [Sistema.avisos, hsem, hdebe, hllega]
  rw [Despierto, hplp, havisos] at hdespierto
  simp only [LocPlp.despierto, admisibles] at hdespierto
  have hcero : s.comun.lista_de_programas.length = 0 ∧
      (s.comun.newProcesos.length = 0 ∨ s.comun.estado_multiprogramacion ≤ 0) := by omega
  rw [List.length_eq_zero_iff, List.length_eq_zero_iff] at hcero
  refine ⟨hcero.1, hcero.2, ?_⟩
  intro hconf
  have hestado : NoNegativo s :=
    h.invariant (fun _ _ _ hs he => hs.paso he) ⟨hconf, by simp [inicial]⟩
  rcases hcero.2 with hnew | hno
  · exact Or.inl hnew
  · exact Or.inr (le_antisymm hno hestado.estado)

/-- Two programs arrive and there is room for one: the scheduler waits, and the second program with
it. -/
theorem planificador_despierto_lleno : ∃ s,
    correr (fun _ _ => true) (llegaPrograma ++ llegaPrograma.take 7) (inicial configuracionSola) =
    some s ∧
    s.comun.newProcesos ≠ [] ∧ s.comun.lista_de_programas = [] ∧
    s.comun.estado_multiprogramacion = 0 := by
  have hfin : (correr (fun _ _ => true) (llegaPrograma ++ llegaPrograma.take 7)
      (inicial configuracionSola)).any (fun s => decide (s.plp = .espera ∧
        s.comun.nuevoProgramaSem = 0 ∧ s.principal = .escucha ∧ s.hilos = [] ∧
        s.comun.newProcesos = [(1, 1)])) = true := by decide +kernel
  obtain ⟨s, hs, hfin⟩ := Option.any_eq_true _ _ |>.1 hfin
  obtain ⟨hplp, hsem, hprincipal, hhilos, hnew⟩ := of_decide_eq_true hfin
  obtain ⟨hlista, -, hcero⟩ :=
    planificador_despierto configuracionSola (run_of_correr hs).of_restrict
    hplp hsem (by simp [hprincipal]) (by simp [hhilos])
  refine ⟨s, hs, by simp [hnew], hlista, ?_⟩
  exact (hcero (by decide)).resolve_left (by simp [hnew])

/-- **With a degree of multiprogramming that is negative** the scheduler waits with a program to be
put in Ready, and `estado_multiprogramacion` is not zero. -/
theorem no_despierto_negativo :
    ¬ ∀ (configuracion : Configuracion) (tr : List Evento) (s : Sistema),
    Lts.Run Paso (inicial configuracion) tr s → s.plp = .espera → s.comun.nuevoProgramaSem = 0 →
    s.principal ≠ .publica → (∀ loc ∈ s.hilos, ∀ fin, loc ≠ .postExit fin ∧ loc ≠ .postNuevo fin) →
    s.comun.lista_de_programas = [] ∧
      (s.comun.newProcesos = [] ∨ s.comun.estado_multiprogramacion = 0) := by
  intro hclaim
  have hfin : (correr (fun _ _ => true) (llegaPrograma.take 7)
      (inicial configuracionNegativa)).any (fun s => decide (s.plp = .espera ∧
        s.comun.nuevoProgramaSem = 0 ∧ s.principal = .escucha ∧ s.hilos = [] ∧
        s.comun.newProcesos = [(0, 1)] ∧ s.comun.estado_multiprogramacion = -1)) = true := by
    decide +kernel
  obtain ⟨s, hs, hfin⟩ := Option.any_eq_true _ _ |>.1 hfin
  obtain ⟨hplp, hsem, hprincipal, hhilos, hnew, hestado⟩ := of_decide_eq_true hfin
  obtain ⟨-, h⟩ := hclaim configuracionNegativa _ s (run_of_correr hs).of_restrict hplp hsem
    (by simp [hprincipal]) (by simp [hhilos])
  rw [hnew, hestado] at h
  rcases h with h | h
  · exact absurd h (by simp)
  · exact absurd h (by decide)

end Ansisop.Kernel
