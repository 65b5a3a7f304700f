/-
**A script, from its admission on.**

When the kernel has accepted a script, its code, its indices and an empty stack are in segments of
the UMV, all different, and its PCB has their addresses.  From then on any CPUs run it, while the
other processes do what they like with their own segments; and what they do is what its statements
mean.

Main definitions:

* `Ansisop.Lenguaje.ConPila` — the stack of a program that is being admitted;
* `Ansisop.Lenguaje.Guion.inicio` — a program that starts;
* `Ansisop.Lenguaje.DejaSegmentos` — from a CPU to the next one, the segments of the process are the
  same.

Main results:

* `Ansisop.Lenguaje.instalado_de_admitido` — **a script that was accepted has its segments**;
* `Ansisop.Lenguaje.vive_admitido` — **a safe script that was accepted does what it means**, in any
  CPUs.
-/

import Ansisop.Lenguaje.Puesto
import Ansisop.Lenguaje.Vida

set_option relaxedAutoImplicit false
set_option autoImplicit false

namespace Ansisop.Lenguaje

open Cpu (Entorno Nucleo Maquina Orden ciclo)
open Kernel
  (Prog Programa pidDe Admision Intento Comienza EnCurso Efecto PasoAdmision SinDesbordes Queda
  direccionDeArea asignarArea arrayDeTamano trasRespuestaUmv pasoInterno nuevoPrograma nuevoPcb)
open Umv (Bloque Conexion PedidoUmv MensajeUmv)
open Relation (ReflTransGen)

/-! ### The PCB of an attempt -/

/-- Only the addresses of the segments are others. -/
def SoloDirecciones (pcb pcb' : Pcb) : Prop :=
  pcb' = { pcb with
    segmentoCodigo := pcb'.segmentoCodigo
    segmentoStack := pcb'.segmentoStack
    cursorStack := pcb'.cursorStack
    indiceCodigo := pcb'.indiceCodigo
    indiceEtiqueta := pcb'.indiceEtiqueta }

theorem SoloDirecciones.trans {pcb pcb' pcb'' : Pcb} (h : SoloDirecciones pcb pcb')
    (h' : SoloDirecciones pcb' pcb'') : SoloDirecciones pcb pcb'' := by
  rw [SoloDirecciones] at h h'
  rw [SoloDirecciones, h', h]

theorem soloDirecciones_asignarArea (i : ℕ) (d : TPuntero) (pcb : Pcb) :
    SoloDirecciones pcb (asignarArea i d pcb) := by
  match i with
  | 0 | 1 | 2 | _ + 3 => rfl

variable {B : Bloque} {prog : Prog} {stack : U32} {programa : Programa} {h h' : ℕ}
  {v v' : Admision} {e : Intento} {pcb : Pcb}

theorem soloDirecciones_respuesta {pcb' : Pcb} {loc loc' : Kernel.LocGuardar} {r : Umv.Respuesta}
    (h : trasRespuestaUmv pcb loc r = some (loc', pcb')) : SoloDirecciones pcb pcb' := by
  cases loc with
  | crea i =>
      cases r with
      | segmentoCreado d =>
          rw [trasRespuestaUmv] at h
          split at h
          · cases h
            rfl
          · cases h
            exact soloDirecciones_asignarArea i d pcb
      | _ => cases h <;> rfl
  | almacena i d =>
      cases h
      exact soloDirecciones_asignarArea i d pcb
  | _ => cases h <;> rfl

/-- **The attempt writes only the addresses** in the PCB. -/
theorem soloDirecciones_paso (hpaso : PasoAdmision B prog stack programa h h' v e v') :
    SoloDirecciones v.pcb v'.pcb := by
  cases hpaso with
  | hilo _ _ _ _ => rfl
  | ajeno _ _ _ _ _ _ => rfl
  | registro _ _ _ h => exact soloDirecciones_respuesta h
  | propio _ _ _ _ _ h =>
      split at h
      · cases h
        rfl
      · exact soloDirecciones_respuesta h
  | interno hpaso =>
      rw [pasoInterno] at hpaso
      cases hloc : v.loc with
      | area i =>
          simp only [hloc] at hpaso
          split at hpaso
          · split at hpaso <;> cases hpaso <;> rfl
          · cases hpaso
            rfl
      | acepta =>
          simp only [hloc] at hpaso
          obtain ⟨kernel, -, rfl⟩ := Option.map_eq_some_iff.1 hpaso
          rfl
      | rechaza =>
          simp only [hloc] at hpaso
          obtain ⟨kernel, -, rfl⟩ := Option.map_eq_some_iff.1 hpaso
          rfl
      | _ => exact absurd hpaso (by simp [hloc])

/-! ### The stack of an attempt -/

/-- **The stack of a program that is being admitted**, once its segment is created: another one than
those of the areas, with the cursor at its start. -/
structure ConPila (prog : Prog) (stack : U32) (programa : Programa) (v : Admision) : Prop where
  pila : v.loc.pasada 3 →
    ∃ bs, v.umv.estado.abstracta (pidDe programa) v.pcb.segmentoStack = some bs ∧
    bs.length = stack.toNat
  cursor : v.loc.pasada 3 → v.pcb.cursorStack = v.pcb.segmentoStack
  aparte : v.loc.pasada 3 → PilaAparte prog stack v.pcb

theorem ConPila.of_not_pasada (hpasada : ¬v.loc.pasada 3) : ConPila prog stack programa v :=
  ⟨fun h => absurd h hpasada, fun h => absurd h hpasada, fun h => absurd h hpasada⟩

theorem ConPila.conserva (hv : ConPila prog stack programa v)
    (hloc : v'.loc.pasada 3 → v.loc.pasada 3) (hpcb : v'.pcb = v.pcb)
    (humv : v'.umv.estado.abstracta (pidDe programa) =
      v.umv.estado.abstracta (pidDe programa)) : ConPila prog stack programa v' where
  pila := fun h => by
    rw [humv, hpcb]
    exact hv.pila (hloc h)
  cursor := fun h => by
    rw [hpcb]
    exact hv.cursor (hloc h)
  aparte := fun h => by
    rw [hpcb]
    exact hv.aparte (hloc h)

/-- **A critical section of the attempt keeps the stack.** -/
theorem ConPila.propio (hcurso : EnCurso B prog stack programa v)
    (hdir : Kernel.Dirigida prog stack programa v) (hv : ConPila prog stack programa v)
    {stConexion : Conexion} {umv : Umv.Sistema} {loc : Kernel.LocGuardar}
    (hefecto : Efecto prog stack (pidDe programa) v.loc v.pcb v.umv.estado.abstracta loc pcb
      umv.estado.abstracta) :
    ConPila prog stack programa
      { v with umv := umv, stConexion := stConexion, loc := loc, pcb := pcb } := by
  have hhecho := hcurso.hecho
  have hguardada := hdir.guardada
  generalize habs : umv.estado.abstracta = b at hefecto
  cases hefecto with
  | espera => exact hv.conserva id rfl (congrFun habs _)
  | error _ => exact .of_not_pasada id
  | @creada i d bs hloc hnuevo hlen =>
      rw [hloc] at hhecho hguardada
      obtain ⟨hi4, -, -⟩ := hhecho
      by_cases hi3 : i < 3
      · rw [if_pos hi3, if_pos hi3]
        exact .of_not_pasada (Nat.not_lt.2 hi3.le)
      · rw [if_neg hi3, if_neg hi3]
        obtain rfl : i = 3 := by omega
        refine ⟨fun _ => ⟨bs, ?_, hlen⟩, fun _ => rfl, fun _ j hj heq => ?_⟩
        · rw [habs]
          exact SegMem.create_self
        · -- the segment is new, and those of the areas are there
          obtain ⟨bs', hbs, -⟩ := hguardada j hj hj.1
          rw [Kernel.direccionDeArea_asignarArea hj.1 hj.1.ne] at heq
          exact absurd (hnuevo.symm.trans (heq ▸ hbs)) (by simp)
  | @llenada i d hloc =>
      rw [hloc] at hhecho
      obtain ⟨hi, -⟩ := hhecho
      exact .of_not_pasada (Nat.not_lt.2 hi)
  | destruida _ => exact .of_not_pasada id

/-- What the attempt does between its requests keeps the stack. -/
theorem ConPila.interno (hstack : stack ≠ 0#32) (hv : ConPila prog stack programa v)
    (hpaso : pasoInterno prog stack programa v = some v') : ConPila prog stack programa v' := by
  rw [pasoInterno] at hpaso
  cases hloc : v.loc with
  | area i =>
      simp only [hloc] at hpaso
      split at hpaso
      · next hi =>
          split at hpaso
          · next hcero =>
              cases hpaso
              have hi3 : i ≠ 3 := by
                rintro rfl
                exact hstack hcero
              refine .of_not_pasada ?_
              show ¬3 < i + 1
              omega
          · cases hpaso
            exact .of_not_pasada (Nat.not_lt.2 (Nat.le_of_lt_succ hi))
      · next hi =>
          cases hpaso
          refine hv.conserva (fun _ => ?_) rfl rfl
          rw [hloc]
          exact Nat.lt_of_not_le fun hle => hi (Nat.lt_succ_of_le hle)
  | acepta =>
      simp only [hloc] at hpaso
      obtain ⟨kernel, -, rfl⟩ := Option.map_eq_some_iff.1 hpaso
      refine hv.conserva (fun _ => ?_) rfl rfl
      rw [hloc]
      trivial
  | rechaza =>
      simp only [hloc] at hpaso
      obtain ⟨kernel, -, rfl⟩ := Option.map_eq_some_iff.1 hpaso
      exact .of_not_pasada id
  | _ => exact absurd hpaso (by simp [hloc])

/-- **Every step keeps the stack.** -/
theorem ConPila.paso (hstack : stack ≠ 0#32) (hcurso : EnCurso B prog stack programa v)
    (hdir : Kernel.Dirigida prog stack programa v) (hv : ConPila prog stack programa v)
    (hsin : SinDesbordes v e) (hpaso : PasoAdmision B prog stack programa h h' v e v') :
    ConPila prog stack programa v' := by
  cases hpaso with
  | hilo _ _ _ _ => exact hv.conserva id rfl rfl
  | ajeno _ _ _ hproceso hpos hpaso =>
      refine hv.conserva id rfl ?_
      rcases Kernel.ajeno_abstracto hcurso.umv hsin hpos hpaso with ⟨-, hestado⟩ | ⟨-, habs⟩
      · exact congrArg (fun s => Umv.Estado.abstracta s (pidDe programa)) hestado
      · exact funext (habs.ajena hproceso)
  | registro hp hl hm htras => exact .of_not_pasada (Kernel.not_pasada_of_registro hp hl hm htras 3)
  | propio hp hl ha _ hpaso htras =>
      obtain ⟨-, -, -, hefecto⟩ := hcurso.efecto hp hl ha hpaso htras
      exact .propio hcurso hdir hv hefecto
  | interno hpaso => exact hv.interno hstack hpaso

/-- **A script that was accepted has its segments**, all different, with an empty stack; and the
rest of its PCB is as `nuevo_programa` made it. -/
theorem instalado_de_admitido {v₀ : Admision} {tr : List Intento} (hstack : stack ≠ 0#32)
    (hv₀ : Comienza B programa v₀)
    (hrun : Lts.Run (Lts.restrict SinDesbordes (PasoAdmision B prog stack programa h h')) v₀ tr v)
    (hloc : v.loc = .aceptado) :
    Instalado prog stack v.pcb (v.umv.estado.abstracta (pidDe programa)) ∧
      ConPila prog stack programa v ∧ v.pcb.pid = pidDe programa ∧
      SoloDirecciones v₀.pcb v.pcb := by
  have hkernel : Kernel.EnKernel prog programa v₀ v₀.kernel := hv₀.enKernel
  obtain ⟨hcurso, -, hpila, hpcb⟩ := hrun.invariant
    (I := fun v => EnCurso B prog stack programa v ∧ Kernel.Dirigida prog stack programa v ∧
      ConPila prog stack programa v ∧ SoloDirecciones v₀.pcb v.pcb)
    (fun _ _ _ hv he => ⟨(hv.1.paso he.1 he.2).1, hv.2.1.paso hv.1 he.1 he.2,
      hv.2.2.1.paso hstack hv.1 hv.2.1 he.1 he.2, hv.2.2.2.trans (soloDirecciones_paso he.2)⟩)
    ⟨hv₀.enCurso hkernel.propio, by
      refine .of_not_pasada fun _ => ?_
      rw [hv₀.loc]
      exact id, by
      refine .of_not_pasada ?_
      rw [hv₀.loc]
      exact id, rfl⟩
  have hpasada : v.loc.pasada 3 := by
    rw [hloc]
    trivial
  obtain ⟨bs, hbs, -⟩ := hpila.pila hpasada
  exact ⟨⟨by rw [hbs]; rfl, (hv₀.alojado hrun hloc).1.area⟩, hpila, hcurso.pid, hpcb⟩

/-! ### The life of a script -/

variable {σ κ : Type*} {E : Entorno σ} {K : Nucleo κ} {orden : Orden} {m m₂ : Maquina σ}
  {literal : Cadena} {pid : TIdPrograma}

/-- **A program that starts**, with an empty stack. -/
def Guion.inicio (P : Guion κ) (resto : κ) : Ejecucion κ where
  contextos := .base []
  programCounter := P.pcb.programCounter
  rafaga := .notificarPorFinRafaga
  enviados := []
  resto := resto

theorem pcbDe_inicio {P : Guion κ} (hcursor : P.pcb.cursorStack = P.pcb.segmentoStack)
    (hcontexto : P.pcb.tamanioContexto = 0#32) (resto : κ) : P.pcbDe (P.inicio resto) = P.pcb := by
  have hdir : P.dir 0 = P.pcb.cursorStack := hcursor ▸ BitVec.add_zero P.pcb.segmentoStack
  rw [Guion.pcbDe]
  change { P.pcb with
    programCounter := P.pcb.programCounter, cursorStack := P.dir 0, tamanioContexto :=
      0#32 } = P.pcb
  rw [hdir, ← hcontexto]

/-- **From a CPU to the next one**, the segments of the process are the same, whatever the others
have done. -/
structure DejaSegmentos (X : Puesto E K) (pid : TIdPrograma) (m m₂ : Maquina σ) : Prop where
  memoria : X.memoria m₂.entorno pid = X.memoria m.entorno pid
  diccionario : 0 < m₂.estado.diccionarioVariables.maxSize

theorem DejaSegmentos.espera {X : Puesto E K} {haparte : PilaAparte prog stack pcb}
    {e : Ejecucion κ} (hrep : Representa (P := Guion.deScript K pcb stack literal prog)
      (X.servicio prog stack pcb.pid pcb haparte) m e)
    (h : DejaSegmentos X pcb.pid m m₂) :
    Espera (P := Guion.deScript K pcb stack literal prog)
      (X.servicio prog stack pcb.pid pcb haparte)
      m m₂ := by
  obtain ⟨hactivo, hinst⟩ := hrep.vale
  obtain ⟨hcambia, hmemoria⟩ := X.cambia m₂.entorno pcb.pid
  refine ⟨⟨hcambia, ?_⟩, ?_, h.diccionario⟩
  · change Instalado prog stack pcb (X.memoria (E.cambioProcesoActivo m₂.entorno pcb.pid) pcb.pid)
    rw [hmemoria, h.memoria]
    exact hinst
  · change X.segmento (E.cambioProcesoActivo m₂.entorno pcb.pid) pcb.segmentoStack =
      X.segmento m.entorno pcb.segmentoStack
    rw [Puesto.segmento, Puesto.segmento, hcambia, hmemoria, h.memoria, hactivo]

/-- A CPU that gets the PCB of a program that starts. -/
theorem recibe_inicio (X : Puesto E K) (literal : Cadena) (haparte : PilaAparte prog stack pcb)
    (hinst : Instalado prog stack pcb (X.memoria m.entorno pcb.pid))
    (hlargo : ∃ bs, X.memoria m.entorno pcb.pid pcb.segmentoStack = some bs ∧
      bs.length = stack.toNat)
    (hstack : stack.toNat < 2 ^ 31) (hdic : 0 < m.estado.diccionarioVariables.maxSize) :
    Recibe (P := Guion.deScript K pcb stack literal prog)
    (X.servicio prog stack pcb.pid pcb haparte) m
      ((Guion.deScript K pcb stack literal prog).inicio (X.resto m.entorno)) := by
  obtain ⟨hcambia, hmemoria⟩ := X.cambia m.entorno pcb.pid
  obtain ⟨bs, hbs, hlen⟩ := hlargo
  refine ⟨⟨hcambia, hmemoria ▸ hinst⟩, ?_, trivial, ?_, Nat.zero_le _, hstack,
    X.resto_cambia _ _, hdic⟩
  · intro k x hx
    cases hx
  · change (X.segmento (E.cambioProcesoActivo m.entorno pcb.pid) pcb.segmentoStack).length =
      stack.toNat
    rw [Puesto.segmento, hcambia, hmemoria, hbs]
    exact hlen

/-- **A safe script that was accepted and that the CPU can log does what it means**, from its
admission on: whatever the UMV did for the others before it was accepted and whatever they do with
their segments after it, whatever the kernel answers, and whatever CPUs run it with whatever quanta,
each burst ends in a moment of the life of the script, without errors of the UMV, and the PCB and
the messages that it sends are those of the script. -/
theorem vive_admitido (B : Bloque) (literal : Cadena) (prog : Prog) (stack : U32)
    (programa : Programa) (h h' : ℕ) {v₀ v : Admision} {tr : List Intento}
    (hprog : nuevoPrograma literal = some prog) (hstack : stack ≠ 0#32)
    (hstack' : stack.toNat < 2 ^ 31) (hv₀ : Comienza B programa v₀)
    (hpcb₀ : ∃ pcb, v₀.pcb = nuevoPcb literal pcb)
    (hrun : Lts.Run (Lts.restrict SinDesbordes (PasoAdmision B prog stack programa h h')) v₀ tr v)
    (hloc : v.loc = .aceptado) (X : Puesto E K) {m₀ : Maquina σ}
    (hmemoria : X.memoria m₀.entorno (pidDe programa) = v.umv.estado.abstracta (pidDe programa))
    (hdic : 0 < m₀.estado.diccionarioVariables.maxSize)
    (hsegura : (Guion.deScript K v.pcb stack literal prog).Segura orden
      ((Guion.deScript K v.pcb stack literal prog).inicio (X.resto m₀.entorno)))
    (hregistra : Registrables E orden literal) {pcb : Pcb}
    (hturnos : ReflTransGen (Turno E orden (DejaSegmentos X (pidDe programa)))
      (m₀, v.pcb) (m, pcb)) :
    ∃ m' e', ciclo E orden pcb m = some m' ∧ m'.errores = m.errores ∧
      ReflTransGen ((Guion.deScript K v.pcb stack literal prog).Vive orden)
        ((Guion.deScript K v.pcb stack literal prog).inicio (X.resto m₀.entorno)) e' ∧
      m'.estado.pcb = (Guion.deScript K v.pcb stack literal prog).pcbDe e' ∧
      m'.estado.estadoRafaga = e'.rafaga ∧
      m'.enviados = ((Guion.deScript K v.pcb stack literal prog).notificar e').enviados := by
  obtain ⟨hinst, hpila, hpid, hdirecciones⟩ := instalado_de_admitido hstack hv₀ hrun hloc
  have hpasada : v.loc.pasada 3 := by
    rw [hloc]
    trivial
  have haparte := hpila.aparte hpasada
  obtain ⟨pcb₀, hpcb₀⟩ := hpcb₀
  have htam : v.pcb.tamanioEtiqueta = prog.tamanioEtiqueta := by
    rw [hdirecciones, hpcb₀, nuevoPcb, Prog.tamanioEtiqueta, (Kernel.nuevoPrograma_areas hprog).2.2]
  have hcontexto : v.pcb.tamanioContexto = 0#32 := by
    rw [hdirecciones, hpcb₀]
    rfl
  have hlt : literal.bytes.length < 2 ^ 31 := by
    rw [← (Kernel.nuevoPrograma_areas hprog).1]
    exact Nat.lt_of_succ_lt (hv₀.alojado hrun hloc).1.archivo_lt
  have hcod := X.codigo (K := K) v.pcb.pid hprog hlt hstack htam haparte hregistra
  rw [← hpid] at hmemoria hinst hturnos
  have hpilaEn := hpila.pila hpasada
  rw [← hpid] at hpilaEn
  have hrecibe :=
    recibe_inicio X literal haparte (hmemoria ▸ hinst) (hmemoria ▸ hpilaEn) hstack' hdic
  have hinicio :=
    pcbDe_inicio (P := Guion.deScript K v.pcb stack literal prog) (hpila.cursor hpasada)
    hcontexto (X.resto m₀.entorno)
  change _ = v.pcb at hinicio
  rw [← hinicio] at hturnos
  -- a program that starts is at the start of a burst
  change (Guion.deScript K v.pcb stack literal prog).Segura orden
    ((Guion.deScript K v.pcb stack literal prog).inicio (X.resto m₀.entorno)).alComenzar at hsegura
  obtain ⟨m', e', hciclo, herr, hvive, hrep⟩ := vive_turnos hcod hsegura
    (fun _ _ _ hrep hdeja => DejaSegmentos.espera hrep hdeja) hrecibe hturnos
  refine ⟨m', e', hciclo, herr, hvive, ?_, ?_, hrep.enviados⟩
  · have hnotificar : (Guion.deScript K v.pcb stack literal prog).pcbDe
        ((Guion.deScript K v.pcb stack literal prog).notificar e') =
        (Guion.deScript K v.pcb stack literal prog).pcbDe e' := by
      rw [Guion.notificar]
      split <;> rfl
    exact hrep.pcb.trans hnotificar
  · refine hrep.rafaga.trans ?_
    rw [Guion.notificar]
    split <;> rfl

end Ansisop.Lenguaje
