/-
**The life of a program.**

A program runs in bursts, each in any CPU: at the end of one the kernel gets the PCB, and another
CPU gets it later, with the bytes of the stack as they were left and the kernel in any state.  To
the author of the program there are only statements, one after the other, and moments in which
others have had their turn.

Main definitions:

* `Ansisop.Lenguaje.Guion.Vive` — **what happens to a program**: its statements, and the turns of
  the others;
* `Ansisop.Lenguaje.Guion.Segura` — a program that is never without meaning;
* `Ansisop.Lenguaje.Turno` — from a CPU that gets the PCB to the next one.

Main results:

* `Ansisop.Lenguaje.entrega_paso` — a statement that gives up the CPU sends the PCB that goes on;
* `Ansisop.Lenguaje.vive_turnos` — **in any CPUs, a safe program does what it means**.
-/

import Ansisop.Lenguaje.Rafagas
import Mathlib.Logic.Relation

set_option relaxedAutoImplicit false
set_option autoImplicit false

namespace Ansisop.Lenguaje

open Cpu (Entorno Nucleo EstadoRafaga Maquina Primitiva Linea Orden definirParametros ciclo
  Todas todas_ambos)
open Relation (ReflTransGen)

variable {σ κ : Type*} {E : Entorno σ} {P : Guion κ} {S : Servicio E P.nucleo P.pcb.segmentoStack}
  {m m' m₂ : Maquina σ} {e e' e₀ : Ejecucion κ} {orden : Orden}

/-! ### The primitives of a line -/

/-- The primitives that an expression calls. -/
def DeExpresion : Primitiva → Prop
  | .obtenerPosicionVariable _ => True
  | .dereferenciar _ => True
  | .obtenerValorCompartida _ => True
  | _ => False

/-- The primitives that give up the CPU. -/
def Bloquea : Primitiva → Prop
  | .entrarSalida _ _ => True
  | .waitAnsisop _ => True
  | _ => False

variable {p : Primitiva → Prop}

/-- An expression calls primitives of expressions. -/
theorem Expr.todas (hp : ∀ a, DeExpresion a → p a) (e : Expr) :
    ∀ k : U32 → Linea, (∀ v, Todas p (k v)) → Todas p (e.linea orden k) := by
  induction e with
  | atomo a =>
      intro k hk
      cases a with
      | numero n => exact hk _
      | variable_ x => exact ⟨hp _ trivial, fun _ => ⟨hp _ trivial, hk⟩⟩
      | direccion x => exact ⟨hp _ trivial, hk⟩
      | compartida g => exact ⟨hp _ trivial, hk⟩
  | deref e ih =>
      intro k hk
      exact ih _ fun v => ⟨hp _ trivial, hk⟩
  | mas a b iha ihb =>
      intro k hk
      exact todas_ambos iha ihb fun x y => hk _
  | menos a b iha ihb =>
      intro k hk
      exact todas_ambos iha ihb fun x y => hk _

theorem todas_valores (hp : ∀ a, DeExpresion a → p a) (es : List Expr) :
    ∀ k : List U32 → Linea, (∀ vs, Todas p (k vs)) → Todas p (valores orden es k) := by
  induction es with
  | nil =>
      intro k hk
      exact hk []
  | cons e es ih =>
      intro k hk
      exact e.todas hp _ fun v => ih _ fun vs => hk _

theorem todas_definirParametros (hdef : ∀ x, p (.definirVariable x))
    (hasig : ∀ d v, p (.asignar d v)) (vs : List U32) : ∀ i, Todas p (definirParametros i vs) := by
  induction vs with
  | nil =>
      intro i
      exact trivial
  | cons v vs ih =>
      intro i
      exact ⟨hdef _, fun _ => ⟨hasig _ _, fun _ => ih (i + 1)⟩⟩

theorem todas_declarar (hdef : ∀ x, p (.definirVariable x)) (xs : List Letra) :
    Todas p (declarar xs) := by
  induction xs with
  | nil => exact trivial
  | cons x xs ih => exact ⟨hdef _, fun _ => ih⟩

/-- **Only two statements give up the CPU.** -/
theorem Sentencia.sinBloqueo (s : Sentencia) (hwait : ∀ i, s ≠ .wait i) (hio : ∀ d n, s ≠ .io d n) :
    Todas (fun a => ¬Bloquea a) (s.linea orden) := by
  have hp : ∀ a, DeExpresion a → ¬Bloquea a := by
    intro a ha
    cases a <;> first | exact id | exact ha.elim
  have hparametros (vs : List U32) : Todas (fun a => ¬Bloquea a) (definirParametros 0 vs) :=
    todas_definirParametros (fun _ => id) (fun _ _ => id) vs 0
  cases s with
  | fin => exact ⟨id, fun _ => trivial⟩
  | definir xs => exact todas_declarar (fun _ => id) xs
  | asignar x e => exact todas_ambos (fun k hk => ⟨id, hk⟩) (e.todas hp) fun _ _ =>
      ⟨id, fun _ => trivial⟩
  | asignarEn d e => exact todas_ambos (d.todas hp) (e.todas hp) fun _ _ => ⟨id, fun _ => trivial⟩
  | asignarCompartida g e => exact e.todas hp _ fun _ => ⟨id, fun _ => trivial⟩
  | print e => exact e.todas hp _ fun _ => ⟨id, fun _ => trivial⟩
  | textPrint l => exact ⟨id, fun _ => trivial⟩
  | retornar e => exact e.todas hp _ fun _ => ⟨id, fun _ => trivial⟩
  | goto l => exact ⟨id, fun _ => trivial⟩
  | jnz e l =>
      refine e.todas hp _ fun v => ?_
      split
      · exact ⟨id, fun _ => trivial⟩
      · exact trivial
  | jz e l =>
      refine e.todas hp _ fun v => ?_
      split
      · exact ⟨id, fun _ => trivial⟩
      · exact trivial
  | signal i => exact ⟨id, fun _ => trivial⟩
  | wait i => exact absurd rfl (hwait i)
  | io d n => exact absurd rfl (hio d n)
  | llamar f args => exact todas_valores hp args _ fun vs => ⟨id, fun _ => hparametros vs⟩
  | llamarCon x f args =>
      exact todas_valores hp args _ fun vs => ⟨id, fun _ => ⟨id, fun _ => hparametros vs⟩⟩

/-! ### The end of a burst -/

/-- The PCB that the kernel gets with a message. -/
def pcbEntregado : MensajeCpu → Option Pcb
  | .notificarPorFinRafaga pcb => some pcb
  | .waitKernel _ pcb => some pcb
  | .entradaSalidaKernel _ _ pcb => some pcb
  | _ => none

/-- The burst goes on, the program has ended, or the last message has taken its PCB to the
kernel. -/
def Guion.Entrega (P : Guion κ) (e : Ejecucion κ) : Prop :=
  e.rafaga = .notificarPorFinRafaga ∨ e.rafaga = .notificarPorFinPrograma ∨
    ∃ mensaje respuesta, e.enviados.getLast? = some (mensaje, respuesta) ∧
      pcbEntregado mensaje = some (P.pcbDe e)

theorem rafaga_consultar {K : Nucleo κ} {mensaje : MensajeCpu} {respuesta : MensajeKernel}
    (h : e.consultar K mensaje = (respuesta, e')) : e'.rafaga = e.rafaga :=
  congrArg (fun r => r.2.rafaga) h.symm

/-- The other primitives leave the burst as it is, or end the program. -/
theorem rafaga_primitiva {a : Primitiva} {v : U32} (h : P.primitiva e a = some (v, e'))
    (ha : ¬Bloquea a) : e'.rafaga = e.rafaga ∨ e'.rafaga = .notificarPorFinPrograma := by
  cases a with
  | definirVariable x =>
      rw [Guion.primitiva, Option.ite_none_right_eq_some] at h
      obtain ⟨-, h⟩ := h
      cases h
      exact Or.inl rfl
  | obtenerPosicionVariable x =>
      obtain ⟨i, -, h⟩ := Option.map_eq_some_iff.1 h
      cases h
      exact Or.inl rfl
  | dereferenciar d =>
      obtain ⟨i, -, h⟩ := Option.map_eq_some_iff.1 h
      cases h
      exact Or.inl rfl
  | asignar d w =>
      obtain ⟨i, -, h⟩ := Option.map_eq_some_iff.1 h
      cases h
      exact Or.inl rfl
  | irAlLabel l =>
      cases h
      exact Or.inl rfl
  | llamarSinRetorno f =>
      obtain ⟨e₁, hllamada, h⟩ := Option.map_eq_some_iff.1 h
      cases h
      rw [Guion.llamada, Option.ite_none_right_eq_some] at hllamada
      obtain ⟨-, hllamada⟩ := hllamada
      cases hllamada
      exact Or.inl rfl
  | llamarConRetorno f d =>
      obtain ⟨w, -, h⟩ := Option.bind_eq_some_iff.1 h
      obtain ⟨e₁, hllamada, h⟩ := Option.map_eq_some_iff.1 h
      cases h
      rw [Guion.llamada, Option.ite_none_right_eq_some] at hllamada
      obtain ⟨-, hllamada⟩ := hllamada
      cases hllamada
      exact Or.inl rfl
  | finalizar =>
      obtain ⟨e₁, hfin, h⟩ := Option.map_eq_some_iff.1 h
      cases h
      rw [Guion.fin] at hfin
      split at hfin
      · cases hfin
        exact Or.inr rfl
      · cases hfin
        exact Or.inl rfl
      · cases hfin
  | retornar w =>
      obtain ⟨e₁, hret, h⟩ := Option.map_eq_some_iff.1 h
      cases h
      rw [Guion.retorno] at hret
      split at hret
      · cases hret
        exact Or.inl rfl
      · cases hret
  | obtenerValorCompartida g =>
      rw [Guion.primitiva] at h
      split at h
      · next heq =>
          cases h
          exact Or.inl (rafaga_consultar heq)
      · cases h
        exact Or.inr rfl
  | asignarValorCompartida g w =>
      rw [Guion.primitiva] at h
      split at h
      · next heq =>
          cases h
          exact Or.inl (rafaga_consultar heq)
      · cases h
        exact Or.inr rfl
  | imprimir w =>
      rw [Guion.primitiva] at h
      split at h
      · cases h
        exact Or.inl rfl
      · split at h
        · next heq =>
            cases h
            exact Or.inl (rafaga_consultar heq)
        · cases h
          exact Or.inr rfl
  | imprimirTexto t =>
      rw [Guion.primitiva] at h
      split at h
      · next heq =>
          cases h
          exact Or.inl (rafaga_consultar heq)
      · cases h
        exact Or.inr rfl
  | entrarSalida d t => exact absurd trivial ha
  | waitAnsisop i => exact absurd trivial ha
  | signalAnsisop i =>
      rw [Guion.primitiva] at h
      split at h
      · cases h
        exact Or.inr rfl
      · next heq =>
          cases h
          exact Or.inl (rafaga_consultar heq)

theorem rafaga_interpretar {linea : Linea} (hlinea : Todas (fun a => ¬Bloquea a) linea)
    (h : P.interpretar linea e = some e') :
    e'.rafaga = e.rafaga ∨ e'.rafaga = .notificarPorFinPrograma := by
  induction linea generalizing e with
  | fin =>
      obtain rfl := Option.some_inj.1 h
      exact Or.inl rfl
  | indefinida => cases h
  | llamar a resto ih =>
      obtain ⟨⟨v, e₁⟩, hprim, h⟩ := Option.bind_eq_some_iff.1 h
      rcases ih v (hlinea.2 v) h with heq | heq
      · rw [heq]
        exact rafaga_primitiva hprim hlinea.1
      · exact Or.inr heq

/-- **A statement that gives up the CPU sends the PCB that goes on.** -/
theorem entrega_paso (he : e.rafaga = .notificarPorFinRafaga) (h : P.paso orden e = some e') :
    P.Entrega e' := by
  obtain ⟨s, -, h⟩ := Option.bind_eq_some_iff.1 h
  by_cases hwait : ∃ i, s = .wait i
  · obtain ⟨i, rfl⟩ := hwait
    obtain ⟨⟨v, e₁⟩, hprim, h⟩ := Option.bind_eq_some_iff.1 h
    obtain rfl := Option.some_inj.1 h
    rw [Guion.primitiva] at hprim
    split at hprim
    · next heq =>
        cases hprim
        exact Or.inl ((rafaga_consultar heq).trans he)
    · next r e₂ _ heq =>
        cases hprim
        obtain rfl := congrArg Prod.snd heq
        exact Or.inr (Or.inr ⟨_, _, List.getLast?_concat, rfl⟩)
  · by_cases hio : ∃ d n, s = .io d n
    · obtain ⟨d, n, rfl⟩ := hio
      obtain ⟨⟨v, e₁⟩, hprim, h⟩ := Option.bind_eq_some_iff.1 h
      obtain rfl := Option.some_inj.1 h
      cases hprim
      exact Or.inr (Or.inr ⟨_, _, List.getLast?_concat, rfl⟩)
    · have hsin : Todas (fun a => ¬Bloquea a) (s.linea orden) :=
        s.sinBloqueo (fun i hi => hwait ⟨i, hi⟩) fun d n hn => hio ⟨d, n, hn⟩
      rcases rafaga_interpretar hsin h with heq | heq
      · exact Or.inl (heq.trans he)
      · exact Or.inr (Or.inl heq)

/-! ### Statements and turns of the others -/

/-- **What happens to a program**: its statements, while it has the CPU, and the turns of the
others, after which the kernel is in any state. -/
inductive Guion.Vive (P : Guion κ) (orden : Orden) : Ejecucion κ → Ejecucion κ → Prop
  | sentencia {e e' : Ejecucion κ} : e.rafaga = .notificarPorFinRafaga → P.paso orden e = some e' →
      Vive P orden e e'
  | turno {e : Ejecucion κ} (resto : κ) : e.rafaga ≠ .notificarPorFinPrograma →
      Vive P orden e { e.alComenzar with resto }

/-- **A program that is never without meaning**: whatever the kernel answers and whenever the others
have their turn, its next statement means something. -/
def Guion.Segura (P : Guion κ) (orden : Orden) (e₀ : Ejecucion κ) : Prop :=
  ∀ e, ReflTransGen (P.Vive orden) e₀ e → e.rafaga = .notificarPorFinRafaga →
    (P.paso orden e).isSome

/-- The bursts of a safe program have a meaning, which is some of its statements. -/
theorem vive_rafaga (hsegura : P.Segura orden e₀) (n : ℕ) (he : ReflTransGen (P.Vive orden) e₀ e)
    (hentrega : P.Entrega e) :
    ∃ e', P.rafaga orden n e = some e' ∧ ReflTransGen (P.Vive orden) e₀ e' ∧ P.Entrega e' := by
  induction n generalizing e with
  | zero => exact ⟨e, rfl, he, hentrega⟩
  | succ n ih =>
      by_cases hsigue : e.rafaga = .notificarPorFinRafaga
      · obtain ⟨e₁, hpaso⟩ := Option.isSome_iff_exists.1 (hsegura e he hsigue)
        obtain ⟨e', hrafaga, hvive, hentrega'⟩ :=
          ih (he.tail (.sentencia hsigue hpaso)) (entrega_paso hsigue hpaso)
        refine ⟨e', ?_, hvive, hentrega'⟩
        rw [Guion.rafaga, if_pos hsigue, hpaso]
        exact hrafaga
      · exact ⟨e, if_neg hsigue, he, hentrega⟩

/-! ### From a CPU to the next one -/

/-- **A CPU that gets the PCB after another one**: the bytes of the stack are as the first one left
them. -/
structure Espera (S : Servicio E P.nucleo P.pcb.segmentoStack) (m m₂ : Maquina σ) : Prop where
  vale : S.vale (E.cambioProcesoActivo m₂.entorno P.pcb.pid)
  pila : S.pila (E.cambioProcesoActivo m₂.entorno P.pcb.pid) = S.bytes m
  diccionario : 0 < m₂.estado.diccionarioVariables.maxSize

/-- **From a CPU that gets a PCB to the next one**, which gets the PCB that the first one has sent
last, and its memory in some way. -/
def Turno (E : Entorno σ) (orden : Orden) (pasa : Maquina σ → Maquina σ → Prop)
    (x y : Maquina σ × Pcb) : Prop :=
  ∃ m' mensaje respuesta, ciclo E orden x.2 x.1 = some m' ∧
    m'.enviados.getLast? = some (mensaje, respuesta) ∧ pcbEntregado mensaje = some y.2 ∧ pasa m' y.1

theorem contextos_notificar (e : Ejecucion κ) : (P.notificar e).contextos = e.contextos := by
  rw [Guion.notificar]
  split <;> rfl

/-- The next CPU gets the program as the first one left it. -/
theorem recibe_de_espera (h : Representa S m (P.notificar e)) (hm : Espera S m m₂) :
    Recibe S m₂ { e.alComenzar with
      resto := S.resto (E.cambioProcesoActivo m₂.entorno P.pcb.pid) } := by
  have hvalores := h.valores
  have hcabeceras := h.pila.cabeceras
  have htope := h.tope_le
  rw [contextos_notificar] at hvalores hcabeceras htope
  exact {
    vale := hm.vale
    valores := by
      rw [hm.pila]
      exact hvalores
    cabeceras := by
      rw [hm.pila]
      exact hcabeceras
    largo := by
      rw [hm.pila]
      exact h.largo
    tope := htope
    tamanio := by
      rw [← h.largo]
      exact h.pila.tamanio
    resto := rfl
    diccionario := hm.diccionario }

/-- What the kernel gets last is the PCB that goes on, unless the program has ended. -/
theorem pcb_notificar (h : P.Entrega e) {mensaje : MensajeCpu} {respuesta : Option MensajeKernel}
    (hlast : (P.notificar e).enviados.getLast? = some (mensaje, respuesta)) {pcb : Pcb}
    (hpcb : pcbEntregado mensaje = some pcb) :
    pcb = P.pcbDe e ∧ e.rafaga ≠ .notificarPorFinPrograma := by
  rw [Guion.notificar] at hlast
  cases hrafaga : e.rafaga with
  | notificarPorFinRafaga =>
      rw [hrafaga] at hlast
      obtain ⟨rfl, rfl⟩ :=
        Prod.mk.injEq .. ▸ Option.some_inj.1 (List.getLast?_concat.symm.trans hlast)
      exact ⟨(Option.some_inj.1 hpcb).symm, by simp⟩
  | notificarPorFinPrograma =>
      rw [hrafaga] at hlast
      obtain ⟨rfl, rfl⟩ :=
        Prod.mk.injEq .. ▸ Option.some_inj.1 (List.getLast?_concat.symm.trans hlast)
      cases hpcb
  | _ =>
      simp only [hrafaga] at hlast
      rw [Guion.Entrega, hrafaga] at h
      obtain ⟨mensaje', respuesta', hlast', hpcb'⟩ :=
        (h.resolve_left (by simp)).resolve_left (by simp)
      obtain ⟨rfl, rfl⟩ := Prod.mk.injEq .. ▸ Option.some_inj.1 (hlast'.symm.trans hlast)
      exact ⟨Option.some_inj.1 (hpcb.symm.trans hpcb'), by simp⟩

/-- A burst of a safe program, in a CPU that gets its PCB. -/
theorem representa_de_recibe (hcod : Codigo S orden) (hsegura : P.Segura orden e₀)
    (h : Recibe S m e) (hvive : ReflTransGen (P.Vive orden) e₀ e.alComenzar) :
    ∃ m' e', ciclo E orden (P.pcbDe e) m = some m' ∧ m'.errores = m.errores ∧
      ReflTransGen (P.Vive orden) e₀ e' ∧ P.Entrega e' ∧ Representa S m' (P.notificar e') := by
  obtain ⟨e', hrafaga, hvive', hentrega⟩ :=
    vive_rafaga hsegura m.estado.quantumDeEjecucion.toNat hvive (Or.inl rfl)
  obtain ⟨m', hciclo, hrep, herr⟩ := representa_ciclo hcod h hrafaga
  exact ⟨m', e', hciclo, herr, hvive', hentrega, hrep⟩

variable {pasa : Maquina σ → Maquina σ → Prop}

/-- After any turns, the PCB and the bytes of the stack are those of the program at some moment of
its life. -/
theorem recibe_turnos (hcod : Codigo S orden) (hsegura : P.Segura orden e₀.alComenzar)
    (hpasa : ∀ m e m₂, Representa S m e → pasa m m₂ → Espera S m m₂) (h₀ : Recibe S m e₀)
    {y : Maquina σ × Pcb} (hrun : ReflTransGen (Turno E orden pasa) (m, P.pcbDe e₀) y) :
    ∃ e, ReflTransGen (P.Vive orden) e₀.alComenzar e.alComenzar ∧ y.2 = P.pcbDe e ∧
    Recibe S y.1 e := by
  induction hrun with
  | refl => exact ⟨e₀, .refl, rfl, h₀⟩
  | @tail x z _ hturno ih =>
      obtain ⟨e, hvive, hpcb, hrecibe⟩ := ih
      obtain ⟨m₁, mensaje, respuesta, hciclo, hlast, hmensaje, hpasado⟩ := hturno
      obtain ⟨m', e', hciclo', -, hvive', hentrega, hrep⟩ :=
        representa_de_recibe hcod hsegura hrecibe hvive
      rw [← hpcb, hciclo] at hciclo'
      obtain rfl := Option.some_inj.1 hciclo'
      have hespera := hpasa _ _ _ hrep hpasado
      rw [hrep.enviados] at hlast
      obtain ⟨hz, hno⟩ := pcb_notificar hentrega hlast hmensaje
      exact ⟨{ e'.alComenzar with resto := S.resto (E.cambioProcesoActivo z.1.entorno P.pcb.pid) },
        hvive'.tail (.turno _ hno), hz, recibe_de_espera hrep hespera⟩

/-- **In any CPUs, a safe program does what it means.**  Whatever CPUs get its PCB, one after the
other, and whatever their quantum, each burst ends, without errors of the UMV, in a moment of the
life of the program; and it says to the kernel what the program says. -/
theorem vive_turnos (hcod : Codigo S orden) (hsegura : P.Segura orden e₀.alComenzar)
    (hpasa : ∀ m e m₂, Representa S m e → pasa m m₂ → Espera S m m₂) {m₀ : Maquina σ} {pcb : Pcb}
    (h₀ : Recibe S m₀ e₀) (hrun : ReflTransGen (Turno E orden pasa) (m₀, P.pcbDe e₀) (m, pcb)) :
    ∃ m' e', ciclo E orden pcb m = some m' ∧ m'.errores = m.errores ∧
      ReflTransGen (P.Vive orden) e₀.alComenzar e' ∧ Representa S m' (P.notificar e') := by
  obtain ⟨e, hvive, hpcb, hrecibe⟩ := recibe_turnos hcod hsegura hpasa h₀ hrun
  obtain ⟨m', e', hciclo, herr, hvive', -, hrep⟩ := representa_de_recibe hcod hsegura hrecibe hvive
  rw [← hpcb] at hciclo
  exact ⟨m', e', hciclo, herr, hvive', hrep⟩

end Ansisop.Lenguaje
