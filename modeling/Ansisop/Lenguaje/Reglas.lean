/-
**Reasoning about the statements of AnSISOP.**

Between two turns of a program the kernel changes, and its contexts and its program counter do not.
A silent statement changes only these, so where a program leads to does not depend on when the
others have their turn.  This module has a rule for each statement; the variables of the current
context are looked up and written by name.

Main definitions:

* `Ansisop.Lenguaje.Contextos.valorDe`, `Ansisop.Lenguaje.Contextos.conValor` — the variables, by
  name;
* `Ansisop.Lenguaje.Guion.programa`, `Ansisop.Lenguaje.Calla` — the statements of a program among
  the turns of the others, and those that say nothing to the kernel.

Main results:

* `Ansisop.Lenguaje.lleva_definir`, `Ansisop.Lenguaje.lleva_asignar`, `Ansisop.Lenguaje.lleva_jnz`,
  `Ansisop.Lenguaje.lleva_llamarCon`, `Ansisop.Lenguaje.lleva_retornar` and the others — **the
  rules**;
* `Ansisop.Lenguaje.next_of_vive` — a life of a program is one of those that the rules are about.
-/

import Ansisop.Lenguaje.Evaluacion
import Ansisop.Lenguaje.Vida
import Ansisop.Lib.LeadsTo

set_option relaxedAutoImplicit false
set_option autoImplicit false

namespace Ansisop.Lenguaje

open Cpu (Linea Orden ambos tamanioCabecera definirParametros)
open LeadsTo (Leads)
open Relation (ReflTransGen)

/-! ### Variables by name -/

/-- The first variable with a name has another value. -/
def asigna (x : Byte) (v : U32) : List (Byte × U32) → List (Byte × U32)
  | [] => []
  | (y, w) :: vars => if y = x then (y, v) :: vars else (y, w) :: asigna x v vars

namespace Contextos

/-- The value of a variable of the current context. -/
def valorDe (c : Contextos) (x : Byte) : Option U32 := (c.vars.find? fun y => y.1 == x).map Prod.snd

/-- Another value for a variable of the current context. -/
def conValor (c : Contextos) (x : Byte) (v : U32) : Contextos := c.conVars (asigna x v c.vars)

/-- More variables in the current context. -/
def conNuevas (c : Contextos) (nuevas : List (Byte × U32)) : Contextos :=
  c.conVars (c.vars ++ nuevas)

end Contextos

variable {c : Contextos} {x : Byte} {v w : U32} {i : ℕ}

@[simp] theorem vars_conVars (c : Contextos) (vars : List (Byte × U32)) :
    (c.conVars vars).vars = vars := by
  cases c <;> rfl

@[simp] theorem conVars_vars (c : Contextos) : c.conVars c.vars = c := by
  cases c <;> rfl

@[simp] theorem conVars_conVars (c : Contextos) (vars vars' : List (Byte × U32)) :
    (c.conVars vars).conVars vars' = c.conVars vars' := by
  cases c <;> rfl

@[simp] theorem inicio_conVars (c : Contextos) (vars : List (Byte × U32)) :
    (c.conVars vars).pila.inicio = c.pila.inicio := by
  cases c <;> rfl

theorem conNuevas_nil (c : Contextos) : c.conNuevas [] = c := by
  cases c <;> simp [Contextos.conNuevas, Contextos.conVars, Contextos.vars]

theorem conNuevas_cons (c : Contextos) (y : Byte × U32) (nuevas : List (Byte × U32)) :
    (c.definir y.1 y.2).conNuevas nuevas = c.conNuevas (y :: nuevas) := by
  simp [Contextos.conNuevas, Contextos.definir]

/-- The values of the current context are at its variables. -/
theorem leer_conVars {vars : List (Byte × U32)} {k : ℕ} {y : Byte × U32} (h : vars[k]? = some y) :
    (c.conVars vars).leer (c.pila.inicio + 5 * k + 1) = some y.2 := by
  have hvalor : valorEn vars (5 * k + 1) = some y.2 := valorEn_eq_some.2 ⟨k, y, rfl, h, rfl⟩
  cases c with
  | base vs =>
      rw [Contextos.conVars, Contextos.leer, Contextos.pila, Cpu.Pila.inicio, Nat.zero_add]
      exact hvalor
  | marco c pc donde vs =>
      rw [Contextos.conVars, Contextos.leer, Contextos.pila, Cpu.Pila.inicio, if_neg (by omega),
        Nat.add_assoc, Nat.add_sub_cancel_left]
      exact hvalor

theorem escribir_conVars (c : Contextos) (vars : List (Byte × U32)) (k : ℕ) (v : U32) :
    (c.conVars vars).escribir v (c.pila.inicio + 5 * k + 1) =
      c.conVars (vars.modify k fun y => (y.1, v)) := by
  have hasignada : asignadaEn vars v (5 * k + 1) = vars.modify k fun y => (y.1, v) := by
    rw [asignadaEn, celdaEn_valor]
  cases c with
  | base vs =>
      rw [Contextos.conVars, Contextos.escribir, Contextos.pila, Cpu.Pila.inicio, Nat.zero_add]
      exact congrArg Contextos.base hasignada
  | marco c pc donde vs =>
      rw [Contextos.conVars, Contextos.escribir, Contextos.pila, Cpu.Pila.inicio, if_neg (by omega),
        Nat.add_assoc, Nat.add_sub_cancel_left]
      exact congrArg (Contextos.marco c pc donde) hasignada

/-- Where a name is found. -/
theorem findIdx?_of_find? {vars : List (Byte × U32)} {y : Byte × U32}
    (h : (vars.find? fun y => y.1 == x) = some y) :
    ∃ k, vars.findIdx? (fun y => y.1 == x) = some k ∧ vars[k]? = some y ∧
      asigna x v vars = vars.modify k fun y => (y.1, v) := by
  induction vars with
  | nil => cases h
  | cons z vars ih =>
      rw [List.find?_cons] at h
      split at h
      · next hz =>
          obtain rfl := Option.some_inj.1 h
          refine ⟨0, by rw [List.findIdx?_cons, hz]; rfl, rfl, ?_⟩
          rw [asigna, if_pos (by simpa using hz)]
          rfl
      · next hz =>
          obtain ⟨k, hk, hget, hasigna⟩ := ih h
          refine ⟨k + 1, ?_, hget, ?_⟩
          · rw [List.findIdx?_cons, hz, hk]
            rfl
          · rw [asigna, if_neg (by simpa using hz), hasigna]
            rfl

/-- **A variable by its name is the value at its position.** -/
theorem posicion_of_valorDe (h : c.valorDe x = some w) (v : U32) :
    ∃ i, c.posicion x = some i ∧ i + 4 ≤ c.pila.tope ∧ c.leer i = some w ∧
      c.escribir v i = c.conValor x v := by
  obtain ⟨⟨y, w'⟩, hfind, rfl⟩ := Option.map_eq_some_iff.1 h
  obtain ⟨k, hk, hget, hasigna⟩ := findIdx?_of_find? (v := v) hfind
  have hpos : c.posicion x = some (c.pila.inicio + 5 * k + 1) := by
    rw [Contextos.posicion, hk, Option.map_some]
  have hleer : c.leer (c.pila.inicio + 5 * k + 1) = some w' := by
    have := leer_conVars (c := c) hget
    rwa [conVars_vars] at this
  have hescribir := escribir_conVars c c.vars k v
  rw [conVars_vars, ← hasigna] at hescribir
  exact ⟨_, hpos, (Contextos.leer_isSome_iff.1 (Option.isSome_iff_exists.2 ⟨_, hleer⟩)).lt,
    hleer, hescribir⟩

/-! ### The program among the others -/

variable {κ : Type*} {P : Guion κ} {orden : Orden} {pc d : U32}

/-- The statements of a program. -/
def Guion.programa (P : Guion κ) (orden : Orden) :
    LeadsTo.Program (Ejecucion κ) (Contextos × U32) where
  step := P.paso orden
  runs := fun e => e.rafaga = .notificarPorFinRafaga
  done := fun e => e.rafaga = .notificarPorFinPrograma
  view := fun e => (e.contextos, e.programCounter)
  not_done := fun e h h' => absurd (h.symm.trans h') (by simp)

/-- **A life of a program** is one of its statements among the turns of the others. -/
theorem next_of_vive {e e' : Ejecucion κ} (h : P.Vive orden e e') :
    (P.programa orden).Next e e' := by
  cases h with
  | sentencia hsigue hpaso => exact Or.inl ⟨hsigue, hpaso⟩
  | turno resto hno =>
      exact Or.inr ⟨hno, rfl, fun h => absurd h (by simp [Guion.programa, Ejecucion.alComenzar])⟩

/-- A statement that says nothing to the kernel, and after which the burst goes on. -/
def Calla (e e' : Ejecucion κ) : Prop := e'.rafaga = e.rafaga ∧ e'.enviados = e.enviados

/-- The place of an address of the stack. -/
theorem lugar_dir (h : i < 2 ^ 32) : P.lugar (P.dir i) = i := by
  rw [Guion.lugar, Guion.dir, BitVec.add_comm, BitVec.add_sub_cancel, BitVec.toNat_ofNat,
    Nat.mod_eq_of_lt h]

/-- The value of a variable. -/
theorem valor_variable {x : Nombre} (h : c.valorDe x.byte = some w) (htope : c.pila.tope < 2 ^ 32) :
    P.valor c (.atomo (.variable_ x)) = some w := by
  obtain ⟨i, hpos, hlt, hleer, -⟩ := posicion_of_valorDe h 0#32
  rw [Guion.valor, Guion.valorAtomo, hpos, Option.bind_some, lugar_dir (by omega), hleer]

theorem valor_mas {a b : Expr} (ha : P.valor c a = some v) (hb : P.valor c b = some w) :
    P.valor c (.mas a b) = some (v + w) := by
  rw [Guion.valor, ha, hb]
  rfl

theorem valor_menos {a b : Expr} (ha : P.valor c a = some v) (hb : P.valor c b = some w) :
    P.valor c (.menos a b) = some (v - w) := by
  rw [Guion.valor, ha, hb]
  rfl

theorem valor_deref {a : Expr} (ha : P.valor c a = some d) (hleer : c.leer (P.lugar d) = some v) :
    P.valor c (.deref a) = some v := by
  rw [Guion.valor, ha]
  exact hleer

/-! ### What the lines do -/

/-- The names of some variables are those of the first one and of the rest. -/
theorem exists_of_map_fst {x : Byte} {xs : List Byte} {nuevas : List (Byte × U32)}
    (h : nuevas.map Prod.fst = x :: xs) : ∃ v resto, nuevas = (x, v) :: resto ∧
    resto.map Prod.fst = xs := by
  obtain ⟨⟨y, v⟩, resto, rfl, hy, hresto⟩ := List.map_eq_cons_iff.1 h
  exact ⟨v, resto, by rw [← hy], hresto⟩

/-- The parameters of a call, with their values. -/
def parametros : ℕ → List U32 → List (Byte × U32)
  | _, [] => []
  | i, v :: vs => (BitVec.ofNat 8 (48 + i), v) :: parametros (i + 1) vs

@[simp] theorem length_parametros (i : ℕ) (vs : List U32) :
    (parametros i vs).length = vs.length := by
  induction vs generalizing i with
  | nil => rfl
  | cons v vs ih => rw [parametros, List.length_cons, List.length_cons, ih]

/-- A new variable is at the end of the current context. -/
theorem leer_definir (c : Contextos) (x : Byte) (w : U32) :
    (c.definir x w).leer (c.pila.tope + 1) = some w := by
  rw [Cpu.Pila.tope_eq, Contextos.celdas_pila]
  exact leer_conVars (y := (x, w)) List.getElem?_concat_length

theorem escribir_definir (c : Contextos) (x : Byte) (w v : U32) :
    (c.definir x w).escribir v (c.pila.tope + 1) = c.definir x v := by
  rw [Cpu.Pila.tope_eq, Contextos.celdas_pila, Contextos.definir, escribir_conVars,
    Contextos.definir]
  rw [List.modify_eq_take_cons_drop (by simp)]
  simp

theorem tope_definir (c : Contextos) (x : Byte) (w : U32) :
    (c.definir x w).pila.tope = c.pila.tope + 5 := by
  rw [Contextos.pila_definir, Cpu.Pila.tope_conCelda]

/-- What a line does in silence: other contexts. -/
def Silencio (P : Guion κ) (linea : Linea) (e : Ejecucion κ) (c : Contextos) : Prop :=
  ∃ e', P.interpretar linea e = some e' ∧ e'.contextos = c ∧ e'.programCounter = e.programCounter ∧
    Calla e e'

/-- The variables that are defined have any values. -/
theorem silencio_declarar (xs : List Letra) :
    ∀ e : Ejecucion κ, e.contextos.pila.tope + 5 * xs.length ≤ P.tamanioStack →
      ∃ nuevas : List (Byte × U32), nuevas.map Prod.fst = xs.map (fun x => (Nombre.letra x).byte) ∧
        Silencio P (declarar xs) e (e.contextos.conNuevas nuevas) := by
  induction xs with
  | nil =>
      intro e _
      exact ⟨[], rfl, e, rfl, (conNuevas_nil _).symm, rfl, rfl, rfl⟩
  | cons x xs ih =>
      intro e he
      rw [List.length_cons] at he
      obtain ⟨e₁, he₁⟩ : ∃ e₁, e₁ = (e.basura P.nucleo).2.conContextos
        (e.contextos.definir (Nombre.letra x).byte (e.basura P.nucleo).1) := ⟨_, rfl⟩
      have hprim : P.primitiva e (.definirVariable (Nombre.letra x).byte) =
          some (P.dir (e.contextos.pila.tope + 1), e₁) := by
        rw [Guion.primitiva, if_pos (by omega), he₁]
      have hlugar : e₁.contextos.pila.tope + 5 * xs.length ≤ P.tamanioStack := by
        rw [he₁]
        change (e.contextos.definir _ _).pila.tope + _ ≤ _
        rw [tope_definir]
        omega
      obtain ⟨nuevas, hnombres, e', hinterp, hcontextos, hpc, hcalla⟩ := ih e₁ hlugar
      refine ⟨((Nombre.letra x).byte, (e.basura P.nucleo).1) :: nuevas, ?_, e', ?_, ?_, ?_, ?_⟩
      · rw [List.map_cons, List.map_cons, hnombres]
      · rw [declarar, Guion.interpretar, hprim]
        exact hinterp
      · rw [hcontextos, he₁, ← conNuevas_cons]
        rfl
      · rw [hpc, he₁]
        rfl
      · rw [Calla, hcalla.1, hcalla.2, he₁]
        exact ⟨rfl, rfl⟩

/-- **The parameters of a call are defined, with their values.** -/
theorem silencio_parametros (hstack : P.tamanioStack < 2 ^ 32) (vs : List U32) :
    ∀ (i : ℕ) (e : Ejecucion κ), e.contextos.pila.tope + 5 * vs.length ≤ P.tamanioStack →
      Silencio P (definirParametros i vs) e (e.contextos.conNuevas (parametros i vs)) := by
  induction vs with
  | nil =>
      intro i e _
      exact ⟨e, rfl, (conNuevas_nil _).symm, rfl, rfl, rfl⟩
  | cons v vs ih =>
      intro i e he
      rw [List.length_cons] at he
      obtain ⟨x, hx⟩ : ∃ x : Byte, x = BitVec.ofNat 8 (48 + i) := ⟨_, rfl⟩
      obtain ⟨e₁, he₁⟩ : ∃ e₁, e₁ = (e.basura P.nucleo).2.conContextos
        (e.contextos.definir x (e.basura P.nucleo).1) := ⟨_, rfl⟩
      have hdef : P.primitiva e (.definirVariable x) =
          some (P.dir (e.contextos.pila.tope + 1), e₁) := by
        rw [Guion.primitiva, if_pos (by omega), he₁]
      have hcontextos₁ : e₁.contextos = e.contextos.definir x (e.basura P.nucleo).1 := by
        rw [he₁]
        rfl
      have hasig : P.primitiva e₁ (.asignar (P.dir (e.contextos.pila.tope + 1)) v) =
          some (0#32, e₁.conContextos (e.contextos.definir x v)) := by
        rw [Guion.primitiva, lugar_dir (by omega), hcontextos₁, leer_definir, Option.map_some,
          escribir_definir]
      have hlugar :
          (e₁.conContextos (e.contextos.definir x v)).contextos.pila.tope + 5 * vs.length ≤
          P.tamanioStack := by
        change (e.contextos.definir x v).pila.tope + _ ≤ _
        rw [tope_definir]
        omega
      obtain ⟨e', hinterp, hcontextos, hpc, hcalla⟩ := ih (i + 1) _ hlugar
      refine ⟨e', ?_, ?_, ?_, ?_⟩
      · rw [definirParametros, ← hx, Guion.interpretar, hdef, Option.bind_some,
          Guion.interpretar, hasig]
        exact hinterp
      · rw [hcontextos, parametros, ← hx, ← conNuevas_cons]
        rfl
      · rw [hpc, he₁]
        rfl
      · rw [Calla, hcalla.1, hcalla.2, he₁]
        exact ⟨rfl, rfl⟩

/-- The expressions have these values. -/
def Valen (P : Guion κ) (c : Contextos) (es : List Expr) (vs : List U32) : Prop :=
  List.Forall₂ (fun e v => SinCompartidas e ∧ P.valor c e = some v) es vs

theorem interpretar_valores {es : List Expr} {vs : List U32} {e : Ejecucion κ}
    (h : Valen P e.contextos es vs) (k : List U32 → Linea) :
    P.interpretar (valores orden es k) e = P.interpretar (k vs) e := by
  induction h generalizing k with
  | nil => rfl
  | cons h _ ih =>
      rw [valores, interpretar_expr h.1, h.2]
      exact ih _

theorem llamada_of_le {e : Ejecucion κ} {donde : Option TPuntero} {f : Texto}
    (h : e.contextos.pila.tope + tamanioCabecera donde ≤ P.tamanioStack) :
    P.llamada e f donde =
    some ((e.conContextos (.marco e.contextos e.programCounter donde [])).conContador
      (P.etiqueta f)) :=
  if_pos h

/-- The end of a context, with a result and without one. -/
theorem retorno_marco {e : Ejecucion κ} {c : Contextos} {pc : U32}
    {vars : List (Byte × U32)} (v : U32) (h : e.contextos = .marco c pc (some d) vars) :
    P.retorno v e = some ((e.conContextos (c.escribir v (P.lugar d))).conContador pc) := by
  rw [Guion.retorno, h]

theorem fin_marco {e : Ejecucion κ} {c : Contextos} {pc : U32} {vars : List (Byte × U32)}
    (h : e.contextos = .marco c pc none vars) :
    Guion.fin e = some ((e.conContextos c).conContador pc) := by
  rw [Guion.fin, h]

/-! ### The rules -/

variable {R : Ejecucion κ → Ejecucion κ → Prop} {B : Contextos × U32 → Prop} {s : Sentencia}
  {c' : Contextos}

/-- **A statement leads where its line does.** -/
theorem lleva_de (hs : P.sentencia pc = some s)
    (h : ∀ e : Ejecucion κ, e.contextos = c → ∃ e',
      P.interpretar (s.linea orden) (e.conContador (pc + 1#32)) = some e' ∧ R e e' ∧
        (e'.rafaga = .notificarPorFinPrograma ∨
          Leads (P.programa orden) R B (e'.contextos, e'.programCounter))) :
    Leads (P.programa orden) R B (c, pc) := by
  refine .of_step fun e he hsigue => ?_
  obtain ⟨hc, hpc⟩ := Prod.mk.inj he
  obtain ⟨e', hinterp, hR, hlleva⟩ := h e hc
  refine ⟨e', ?_, hR, hlleva⟩
  change P.paso orden e = some e'
  rw [Guion.paso, hpc, hs]
  exact hinterp

/-- A statement that is silent, and leads to other contexts and another instruction. -/
theorem lleva_callada (hR : ∀ e e' : Ejecucion κ, Calla e e' → R e e')
    (hs : P.sentencia pc = some s) {pc' : U32} (h : ∀ e : Ejecucion κ, e.contextos = c →
      P.interpretar (s.linea orden) (e.conContador (pc + 1#32)) = some
      ((e.conContextos c').conContador pc'))
    (hlleva : Leads (P.programa orden) R B (c', pc')) : Leads (P.programa orden) R B (c, pc) :=
  lleva_de hs fun e he => ⟨_, h e he, hR _ _ ⟨rfl, rfl⟩, Or.inr hlleva⟩

section Reglas

variable (hR : ∀ e e' : Ejecucion κ, Calla e e' → R e e')
include hR

/-- `variables x, y, z`: they have any values. -/
theorem lleva_definir {xs : List Letra} (hs : P.sentencia pc = some (.definir xs))
    (hlugar : c.pila.tope + 5 * xs.length ≤ P.tamanioStack)
    (hlleva : ∀ nuevas : List (Byte × U32), nuevas.map Prod.fst =
      xs.map (fun x => (Nombre.letra x).byte) →
      Leads (P.programa orden) R B (c.conNuevas nuevas, pc + 1#32)) :
    Leads (P.programa orden) R B (c, pc) := by
  refine lleva_de hs fun e he => ?_
  subst he
  obtain ⟨nuevas, hnombres, e', hinterp, hcontextos, hpc, hcalla⟩ :=
    silencio_declarar (P := P) xs (e.conContador (pc + 1#32)) hlugar
  refine ⟨e', hinterp, hR _ _ hcalla, Or.inr ?_⟩
  rw [hcontextos, hpc]
  exact hlleva nuevas hnombres

/-- `x = e`. -/
theorem lleva_asignar {x : Nombre} {ex : Expr} (hs : P.sentencia pc = some (.asignar x ex))
    (hsin : SinCompartidas ex) (hv : P.valor c ex = some v) (hx : c.valorDe x.byte = some w)
    (htope : c.pila.tope < 2 ^ 32)
    (hlleva : Leads (P.programa orden) R B (c.conValor x.byte v, pc + 1#32)) :
    Leads (P.programa orden) R B (c, pc) := by
  obtain ⟨i, hpos, hlt, hleer, hescribir⟩ := posicion_of_valorDe hx v
  refine lleva_callada hR hs (fun e he => ?_) hlleva
  subst he
  rw [Sentencia.linea, interpretar_ambos (x := some (P.dir i)) (y := some v)]
  · change (P.primitiva (e.conContador (pc + 1#32)) (.asignar (P.dir i) v)).bind _ = _
    rw [Guion.primitiva, lugar_dir (by omega)]
    change ((e.contextos.leer i).map _).bind _ = _
    rw [hleer, ← hescribir]
    rfl
  · intro k
    change ((e.contextos.posicion x.byte).map _).bind _ = _
    rw [hpos]
    rfl
  · intro k
    rw [interpretar_expr hsin]
    exact congrArg (Option.bind · _) hv

/-- `*p = e`. -/
theorem lleva_asignarEn {p ex : Expr} (hs : P.sentencia pc = some (.asignarEn p ex))
    (hp : SinCompartidas p) (hsin : SinCompartidas ex) (hd : P.valor c p = some d)
    (hv : P.valor c ex = some v) (hleer : c.leer (P.lugar d) = some w)
    (hlleva : Leads (P.programa orden) R B (c.escribir v (P.lugar d), pc + 1#32)) :
    Leads (P.programa orden) R B (c, pc) := by
  refine lleva_callada hR hs (fun e he => ?_) hlleva
  subst he
  rw [Sentencia.linea, interpretar_ambos (x := some d) (y := some v)]
  · change ((e.contextos.leer (P.lugar d)).map _).bind _ = _
    rw [hleer]
    rfl
  · intro k
    rw [interpretar_expr hp]
    exact congrArg (Option.bind · _) hd
  · intro k
    rw [interpretar_expr hsin]
    exact congrArg (Option.bind · _) hv

/-- `goto l`. -/
theorem lleva_goto {l : Palabra} (hs : P.sentencia pc = some (.goto l))
    (hlleva : Leads (P.programa orden) R B (c, P.etiqueta l.texto)) :
    Leads (P.programa orden) R B (c, pc) := by
  refine lleva_callada hR hs (fun e he => ?_) hlleva
  subst he
  rfl

/-- `jnz e l`. -/
theorem lleva_jnz {ex : Expr} {l : Palabra} (hs : P.sentencia pc = some (.jnz ex l))
    (hsin : SinCompartidas ex) (hv : P.valor c ex = some v)
    (hsalta : v ≠ 0#32 → Leads (P.programa orden) R B (c, P.etiqueta l.texto))
    (hsigue : v = 0#32 → Leads (P.programa orden) R B (c, pc + 1#32)) :
    Leads (P.programa orden) R B (c, pc) := by
  have hinterp (e : Ejecucion κ) (he : e.contextos = c) :
      P.interpretar ((Sentencia.jnz ex l).linea orden) (e.conContador (pc + 1#32)) =
        P.interpretar (if v != 0#32 then .llamar (.irAlLabel l.texto) fun _ => .fin else .fin)
          (e.conContador (pc + 1#32)) := by
    subst he
    rw [Sentencia.linea, interpretar_expr hsin]
    exact congrArg (Option.bind · _) hv
  by_cases hcero : v = 0#32
  · refine lleva_callada hR hs (fun e he => ?_) (hsigue hcero)
    rw [hinterp e he, hcero, ← he]
    rfl
  · refine lleva_callada hR hs (fun e he => ?_) (hsalta hcero)
    rw [hinterp e he, if_pos (bne_iff_ne.2 hcero), ← he]
    rfl

/-- `jz e l`. -/
theorem lleva_jz {ex : Expr} {l : Palabra} (hs : P.sentencia pc = some (.jz ex l))
    (hsin : SinCompartidas ex) (hv : P.valor c ex = some v)
    (hsalta : v = 0#32 → Leads (P.programa orden) R B (c, P.etiqueta l.texto))
    (hsigue : v ≠ 0#32 → Leads (P.programa orden) R B (c, pc + 1#32)) :
    Leads (P.programa orden) R B (c, pc) := by
  have hinterp (e : Ejecucion κ) (he : e.contextos = c) :
      P.interpretar ((Sentencia.jz ex l).linea orden) (e.conContador (pc + 1#32)) =
        P.interpretar (if v == 0#32 then .llamar (.irAlLabel l.texto) fun _ => .fin else .fin)
          (e.conContador (pc + 1#32)) := by
    subst he
    rw [Sentencia.linea, interpretar_expr hsin]
    exact congrArg (Option.bind · _) hv
  by_cases hcero : v = 0#32
  · refine lleva_callada hR hs (fun e he => ?_) (hsalta hcero)
    rw [hinterp e he, hcero, ← he]
    rfl
  · refine lleva_callada hR hs (fun e he => ?_) (hsigue hcero)
    rw [hinterp e he, if_neg (fun h => hcero (beq_iff_eq.1 h)), ← he]
    rfl

/-- `return e`. -/
theorem lleva_retornar {ex : Expr} {pc' : U32} {vars : List (Byte × U32)}
    (hs : P.sentencia pc = some (.retornar ex)) (hsin : SinCompartidas ex)
    (hv : P.valor (.marco c pc' (some d) vars) ex = some v)
    (hlleva : Leads (P.programa orden) R B (c.escribir v (P.lugar d), pc')) :
    Leads (P.programa orden) R B (.marco c pc' (some d) vars, pc) := by
  refine lleva_callada hR hs (fun e he => ?_) hlleva
  rw [Sentencia.linea, interpretar_expr hsin]
  change (P.valor e.contextos ex).bind _ = _
  rw [he, hv]
  change ((P.retorno v (e.conContador (pc + 1#32))).map _).bind _ = _
  rw [retorno_marco (e := e.conContador (pc + 1#32)) v he]
  rfl

/-- `end`, in a context without a result. -/
theorem lleva_fin {pc' : U32} {vars : List (Byte × U32)} (hs : P.sentencia pc = some .fin)
    (hlleva : Leads (P.programa orden) R B (c, pc')) :
    Leads (P.programa orden) R B (.marco c pc' none vars, pc) := by
  refine lleva_callada hR hs (fun e he => ?_) hlleva
  change ((Guion.fin (e.conContador (pc + 1#32))).map _).bind _ = _
  rw [fin_marco (e := e.conContador (pc + 1#32)) he]
  rfl

/-- `f e, e'`: the body of a procedure, over its parameters. -/
theorem lleva_llamar {f : Palabra} {args : List Expr} {vs : List U32}
    (hs : P.sentencia pc = some (.llamar f args)) (hvs : Valen P c args vs)
    (hstack : P.tamanioStack < 2 ^ 32) (hlugar : c.pila.tope + 8 + 5 * vs.length ≤ P.tamanioStack)
    (hlleva : Leads (P.programa orden) R B
      (.marco c (pc + 1#32) none (parametros 0 vs), P.etiqueta f.texto)) :
    Leads (P.programa orden) R B (c, pc) := by
  refine lleva_de hs fun e he => ?_
  subst he
  obtain ⟨e', hinterp, hcontextos, hpc, hcalla⟩ := silencio_parametros hstack vs 0
    (((e.conContador (pc + 1#32)).conContextos (.marco e.contextos (pc + 1#32) none [])).conContador
      (P.etiqueta f.texto)) hlugar
  refine ⟨e', ?_, hR _ _ hcalla, Or.inr ?_⟩
  · rw [Sentencia.linea, interpretar_valores (e := e.conContador (pc + 1#32)) hvs]
    change ((P.llamada (e.conContador (pc + 1#32)) f.texto none).map _).bind _ = _
    rw [llamada_of_le (e := e.conContador (pc + 1#32)) (Nat.le_of_add_right_le hlugar)]
    exact hinterp
  · rw [hcontextos, hpc]
    exact hlleva

/-- `x <- f e, e'`: the body of a function, over its parameters, which is to return its result to
the variable. -/
theorem lleva_llamarCon {x : Nombre} {f : Palabra} {args : List Expr} {vs : List U32}
    (hs : P.sentencia pc = some (.llamarCon x f args)) (hvs : Valen P c args vs)
    (hx : c.valorDe x.byte = some w) (hstack : P.tamanioStack < 2 ^ 32)
    (hlugar : c.pila.tope + 12 + 5 * vs.length ≤ P.tamanioStack)
    (hlleva : ∀ d : U32, c.leer (P.lugar d) = some w →
      (∀ v, c.escribir v (P.lugar d) = c.conValor x.byte v) →
      Leads (P.programa orden) R B
        (.marco c (pc + 1#32) (some d) (parametros 0 vs), P.etiqueta f.texto)) :
    Leads (P.programa orden) R B (c, pc) := by
  refine lleva_de hs fun e he => ?_
  subst he
  obtain ⟨i, hpos, hlt, hleer, -⟩ := posicion_of_valorDe hx 0#32
  have hdir : P.lugar (P.dir i) = i := lugar_dir (by omega)
  obtain ⟨e', hinterp, hcontextos, hpc, hcalla⟩ := silencio_parametros hstack vs 0
    (((e.conContador (pc + 1#32)).conContextos
      (.marco e.contextos (pc + 1#32) (some (P.dir i)) [])).conContador (P.etiqueta f.texto)) hlugar
  refine ⟨e', ?_, hR _ _ hcalla, Or.inr ?_⟩
  · rw [Sentencia.linea, interpretar_valores (e := e.conContador (pc + 1#32)) hvs]
    change ((e.contextos.posicion x.byte).map _).bind _ = _
    rw [hpos]
    change ((e.contextos.leer (P.lugar (P.dir i))).bind _).bind _ = _
    rw [hdir, hleer]
    change ((P.llamada (e.conContador (pc + 1#32)) f.texto (some (P.dir i))).map _).bind _ = _
    rw [llamada_of_le (e := e.conContador (pc + 1#32)) (Nat.le_of_add_right_le hlugar)]
    exact hinterp
  · rw [hcontextos, hpc]
    refine hlleva (P.dir i) (hdir.symm ▸ hleer) fun v => ?_
    obtain ⟨i', hpos', -, -, hescribir⟩ := posicion_of_valorDe hx v
    obtain rfl := Option.some_inj.1 (hpos.symm.trans hpos')
    rw [hdir, hescribir]

end Reglas

/-! ### Functions -/

/-- **A function with a result**: from wherever it is called with these arguments, if there is room
for what it puts in the stack, it leads back to its caller, with the result where it was to be
returned. -/
def Funcion (P : Guion κ) (orden : Orden) (R : Ejecucion κ → Ejecucion κ → Prop) (f : Palabra)
    (args : List U32) (espacio : ℕ) (resultado : U32) : Prop :=
  ∀ (c : Contextos) (pc d w : U32), c.leer (P.lugar d) = some w →
    c.pila.tope + espacio ≤ P.tamanioStack →
    Leads (P.programa orden) R (· = (c.escribir resultado (P.lugar d), pc))
      (.marco c pc (some d) (parametros 0 args), P.etiqueta f.texto)

/-- **A call of a function** gives the variable its result. -/
theorem Funcion.lleva (hR : ∀ e e' : Ejecucion κ, Calla e e' → R e e') {x : Nombre} {f : Palabra}
    {args : List Expr} {vs : List U32} {espacio : ℕ} {resultado : U32}
    (hf : Funcion P orden R f vs espacio resultado)
    (hs : P.sentencia pc = some (.llamarCon x f args)) (hvs : Valen P c args vs)
    (hx : c.valorDe x.byte = some w) (hstack : P.tamanioStack < 2 ^ 32)
    (hespacio : 12 + 5 * vs.length ≤ espacio) (hlugar : c.pila.tope + espacio ≤ P.tamanioStack)
    (hlleva : Leads (P.programa orden) R B (c.conValor x.byte resultado, pc + 1#32)) :
    Leads (P.programa orden) R B (c, pc) := by
  refine lleva_llamarCon hR hs hvs hx hstack (by omega) fun d hleer hescribir => ?_
  refine (hf c (pc + 1#32) d w hleer hlugar).trans fun y hy => ?_
  rw [hy, hescribir]
  exact hlleva

/-- **A call that comes back**, to some contexts and an instruction, whatever the others do in their
turns: until then the program is never stuck, and if it has its turns it does come back. -/
def Guion.Vuelve (P : Guion κ) (orden : Orden) (e₀ : Ejecucion κ) (c : Contextos) (pc : U32) :
    Prop :=
  (∀ e, ReflTransGen (fun e e' => ¬(e.contextos, e.programCounter) = (c, pc) ∧
    P.Vive orden e e') e₀ e →
    ¬(e.contextos, e.programCounter) = (c, pc) → e.rafaga = .notificarPorFinRafaga →
      (P.paso orden e).isSome) ∧
  ∀ f : ℕ → Ejecucion κ, f 0 = e₀ → e₀.rafaga ≠ .notificarPorFinPrograma →
    (∀ n, (f n).rafaga = .notificarPorFinPrograma ∨ P.Vive orden (f n) (f (n + 1))) →
    (∀ n, ∃ m, n ≤ m ∧ ((f m).rafaga = .notificarPorFinPrograma ∨
      (f m).rafaga = .notificarPorFinRafaga ∧ P.paso orden (f m) = some (f (m + 1)))) →
    ∃ n, (f n).contextos = c ∧ (f n).programCounter = pc

/-- **What a silent program leads to, it comes back to.** -/
theorem vuelve_of_leads {e₀ : Ejecucion κ}
    (h : Leads (P.programa orden) Calla (· = (c, pc)) (e₀.contextos, e₀.programCounter)) :
    P.Vuelve orden e₀ c pc := by
  constructor
  · intro e hvida hno hsigue
    exact h.safe (ReflTransGen.mono (fun _ _ h => ⟨h.1, next_of_vive h.2⟩) _ _ hvida) hno hsigue
  · intro f h₀ hsigue hvive hturnos
    subst h₀
    obtain ⟨n, -, hn | ⟨hsigue, hcalla, hfin⟩⟩ := h.inevitable (S := P.programa orden) (f := f)
      (fun n => (hvive n).imp_right next_of_vive) hturnos hsigue
    · exact ⟨n, Prod.mk.inj hn⟩
    · exact absurd (hsigue.symm.trans (hcalla.1.symm.trans hfin)) (by simp)

end Ansisop.Lenguaje
