/-
**The value of an expression.**

Without shared variables an expression has a value in the contexts, and the order in which its
operands are evaluated makes no difference.  There are no parentheses, and the text is split at its
first `+` and then at its first `-`: a sum is added from the right, and so is a difference
subtracted.  This module says what comes of that.

Main definitions:

* `Ansisop.Lenguaje.Guion.valor` — **the value of an expression**;
* `Ansisop.Lenguaje.suma`, `Ansisop.Lenguaje.textoSuma` — an expression without parentheses, and its
  text;
* `Ansisop.Lenguaje.izquierda` — its value from left to right.

Main results:

* `Ansisop.Lenguaje.interpretar_expr` — **an expression without shared variables gives its value**,
  in any order;
* `Ansisop.Lenguaje.operarTexto_suma` — **a sum gives its value from left to right and twice the
  terms that are subtracted from a subtracted one**.
-/

import Ansisop.Lenguaje.Ejecucion
import Mathlib.Data.BitVec
import Mathlib.Tactic.Ring

set_option relaxedAutoImplicit false
set_option autoImplicit false

namespace Ansisop.Lenguaje

open Cpu (Linea Orden ambos atoi operarTexto)

variable {κ : Type*} {P : Guion κ} {c : Contextos} {orden : Orden}

/-! ### Values -/

/-- The value of an operand that is not a shared variable. -/
def Guion.valorAtomo (P : Guion κ) (c : Contextos) : Atomo → Option U32
  | .numero n => some (atoi n.texto)
  | .variable_ x => (c.posicion x.byte).bind fun i => c.leer (P.lugar (P.dir i))
  | .direccion x => (c.posicion x.byte).map P.dir
  | .compartida _ => none

/-- **The value of an expression** in the contexts, if it has one. -/
def Guion.valor (P : Guion κ) (c : Contextos) : Expr → Option U32
  | .atomo a => P.valorAtomo c a
  | .deref e => (P.valor c e).bind fun v => c.leer (P.lugar v)
  | .mas a b => (P.valor c a).bind fun x => (P.valor c b).map fun y => x + y
  | .menos a b => (P.valor c a).bind fun x => (P.valor c b).map fun y => x - y

/-- There are no shared variables in an expression. -/
def SinCompartidas : Expr → Prop
  | .atomo (.compartida _) => False
  | .atomo _ => True
  | .deref e => SinCompartidas e
  | .mas a b => SinCompartidas a ∧ SinCompartidas b
  | .menos a b => SinCompartidas a ∧ SinCompartidas b

/-- Two operands, in either order. -/
theorem interpretar_ambos {a b : (U32 → Linea) → Linea} {x y : Option U32} {e : Ejecucion κ}
    (ha : ∀ k, P.interpretar (a k) e = x.bind fun v => P.interpretar (k v) e)
    (hb : ∀ k, P.interpretar (b k) e = y.bind fun v => P.interpretar (k v) e)
    (primero : Bool) (k : U32 → U32 → Linea) :
    P.interpretar (ambos primero a b k) e =
      x.bind fun v => y.bind fun w => P.interpretar (k v w) e := by
  cases primero with
  | true =>
      refine (ha _).trans ?_
      simp only [hb]
  | false =>
      refine (hb _).trans ?_
      simp only [ha]
      cases x <;> cases y <;> rfl

/-- **An expression without shared variables gives its value**, in any order of evaluation, and
leaves the program as it is. -/
theorem interpretar_expr {x : Expr} (h : SinCompartidas x) (k : U32 → Linea) (e : Ejecucion κ) :
    P.interpretar (x.linea orden k) e =
      (P.valor e.contextos x).bind fun v => P.interpretar (k v) e := by
  induction x generalizing k with
  | atomo a =>
      cases a with
      | numero n => rfl
      | variable_ y =>
          change ((e.contextos.posicion y.byte).map fun i => (P.dir i, e)).bind _ =
            ((e.contextos.posicion y.byte).bind fun i =>
              e.contextos.leer (P.lugar (P.dir i))).bind _
          cases e.contextos.posicion y.byte with
          | none => rfl
          | some i =>
              change ((e.contextos.leer (P.lugar (P.dir i))).map fun v => (v, e)).bind _ =
                (e.contextos.leer (P.lugar (P.dir i))).bind _
              cases e.contextos.leer (P.lugar (P.dir i)) <;> rfl
      | direccion y =>
          change ((e.contextos.posicion y.byte).map fun i => (P.dir i, e)).bind _ =
            ((e.contextos.posicion y.byte).map P.dir).bind _
          cases e.contextos.posicion y.byte <;> rfl
      | compartida g => exact h.elim
  | deref x ih =>
      refine (ih h _).trans ?_
      change _ = ((P.valor e.contextos x).bind fun v => e.contextos.leer (P.lugar v)).bind _
      cases P.valor e.contextos x with
      | none => rfl
      | some v =>
          change ((e.contextos.leer (P.lugar v)).map fun w => (w, e)).bind _ =
            (e.contextos.leer (P.lugar v)).bind _
          cases e.contextos.leer (P.lugar v) <;> rfl
  | mas a b iha ihb =>
      refine (interpretar_ambos (iha h.1) (ihb h.2) _ _).trans ?_
      simp only [Guion.valor]
      cases P.valor e.contextos a <;> cases P.valor e.contextos b <;> rfl
  | menos a b iha ihb =>
      refine (interpretar_ambos (iha h.1) (ihb h.2) _ _).trans ?_
      simp only [Guion.valor]
      cases P.valor e.contextos a <;> cases P.valor e.contextos b <;> rfl

/-! ### Sums without parentheses -/

/-- An operand from which others are subtracted, as it is read. -/
def grupo : Atomo → List Atomo → Expr
  | a, [] => .atomo a
  | a, b :: bs => .menos (.atomo a) (grupo b bs)

/-- **A sum of groups**, as it is read: each group is an operand and those that are subtracted from
it. -/
def suma : Atomo × List Atomo → List (Atomo × List Atomo) → Expr
  | g, [] => grupo g.1 g.2
  | g, g' :: gs => .mas (grupo g.1 g.2) (suma g' gs)

/-- How a group is written. -/
def textoGrupo : Atomo → List Atomo → Texto
  | a, [] => a.texto
  | a, b :: bs => a.texto ++ '-' :: textoGrupo b bs

/-- **How a sum is written.** -/
def textoSuma : Atomo × List Atomo → List (Atomo × List Atomo) → Texto
  | g, [] => textoGrupo g.1 g.2
  | g, g' :: gs => textoGrupo g.1 g.2 ++ '+' :: textoSuma g' gs

theorem mas_textoGrupo (a : Atomo) (bs : List Atomo) : '+' ∉ textoGrupo a bs := by
  induction bs generalizing a with
  | nil => exact a.sinSignos.sin_mas
  | cons b bs ih =>
      rw [textoGrupo, List.mem_append, List.mem_cons, not_or, not_or]
      exact ⟨a.sinSignos.sin_mas, by decide, ih b⟩

theorem head?_append_texto (a : Atomo) (t : Texto) : (a.texto ++ t).head? ≠ some '*' := by
  obtain ⟨d, resto, heq, -⟩ := a.sinSignos.bordes.primero
  have := a.sinSignos.sin_asterisco
  rw [heq] at this ⊢
  exact this

theorem escribe_grupo (a : Atomo) (bs : List Atomo) : Escribe (grupo a bs) (textoGrupo a bs) := by
  induction bs generalizing a with
  | nil => exact .atomo a
  | cons b bs ih =>
      have ha := a.sinSignos
      exact .menos (.atomo a) (ih b) Blancos.nil Blancos.nil ha.sin_mas ha.sin_menos
        ha.sin_asterisco
        (mas_textoGrupo b bs)

/-- A sum is written so. -/
theorem escribe_suma (g : Atomo × List Atomo) (gs : List (Atomo × List Atomo)) :
    Escribe (suma g gs) (textoSuma g gs) := by
  induction gs generalizing g with
  | nil => exact escribe_grupo g.1 g.2
  | cons g' gs ih =>
      have hcab : (textoGrupo g.1 g.2).head? ≠ some '*' := by
        cases g.2 with
        | nil => exact g.1.sinSignos.sin_asterisco
        | cons b bs => exact head?_append_texto g.1 _
      exact .mas (escribe_grupo g.1 g.2) (ih g') Blancos.nil Blancos.nil
        (mas_textoGrupo g.1 g.2) hcab

/-! ### Their values -/

/-- The value of a group as it is read: each operand is subtracted from the one before it, from the
right. -/
def alternada : U32 → List U32 → U32
  | v, [] => v
  | v, w :: ws => v - alternada w ws

/-- Every second one of some values. -/
def segundos : List U32 → U32
  | [] => 0#32
  | [_] => 0#32
  | _ :: w :: ws => w + segundos ws

theorem foldl_sub (v : U32) (ws : List U32) : ws.foldl (fun acum w => acum - w) v = v - ws.sum := by
  induction ws generalizing v with
  | nil => simp
  | cons w ws ih =>
      rw [List.foldl_cons, ih, List.sum_cons]
      ring

/-- From the right, every second subtrahend is added. -/
theorem alternada_eq (v : U32) (ws : List U32) : alternada v ws = v - ws.sum + 2 * segundos ws := by
  induction ws using segundos.induct generalizing v with
  | case1 => simp [alternada, segundos]
  | case2 w => simp [alternada, segundos]
  | case3 w w' ws ih =>
      rw [alternada, alternada, ih, List.sum_cons, List.sum_cons, segundos]
      ring

/-- **The value from left to right**: of each group, its operand is added and the others subtracted,
one after the other. -/
def izquierda (val : Atomo → U32) (g : Atomo × List Atomo) (gs : List (Atomo × List Atomo)) : U32 :=
  gs.foldl (fun acum g => (g.2.map val).foldl (fun acum w => acum - w) (acum + val g.1))
    ((g.2.map val).foldl (fun acum w => acum - w) (val g.1))

/-- **The terms that are subtracted from a subtracted one.** -/
def malRestados (val : Atomo → U32) (gs : List (Atomo × List Atomo)) : U32 :=
  (gs.map fun g => segundos (g.2.map val)).sum

variable {val : Atomo → U32}

theorem izquierda_eq (g : Atomo × List Atomo) (gs : List (Atomo × List Atomo)) :
    izquierda val g gs = ((g :: gs).map fun g => val g.1 - (g.2.map val).sum).sum := by
  have hfold (v : U32) :
      gs.foldl (fun acum g => (g.2.map val).foldl (fun acum w => acum - w) (acum + val g.1))
      v = v + (gs.map fun g => val g.1 - (g.2.map val).sum).sum := by
    induction gs generalizing v with
    | nil => simp
    | cons g' gs ih =>
        rw [List.foldl_cons, ih, foldl_sub, List.map_cons, List.sum_cons]
        ring
  rw [izquierda, hfold, foldl_sub, List.map_cons, List.sum_cons]

theorem valor_grupo {a : Atomo} {bs : List Atomo}
    (h : ∀ b ∈ a :: bs, P.valorAtomo c b = some (val b)) :
    P.valor c (grupo a bs) = some (alternada (val a) (bs.map val)) := by
  induction bs generalizing a with
  | nil => exact h a List.mem_cons_self
  | cons b bs ih =>
      have ha : P.valor c (.atomo a) = some (val a) := h a List.mem_cons_self
      rw [grupo, Guion.valor, ha, ih fun d hd => h d (List.mem_cons_of_mem _ hd)]
      rfl

/-- **The value of a sum, as it is read.** -/
theorem valor_suma {g : Atomo × List Atomo} {gs : List (Atomo × List Atomo)}
    (h : ∀ g' ∈ g :: gs, ∀ b ∈ g'.1 :: g'.2, P.valorAtomo c b = some (val b)) :
    P.valor c (suma g gs) = some (izquierda val g gs + 2 * malRestados val (g :: gs)) := by
  induction gs generalizing g with
  | nil =>
      rw [suma, valor_grupo (h g List.mem_cons_self), alternada_eq, izquierda,
        List.foldl_nil, foldl_sub, malRestados]
      simp
  | cons g' gs ih =>
      rw [suma, Guion.valor, valor_grupo (h g List.mem_cons_self),
        ih fun d hd => h d (List.mem_cons_of_mem _ hd)]
      simp only [Option.bind_some, Option.map_some, Option.some_inj, alternada_eq,
        izquierda_eq, malRestados, List.map_cons, List.sum_cons]
      ring

theorem sinCompartidas_grupo {a : Atomo} {bs : List Atomo}
    (h : ∀ b ∈ a :: bs, P.valorAtomo c b = some (val b)) : SinCompartidas (grupo a bs) := by
  have hatomo {b : Atomo} (hb : P.valorAtomo c b = some (val b)) : SinCompartidas (.atomo b) := by
    cases b with
    | compartida g => cases hb
    | _ => trivial
  induction bs generalizing a with
  | nil => exact hatomo (h a List.mem_cons_self)
  | cons b bs ih =>
      exact ⟨hatomo (h a List.mem_cons_self), ih fun d hd => h d (List.mem_cons_of_mem _ hd)⟩

theorem sinCompartidas_suma {g : Atomo × List Atomo} {gs : List (Atomo × List Atomo)}
    (h : ∀ g' ∈ g :: gs, ∀ b ∈ g'.1 :: g'.2, P.valorAtomo c b = some (val b)) :
    SinCompartidas (suma g gs) := by
  induction gs generalizing g with
  | nil => exact sinCompartidas_grupo (h g List.mem_cons_self)
  | cons g' gs ih =>
      exact ⟨sinCompartidas_grupo (h g List.mem_cons_self), ih fun d hd =>
        h d (List.mem_cons_of_mem _ hd)⟩

/-- **A sum of any operands gives its value from left to right, and twice the terms that are
subtracted from a subtracted one.** -/
theorem operarTexto_suma (orden : Orden) {g : Atomo × List Atomo} {gs : List (Atomo × List Atomo)}
    {e : Ejecucion κ}
    (h : ∀ g' ∈ g :: gs, ∀ b ∈ g'.1 :: g'.2, P.valorAtomo e.contextos b = some (val b))
    (k : U32 → Linea) :
    P.interpretar (operarTexto orden (textoSuma g gs) k) e =
      P.interpretar (k (izquierda val g gs + 2 * malRestados val (g :: gs))) e := by
  rw [operarTexto_escribe orden (escribe_suma g gs), interpretar_expr (sinCompartidas_suma h),
    valor_suma h]
  rfl

/-- A program without variables. -/
def guionVacio : Guion Unit :=
  ⟨⟨fun _ _ => (.continuar, ()), fun _ _ => (), fun _ => (0#32, ())⟩,
    ⟨0#32, 0#32, 0#32, 0#32, 0#32, 0#32, 0#32, 0#32, 0#32, 0#32, 0#32⟩, 0, [], fun _ => none⟩

def ejecucionVacia : Ejecucion Unit := ⟨.base [], 0#32, .notificarPorFinRafaga, [], ()⟩

/-- A digit. -/
def cifra (d : Char) (h : d.isDigit = true) : Numero :=
  ⟨[d], List.cons_ne_nil _ _, fun _ hc => (List.mem_singleton.1 hc).symm ▸ h⟩

def valorNumero : Atomo → U32
  | .numero n => atoi n.texto
  | _ => 0#32

/-- `5-3-1` is three: the last term is subtracted from a subtracted one. -/
theorem operarTexto_suma_tres :
    guionVacio.interpretar (operarTexto ⟨true, true⟩ ['5', '-', '3', '-', '1']
      fun v => if v = 3#32 then .fin else .indefinida) ejecucionVacia = some ejecucionVacia := by
  have hval : ∀ g ∈ [((.numero (cifra '5' rfl) : Atomo),
      [(.numero (cifra '3' rfl) : Atomo), .numero (cifra '1' rfl)])],
      ∀ b ∈ g.1 :: g.2, guionVacio.valorAtomo ejecucionVacia.contextos b =
      some (valorNumero b) := by
    intro g hg b hb
    obtain rfl := List.mem_singleton.1 hg
    simp only [List.mem_cons, List.not_mem_nil, or_false] at hb
    rcases hb with rfl | rfl | rfl
    all_goals rfl
  exact (operarTexto_suma ⟨true, true⟩ hval _).trans rfl

end Ansisop.Lenguaje
