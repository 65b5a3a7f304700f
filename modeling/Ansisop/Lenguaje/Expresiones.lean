/-
**Expressions of AnSISOP.**

An expression is written without parentheses: an operand, a `*` before an expression that goes on to
the end of the text, or two expressions with a `+` or a `-` between them and blanks around it.
`_operar` splits at the first `+`, and without one at the first `-`; so a sum has no `+` on its
left, a subtraction has neither sign on its left and no `+` on its right, and neither of them has a
`*` in front.

Main definitions:

* `Ansisop.Lenguaje.Expr` — expressions, with names, numbers and shared variables that can be
  written;
* `Ansisop.Lenguaje.Escribe` — **the texts of an expression**;
* `Ansisop.Lenguaje.Expr.linea` — the primitives that an expression calls;
* `Ansisop.Lenguaje.Expr.Escribible`, `Ansisop.Lenguaje.Expr.texto` — the expressions that can be
  written without parentheses, and the text without blanks of each one.

Main results:

* `Ansisop.Lenguaje.operarTexto_escribe` — **`_operar` reads in a text the expression that was
  written**;
* `Ansisop.Lenguaje.escribible_iff` — which expressions can be written.
-/

import Ansisop.Lenguaje.Textos

set_option relaxedAutoImplicit false
set_option autoImplicit false

namespace Ansisop.Lenguaje

open Cpu (esEspacio separarOperadores atoi caracter Orden ambos obtenerPosicion operar
  operarTexto Linea)

/-! ### Words -/

/-- A letter, the name of a variable. -/
structure Letra where
  caracter : Char
  esLetra : caracter.isAlpha = true
deriving DecidableEq

/-- The characters of the names. -/
def esDeNombre (c : Char) : Bool := c.isAlphanum || c = '_'

/-- The name of a shared variable. -/
structure Identificador where
  texto : Texto
  ne_nil : texto ≠ []
  deNombre : ∀ c ∈ texto, esDeNombre c = true
deriving DecidableEq

/-- A number that is not negative. -/
structure Numero where
  texto : Texto
  ne_nil : texto ≠ []
  digitos : ∀ c ∈ texto, c.isDigit = true
deriving DecidableEq

/-- A variable of the context: one with a letter, or one of the ten parameters of a call. -/
inductive Nombre
  | letra (c : Letra)
  | parametro (i : Fin 10)
deriving DecidableEq

/-- The digit of a parameter. -/
def digito (i : Fin 10) : Char := Char.ofNat (48 + i)

/-- How a variable is written. -/
def Nombre.texto : Nombre → Texto
  | letra c => [c.caracter]
  | parametro i => ['$', digito i]

/-- The name of a variable in the stack. -/
def Nombre.byte : Nombre → Byte
  | letra c => BitVec.ofNat 8 c.caracter.toNat
  | parametro i => BitVec.ofNat 8 (48 + i)

theorem isDigit_of_isAlpha {c : Char} (h : c.isAlpha = true) : c.isDigit = false := by
  have hlt : 57 < c.val.toNat := by
    rcases (Bool.or_eq_true c.isUpper c.isLower).mp h with h | h
    · exact Nat.lt_of_lt_of_le (by decide) (UInt32.le_iff_toNat_le.1 (of_decide_eq_true h).1)
    · exact Nat.lt_of_lt_of_le (by decide)
        (UInt32.le_iff_toNat_le.1 (of_decide_eq_true ((Bool.and_eq_true _ _).mp h).1))
  refine Bool.eq_false_iff.2 fun hdigit => ?_
  have hle := UInt32.le_iff_toNat_le.1 (of_decide_eq_true ((Bool.and_eq_true _ _).mp hdigit).2)
  exact absurd hlt (Nat.not_lt.2 hle)

/-- A blank is of no name. -/
theorem esEspacio_of_esDeNombre {c : Char} (h : esDeNombre c = true) : esEspacio c = false := by
  rw [Bool.eq_false_iff]
  intro hc
  simp only [esEspacio, Bool.or_eq_true, decide_eq_true_eq] at hc
  rcases hc with (((rfl | rfl) | rfl) | rfl) | rfl <;> exact absurd h (by decide)

theorem esDeNombre_of_isDigit {c : Char} (h : c.isDigit = true) : esDeNombre c = true := by
  simp [esDeNombre, Char.isAlphanum, h]

theorem esDeNombre_of_isAlpha {c : Char} (h : c.isAlpha = true) : esDeNombre c = true := by
  simp [esDeNombre, Char.isAlphanum, h]

theorem isDigit_digito (i : Fin 10) : (digito i).isDigit = true := by
  revert i
  decide

/-! ### Syntax -/

/-- The operands. -/
inductive Atomo
  | numero (n : Numero)
  | variable_ (x : Nombre)
  | direccion (x : Nombre)
  | compartida (g : Identificador)
deriving DecidableEq

/-- **Expressions.** -/
inductive Expr
  | atomo (a : Atomo)
  | deref (e : Expr)
  | mas (a b : Expr)
  | menos (a b : Expr)
deriving DecidableEq

/-- How an operand is written. -/
def Atomo.texto : Atomo → Texto
  | numero n => n.texto
  | variable_ x => x.texto
  | direccion x => '&' :: x.texto
  | compartida g => '!' :: g.texto

/-- **The texts of an expression.** -/
inductive Escribe : Expr → Texto → Prop
  | atomo (a : Atomo) : Escribe (.atomo a) a.texto
  | deref {e : Expr} {t : Texto} : Escribe e t → Escribe (.deref e) ('*' :: t)
  | mas {a b : Expr} {ta tb ba bb : Texto} : Escribe a ta → Escribe b tb → Blancos ba → Blancos bb →
      '+' ∉ ta → ta.head? ≠ some '*' → Escribe (.mas a b) (ta ++ (ba ++ '+' :: (bb ++ tb)))
  | menos {a b : Expr} {ta tb ba bb : Texto} : Escribe a ta → Escribe b tb →
      Blancos ba → Blancos bb →
      '+' ∉ ta → '-' ∉ ta → ta.head? ≠ some '*' → '+' ∉ tb →
      Escribe (.menos a b) (ta ++ (ba ++ '-' :: (bb ++ tb)))

/-! ### The calls of an expression -/

/-- The primitives that give the value of an operand. -/
def Atomo.linea : Atomo → (U32 → Linea) → Linea
  | numero n, k => k (atoi n.texto)
  | variable_ x, k => .llamar (.obtenerPosicionVariable x.byte) fun p =>
      .llamar (.dereferenciar p) k
  | direccion x, k => .llamar (.obtenerPosicionVariable x.byte) k
  | compartida g, k => .llamar (.obtenerValorCompartida g.texto) k

/-- **The primitives that an expression calls**, for each order in which the operands may be
evaluated. -/
def Expr.linea (orden : Orden) : Expr → (U32 → Linea) → Linea
  | atomo a, k => a.linea k
  | deref e, k => e.linea orden fun v => .llamar (.dereferenciar v) k
  | mas a b, k => ambos orden.operandos (a.linea orden) (b.linea orden) fun x y => k (x + y)
  | menos a b, k => ambos orden.operandos (a.linea orden) (b.linea orden) fun x y => k (x - y)

/-! ### The texts of the operands -/

/-- A name, with no sign and no blank in it. -/
structure SinSignos (texto : Texto) : Prop where
  bordes : Bordes texto
  sin_mas : '+' ∉ texto
  sin_menos : '-' ∉ texto
  sin_asterisco : texto.head? ≠ some '*'

theorem sinSignos_of_deNombre {t : Texto} (hne : t ≠ []) (h : ∀ c ∈ t, esDeNombre c = true) :
    SinSignos t where
  bordes := Bordes.of_forall hne fun c hc => esEspacio_of_esDeNombre (h c hc)
  sin_mas := fun hc => absurd (h _ hc) (by decide)
  sin_menos := fun hc => absurd (h _ hc) (by decide)
  sin_asterisco := fun hc => absurd (h _ (List.mem_of_head? hc)) (by decide)

/-- A name after a mark. -/
theorem SinSignos.cons {t : Texto} {c : Char} (h : SinSignos t) (hc : c = '&' ∨ c = '!' ∨ c = '$') :
    SinSignos (c :: t) := by
  have hc' : esEspacio c = false ∧ '+' ≠ c ∧ '-' ≠ c ∧ c ≠ '*' := by
    rcases hc with rfl | rfl | rfl <;> decide
  refine ⟨h.bordes.cons hc'.1, ?_, ?_, ?_⟩
  · exact List.not_mem_cons_of_ne_of_not_mem hc'.2.1 h.sin_mas
  · exact List.not_mem_cons_of_ne_of_not_mem hc'.2.2.1 h.sin_menos
  · simpa using hc'.2.2.2

theorem sinSignos_nombre (x : Nombre) : SinSignos x.texto := by
  cases x with
  | letra c =>
      refine sinSignos_of_deNombre (List.cons_ne_nil _ _) fun d hd => ?_
      rw [List.mem_singleton.1 hd]
      exact esDeNombre_of_isAlpha c.esLetra
  | parametro i =>
      refine SinSignos.cons (sinSignos_of_deNombre (List.cons_ne_nil _ _) fun d hd => ?_)
        (Or.inr (Or.inr rfl))
      rw [List.mem_singleton.1 hd]
      exact esDeNombre_of_isDigit (isDigit_digito i)

theorem Atomo.sinSignos (a : Atomo) : SinSignos a.texto := by
  cases a with
  | numero n => exact sinSignos_of_deNombre n.ne_nil fun c hc =>
      esDeNombre_of_isDigit (n.digitos c hc)
  | variable_ x => exact sinSignos_nombre x
  | direccion x => exact (sinSignos_nombre x).cons (Or.inl rfl)
  | compartida g => exact (sinSignos_of_deNombre g.ne_nil g.deNombre).cons (Or.inr (Or.inl rfl))

/-- No expression starts or ends with a blank. -/
theorem Escribe.bordes {e : Expr} {t : Texto} (h : Escribe e t) : Bordes t := by
  induction h with
  | atomo a => exact a.sinSignos.bordes
  | deref _ ih => exact ih.cons (by decide)
  | mas _ _ _ _ _ _ iha ihb =>
      rename_i ta tb ba bb _ _ _ _ _ _
      have := iha.append ihb (ba ++ '+' :: bb)
      simpa using this
  | menos _ _ _ _ _ _ _ _ iha ihb =>
      rename_i ta tb ba bb _ _ _ _ _ _ _ _
      have := iha.append ihb (ba ++ '-' :: bb)
      simpa using this

/-- The characters of an expression. -/
def esDeExpresion (c : Char) : Bool :=
  esDeNombre c || esEspacio c || ['*', '&', '!', '$', '+', '-'].contains c

theorem Atomo.deExpresion (a : Atomo) {c : Char} (hc : c ∈ a.texto) : esDeExpresion c = true := by
  have hnombre {d : Char} (hd : esDeNombre d = true) : esDeExpresion d = true := by
    simp [esDeExpresion, hd]
  have hmarca (x : Nombre) (hx : c ∈ x.texto) : esDeExpresion c = true := by
    cases x with
    | letra d =>
        rw [List.mem_singleton.1 hx]
        exact hnombre (esDeNombre_of_isAlpha d.esLetra)
    | parametro i =>
        rcases List.mem_cons.1 hx with rfl | hx
        · decide
        · rw [List.mem_singleton.1 hx]
          exact hnombre (esDeNombre_of_isDigit (isDigit_digito i))
  cases a with
  | numero n => exact hnombre (esDeNombre_of_isDigit (n.digitos c hc))
  | variable_ x => exact hmarca x hc
  | direccion x =>
      rcases List.mem_cons.1 hc with rfl | hc
      · decide
      · exact hmarca x hc
  | compartida g =>
      rcases List.mem_cons.1 hc with rfl | hc
      · decide
      · exact hnombre (g.deNombre c hc)

theorem Escribe.deExpresion {e : Expr} {t : Texto} (h : Escribe e t) {c : Char} (hc : c ∈ t) :
    esDeExpresion c = true := by
  have hblanco {b : Texto} (hb : Blancos b) (hc : c ∈ b) : esDeExpresion c = true := by
    simp [esDeExpresion, hb c hc]
  induction h with
  | atomo a => exact a.deExpresion hc
  | deref _ ih =>
      rcases List.mem_cons.1 hc with rfl | hc
      · decide
      · exact ih hc
  | mas _ _ hba hbb _ _ iha ihb =>
      simp only [List.mem_append, List.mem_cons] at hc
      rcases hc with hc | hc | rfl | hc | hc
      · exact iha hc
      · exact hblanco hba hc
      · decide
      · exact hblanco hbb hc
      · exact ihb hc
  | menos _ _ hba hbb _ _ _ _ iha ihb =>
      simp only [List.mem_append, List.mem_cons] at hc
      rcases hc with hc | hc | rfl | hc | hc
      · exact iha hc
      · exact hblanco hba hc
      · decide
      · exact hblanco hbb hc
      · exact ihb hc

/-- What is of no expression. -/
theorem Escribe.notMem {e : Expr} {t : Texto} (h : Escribe e t) {c : Char}
    (hc : esDeExpresion c = false) : c ∉ t := by
  intro hmem
  rw [h.deExpresion hmem] at hc
  exact Bool.noConfusion hc

/-! ### Reading -/

variable {orden : Orden} {t a b : Texto} {fuel : ℕ} {k : U32 → Linea}

theorem operar_mas (ht : t.head? ≠ some '*') (h : separarOperadores t ['+'] = (a, some b)) :
    operar orden (fuel + 1) t k =
      ambos orden.operandos (operar orden fuel a) (operar orden fuel b) fun x y => k (x + y) := by
  unfold operar
  split
  · exact absurd rfl ht
  · simp only [h]

theorem operar_menos (ht : t.head? ≠ some '*') (hmas : '+' ∉ t)
    (h : separarOperadores t ['-'] = (a, some b)) :
    operar orden (fuel + 1) t k =
      ambos orden.operandos (operar orden fuel a) (operar orden fuel b) fun x y => k (x - y) := by
  unfold operar
  split
  · exact absurd rfl ht
  · simp only [separarOperadores_entero hmas, h]

theorem obtenerPosicion_nombre (x : Nombre) :
    obtenerPosicion x.texto k = .llamar (.obtenerPosicionVariable x.byte) k := by
  cases x with
  | letra c =>
      have hc : c.caracter ≠ '$' := fun h => absurd (h ▸ c.esLetra) (by decide)
      simp only [obtenerPosicion, Nombre.texto]
      split
      · next h => exact absurd (List.cons.inj h).1 hc
      · rfl
  | parametro i =>
      have hbyte : caracter [digito i] 0 = BitVec.ofNat 8 (48 + i) := by
        revert i
        decide
      simp only [obtenerPosicion, Nombre.texto, Nombre.byte, hbyte]

/-- Without signs, the first character says what the operand is. -/
theorem operar_cons {c : Char} (h : SinSignos (c :: t)) :
    operar orden (fuel + 1) (c :: t) k =
      if c = '&' then obtenerPosicion t k
      else if c = '!' then .llamar (.obtenerValorCompartida t) k
      else if c.isDigit then k (atoi (c :: t))
      else obtenerPosicion (c :: t) fun p => .llamar (.dereferenciar p) k := by
  have hc : c ≠ '*' := by simpa using h.sin_asterisco
  have hmas := separarOperadores_entero h.sin_mas []
  have hmenos := separarOperadores_entero h.sin_menos []
  by_cases hdir : c = '&'
  · subst hdir
    simp [operar, hmas, hmenos]
  · by_cases hcomp : c = '!'
    · subst hcomp
      simp [operar, hmas, hmenos]
    · simp [operar, hmas, hmenos, hc, hdir, hcomp]

/-- **An operand is read.** -/
theorem operar_atomo (x : Atomo) : operar orden (fuel + 1) x.texto k = x.linea k := by
  have hx := x.sinSignos
  cases x with
  | numero n =>
      obtain ⟨c, t, ht⟩ := List.exists_cons_of_ne_nil n.ne_nil
      have hc : c.isDigit = true := n.digitos c (ht ▸ List.mem_cons_self)
      have hdir : c ≠ '&' := fun h => absurd (h ▸ hc) (by decide)
      have hcomp : c ≠ '!' := fun h => absurd (h ▸ hc) (by decide)
      simp only [Atomo.texto, Atomo.linea, ht] at hx ⊢
      rw [operar_cons hx, if_neg hdir, if_neg hcomp, if_pos hc]
  | variable_ x =>
      rw [Atomo.linea, ← obtenerPosicion_nombre]
      cases x with
      | letra c =>
          have hdir : c.caracter ≠ '&' := fun h => absurd (h ▸ c.esLetra) (by decide)
          have hcomp : c.caracter ≠ '!' := fun h => absurd (h ▸ c.esLetra) (by decide)
          have hdig : ¬ c.caracter.isDigit = true := by simp [isDigit_of_isAlpha c.esLetra]
          simp only [Atomo.texto, Nombre.texto] at hx ⊢
          rw [operar_cons hx, if_neg hdir, if_neg hcomp, if_neg hdig]
      | parametro i =>
          simp only [Atomo.texto, Nombre.texto] at hx ⊢
          rw [operar_cons hx, if_neg (by decide), if_neg (by decide), if_neg (by decide)]
  | direccion x => rw [Atomo.texto, operar_cons hx, if_pos rfl, obtenerPosicion_nombre, Atomo.linea]
  | compartida g => rw [Atomo.texto, operar_cons hx, if_neg (by decide), if_pos rfl, Atomo.linea]

/-- **`_operar` reads the expression that was written**, in a text shorter than the fuel. -/
theorem operar_escribe (orden : Orden) {e : Expr} (h : Escribe e t) (hfuel : t.length < fuel) :
    operar orden fuel t = e.linea orden := by
  induction h generalizing fuel with
  | atomo x =>
      obtain ⟨fuel, rfl⟩ : ∃ n, fuel = n + 1 := ⟨fuel - 1, by omega⟩
      funext k
      exact operar_atomo x
  | deref _ ih =>
      obtain ⟨fuel, rfl⟩ : ∃ n, fuel = n + 1 := ⟨fuel - 1, by omega⟩
      funext k
      simp only [operar, Expr.linea, ih (by simpa using hfuel)]
  | @mas a b ta tb ba bb ha hb hba hbb hmas hast iha ihb =>
      obtain ⟨fuel, rfl⟩ : ∃ n, fuel = n + 1 := ⟨fuel - 1, by omega⟩
      have hsep : separarOperadores (ta ++ (ba ++ '+' :: (bb ++ tb))) ['+'] = (ta, some tb) :=
        separarOperadores_escrito ha.bordes hb.bordes hmas (hba.notMem (by decide)) hba hbb []
      have hcabeza : (ta ++ (ba ++ '+' :: (bb ++ tb))).head? ≠ some '*' := by
        rwa [List.head?_append_of_ne_nil _ ha.bordes.ne_nil]
      simp only [List.length_append, List.length_cons] at hfuel
      funext k
      rw [operar_mas hcabeza hsep, iha (by omega), ihb (by omega), Expr.linea]
  | @menos a b ta tb ba bb ha hb hba hbb hmas hmenos hast hmas' iha ihb =>
      obtain ⟨fuel, rfl⟩ : ∃ n, fuel = n + 1 := ⟨fuel - 1, by omega⟩
      have hsep : separarOperadores (ta ++ (ba ++ '-' :: (bb ++ tb))) ['-'] = (ta, some tb) :=
        separarOperadores_escrito ha.bordes hb.bordes hmenos (hba.notMem (by decide)) hba hbb []
      have hcabeza : (ta ++ (ba ++ '-' :: (bb ++ tb))).head? ≠ some '*' := by
        rwa [List.head?_append_of_ne_nil _ ha.bordes.ne_nil]
      have hno : '+' ∉ ta ++ (ba ++ '-' :: (bb ++ tb)) := by
        have hba' := hba.notMem (c := '+') (by decide)
        have hbb' := hbb.notMem (c := '+') (by decide)
        simp [hmas, hmas', hba', hbb']
      simp only [List.length_append, List.length_cons] at hfuel
      funext k
      rw [operar_menos hcabeza hno hsep, iha (by omega), ihb (by omega),
        Expr.linea]

/-- **`_operar` reads in a text the expression that was written.** -/
theorem operarTexto_escribe (orden : Orden) {e : Expr} (h : Escribe e t) :
    operarTexto orden t = e.linea orden := by
  funext k
  rw [operarTexto, operar_escribe orden h (Nat.lt_succ_self _)]

/-! ### What can be written -/

namespace Expr

/-- There is a `+` in the text. -/
def tieneMas : Expr → Bool
  | atomo _ => false
  | deref e => e.tieneMas
  | mas _ _ => true
  | menos a b => a.tieneMas || b.tieneMas

/-- There is a `-` in the text. -/
def tieneMenos : Expr → Bool
  | atomo _ => false
  | deref e => e.tieneMenos
  | mas a b => a.tieneMenos || b.tieneMenos
  | menos _ _ => true

/-- The text starts with a `*`. -/
def conAsterisco : Expr → Bool
  | atomo _ => false
  | deref _ => true
  | mas a _ => a.conAsterisco
  | menos a _ => a.conAsterisco

/-- **The expressions that need no parentheses.** -/
def Escribible : Expr → Bool
  | atomo _ => true
  | deref e => e.Escribible
  | mas a b => a.Escribible && b.Escribible && !a.tieneMas && !a.conAsterisco
  | menos a b => a.Escribible && b.Escribible && !a.tieneMas && !a.tieneMenos && !a.conAsterisco &&
      !b.tieneMas

/-- The text without blanks. -/
def texto : Expr → Texto
  | atomo a => a.texto
  | deref e => '*' :: e.texto
  | mas a b => a.texto ++ '+' :: b.texto
  | menos a b => a.texto ++ '-' :: b.texto

end Expr

theorem Escribe.mem_mas {e : Expr} (h : Escribe e t) : '+' ∈ t ↔ e.tieneMas = true := by
  induction h with
  | atomo a => simpa [Expr.tieneMas] using a.sinSignos.sin_mas
  | deref _ ih => simpa [Expr.tieneMas] using ih
  | mas => simp [Expr.tieneMas]
  | menos _ _ hba hbb _ _ _ _ iha ihb =>
      have hba' := hba.notMem (c := '+') (by decide)
      have hbb' := hbb.notMem (c := '+') (by decide)
      simp [Expr.tieneMas, iha, ihb, hba', hbb']

theorem Escribe.mem_menos {e : Expr} (h : Escribe e t) : '-' ∈ t ↔ e.tieneMenos = true := by
  induction h with
  | atomo a => simpa [Expr.tieneMenos] using a.sinSignos.sin_menos
  | deref _ ih => simpa [Expr.tieneMenos] using ih
  | mas _ _ hba hbb _ _ iha ihb =>
      have hba' := hba.notMem (c := '-') (by decide)
      have hbb' := hbb.notMem (c := '-') (by decide)
      simp [Expr.tieneMenos, iha, ihb, hba', hbb']
  | menos => simp [Expr.tieneMenos]

theorem Escribe.head_asterisco {e : Expr} (h : Escribe e t) :
    t.head? = some '*' ↔ e.conAsterisco = true := by
  induction h with
  | atomo a => simpa [Expr.conAsterisco] using a.sinSignos.sin_asterisco
  | deref => simp [Expr.conAsterisco]
  | mas ha _ _ _ _ _ iha _ =>
      rw [List.head?_append_of_ne_nil _ ha.bordes.ne_nil, iha, Expr.conAsterisco]
  | menos ha _ _ _ _ _ _ _ iha _ =>
      rw [List.head?_append_of_ne_nil _ ha.bordes.ne_nil, iha, Expr.conAsterisco]

theorem Escribe.escribible {e : Expr} (h : Escribe e t) : e.Escribible = true := by
  induction h with
  | atomo a => rfl
  | deref _ ih => exact ih
  | mas ha _ _ _ hmas hast iha ihb =>
      rw [ha.mem_mas] at hmas
      rw [Ne, ha.head_asterisco] at hast
      simp [Expr.Escribible, iha, ihb, hmas, hast]
  | menos ha hb _ _ hmas hmenos hast hmas' iha ihb =>
      rw [ha.mem_mas] at hmas
      rw [ha.mem_menos] at hmenos
      rw [Ne, ha.head_asterisco] at hast
      rw [hb.mem_mas] at hmas'
      simp [Expr.Escribible, iha, ihb, hmas, hmenos, hast, hmas']

theorem escribe_texto {e : Expr} (h : e.Escribible = true) : Escribe e e.texto := by
  induction e with
  | atomo a => exact .atomo a
  | deref e ih => exact .deref (ih h)
  | mas a b iha ihb =>
      simp only [Expr.Escribible, Bool.and_eq_true, Bool.not_eq_true'] at h
      obtain ⟨⟨⟨ha, hb⟩, hmas⟩, hast⟩ := h
      have ha := iha ha
      refine Escribe.mas ha (ihb hb) Blancos.nil Blancos.nil ?_ ?_
      · rw [ha.mem_mas, hmas]
        exact Bool.false_ne_true
      · rw [Ne, ha.head_asterisco, hast]
        exact Bool.false_ne_true
  | menos a b iha ihb =>
      simp only [Expr.Escribible, Bool.and_eq_true, Bool.not_eq_true'] at h
      obtain ⟨⟨⟨⟨⟨ha, hb⟩, hmas⟩, hmenos⟩, hast⟩, hmas'⟩ := h
      have ha := iha ha
      have hb := ihb hb
      refine Escribe.menos ha hb Blancos.nil Blancos.nil ?_ ?_ ?_ ?_
      · rw [ha.mem_mas, hmas]
        exact Bool.false_ne_true
      · rw [ha.mem_menos, hmenos]
        exact Bool.false_ne_true
      · rw [Ne, ha.head_asterisco, hast]
        exact Bool.false_ne_true
      · rw [hb.mem_mas, hmas']
        exact Bool.false_ne_true

/-- **Which expressions can be written.** -/
theorem escribible_iff {e : Expr} : (∃ t, Escribe e t) ↔ e.Escribible = true := by
  constructor
  · intro ⟨t, h⟩
    exact h.escribible
  · intro h
    exact ⟨_, escribe_texto h⟩

end Ansisop.Lenguaje
