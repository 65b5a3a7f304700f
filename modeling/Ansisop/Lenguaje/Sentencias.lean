/-
**Statements of AnSISOP.**

A script is a list of lines, and an executable line is a statement.  `analizadorLinea` tells them
apart by how they start or by what they contain, in a fixed order, so a call is a line that is
nothing else: the name of its function may not start with `end` or `return`, and nothing in it may
end a word with `io` before a blank.

Main definitions:

* `Ansisop.Lenguaje.Sentencia` — statements;
* `Ansisop.Lenguaje.EscribeSentencia` — **the texts of a statement**;
* `Ansisop.Lenguaje.Sentencia.linea` — the primitives that a statement calls.

Main results:

* `Ansisop.Lenguaje.analizadorLinea_escribe` — **`analizadorLinea` reads in a line the statement
  that was written**.
-/

import Ansisop.Lenguaje.Expresiones

set_option relaxedAutoImplicit false
set_option autoImplicit false

namespace Ansisop.Lenguaje

open Cpu (esEspacio stringTrim strstr separarOperadores stringSplit atoi caracter Orden ambos
  obtenerPosicion operarTexto Linea definirVariables saltoCondicional obtenerParametros
  definirParametros llamadaFuncion analizadorLinea)

/-! ### Syntax -/

/-- The characters of the names of labels, functions, semaphores and devices. -/
def esDePalabra (c : Char) : Bool := esDeNombre c || c = '-'

/-- The name of a label, a function, a semaphore or a device. -/
@[ext] structure Palabra where
  texto : Texto
  ne_nil : texto ≠ []
  dePalabra : ∀ c ∈ texto, esDePalabra c = true

instance : DecidableEq Palabra := fun _ _ => decidable_of_iff _ Palabra.ext_iff.symm

/-- A text to show: it does not end with a blank, and it has no `=`. -/
structure Leyenda where
  texto : Texto
  ultimo : ∃ resto c, texto = resto ++ [c] ∧ esEspacio c = false
  sin_igual : '=' ∉ texto
deriving DecidableEq

/-- **Statements.** -/
inductive Sentencia
  | fin
  | definir (xs : List Letra)
  | asignar (x : Nombre) (e : Expr)
  | asignarEn (p e : Expr)
  | asignarCompartida (g : Identificador) (e : Expr)
  | print (e : Expr)
  | textPrint (leyenda : Leyenda)
  | retornar (e : Expr)
  | goto (etiqueta : Palabra)
  | jnz (e : Expr) (etiqueta : Palabra)
  | jz (e : Expr) (etiqueta : Palabra)
  | signal (semaforo : Palabra)
  | wait (semaforo : Palabra)
  | io (dispositivo : Palabra) (tiempo : Numero)
  | llamar (funcion : Palabra) (args : List Expr)
  | llamarCon (x : Nombre) (funcion : Palabra) (args : List Expr)
deriving DecidableEq

/-! ### Texts -/

/-- The characters that split a line of a jump or of an input/output. -/
def Espacios (texto : Texto) : Prop := ∀ c ∈ texto, c = ' '

/-- **A line that is not a call**: it is recognised before the calls are. -/
def Reservada (linea : Texto) : Bool :=
  ["end", "variables ", "print ", "textPrint ", "return", "goto ", "jnz ", "jz ",
    "signal ", "wait "].any
      (fun palabra => palabra.toList.isPrefixOf linea) ||
    (strstr ['='] linea).isSome || (strstr "io ".toList linea).isSome

/-- The texts of the definition of some variables. -/
inductive EscribeVariables : List Letra → Texto → Prop
  | una (x : Letra) : EscribeVariables [x] [x.caracter]
  | cons {x : Letra} {xs : List Letra} {b b' t : Texto} : Blancos b → Blancos b' →
      EscribeVariables xs t →
      EscribeVariables (x :: xs) (x.caracter :: (b ++ ',' :: (b' ++ t)))

/-- The texts of the arguments of a call.  They are not trimmed one by one, so there are no blanks
around them. -/
inductive EscribeArgumentos : List Expr → List Texto → Prop
  | nil : EscribeArgumentos [] []
  | cons {e : Expr} {es : List Expr} {t : Texto} {ts : List Texto} : Escribe e t →
      EscribeArgumentos es ts → EscribeArgumentos (e :: es) (t :: ts)

/-- The text of a call: the function, and its arguments after a blank, separated by commas. -/
inductive EscribeLlamada : Palabra → List Expr → Texto → Prop
  | sola (f : Palabra) : EscribeLlamada f [] f.texto
  | con {f : Palabra} {args : List Expr} {ts : List Texto} {b b' : Texto} :
      args ≠ [] → args.length ≤ 10 →
      EscribeArgumentos args ts → Blancos b → Blancos b' → ' ' ∉ b →
      EscribeLlamada f args (f.texto ++ (b ++ ' ' :: (b' ++ [','].intercalate ts)))

/-- **The texts of a statement.** -/
inductive EscribeSentencia : Sentencia → Texto → Prop
  | fin (resto : Texto) : EscribeSentencia .fin ("end".toList ++ resto)
  | definir {xs : List Letra} {b t : Texto} : Blancos b → EscribeVariables xs t →
      EscribeSentencia (.definir xs) ("variables ".toList ++ (b ++ t))
  | asignar {x : Nombre} {e : Expr} {b b' t : Texto} : Blancos b → Blancos b' → Escribe e t →
      EscribeSentencia (.asignar x e) (x.texto ++ (b ++ '=' :: (b' ++ t)))
  | asignarEn {p e : Expr} {b b' tp t : Texto} : Blancos b → Blancos b' →
      Escribe p tp → Escribe e t →
      EscribeSentencia (.asignarEn p e) ('*' :: tp ++ (b ++ '=' :: (b' ++ t)))
  | asignarCompartida {g : Identificador} {e : Expr} {b b' t : Texto} : Blancos b → Blancos b' →
      Escribe e t →
        EscribeSentencia (.asignarCompartida g e) ('!' :: g.texto ++ (b ++ '=' :: (b' ++ t)))
  | print {e : Expr} {b t : Texto} : Blancos b → Escribe e t →
      EscribeSentencia (.print e) ("print ".toList ++ (b ++ t))
  | textPrint (leyenda : Leyenda) :
      EscribeSentencia (.textPrint leyenda) ("textPrint ".toList ++ leyenda.texto)
  | retornar {e : Expr} {b t : Texto} : Blancos b → Escribe e t →
      EscribeSentencia (.retornar e) ("return".toList ++ (b ++ t))
  | goto {l : Palabra} {b : Texto} :
      Blancos b → EscribeSentencia (.goto l) ("goto ".toList ++ (b ++ l.texto))
  | jnz {e : Expr} {l : Palabra} {b b' t : Texto} : Espacios b → Espacios b' →
      Escribe e t → ' ' ∉ t →
      EscribeSentencia (.jnz e l) ("jnz ".toList ++ (b ++ (t ++ ' ' :: (b' ++ l.texto))))
  | jz {e : Expr} {l : Palabra} {b b' t : Texto} : Espacios b → Espacios b' →
      Escribe e t → ' ' ∉ t →
      EscribeSentencia (.jz e l) ("jz ".toList ++ (b ++ (t ++ ' ' :: (b' ++ l.texto))))
  | signal {s : Palabra} {b : Texto} : Blancos b →
      EscribeSentencia (.signal s) ("signal ".toList ++ (b ++ s.texto))
  | wait {s : Palabra} {b : Texto} : Blancos b →
      EscribeSentencia (.wait s) ("wait ".toList ++ (b ++ s.texto))
  | io {d : Palabra} {n : Numero} {b b' : Texto} : Espacios b → Espacios b' →
      EscribeSentencia (.io d n) ("io ".toList ++ (b ++ (d.texto ++ ' ' :: (b' ++ n.texto))))
  | llamar {f : Palabra} {args : List Expr} {t : Texto} : EscribeLlamada f args t →
      Reservada t = false →
      EscribeSentencia (.llamar f args) t
  | llamarCon {x : Nombre} {f : Palabra} {args : List Expr} {b b' t : Texto} :
      Blancos b → Blancos b' →
      EscribeLlamada f args t → Reservada (x.texto ++ (b ++ '<' :: '-' :: (b' ++ t))) = false →
      EscribeSentencia (.llamarCon x f args) (x.texto ++ (b ++ '<' :: '-' :: (b' ++ t)))

/-! ### The calls of a statement -/

/-- The values of the arguments, in order, and what follows. -/
def valores (orden : Orden) : List Expr → (List U32 → Linea) → Linea
  | [], k => k []
  | e :: es, k => e.linea orden fun v => valores orden es fun vs => k (v :: vs)

/-- The definition of variables. -/
def declarar : List Letra → Linea
  | [] => .fin
  | x :: xs => .llamar (.definirVariable (Nombre.letra x).byte) fun _ => declarar xs

/-- **The primitives that a statement calls.** -/
def Sentencia.linea (orden : Orden) : Sentencia → Linea
  | fin => .llamar .finalizar fun _ => .fin
  | definir xs => declarar xs
  | asignar x e =>
      ambos orden.argumentos (fun k => .llamar (.obtenerPosicionVariable x.byte) k) (e.linea orden)
        fun p v => .llamar (.asignar p v) fun _ => .fin
  | asignarEn p e =>
      ambos orden.argumentos (p.linea orden) (e.linea orden)
        fun p v => .llamar (.asignar p v) fun _ => .fin
  | asignarCompartida g e =>
      e.linea orden fun v => .llamar (.asignarValorCompartida g.texto v) fun _ => .fin
  | print e => e.linea orden fun v => .llamar (.imprimir v) fun _ => .fin
  | textPrint leyenda => .llamar (.imprimirTexto leyenda.texto) fun _ => .fin
  | retornar e => e.linea orden fun v => .llamar (.retornar v) fun _ => .fin
  | goto l => .llamar (.irAlLabel l.texto) fun _ => .fin
  | jnz e l => e.linea orden fun v =>
      if v != 0#32 then .llamar (.irAlLabel l.texto) fun _ => .fin else .fin
  | jz e l => e.linea orden fun v =>
      if v == 0#32 then .llamar (.irAlLabel l.texto) fun _ => .fin else .fin
  | signal s => .llamar (.signalAnsisop s.texto) fun _ => .fin
  | wait s => .llamar (.waitAnsisop s.texto) fun _ => .fin
  | io d n => .llamar (.entrarSalida d.texto (atoi n.texto)) fun _ => .fin
  | llamar f args => valores orden args fun vs =>
      .llamar (.llamarSinRetorno f.texto) fun _ => definirParametros 0 vs
  | llamarCon x f args => valores orden args fun vs =>
      .llamar (.obtenerPosicionVariable x.byte) fun p =>
        .llamar (.llamarConRetorno f.texto p) fun _ => definirParametros 0 vs

/-! ### Words -/

variable {orden : Orden} {i r t : Texto}

theorem esEspacio_of_esDePalabra {c : Char} (h : esDePalabra c = true) : esEspacio c = false := by
  simp only [esDePalabra, Bool.or_eq_true, decide_eq_true_eq] at h
  rcases h with h | rfl
  · exact esEspacio_of_esDeNombre h
  · decide

theorem Palabra.bordes (p : Palabra) : Bordes p.texto :=
  Bordes.of_forall p.ne_nil fun c hc => esEspacio_of_esDePalabra (p.dePalabra c hc)

theorem Palabra.notMem (p : Palabra) {c : Char} (hc : esDePalabra c = false) : c ∉ p.texto := by
  intro hmem
  rw [p.dePalabra c hmem] at hc
  exact Bool.noConfusion hc

theorem Numero.bordes (n : Numero) : Bordes n.texto :=
  Bordes.of_forall n.ne_nil fun c hc =>
    esEspacio_of_esDeNombre (esDeNombre_of_isDigit (n.digitos c hc))

theorem Letra.bordes (x : Letra) : Bordes [x.caracter] :=
  (Atomo.variable_ (.letra x)).sinSignos.bordes

theorem Nombre.notMem (x : Nombre) {c : Char} (hc : esDeExpresion c = false) : c ∉ x.texto :=
  (Escribe.atomo (.variable_ x)).notMem hc

theorem Nombre.cabeza (x : Nombre) {c : Char} (hc : c.isAlpha = false) (hc' : c ≠ '$') :
    x.texto.head? ≠ some c := by
  cases x with
  | letra d =>
      intro h
      have hd : d.caracter = c := by simpa [Nombre.texto] using h
      rw [← hd, d.esLetra] at hc
      exact Bool.noConfusion hc
  | parametro i => simpa [Nombre.texto] using hc'.symm

theorem stringTrim_izquierda {b : Texto} (h : Bordes t) (hb : Blancos b) :
    stringTrim (b ++ t) = t := by
  have := stringTrim_rodeado h hb Blancos.nil
  rwa [List.append_nil] at this

/-! ### The definition of variables -/

theorem EscribeVariables.bordes {xs : List Letra} (h : EscribeVariables xs t) : Bordes t := by
  induction h with
  | una x => exact x.bordes
  | cons _ _ _ ih =>
      rename_i x xs b b' t _ _ _
      have := x.bordes.append ih (b ++ ',' :: b')
      simpa using this

theorem EscribeVariables.sin_igual {xs : List Letra} (h : EscribeVariables xs t) : '=' ∉ t := by
  induction h with
  | una x => exact Nombre.notMem (.letra x) (by decide)
  | cons hb hb' _ ih =>
      rename_i x xs b b' t _
      have hx : '=' ∉ [x.caracter] := Nombre.notMem (.letra x) (by decide)
      have hno := hb.notMem (c := '=') (by decide)
      have hno' := hb'.notMem (c := '=') (by decide)
      simp only [List.mem_cons, List.mem_append, not_or]
      exact ⟨fun h => hx (by rw [h]; exact List.mem_singleton_self _), hno, by decide, hno', ih⟩

/-- **The variables are defined in the order in which they are written.** -/
theorem definirVariables_escribe {xs : List Letra} {b : Texto} (h : EscribeVariables xs t)
    (hb : Blancos b) : definirVariables (stringSplit (b ++ t) ',') = declarar xs := by
  -- the blanks after a comma go with the variable that follows
  have hparte (x : Letra) {b b' : Texto} (hb : Blancos b) (hb' : Blancos b') :
      b ++ [x.caracter] ++ b' ≠ [] ∧ ',' ∉ b ++ [x.caracter] ++ b' ∧
        caracter (stringTrim (b ++ [x.caracter] ++ b')) 0 = (Nombre.letra x).byte := by
    have hx : ',' ∉ [x.caracter] := Nombre.notMem (.letra x) (by decide)
    have hno := hb.notMem (c := ',') (by decide)
    have hno' := hb'.notMem (c := ',') (by decide)
    refine ⟨by simp, ?_, ?_⟩
    · simp only [List.mem_append, not_or]
      exact ⟨⟨hno, hx⟩, hno'⟩
    · rw [stringTrim_rodeado x.bordes hb hb']
      rfl
  induction h generalizing b with
  | una x =>
      obtain ⟨hne, hno, hbyte⟩ := hparte x hb Blancos.nil
      rw [List.append_nil] at hne hno hbyte
      rw [stringSplit, tokens_ultima hne hno, definirVariables, hbyte]
      rfl
  | @cons x xs b₁ b₂ t hb₁ hb₂ h ih =>
      obtain ⟨hne, hno, hbyte⟩ := hparte x hb hb₁
      have heq : b ++ x.caracter :: (b₁ ++ ',' :: (b₂ ++ t)) =
          (b ++ [x.caracter] ++ b₁) ++ ',' :: (b₂ ++ t) := by simp
      have ih := ih hb₂
      rw [stringSplit] at ih
      rw [heq, stringSplit, tokens_parte hne hno, definirVariables, hbyte, ih]
      rfl

/-! ### Calls -/

theorem EscribeArgumentos.length_eq {es : List Expr} {ts : List Texto}
    (h : EscribeArgumentos es ts) : ts.length = es.length := by
  induction h with
  | nil => rfl
  | cons _ _ ih => rw [List.length_cons, List.length_cons, ih]

theorem EscribeArgumentos.partes {es : List Expr} {ts : List Texto} (h : EscribeArgumentos es ts) :
    ∀ t ∈ ts, t ≠ [] ∧ ',' ∉ t := by
  induction h with
  | nil => simp
  | cons he _ ih =>
      intro t ht
      rcases List.mem_cons.1 ht with rfl | ht
      · exact ⟨he.bordes.ne_nil, he.notMem (by decide)⟩
      · exact ih t ht

theorem EscribeArgumentos.bordes {es : List Expr} {ts : List Texto} (h : EscribeArgumentos es ts)
    (hne : es ≠ []) : Bordes ([','].intercalate ts) := by
  induction h with
  | nil => exact absurd rfl hne
  | @cons e es t ts he hes ih =>
      cases hes with
      | nil =>
          rw [List.intercalate_singleton]
          exact he.bordes
      | cons he' hes' =>
          rw [List.intercalate_cons_cons, List.append_assoc]
          have := he.bordes.append (ih (by simp)) [',']
          rwa [List.append_assoc] at this

/-- **The arguments are evaluated in order.** -/
theorem obtenerParametros_escribe (orden : Orden) {es : List Expr} {ts : List Texto}
    (h : EscribeArgumentos es ts) : obtenerParametros orden ts = valores orden es := by
  induction h with
  | nil => rfl
  | cons he _ ih =>
      funext k
      rw [obtenerParametros, valores, operarTexto_escribe orden he, ih]

theorem EscribeLlamada.bordes {f : Palabra} {args : List Expr} (h : EscribeLlamada f args t) :
    Bordes t := by
  cases h with
  | sola => exact f.bordes
  | @con _ ts b b' hne _ hargs _ _ _ =>
      have := f.bordes.append (hargs.bordes hne) (b ++ ' ' :: b')
      simpa using this

/-- **A call is read**, with its function and its arguments. -/
theorem llamadaFuncion_escribe (orden : Orden) {f : Palabra} {args : List Expr}
    (h : EscribeLlamada f args t) (helper : Linea → Linea) :
    (separarOperadores t [' ']).1 = f.texto ∧
      llamadaFuncion orden (separarOperadores t [' ']).2 helper =
        valores orden args fun vs => helper (definirParametros 0 vs) := by
  cases h with
  | sola =>
      rw [separarOperadores_entero (f.notMem (by decide))]
      exact ⟨rfl, rfl⟩
  | @con _ ts b b' hne hlen hargs hb hb' hno =>
      have hsep : separarOperadores (f.texto ++ (b ++ ' ' :: (b' ++ [','].intercalate ts))) [' '] =
          (f.texto, some ([','].intercalate ts)) :=
        separarOperadores_escrito f.bordes (hargs.bordes hne) (f.notMem (by decide)) hno hb hb' []
      rw [hsep]
      refine ⟨rfl, ?_⟩
      simp only [llamadaFuncion, Option.map_some, Option.getD_some]
      rw [stringSplit_intercalate hargs.partes, hargs.length_eq, if_pos hlen,
        obtenerParametros_escribe orden hargs]

/-! ### The lines of the keywords -/

theorem sin_igual_escribe {e : Expr} {b : Texto} (h : Escribe e t) (hb : Blancos b) :
    '=' ∉ b ++ t := by
  rw [List.mem_append, not_or]
  exact ⟨hb.notMem (by decide), h.notMem (by decide)⟩

theorem Palabra.sin_igual (p : Palabra) {b : Texto} (hb : Blancos b) : '=' ∉ b ++ p.texto := by
  rw [List.mem_append, not_or]
  exact ⟨hb.notMem (by decide), p.notMem (by decide)⟩

/-- What no keyword has is in a line only when it is in what follows the keyword. -/
theorem strstr_palabra (palabra : Texto) (hp : '=' ∉ palabra) (hr : '=' ∉ r) :
    strstr ['='] (palabra ++ r) = none := by
  refine strstr_ninguna ?_ []
  rw [List.mem_append, not_or]
  exact ⟨hp, hr⟩

theorem Espacios.blancos (h : Espacios t) : Blancos t := by
  intro c hc
  rw [h c hc]
  decide

/-- **A conditional jump is read.** -/
theorem saltoCondicional_escribe (orden : Orden) {e : Expr} {l : Palabra} {b b' palabra : Texto}
    (hp : palabra ≠ [] ∧ ' ' ∉ palabra) (hb : Espacios b) (hb' : Espacios b') (h : Escribe e t)
    (ht : ' ' ∉ t) (comparacion : U32 → Bool) :
    saltoCondicional orden (palabra ++ ' ' :: (b ++ (t ++ ' ' :: (b' ++ l.texto)))) comparacion =
      e.linea orden fun v =>
        if comparacion v then .llamar (.irAlLabel l.texto) fun _ => .fin else .fin := by
  have hsplit : stringSplit (palabra ++ ' ' :: (b ++ (t ++ ' ' :: (b' ++ l.texto)))) ' ' =
      [palabra, t, l.texto] := by
    rw [stringSplit, tokens_parte hp.1 hp.2, tokens_separadores hb, tokens_parte h.bordes.ne_nil ht,
      tokens_separadores hb', tokens_ultima l.ne_nil (l.notMem (by decide))]
  rw [saltoCondicional]
  simp only [hsplit, List.getElem?_cons_succ, List.getElem?_cons_zero]
  rw [stringTrim_bordes h.bordes, operarTexto_escribe orden h, stringTrim_bordes l.bordes]

/-! ### Reading -/

/-- **A line that is not reserved is a call**, with a result if there is an arrow. -/
theorem analizadorLinea_llamarCon {x llamada : Texto} (h : Reservada (stringTrim i) = false)
    (hsep : separarOperadores (stringTrim i) ['<', '-'] = (x, some llamada)) :
    analizadorLinea orden i = llamadaFuncion orden (separarOperadores llamada [' ']).2 fun k =>
      obtenerPosicion x fun p =>
        .llamar (.llamarConRetorno (separarOperadores llamada [' ']).1 p) fun _ => k := by
  simp only [Reservada, List.any_cons, List.any_nil, Bool.or_eq_false_iff, Bool.or_false] at h
  rw [analizadorLinea]
  simp only [h, hsep, Bool.false_eq_true, if_false]

theorem analizadorLinea_llamar {x : Texto} (h : Reservada (stringTrim i) = false)
    (hsep : separarOperadores (stringTrim i) ['<', '-'] = (x, none)) :
    analizadorLinea orden i =
    llamadaFuncion orden (separarOperadores (stringTrim i) [' ']).2 fun k =>
      .llamar (.llamarSinRetorno (separarOperadores (stringTrim i) [' ']).1) fun _ => k := by
  simp only [Reservada, List.any_cons, List.any_nil, Bool.or_eq_false_iff, Bool.or_false] at h
  rw [analizadorLinea]
  simp only [h, hsep, Bool.false_eq_true, if_false]

/-- A line that is neither the end nor the definition of variables. -/
def NiFinNiVariables (t : Texto) : Prop :=
  "end".toList.isPrefixOf t = false ∧ "variables ".toList.isPrefixOf t = false

/-- **A line with a `=` is an assignment.** -/
theorem analizadorLinea_asignar {a b : Texto} (hlinea : NiFinNiVariables (stringTrim i))
    (h : (strstr ['='] (stringTrim i)).isSome = true)
    (hsep : separarOperadores (stringTrim i) ['='] = (a, some b)) (ha : a.head? ≠ some '!')
    (ha' : a.head? ≠ some '*') :
    analizadorLinea orden i = ambos orden.argumentos (obtenerPosicion a) (operarTexto orden b)
      fun p v => .llamar (.asignar p v) fun _ => .fin := by
  rw [analizadorLinea]
  simp only [hlinea.1, hlinea.2, h, hsep, Bool.false_eq_true, if_false, if_true]
  split
  · next heq => exact absurd (Prod.mk.inj heq).2 (by simp)
  · next heq => exact absurd (congrArg List.head? (Prod.mk.inj heq).1) ha
  · next heq => exact absurd (congrArg List.head? (Prod.mk.inj heq).1) ha'
  · next heq =>
      obtain ⟨rfl, hb⟩ := Prod.mk.inj heq
      rw [Option.some_inj.1 hb]

theorem analizadorLinea_asignarEn {a b : Texto} (hlinea : NiFinNiVariables (stringTrim i))
    (h : (strstr ['='] (stringTrim i)).isSome = true)
    (hsep : separarOperadores (stringTrim i) ['='] = ('*' :: a, some b)) :
    analizadorLinea orden i = ambos orden.argumentos (operarTexto orden a) (operarTexto orden b)
      fun p v => .llamar (.asignar p v) fun _ => .fin := by
  rw [analizadorLinea]
  simp only [hlinea.1, hlinea.2, h, hsep, Bool.false_eq_true, if_false, if_true]

theorem analizadorLinea_asignarCompartida {a b : Texto} (hlinea : NiFinNiVariables (stringTrim i))
    (h : (strstr ['='] (stringTrim i)).isSome = true)
    (hsep : separarOperadores (stringTrim i) ['='] = ('!' :: a, some b)) :
    analizadorLinea orden i = operarTexto orden b fun v =>
      .llamar (.asignarValorCompartida a v) fun _ => .fin := by
  rw [analizadorLinea]
  simp only [hlinea.1, hlinea.2, h, hsep, Bool.false_eq_true, if_false, if_true]

/-- The second character of an assignment to a variable is no letter. -/
theorem prefijo_asignacion {x : Nombre} {b r : Texto} (hb : Blancos b) {palabra : Texto}
    (hp : palabra = "end".toList ∨ palabra = "variables ".toList) :
    palabra.isPrefixOf (x.texto ++ (b ++ '=' :: r)) = false := by
  cases x with
  | letra c =>
      obtain ⟨d, resto, hd, hcd⟩ : ∃ d resto, b ++ '=' :: r = d :: resto ∧ d ≠ 'n' ∧ d ≠ 'a' := by
        cases b with
        | nil => exact ⟨'=', r, rfl, by decide, by decide⟩
        | cons d b =>
            have hblanco := hb d List.mem_cons_self
            refine ⟨d, b ++ '=' :: r, rfl, ?_, ?_⟩
            · rintro rfl
              exact absurd hblanco (by decide)
            · rintro rfl
              exact absurd hblanco (by decide)
      rw [hd]
      rcases hp with rfl | rfl
      · change ['e', 'n', 'd'].isPrefixOf (c.caracter :: d :: resto) = false
        simp [List.isPrefixOf, hcd.1.symm]
      · change ('v' :: 'a' :: "riables ".toList).isPrefixOf (c.caracter :: d :: resto) = false
        simp [List.isPrefixOf, hcd.2.symm]
  | parametro i => rcases hp with rfl | rfl <;> rfl

theorem separarOperadores_igual {a b b' t : Texto} (ha : Bordes a) (ht : Bordes t) (hno : '=' ∉ a)
    (hb : Blancos b) (hb' : Blancos b') (hi : stringTrim i = a ++ (b ++ '=' :: (b' ++ t))) :
    separarOperadores (stringTrim i) ['='] = (a, some t) ∧
      (strstr ['='] (stringTrim i)).isSome = true := by
  have hno' : '=' ∉ a ++ b := by
    rw [List.mem_append, not_or]
    exact ⟨hno, hb.notMem (by decide)⟩
  have hstr : strstr ['='] (stringTrim i) = some (a ++ b, b' ++ t) := by
    rw [hi, ← List.append_assoc]
    exact strstr_primera hno' []
  refine ⟨?_, by rw [hstr]; rfl⟩
  rw [hi]
  exact separarOperadores_escrito ha ht hno (hb.notMem (by decide)) hb hb' []

/-- An assignment to a variable. -/
theorem lee_asignar {x : Nombre} {e : Expr} {b b' : Texto} (hb : Blancos b) (hb' : Blancos b')
    (h : Escribe e t) (hi : stringTrim i = x.texto ++ (b ++ '=' :: (b' ++ t))) :
    analizadorLinea orden i = (Sentencia.asignar x e).linea orden := by
  obtain ⟨hsep, hsome⟩ := separarOperadores_igual (Atomo.variable_ x).sinSignos.bordes h.bordes
    (x.notMem (by decide)) hb hb' hi
  have hend := prefijo_asignacion (x := x) (r := b' ++ t) hb (Or.inl rfl)
  have hvar := prefijo_asignacion (x := x) (r := b' ++ t) hb (Or.inr rfl)
  rw [← hi] at hend hvar
  -- a name starts with neither of the two marks
  rw [analizadorLinea_asignar ⟨hend, hvar⟩ hsome hsep (x.cabeza (by decide) (by decide))
    (x.cabeza (by decide) (by decide)), operarTexto_escribe orden h, Sentencia.linea]
  congr 1
  funext k
  exact obtenerPosicion_nombre x

/-- An assignment to where an expression points. -/
theorem lee_asignarEn {p e : Expr} {b b' tp : Texto} (hb : Blancos b) (hb' : Blancos b')
    (hp : Escribe p tp) (h : Escribe e t)
    (hi : stringTrim i = '*' :: tp ++ (b ++ '=' :: (b' ++ t))) :
    analizadorLinea orden i = (Sentencia.asignarEn p e).linea orden := by
  obtain ⟨hsep, hsome⟩ := separarOperadores_igual (hp.bordes.cons (by decide)) h.bordes
    (List.not_mem_cons_of_ne_of_not_mem (by decide) (hp.notMem (by decide))) hb hb' hi
  rw [analizadorLinea_asignarEn ⟨by rw [hi]; rfl, by rw [hi]; rfl⟩ hsome hsep,
    operarTexto_escribe orden hp, operarTexto_escribe orden h, Sentencia.linea]

/-- An assignment to a shared variable. -/
theorem lee_asignarCompartida {g : Identificador} {e : Expr} {b b' : Texto} (hb : Blancos b)
    (hb' : Blancos b') (h : Escribe e t)
    (hi : stringTrim i = '!' :: g.texto ++ (b ++ '=' :: (b' ++ t))) :
    analizadorLinea orden i = (Sentencia.asignarCompartida g e).linea orden := by
  have hg : Escribe (.atomo (.compartida g)) ('!' :: g.texto) := .atomo (.compartida g)
  obtain ⟨hsep, hsome⟩ :=
    separarOperadores_igual hg.bordes h.bordes (hg.notMem (by decide)) hb hb' hi
  rw [analizadorLinea_asignarCompartida ⟨by rw [hi]; rfl, by rw [hi]; rfl⟩ hsome hsep,
    operarTexto_escribe orden h, Sentencia.linea]

/-- The definition of variables. -/
theorem lee_definir {xs : List Letra} {b : Texto} (hb : Blancos b) (h : EscribeVariables xs t)
    (hi : stringTrim i = "variables ".toList ++ (b ++ t)) :
    analizadorLinea orden i = (Sentencia.definir xs).linea orden := by
  have hlinea :
      analizadorLinea orden i = definirVariables (stringSplit (stringTrim (b ++ t)) ',') := by
    rw [analizadorLinea]
    simp only [hi]
    rfl
  rw [hlinea, stringTrim_izquierda h.bordes hb]
  exact definirVariables_escribe h Blancos.nil

theorem lee_print {e : Expr} {b : Texto} (hb : Blancos b) (h : Escribe e t)
    (hi : stringTrim i = "print ".toList ++ (b ++ t)) :
    analizadorLinea orden i = (Sentencia.print e).linea orden := by
  have hlinea : analizadorLinea orden i =
      operarTexto orden (stringTrim (b ++ t)) fun v => .llamar (.imprimir v) fun _ => .fin := by
    rw [analizadorLinea]
    simp only [hi, strstr_palabra "print ".toList (by decide) (sin_igual_escribe h hb)]
    rfl
  rw [hlinea, stringTrim_izquierda h.bordes hb, operarTexto_escribe orden h, Sentencia.linea]

theorem lee_retornar {e : Expr} {b : Texto} (hb : Blancos b) (h : Escribe e t)
    (hi : stringTrim i = "return".toList ++ (b ++ t)) :
    analizadorLinea orden i = (Sentencia.retornar e).linea orden := by
  have hlinea : analizadorLinea orden i =
      operarTexto orden (stringTrim (b ++ t)) fun v => .llamar (.retornar v) fun _ => .fin := by
    rw [analizadorLinea]
    simp only [hi, strstr_palabra "return".toList (by decide) (sin_igual_escribe h hb)]
    rfl
  rw [hlinea, stringTrim_izquierda h.bordes hb, operarTexto_escribe orden h, Sentencia.linea]

theorem lee_textPrint (leyenda : Leyenda)
    (hi : stringTrim i = "textPrint ".toList ++ leyenda.texto) :
    analizadorLinea orden i = (Sentencia.textPrint leyenda).linea orden := by
  rw [analizadorLinea]
  simp only [hi, strstr_palabra "textPrint ".toList (by decide) leyenda.sin_igual]
  rfl

theorem lee_goto {l : Palabra} {b : Texto} (hb : Blancos b)
    (hi : stringTrim i = "goto ".toList ++ (b ++ l.texto)) :
    analizadorLinea orden i = (Sentencia.goto l).linea orden := by
  have hlinea : analizadorLinea orden i =
      .llamar (.irAlLabel (stringTrim (b ++ l.texto))) fun _ => .fin := by
    rw [analizadorLinea]
    simp only [hi, strstr_palabra "goto ".toList (by decide) (l.sin_igual hb)]
    rfl
  rw [hlinea, stringTrim_izquierda l.bordes hb, Sentencia.linea]

theorem lee_signal {s : Palabra} {b : Texto} (hb : Blancos b)
    (hi : stringTrim i = "signal ".toList ++ (b ++ s.texto)) :
    analizadorLinea orden i = (Sentencia.signal s).linea orden := by
  have hlinea : analizadorLinea orden i =
      .llamar (.signalAnsisop (stringTrim (b ++ s.texto))) fun _ => .fin := by
    rw [analizadorLinea]
    simp only [hi, strstr_palabra "signal ".toList (by decide) (s.sin_igual hb)]
    rfl
  rw [hlinea, stringTrim_izquierda s.bordes hb, Sentencia.linea]

theorem lee_wait {s : Palabra} {b : Texto} (hb : Blancos b)
    (hi : stringTrim i = "wait ".toList ++ (b ++ s.texto)) :
    analizadorLinea orden i = (Sentencia.wait s).linea orden := by
  have hlinea : analizadorLinea orden i =
      .llamar (.waitAnsisop (stringTrim (b ++ s.texto))) fun _ => .fin := by
    rw [analizadorLinea]
    simp only [hi, strstr_palabra "wait ".toList (by decide) (s.sin_igual hb)]
    rfl
  rw [hlinea, stringTrim_izquierda s.bordes hb, Sentencia.linea]

/-- What a conditional jump has no `=` in. -/
theorem sin_igual_salto {e : Expr} {l : Palabra} {b b' : Texto} (hb : Espacios b)
    (hb' : Espacios b') (h : Escribe e t) : '=' ∉ b ++ (t ++ ' ' :: (b' ++ l.texto)) := by
  simp only [List.mem_append, List.mem_cons, not_or]
  exact ⟨hb.blancos.notMem (by decide), h.notMem (by decide), by decide,
    hb'.blancos.notMem (by decide), l.notMem (by decide)⟩

theorem lee_jnz {e : Expr} {l : Palabra} {b b' : Texto} (hb : Espacios b) (hb' : Espacios b')
    (h : Escribe e t) (ht : ' ' ∉ t)
    (hi : stringTrim i = "jnz ".toList ++ (b ++ (t ++ ' ' :: (b' ++ l.texto)))) :
    analizadorLinea orden i = (Sentencia.jnz e l).linea orden := by
  have hlinea : analizadorLinea orden i = saltoCondicional orden
      ("jnz".toList ++ ' ' :: (b ++ (t ++ ' ' :: (b' ++ l.texto)))) fun x => x != 0#32 := by
    rw [analizadorLinea]
    simp only [hi, strstr_palabra "jnz ".toList (by decide) (sin_igual_salto hb hb' h)]
    rfl
  rw [hlinea, saltoCondicional_escribe orden (by decide) hb hb' h ht, Sentencia.linea]

theorem lee_jz {e : Expr} {l : Palabra} {b b' : Texto} (hb : Espacios b) (hb' : Espacios b')
    (h : Escribe e t) (ht : ' ' ∉ t)
    (hi : stringTrim i = "jz ".toList ++ (b ++ (t ++ ' ' :: (b' ++ l.texto)))) :
    analizadorLinea orden i = (Sentencia.jz e l).linea orden := by
  have hlinea : analizadorLinea orden i = saltoCondicional orden
      ("jz".toList ++ ' ' :: (b ++ (t ++ ' ' :: (b' ++ l.texto)))) fun x => x == 0#32 := by
    rw [analizadorLinea]
    simp only [hi, strstr_palabra "jz ".toList (by decide) (sin_igual_salto hb hb' h)]
    rfl
  rw [hlinea, saltoCondicional_escribe orden (by decide) hb hb' h ht, Sentencia.linea]

theorem lee_io {d : Palabra} {n : Numero} {b b' : Texto} (hb : Espacios b) (hb' : Espacios b')
    (hi : stringTrim i = "io ".toList ++ (b ++ (d.texto ++ ' ' :: (b' ++ n.texto)))) :
    analizadorLinea orden i = (Sentencia.io d n).linea orden := by
  have hno : '=' ∉ b ++ (d.texto ++ ' ' :: (b' ++ n.texto)) := by
    simp only [List.mem_append, List.mem_cons, not_or]
    exact ⟨hb.blancos.notMem (by decide), d.notMem (by decide), by decide,
      hb'.blancos.notMem (by decide), (Escribe.atomo (.numero n)).notMem (by decide)⟩
  have hespacio : ' ' ∉ n.texto := by
    intro hmem
    exact absurd (n.digitos _ hmem) (by decide)
  have hsplit :
      stringSplit (("io ".toList ++ (b ++ (d.texto ++ ' ' :: (b' ++ n.texto)))).drop 3) ' ' =
      [d.texto, n.texto] := by
    change stringSplit (b ++ (d.texto ++ ' ' :: (b' ++ n.texto))) ' ' = _
    rw [stringSplit, tokens_separadores hb, tokens_parte d.ne_nil (d.notMem (by decide)),
      tokens_separadores hb', tokens_ultima n.ne_nil hespacio]
  rw [analizadorLinea]
  simp only [hi, strstr_palabra "io ".toList (by decide) hno, hsplit, stringTrim_bordes d.bordes,
    stringTrim_bordes n.bordes]
  rfl

theorem EscribeLlamada.sin_flecha {f : Palabra} {args : List Expr} (h : EscribeLlamada f args t) :
    '<' ∉ t := by
  have hargs {es : List Expr} {ts : List Texto} (h : EscribeArgumentos es ts) :
      '<' ∉ [','].intercalate ts := by
    induction h with
    | nil => simp
    | @cons e es t ts he hes ih =>
        cases ts with
        | nil =>
            rw [List.intercalate_singleton]
            exact he.notMem (by decide)
        | cons t' ts =>
            rw [List.intercalate_cons_cons]
            simp only [List.mem_append, List.mem_singleton, not_or]
            exact ⟨⟨he.notMem (by decide), by decide⟩, ih⟩
  cases h with
  | sola => exact f.notMem (by decide)
  | @con _ ts b b' _ _ hts hb hb' _ =>
      simp only [List.mem_append, List.mem_cons, not_or]
      exact ⟨f.notMem (by decide), hb.notMem (by decide), by decide,
        hb'.notMem (by decide), hargs hts⟩

theorem lee_llamar {f : Palabra} {args : List Expr} (h : EscribeLlamada f args t)
    (hres : Reservada t = false) (hi : stringTrim i = t) :
    analizadorLinea orden i = (Sentencia.llamar f args).linea orden := by
  subst hi
  rw [analizadorLinea_llamar hres (separarOperadores_entero h.sin_flecha _)]
  obtain ⟨hf, hargs⟩ := llamadaFuncion_escribe orden h fun k =>
    .llamar (.llamarSinRetorno (separarOperadores (stringTrim i) [' ']).1) fun _ => k
  refine Eq.trans hargs ?_
  rw [hf, Sentencia.linea]

theorem lee_llamarCon {x : Nombre} {f : Palabra} {args : List Expr} {b b' : Texto} (hb : Blancos b)
    (hb' : Blancos b') (h : EscribeLlamada f args t)
    (hres : Reservada (x.texto ++ (b ++ '<' :: '-' :: (b' ++ t))) = false)
    (hi : stringTrim i = x.texto ++ (b ++ '<' :: '-' :: (b' ++ t))) :
    analizadorLinea orden i = (Sentencia.llamarCon x f args).linea orden := by
  have hsep : separarOperadores (stringTrim i) ['<', '-'] = (x.texto, some t) := by
    rw [hi]
    exact separarOperadores_escrito (Atomo.variable_ x).sinSignos.bordes h.bordes
      (x.notMem (by decide))
      (hb.notMem (by decide)) hb hb' ['-']
  rw [analizadorLinea_llamarCon (by rw [hi]; exact hres) hsep]
  obtain ⟨hf, hargs⟩ := llamadaFuncion_escribe orden h fun k =>
    obtenerPosicion x.texto fun p =>
      .llamar (.llamarConRetorno (separarOperadores t [' ']).1 p) fun _ => k
  refine Eq.trans hargs ?_
  simp only [hf, obtenerPosicion_nombre, Sentencia.linea]

/-- **`analizadorLinea` reads in a line the statement that was written**, whatever the order in
which the operands are evaluated. -/
theorem analizadorLinea_escribe (orden : Orden) {s : Sentencia} (h : EscribeSentencia s t)
    (hi : stringTrim i = t) : analizadorLinea orden i = s.linea orden := by
  cases h with
  | fin resto =>
      rw [analizadorLinea]
      simp only [hi]
      rfl
  | definir hb h => exact lee_definir hb h hi
  | asignar hb hb' h => exact lee_asignar hb hb' h hi
  | asignarEn hb hb' hp h => exact lee_asignarEn hb hb' hp h hi
  | asignarCompartida hb hb' h => exact lee_asignarCompartida hb hb' h hi
  | print hb h => exact lee_print hb h hi
  | textPrint leyenda => exact lee_textPrint leyenda hi
  | retornar hb h => exact lee_retornar hb h hi
  | goto hb => exact lee_goto hb hi
  | jnz hb hb' h ht => exact lee_jnz hb hb' h ht hi
  | jz hb hb' h ht => exact lee_jz hb hb' h ht hi
  | signal hb => exact lee_signal hb hi
  | wait hb => exact lee_wait hb hi
  | io hb hb' => exact lee_io hb hb' hi
  | llamar h hres => exact lee_llamar h hres hi
  | llamarCon hb hb' h hres => exact lee_llamarCon hb hb' h hres hi

end Ansisop.Lenguaje
