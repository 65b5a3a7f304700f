/-
**Texts with blanks and separators.**

The line interpreter takes a line apart with `_string_trim`, `strstr` and `string_split`.  On a text
that was put together with blanks around its parts, and with a separator that does not occur in
them, the three give the parts back.

Main definitions:

* `Ansisop.Lenguaje.Blancos`, `Ansisop.Lenguaje.Bordes` — blanks, and a text that neither starts nor
  ends with one.

Main results:

* `Ansisop.Lenguaje.stringTrim_rodeado`, `Ansisop.Lenguaje.strstr_primera`,
  `Ansisop.Lenguaje.separarOperadores_escrito`, `Ansisop.Lenguaje.stringSplit_intercalate` — **the
  parts come back**.
-/

import Ansisop.Cpu.Analizador

set_option relaxedAutoImplicit false
set_option autoImplicit false

namespace Ansisop.Lenguaje

open Cpu (esEspacio stringTrim strstr separarOperadores tokens stringSplit)

/-! ### Blanks -/

/-- Blanks, as many as one likes. -/
def Blancos (texto : Texto) : Prop := ∀ c ∈ texto, esEspacio c = true

/-- **A text that neither starts nor ends with a blank**, and is not empty. -/
structure Bordes (texto : Texto) : Prop where
  primero : ∃ c resto, texto = c :: resto ∧ esEspacio c = false
  ultimo : ∃ resto c, texto = resto ++ [c] ∧ esEspacio c = false

variable {a b blancos blancos' texto texto' : Texto} {c d : Char}

theorem Blancos.nil : Blancos [] := by
  intro c hc
  cases hc

theorem Blancos.reverse (h : Blancos texto) : Blancos texto.reverse := by
  intro c hc
  exact h c (List.mem_reverse.1 hc)

theorem Blancos.notMem (h : Blancos texto) (hc : esEspacio c = false) : c ∉ texto := by
  intro hmem
  rw [h c hmem] at hc
  exact Bool.noConfusion hc

/-- A word: a text without blanks that is not empty. -/
theorem Bordes.of_forall (hne : texto ≠ []) (h : ∀ c ∈ texto, esEspacio c = false) :
    Bordes texto := by
  constructor
  · cases texto with
    | nil => exact absurd rfl hne
    | cons c resto => exact ⟨c, resto, rfl, h c List.mem_cons_self⟩
  · obtain ⟨resto, c, rfl⟩ := List.eq_nil_or_concat' texto |>.resolve_left hne
    exact ⟨resto, c, rfl, h c (by simp)⟩

theorem Bordes.ne_nil (h : Bordes texto) : texto ≠ [] := by
  obtain ⟨c, resto, rfl, -⟩ := h.primero
  exact List.cons_ne_nil _ _

/-- The first character of one text and the last one of another. -/
theorem Bordes.append (h : Bordes a) (h' : Bordes b) (medio : Texto) :
    Bordes (a ++ medio ++ b) := by
  obtain ⟨c, resto, rfl, hc⟩ := h.primero
  obtain ⟨resto', c', rfl, hc'⟩ := h'.ultimo
  exact ⟨⟨c, resto ++ medio ++ (resto' ++ [c']), rfl, hc⟩,
    ⟨c :: resto ++ medio ++ resto', c', by simp, hc'⟩⟩

theorem Bordes.cons (h : Bordes texto) (hc : esEspacio c = false) : Bordes (c :: texto) := by
  obtain ⟨resto, d, rfl, hd⟩ := h.ultimo
  exact ⟨⟨c, _, rfl, hc⟩, ⟨c :: resto, d, rfl, hd⟩⟩

/-! ### `_string_trim` -/

theorem dropWhile_blancos (h : Blancos blancos) (hc : esEspacio c = false) :
    (blancos ++ c :: texto).dropWhile esEspacio = c :: texto := by
  induction blancos with
  | nil => rw [List.nil_append, List.dropWhile_cons_of_neg (by simp [hc])]
  | cons d blancos ih =>
      rw [List.cons_append, List.dropWhile_cons_of_pos (h d List.mem_cons_self)]
      exact ih fun e he => h e (List.mem_cons_of_mem _ he)

/-- **The blanks around a text are trimmed.** -/
theorem stringTrim_rodeado (h : Bordes texto) (ha : Blancos a) (hb : Blancos b) :
    stringTrim (a ++ texto ++ b) = texto := by
  obtain ⟨c, resto, hcons, hc⟩ := h.primero
  obtain ⟨resto', d, hconcat, hd⟩ := h.ultimo
  have hprincipio : (a ++ texto ++ b).dropWhile esEspacio = texto ++ b := by
    rw [hcons, List.append_assoc, List.cons_append, dropWhile_blancos ha hc]
  have hfinal : (texto ++ b).reverse.dropWhile esEspacio = texto.reverse := by
    rw [hconcat, List.reverse_append, List.reverse_append]
    exact dropWhile_blancos hb.reverse hd
  rw [stringTrim, hprincipio, hfinal, List.reverse_reverse]

theorem stringTrim_bordes (h : Bordes texto) : stringTrim texto = texto := by
  have := stringTrim_rodeado h Blancos.nil Blancos.nil
  rwa [List.nil_append, List.append_nil] at this

/-! ### `strstr` -/

/-- **The first occurrence**, when what precedes has not even its first character. -/
theorem strstr_primera (h : c ∉ a) (separador : Texto) :
    strstr (c :: separador) (a ++ (c :: separador ++ b)) = some (a, b) := by
  induction a with
  | nil =>
      rw [List.nil_append, List.cons_append, strstr, if_pos (by simp)]
      simp
  | cons d a ih =>
      obtain ⟨hd, ha⟩ := List.ne_and_not_mem_of_not_mem_cons h
      have hno : (c :: separador).isPrefixOf (d :: (a ++ (c :: separador ++ b))) = false := by
        simp [List.isPrefixOf, hd]
      rw [List.cons_append, strstr, hno, ih ha]
      rfl

/-- There is no occurrence without its first character. -/
theorem strstr_ninguna (h : c ∉ texto) (separador : Texto) :
    strstr (c :: separador) texto = none := by
  induction texto with
  | nil => rfl
  | cons d texto ih =>
      obtain ⟨hd, htexto⟩ := List.ne_and_not_mem_of_not_mem_cons h
      have hno : (c :: separador).isPrefixOf (d :: texto) = false := by simp [List.isPrefixOf, hd]
      rw [strstr, hno, ih htexto]
      rfl

/-! ### `_separarOperadores` -/

/-- **Two texts around a separator**, with blanks before it and after it. -/
theorem separarOperadores_escrito (ha : Bordes a) (hb : Bordes b) (hc : c ∉ a) (hc' : c ∉ blancos)
    (hblancos : Blancos blancos) (hblancos' : Blancos blancos') (separador : Texto) :
    separarOperadores (a ++ (blancos ++ (c :: separador ++ (blancos' ++ b)))) (c :: separador) =
      (a, some b) := by
  have hno : c ∉ a ++ blancos := by
    rw [List.mem_append, not_or]
    exact ⟨hc, hc'⟩
  have ha' := stringTrim_rodeado ha Blancos.nil hblancos
  have hb' := stringTrim_rodeado hb hblancos' Blancos.nil
  rw [List.nil_append] at ha'
  rw [List.append_nil] at hb'
  rw [separarOperadores, ← List.append_assoc, strstr_primera hno]
  simp only [ha', hb']

theorem separarOperadores_entero (h : c ∉ texto) (separador : Texto) :
    separarOperadores texto (c :: separador) = (texto, none) := by
  rw [separarOperadores, strstr_ninguna h]

/-! ### `string_split` -/

theorem tokens_append (h : d ∉ a) (resto actual : Texto) :
    tokens d (a ++ resto) actual = tokens d resto (actual ++ a) := by
  induction a generalizing actual with
  | nil => rw [List.nil_append, List.append_nil]
  | cons c a ih =>
      obtain ⟨hc, ha⟩ := List.ne_and_not_mem_of_not_mem_cons h
      rw [List.cons_append, tokens, if_neg (Ne.symm hc), ih ha, List.append_assoc,
        List.singleton_append]

/-- A part and a separator. -/
theorem tokens_parte (hne : a ≠ []) (h : d ∉ a) (resto : Texto) :
    tokens d (a ++ d :: resto) [] = a :: tokens d resto [] := by
  rw [tokens_append h, List.nil_append, tokens, if_pos rfl, if_neg hne]

/-- The last part. -/
theorem tokens_ultima (hne : a ≠ []) (h : d ∉ a) : tokens d a [] = [a] := by
  have := tokens_append h [] []
  rwa [List.append_nil, List.nil_append, tokens, if_neg hne] at this

/-- Separators before a part. -/
theorem tokens_separadores (h : ∀ c ∈ a, c = d) (resto : Texto) :
    tokens d (a ++ resto) [] = tokens d resto [] := by
  induction a with
  | nil => rfl
  | cons c a ih =>
      rw [List.cons_append, tokens, if_pos (h c List.mem_cons_self), if_pos rfl]
      exact ih fun e he => h e (List.mem_cons_of_mem _ he)

/-- **The parts between separators**: none of them is empty. -/
theorem stringSplit_intercalate {partes : List Texto} (h : ∀ p ∈ partes, p ≠ [] ∧ d ∉ p) :
    stringSplit ([d].intercalate partes) d = partes := by
  induction partes with
  | nil => rfl
  | cons p partes ih =>
      obtain ⟨hne, hno⟩ := h p List.mem_cons_self
      have ih := ih fun q hq => h q (List.mem_cons_of_mem _ hq)
      cases partes with
      | nil =>
          rw [List.intercalate_singleton]
          exact tokens_ultima hne hno
      | cons q partes =>
          rw [List.intercalate_cons_cons, stringSplit, List.append_assoc, List.singleton_append,
            tokens_parte hne hno]
          exact congrArg (p :: ·) ih

end Ansisop.Lenguaje
