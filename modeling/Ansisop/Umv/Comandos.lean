/-
**The commands of the console of the UMV.**

A line is split into words, of which the first one is the command; the handler of the command reads
its arguments by position.  A handler that asks the UMV for something has a reply buffer and a
message, and releases both at its end.  The numbers among the arguments are checked with
`bfnIsDigitString`, which is to say whether a string is made of digits only.

Main definitions:

* `Ansisop.Umv.pszfnGenerarArgumentos`, `Ansisop.Umv.szfnParametroNum`,
  `Ansisop.Umv.bfnIsDigitString`, `Ansisop.Umv.pfnConsola` and the handlers — the code;
* `Ansisop.Umv.Salida` — how a handler ends; `Ansisop.Umv.Segura` — what is asked for of a line;
* `Ansisop.Umv.Validado` — what is asked for of a numeric argument.

Main results:

* `Ansisop.Umv.consola_segura_iff` — **a line is safe exactly if** its arguments do not lead `sb`
  and `eb` to a position after the last one, or to the release of a reply that they do not have;
* `Ansisop.Umv.validado_iff` — **a numeric argument is validated exactly if** it has no digit or
  nothing else;
* `Ansisop.Umv.pfnConsola_run` — a line is a run of the UMV in which only the thread of the console
  takes steps.
-/

import Ansisop.Lib.Checked
import Ansisop.Umv.Reserva
import Ansisop.Cpu.Analizador

set_option relaxedAutoImplicit false
set_option autoImplicit false

namespace Ansisop.Umv

open Cpu (atoi stringSplit)

/-! ### Words -/

/-- `FnReempCaracterPorBlanco`. -/
def FnReempCaracterPorBlanco (szString : Texto) (cCaracter : Char) : Texto :=
  szString.map fun c => if c = cCaracter then ' ' else c

/-- `pszfnGenerarArgumentos`: the words of a line, without its last character. -/
def pszfnGenerarArgumentos (szString : Texto) : List Texto :=
  stringSplit (FnReempCaracterPorBlanco szString.dropLast '\t') ' '

/-- `szfnParametroNum`, whose result is used as a string: the position has to be one of the
words. -/
def szfnParametroNum (pszConsola : List Texto) (iNum : ℕ) : Except ℕ Texto :=
  match pszConsola[iNum]? with
  | some szParametro => .ok szParametro
  | none => .error iNum

/-- `ifnParametros`. -/
def ifnParametros (pszConsola : List Texto) : ℤ := pszConsola.length - 1

/-- `string_equals_ignore_case`. -/
def stringEqualsIgnoreCase (actual expected : Texto) : Bool :=
  actual.map Char.toLower = expected.map Char.toLower

/-- `bfnIsDigitString`. -/
def bfnIsDigitString : Texto → Bool
  | [] => false
  | c :: string => if c.isDigit then true else bfnIsDigitString string

/-- `validarVariableEsInt`. -/
def validarVariableEsInt (unParam : Texto) : Bool := bfnIsDigitString unParam

/-- The checks of some arguments, one after the other as long as they are passed. -/
def validarVariables (pszConsola : List Texto) : List ℕ → Except ℕ Bool
  | [] => .ok true
  | iNum :: posiciones => do
      if validarVariableEsInt (← szfnParametroNum pszConsola iNum) then
        validarVariables pszConsola posiciones
      else return false

/-- The value of a hexadecimal digit. -/
def digitoHexa (c : Char) : Option ℕ :=
  if c.isDigit then some (c.toNat - 48)
  else if 'a' ≤ c ∧ c ≤ 'f' then some (c.toNat - 87)
  else if 'A' ≤ c ∧ c ≤ 'F' then some (c.toNat - 55)
  else none

/-- The value of the hexadecimal digits at the start of a text. -/
def digitosHexa : Texto → ℕ → ℕ
  | [], n => n
  | c :: texto, n =>
      match digitoHexa c with
      | some d => digitosHexa texto (16 * n + d)
      | none => n

/-- `strTo_t_puntero`.  After `0x` without a digit `sscanf` does not set `num`. -/
def strToTPuntero (num : TPuntero) (string : Texto) : TPuntero :=
  if stringEqualsIgnoreCase (string.take 2) ['0', 'x'] then
    if ((string.drop 2).head?.bind digitoHexa).isSome then
      BitVec.ofNat 32 (min (digitosHexa (string.drop 2) 0) (2 ^ 32 - 1))
    else num
  else atoi string

/-! ### Handlers -/

/-- What the console writes: the state of the UMV and `RETARDO`. -/
structure Consola where
  estado : Estado
  RETARDO : U32

/-- What a handler depends on besides its line: the values of `random()`, what `num` holds when it
is not set, and the bytes of the memory after a word. -/
structure Contexto where
  random : List TPuntero
  num : TPuntero
  siguientes : ℕ → Byte

/-- **How a handler ends**: the replies that `buffer` and `operacion` have, if they were set, and
whether they are released. -/
structure Salida where
  consola : Consola
  buffer : Option Respuesta
  operacion : Option Respuesta
  liberaBuffer : Bool
  liberaOperacion : Bool

/-- A handler that asks for nothing. -/
def Salida.sinRespuesta (consola : Consola) : Salida := ⟨consola, none, none, false, false⟩

/-- The bytes at the address of a word. -/
def bytesDesde (contexto : Contexto) (palabra : Texto) (i : ℕ) : Byte :=
  if i ≤ palabra.length then Cpu.caracter palabra i
  else contexto.siguientes (i - palabra.length - 1)

/-- `fnConsolaRetardo`. -/
def fnConsolaRetardo (consola : Consola) (pszConsola : List Texto) : Except ℕ Salida := do
  let szParametro ← szfnParametroNum pszConsola 1
  if bfnIsDigitString szParametro then
    return .sinRespuesta { consola with RETARDO := atoi szParametro }
  else return .sinRespuesta consola

/-- `fnConsolaSolicBytes`. -/
def fnConsolaSolicBytes (contexto : Contexto) (consola : Consola) (pszConsola : List Texto) :
    Except ℕ Salida := do
  let pedido : Except ℕ (Option Respuesta) :=
    if 3 < ifnParametros pszConsola ∧ ifnParametros pszConsola < 6 then do
      if ← validarVariables pszConsola [1, 2, 3, 4] then
        let idProg := atoi (← szfnParametroNum pszConsola 1)
        let solicitud : SolicitudBytes :=
          { base := strToTPuntero contexto.num (← szfnParametroNum pszConsola 2)
            offset := atoi (← szfnParametroNum pszConsola 3)
            tamanio := atoi (← szfnParametroNum pszConsola 4) }
        return some (solicitarBytes consola.estado idProg solicitud)
      else return none
    -- the number of arguments is not correct
    else return none
  let buffer ← pedido
  return ⟨consola, buffer, buffer, true, true⟩

/-- `fnConsolaDump`, which changes nothing. -/
def fnConsolaDump (consola : Consola) : Except ℕ Salida := return .sinRespuesta consola

/-- `fnConsolaCompactar`. -/
def fnConsolaCompactar (B : Bloque) (consola : Consola) (pszConsola : List Texto) :
    Except ℕ Salida :=
  if ifnParametros pszConsola = 1 then return .sinRespuesta consola
  else return .sinRespuesta { consola with estado := fnCompactar B consola.estado }

/-- `fnConsolaAlgoritmo`. -/
def fnConsolaAlgoritmo (consola : Consola) (pszConsola : List Texto) : Except ℕ Salida := do
  let algoritmo ← szfnParametroNum pszConsola 1
  if stringEqualsIgnoreCase algoritmo "FF".toList then
    return .sinRespuesta { consola with estado := { consola.estado with algMem := .FF } }
  else if stringEqualsIgnoreCase algoritmo "WF".toList then
    return .sinRespuesta { consola with estado := { consola.estado with algMem := .WF } }
  else return .sinRespuesta consola

/-- `fnConsolaEnviarBytes`. -/
def fnConsolaEnviarBytes (contexto : Contexto) (consola : Consola) (pszConsola : List Texto) :
    Except ℕ Salida := do
  if ← validarVariables pszConsola [1, 3, 4] then
    if ifnParametros pszConsola = 5 then
      let idProg := atoi (← szfnParametroNum pszConsola 1)
      let stAlmacenar : AlmacenarBytes :=
        { base := strToTPuntero contexto.num (← szfnParametroNum pszConsola 2)
          offset := atoi (← szfnParametroNum pszConsola 3)
          tamanio := atoi (← szfnParametroNum pszConsola 4)
          buffer := bytesDesde contexto (← szfnParametroNum pszConsola 5) }
      let r := almacenarBytes consola.estado idProg stAlmacenar
      return ⟨{ consola with estado := r.2 }, some r.1, some r.1, true, true⟩
    else return ⟨consola, none, none, true, true⟩
  else return .sinRespuesta consola

/-- `fnConsolaCrearSegmento`.  With too few values of `random()` it has not ended. -/
def fnConsolaCrearSegmento (B : Bloque) (contexto : Contexto) (consola : Consola)
    (pszConsola : List Texto) : Except ℕ (Option Salida) := do
  let pid := atoi (← szfnParametroNum pszConsola 1)
  let tamanio := atoi (← szfnParametroNum pszConsola 2)
  return (generarSegmento B consola.estado pid tamanio contexto.random).map fun r =>
    ⟨{ consola with estado := r.2 }, some r.1, some r.1, true, true⟩

/-- `fnConsolaDestruirSegmentos`, which has no message. -/
def fnConsolaDestruirSegmentos (consola : Consola) (pszConsola : List Texto) : Except ℕ Salida := do
  let szParametro ← szfnParametroNum pszConsola 1
  if validarVariableEsInt szParametro then
    let r := eliminarSegmentos consola.estado (atoi szParametro)
    return ⟨{ consola with estado := r.2 }, some r.1, none, true, false⟩
  else return .sinRespuesta consola

/-- **A turn of the loop of `pfnConsola`**, for a line. -/
def pfnConsola (B : Bloque) (contexto : Contexto) (consola : Consola) (szConsola : Texto) :
    Except ℕ (Option Salida) :=
  let pszConsola := pszfnGenerarArgumentos szConsola
  match pszConsola with
  | [] => .ok (some (.sinRespuesta consola))
  | szComando :: _ =>
      if stringEqualsIgnoreCase szComando "retardo".toList ∧ ifnParametros pszConsola = 1 then
        (fnConsolaRetardo consola pszConsola).map some
      else if stringEqualsIgnoreCase szComando "sb".toList ∧ ifnParametros pszConsola ≠ 0 then
        (fnConsolaSolicBytes contexto consola pszConsola).map some
      else if stringEqualsIgnoreCase szComando "dump".toList then (fnConsolaDump consola).map some
      else if stringEqualsIgnoreCase szComando "compactar".toList ∧
        ifnParametros pszConsola = 0 then
        (fnConsolaCompactar B consola pszConsola).map some
      else if stringEqualsIgnoreCase szComando "alg".toList ∧ ifnParametros pszConsola = 1 then
        (fnConsolaAlgoritmo consola pszConsola).map some
      else if stringEqualsIgnoreCase szComando "eb".toList ∧ ifnParametros pszConsola ≠ 0 then
        (fnConsolaEnviarBytes contexto consola pszConsola).map some
      else if stringEqualsIgnoreCase szComando "cs".toList ∧ ifnParametros pszConsola = 2 then
        fnConsolaCrearSegmento B contexto consola pszConsola
      else if stringEqualsIgnoreCase szComando "ds".toList ∧ ifnParametros pszConsola = 1 then
        (fnConsolaDestruirSegmentos consola pszConsola).map some
      -- the command is not valid, or has another number of arguments
      else .ok (some (.sinRespuesta consola))

/-! ### What is asked for -/

/-- What is released is what was obtained. -/
def Salida.EnRegla (salida : Salida) : Prop :=
  salida.liberaBuffer = salida.buffer.isSome ∧ salida.liberaOperacion = salida.operacion.isSome

/-- **A line is safe**: its handler uses no position after the last word, and at its end it releases
a reply buffer and a message exactly if it has obtained them. -/
def Segura (r : Except ℕ (Option Salida)) : Prop :=
  ∃ salida, r = .ok salida ∧ ∀ s ∈ salida, s.EnRegla

/-- The arguments with which `sb` is safe: none, or four or five of which the first four pass the
check. -/
def ArgumentosDeSb (parametros : List Texto) : Prop :=
  parametros = [] ∨ (parametros.length = 4 ∨ parametros.length = 5) ∧
    ∀ unParam ∈ parametros.take 4, bfnIsDigitString unParam = true

/-- The arguments with which `eb` is safe: none, or five, or one that does not pass its check. -/
def ArgumentosDeEb (parametros : List Texto) : Prop :=
  parametros = [] ∨ parametros.length = 5 ∨
    ∃ i ∈ [0, 2, 3], ∃ unParam ∈ parametros[i]?, bfnIsDigitString unParam = false

/-- The argument is a decimal number throughout. -/
def Decimal (string : Texto) : Prop := string ≠ [] ∧ ∀ c ∈ string, c.isDigit = true

/-- **A numeric argument is validated**: it passes the check exactly if it is a decimal number, and
`retardo` and `ds` change nothing with any other one. -/
structure Validado (string : Texto) : Prop where
  digitos : bfnIsDigitString string = true ↔ Decimal string
  retardo : ∀ (consola : Consola) (szComando : Texto), ¬Decimal string →
    fnConsolaRetardo consola [szComando, string] = .ok (.sinRespuesta consola)
  destruir : ∀ (consola : Consola) (szComando : Texto), ¬Decimal string →
    fnConsolaDestruirSegmentos consola [szComando, string] = .ok (.sinRespuesta consola)

variable {B : Bloque} {contexto : Contexto} {consola : Consola} {szComando szConsola string : Texto}
  {parametros : List Texto}

/-! ### Numeric arguments -/

/-- **The check asks for one digit.** -/
theorem bfnIsDigitString_iff : bfnIsDigitString string = true ↔ ∃ c ∈ string, c.isDigit = true := by
  induction string with
  | nil => simp [bfnIsDigitString]
  | cons c string ih =>
      rw [bfnIsDigitString]
      split_ifs with hc
      · simp [hc]
      · simp [hc, ih]

/-- `retardo` sets `RETARDO` for an argument that passes the check. -/
theorem fnConsolaRetardo_eq (consola : Consola) (szComando string : Texto) :
    fnConsolaRetardo consola [szComando, string] = .ok (.sinRespuesta
      (if bfnIsDigitString string then { consola with RETARDO := atoi string } else consola)) := by
  show (if bfnIsDigitString string then _ else _) = _
  split_ifs <;> rfl

/-- `ds` destroys the segments of a process for an argument that passes the check. -/
theorem fnConsolaDestruirSegmentos_eq (consola : Consola) (szComando string : Texto) :
    fnConsolaDestruirSegmentos consola [szComando, string] = .ok
      (if bfnIsDigitString string then
        ⟨{ consola with estado := (eliminarSegmentos consola.estado (atoi string)).2 },
          some (eliminarSegmentos consola.estado (atoi string)).1, none, true, false⟩
      else .sinRespuesta consola) := by
  show (if bfnIsDigitString string then _ else _) = _
  split_ifs <;> rfl

/-- **A numeric argument is validated exactly if** it has no digit or only digits. -/
theorem validado_iff (string : Texto) :
    Validado string ↔ (∀ c ∈ string, c.isDigit = false) ∨ ∀ c ∈ string, c.isDigit = true := by
  constructor
  · intro h
    by_cases hdigito : ∃ c ∈ string, c.isDigit = true
    · exact Or.inr (h.digitos.1 (bfnIsDigitString_iff.2 hdigito)).2
    · exact Or.inl fun c hc => Bool.eq_false_iff.2 fun h => hdigito ⟨c, hc, h⟩
  · intro h
    have hdigitos : bfnIsDigitString string = true ↔ Decimal string := by
      rw [bfnIsDigitString_iff]
      constructor
      · rintro ⟨c, hc, hdigito⟩
        refine ⟨List.ne_nil_of_mem hc, h.resolve_left fun hno => ?_⟩
        exact absurd (hno c hc) (by simp [hdigito])
      · rintro ⟨hne, htodos⟩
        obtain ⟨c, hc⟩ := List.exists_mem_of_ne_nil string hne
        exact ⟨c, hc, htodos c hc⟩
    refine ⟨hdigitos, fun consola szComando hno => ?_, fun consola szComando hno => ?_⟩
    · rw [fnConsolaRetardo_eq, if_neg fun h => hno (hdigitos.1 h)]
    · rw [fnConsolaDestruirSegmentos_eq, if_neg fun h => hno (hdigitos.1 h)]

/-- A memory with a segment of the process 1. -/
def consolaUno : Consola := ⟨⟨.FF, fun _ => 0#8, [⟨1#32, 4#32, 100#32, 0x1000#32⟩]⟩, 0#32⟩

/-- **A string with other characters is taken for a number**: `ds` destroys the segments of the
process 1 for `1x`. -/
theorem no_validado : ¬Validado "1x".toList ∧ ¬Decimal "1x".toList ∧
    ∃ salida, fnConsolaDestruirSegmentos consolaUno ["ds".toList, "1x".toList] = .ok salida ∧
      salida.consola.estado.pSegmentos = [] := by
  have hx : 'x' ∈ "1x".toList := List.mem_cons_of_mem _ (List.mem_singleton_self _)
  have hno : ¬Decimal "1x".toList := fun h => absurd (h.2 'x' hx) (by decide)
  exact ⟨fun h => hno (h.digitos.1 rfl), hno, _, rfl, rfl⟩

/-! ### Lines -/

/-- A handler that has ended is safe if it releases what it has obtained. -/
theorem segura_ok (salida : Salida) : Segura (.ok (some salida)) ↔ salida.EnRegla :=
  ⟨fun ⟨_, h, hs⟩ => hs _ (Except.ok.inj h).symm, fun h => ⟨_, rfl, by rintro _ ⟨⟩; exact h⟩⟩

/-- A missing argument is not safe. -/
theorem not_segura_error (i : ℕ) : ¬Segura (.error i) := by
  rintro ⟨_, h, -⟩
  exact absurd h nofun

/-- A handler that asks for nothing is safe. -/
theorem segura_sinRespuesta (consola : Consola) : Segura (.ok (some (.sinRespuesta consola))) :=
  (segura_ok _).2 ⟨rfl, rfl⟩

@[simp] theorem ifnParametros_cons (szComando : Texto) (parametros : List Texto) :
    ifnParametros (szComando :: parametros) = parametros.length := by
  simp [ifnParametros]

section Checks

variable {pszConsola : List Texto} {i : ℕ} {posiciones : List ℕ} {szParametro : Texto}

/-- An argument that passes the check. -/
theorem validarVariables_pasa (hi : pszConsola[i]? = some szParametro)
    (hdigito : bfnIsDigitString szParametro = true) :
    validarVariables pszConsola (i :: posiciones) = validarVariables pszConsola posiciones := by
  rw [validarVariables, szfnParametroNum, hi]
  exact if_pos hdigito

/-- An argument that does not pass the check: those after it are not looked at. -/
theorem validarVariables_no_pasa (hi : pszConsola[i]? = some szParametro)
    (hdigito : bfnIsDigitString szParametro = false) :
    validarVariables pszConsola (i :: posiciones) = .ok false := by
  rw [validarVariables, szfnParametroNum, hi]
  exact if_neg (Bool.eq_false_iff.1 hdigito)

/-- A missing argument. -/
theorem validarVariables_falta (hi : pszConsola[i]? = none) :
    validarVariables pszConsola (i :: posiciones) = .error i := by
  rw [validarVariables, szfnParametroNum, hi]
  rfl

/-- **The checks**, of arguments that are there. -/
theorem validarVariables_eq (h : ∀ i ∈ posiciones, i < pszConsola.length) :
    validarVariables pszConsola posiciones =
      .ok (posiciones.all fun i => bfnIsDigitString (pszConsola.getD i [])) := by
  induction posiciones with
  | nil => rfl
  | cons i posiciones ih =>
      have hi := h i List.mem_cons_self
      have hparametro : pszConsola[i]? = some (pszConsola.getD i []) := by
        rw [List.getElem?_eq_getElem hi, List.getD_eq_getElem _ _ hi]
      rw [List.all_cons]
      cases hdigito : bfnIsDigitString (pszConsola.getD i []) with
      | true =>
          rw [validarVariables_pasa hparametro hdigito, ih fun j hj =>
            h j (List.mem_cons_of_mem _ hj), Bool.true_and]
      | false => rw [validarVariables_no_pasa hparametro hdigito, Bool.false_and]

end Checks

/-- **`sb` with arguments** is safe if they are four or five and the first four pass the check. -/
theorem segura_solicBytes (hne : parametros ≠ []) :
    Segura ((fnConsolaSolicBytes contexto consola (szComando :: parametros)).map some) ↔
      ArgumentosDeSb parametros := by
  rw [ArgumentosDeSb, or_iff_right hne, fnConsolaSolicBytes, ifnParametros_cons]
  by_cases hn : parametros.length = 4 ∨ parametros.length = 5
  · obtain ⟨a, b, c, d, resto, rfl⟩ : ∃ a b c d resto, parametros = a :: b :: c :: d :: resto := by
      match parametros, hn with
      | a :: b :: c :: d :: resto, _ => exact ⟨a, b, c, d, resto, rfl⟩
    have hvalidar : validarVariables (szComando :: a :: b :: c :: d :: resto) [1, 2, 3, 4] =
        .ok ([a, b, c, d].all bfnIsDigitString) := validarVariables_eq (by simp)
    rw [if_pos (by omega), hvalidar, and_iff_right hn, ← List.all_eq_true]
    cases hdigitos : [a, b, c, d].all bfnIsDigitString with
    | true => exact iff_of_true ((segura_ok _).2 ⟨rfl, rfl⟩) hdigitos
    | false =>
        refine iff_of_false (fun h => ?_) (Bool.eq_false_iff.1 hdigitos)
        exact absurd ((segura_ok _).1 h).1 nofun
  · rw [if_neg (by omega)]
    refine iff_of_false (fun h => ?_) fun h => hn h.1
    exact absurd ((segura_ok _).1 h).1 nofun

/-- **`eb` with arguments** is safe if they are five, or one of those that it checks does not
pass. -/
theorem segura_enviarBytes (hne : parametros ≠ []) :
    Segura ((fnConsolaEnviarBytes contexto consola (szComando :: parametros)).map some) ↔
      ArgumentosDeEb parametros := by
  have hlength : parametros.length ≠ 0 := by simpa using hne
  rw [ArgumentosDeEb, or_iff_right hne, fnConsolaEnviarBytes, ifnParametros_cons]
  simp only [List.exists_mem_cons_iff, List.not_mem_nil, false_and, exists_false, or_false]
  -- the arguments are looked at one after the other, as long as they pass the check
  cases h₁ : parametros[0]? with
  | none => exact absurd (List.getElem?_eq_none_iff.1 h₁) (by omega)
  | some a =>
  cases ha : bfnIsDigitString a with
  | false =>
      rw [validarVariables_no_pasa (show (szComando :: parametros)[1]? = some a from h₁) ha]
      exact iff_of_true (segura_sinRespuesta _) (Or.inr (Or.inl ⟨a, rfl, ha⟩))
  | true =>
  rw [validarVariables_pasa (show (szComando :: parametros)[1]? = some a from h₁) ha]
  cases h₃ : parametros[2]? with
  | none =>
      have hlen := List.getElem?_eq_none_iff.1 h₃
      rw [validarVariables_falta (show (szComando :: parametros)[3]? = none from h₃),
        List.getElem?_eq_none (show parametros.length ≤ 3 by omega)]
      exact iff_of_false (not_segura_error 3) (by simp [ha]; omega)
  | some c =>
  cases hc : bfnIsDigitString c with
  | false =>
      rw [validarVariables_no_pasa (show (szComando :: parametros)[3]? = some c from h₃) hc]
      exact iff_of_true (segura_sinRespuesta _) (Or.inr (Or.inr (Or.inl ⟨c, rfl, hc⟩)))
  | true =>
  rw [validarVariables_pasa (show (szComando :: parametros)[3]? = some c from h₃) hc]
  cases h₄ : parametros[3]? with
  | none =>
      have hlen := List.getElem?_eq_none_iff.1 h₄
      rw [validarVariables_falta (show (szComando :: parametros)[4]? = none from h₄)]
      exact iff_of_false (not_segura_error 4) (by simp [ha, hc]; omega)
  | some d =>
  cases hd : bfnIsDigitString d with
  | false =>
      rw [validarVariables_no_pasa (show (szComando :: parametros)[4]? = some d from h₄) hd]
      exact iff_of_true (segura_sinRespuesta _) (Or.inr (Or.inr (Or.inr ⟨d, rfl, hd⟩)))
  | true =>
  rw [validarVariables_pasa (show (szComando :: parametros)[4]? = some d from h₄) hd]
  by_cases hn : parametros.length = 5
  · obtain ⟨p₁, p₂, p₃, p₄, p₅, rfl⟩ : ∃ p₁ p₂ p₃ p₄ p₅, parametros = [p₁, p₂, p₃, p₄, p₅] := by
      match parametros, hn with
      | [p₁, p₂, p₃, p₄, p₅], _ => exact ⟨p₁, p₂, p₃, p₄, p₅, rfl⟩
    exact iff_of_true ((segura_ok _).2 ⟨rfl, rfl⟩) (Or.inl rfl)
  · have hno : ((parametros.length : ℕ) : ℤ) ≠ 5 := by omega
    simp only [validarVariables, if_neg hno]
    refine iff_of_false (fun h => ?_) (by simp [ha, hc, hd, hn])
    exact absurd ((segura_ok _).1 h).1 nofun

/-- A handler of one argument that it has. -/
theorem segura_unParametro (hn : parametros.length = 1) :
    Segura ((fnConsolaRetardo consola (szComando :: parametros)).map some) ∧
      Segura ((fnConsolaAlgoritmo consola (szComando :: parametros)).map some) ∧
      Segura ((fnConsolaDestruirSegmentos consola (szComando :: parametros)).map some) := by
  obtain ⟨string, rfl⟩ := List.length_eq_one_iff.1 hn
  refine ⟨?_, ?_, ?_⟩
  · rw [fnConsolaRetardo_eq]
    exact segura_sinRespuesta _
  · show Segura ((if stringEqualsIgnoreCase string _ then _ else _ : Except ℕ Salida).map some)
    split_ifs <;> exact segura_sinRespuesta _
  · rw [fnConsolaDestruirSegmentos_eq]
    refine (segura_ok _).2 ?_
    split_ifs <;> exact ⟨rfl, rfl⟩

/-- `cs` with its two arguments. -/
theorem segura_crearSegmento (hn : parametros.length = 2) :
    Segura (fnConsolaCrearSegmento B contexto consola (szComando :: parametros)) := by
  obtain ⟨pid, tamanio, rfl⟩ := List.length_eq_two.1 hn
  refine ⟨_, rfl, fun s hs => ?_⟩
  obtain ⟨r, -, rfl⟩ := Option.map_eq_some_iff.1 hs
  exact ⟨rfl, rfl⟩

/-- **A line is safe exactly if** its command is neither `sb` nor `eb`, or it has their
arguments. -/
theorem consola_segura_iff (B : Bloque) (contexto : Contexto) (consola : Consola)
    {szConsola szComando : Texto} {parametros : List Texto}
    (hpalabras : pszfnGenerarArgumentos szConsola = szComando :: parametros) :
    Segura (pfnConsola B contexto consola szConsola) ↔
      (stringEqualsIgnoreCase szComando "sb".toList = true → ArgumentosDeSb parametros) ∧
        (stringEqualsIgnoreCase szComando "eb".toList = true → ArgumentosDeEb parametros) := by
  -- the command is no other one
  have hotro {comando comando' : Texto} (h : stringEqualsIgnoreCase szComando comando = true)
      (hne : stringEqualsIgnoreCase comando comando' = false) :
      ¬stringEqualsIgnoreCase szComando comando' = true := by
    rw [stringEqualsIgnoreCase, decide_eq_true_iff] at h
    rw [stringEqualsIgnoreCase, decide_eq_false_iff_not] at hne
    rwa [stringEqualsIgnoreCase, decide_eq_true_iff, h]
  have hnada {comando : Texto} (h : stringEqualsIgnoreCase szComando comando = true)
      (hsb : stringEqualsIgnoreCase comando "sb".toList = false)
      (heb : stringEqualsIgnoreCase comando "eb".toList = false) :
      (stringEqualsIgnoreCase szComando "sb".toList = true → ArgumentosDeSb parametros) ∧
        (stringEqualsIgnoreCase szComando "eb".toList = true → ArgumentosDeEb parametros) :=
    ⟨fun h' => absurd h' (hotro h hsb), fun h' => absurd h' (hotro h heb)⟩
  have hvacia : parametros = [] ↔ ¬((parametros.length : ℕ) : ℤ) ≠ 0 := by
    rw [not_not, Int.natCast_eq_zero, List.length_eq_zero_iff]
  simp only [pfnConsola, hpalabras, ifnParametros_cons]
  split_ifs with hretardo hsb hdump hcompactar halg heb hcs hds
  · exact iff_of_true (segura_unParametro (by omega)).1 (hnada hretardo.1 (by decide) (by decide))
  · rw [segura_solicBytes (fun h => hvacia.1 h hsb.2)]
    exact ⟨fun h => ⟨fun _ => h, fun h' => absurd h' (hotro hsb.1 (by decide))⟩, fun h => h.1 hsb.1⟩
  · exact iff_of_true (segura_sinRespuesta _) (hnada hdump (by decide) (by decide))
  · refine iff_of_true ?_ (hnada hcompactar.1 (by decide) (by decide))
    rw [fnConsolaCompactar]
    split_ifs <;> exact segura_sinRespuesta _
  · exact iff_of_true (segura_unParametro (by omega)).2.1 (hnada halg.1 (by decide) (by decide))
  · rw [segura_enviarBytes (fun h => hvacia.1 h heb.2)]
    exact ⟨fun h => ⟨fun h' => absurd h' (hotro heb.1 (by decide)), fun _ => h⟩, fun h => h.2 heb.1⟩
  · exact iff_of_true (segura_crearSegmento (by omega)) (hnada hcs.1 (by decide) (by decide))
  · exact iff_of_true (segura_unParametro (by omega)).2.2 (hnada hds.1 (by decide) (by decide))
  · refine iff_of_true (segura_sinRespuesta _) ⟨fun h => ?_, fun h => ?_⟩
    · exact Or.inl (hvacia.2 fun hn => hsb ⟨h, hn⟩)
    · exact Or.inl (hvacia.2 fun hn => heb ⟨h, hn⟩)

/-- `sb` with four numbers is safe. -/
theorem consola_segura_sb : Segura (pfnConsola bloque16 ⟨[], 0#32, fun _ => 0#8⟩ consolaUno
    "sb 1 100 0 4\n".toList) :=
  (consola_segura_iff bloque16 ⟨[], 0#32, fun _ => 0#8⟩ consolaUno (show pszfnGenerarArgumentos
    "sb 1 100 0 4\n".toList = "sb".toList :: ["1".toList, "100".toList, "0".toList, "4".toList] by
    decide)).2
    ⟨fun _ => Or.inr (by decide), fun h => absurd h (by decide)⟩

/-- **Lines that are not safe**: `sb` with one argument releases a reply that it does not have, and
`eb` with one argument uses the third one. -/
theorem no_consola_segura :
    ¬Segura (pfnConsola bloque16 ⟨[], 0#32, fun _ => 0#8⟩ consolaUno "sb 1\n".toList) ∧
    ¬Segura (pfnConsola bloque16 ⟨[], 0#32, fun _ => 0#8⟩ consolaUno "eb 1\n".toList) := by
  constructor
  · rintro ⟨salida, h, hs⟩
    obtain rfl :=
      Except.ok.inj (show (.ok (some (Salida.mk consolaUno none none true true)) : Except ℕ _) =
      .ok salida from h)
    exact absurd (hs _ rfl).1 (by decide)
  · rintro ⟨salida, h, -⟩
    exact absurd (show Except.error 3 = Except.ok salida from h) nofun

/-! ### The console in the system -/

/-- **The thread of the console leads the UMV to a state**, alone and without being left in
`generarSegmento`. -/
def Lleva (B : Bloque) (s : Sistema) (h : ℕ) (estado : Estado) : Prop :=
  ∃ tr, Lts.Run (Paso B) s tr (s.con estado h .libre) ∧ ∀ e ∈ tr, e.hilo = h

variable {s : Sistema} {h : ℕ} {salida : Salida} {pszConsola : List Texto}

theorem lleva_nada (hfase : s.fase h = .libre) : Lleva B s h s.estado := by
  refine ⟨[], ?_, by simp⟩
  rw [Sistema.con, ← hfase, Function.update_eq_self]
  exact Lts.Run.nil

theorem lleva_paso {seccion : Seccion} {respuesta : Option Respuesta} {estado : Estado}
    (hpaso : Paso B s ⟨h, seccion, respuesta⟩ (s.con estado h .libre)) : Lleva B s h estado :=
  ⟨_, Lts.Run.single hpaso, by simp⟩

/-- **`generarSegmento` without interference** is one critical section, or three. -/
theorem lleva_generarSegmento (hfase : s.fase h = .libre) {pid : TIdPrograma} {tamanio : U32}
    {random : List TPuntero} {r : Respuesta × Estado}
    (hr : generarSegmento B s.estado pid tamanio random = some r) : Lleva B s h r.2 := by
  obtain ⟨tr, sec, hrun, hhilo⟩ := run_generarSegmento hfase hr
  refine ⟨_, hrun, fun e he => ?_⟩
  rcases List.mem_append.1 he with he | he
  · exact hhilo e he
  · rw [List.mem_singleton.1 he]

/-- `sb` changes nothing. -/
theorem fnConsolaSolicBytes_consola
    (hsalida : fnConsolaSolicBytes contexto consola pszConsola = .ok salida) :
    salida.consola = consola := by
  obtain ⟨buffer, -, heq⟩ := Checked.bind_eq_ok.1 hsalida
  rw [← Except.ok.inj heq]

/-- `eb` stores bytes, or changes nothing. -/
theorem lleva_enviarBytes (hfase : s.fase h = .libre) (hestado : consola.estado = s.estado)
    (hsalida : fnConsolaEnviarBytes contexto consola pszConsola = .ok salida) :
    Lleva B s h salida.consola.estado := by
  obtain ⟨valido, -, hsalida⟩ := Checked.bind_eq_ok.1 hsalida
  split_ifs at hsalida
  · obtain ⟨p₁, -, hsalida⟩ := Checked.bind_eq_ok.1 hsalida
    obtain ⟨p₂, -, hsalida⟩ := Checked.bind_eq_ok.1 hsalida
    obtain ⟨p₃, -, hsalida⟩ := Checked.bind_eq_ok.1 hsalida
    obtain ⟨p₄, -, hsalida⟩ := Checked.bind_eq_ok.1 hsalida
    obtain ⟨p₅, -, hsalida⟩ := Checked.bind_eq_ok.1 hsalida
    rw [← Except.ok.inj hsalida, hestado]
    exact lleva_paso (.almacenar hfase)
  · rw [← Except.ok.inj hsalida, hestado]
    exact lleva_nada hfase
  · rw [← Except.ok.inj hsalida, Salida.sinRespuesta, hestado]
    exact lleva_nada hfase

/-- `alg` sets the algorithm, or changes nothing. -/
theorem lleva_algoritmo (hfase : s.fase h = .libre) (hestado : consola.estado = s.estado)
    (hsalida : fnConsolaAlgoritmo consola pszConsola = .ok salida) :
    Lleva B s h salida.consola.estado := by
  obtain ⟨algoritmo, -, hsalida⟩ := Checked.bind_eq_ok.1 hsalida
  split_ifs at hsalida
  · rw [← Except.ok.inj hsalida, hestado]
    exact lleva_paso (.consolaAlgoritmo hfase)
  · rw [← Except.ok.inj hsalida, hestado]
    exact lleva_paso (.consolaAlgoritmo hfase)
  · rw [← Except.ok.inj hsalida, Salida.sinRespuesta, hestado]
    exact lleva_nada hfase

/-- `ds` destroys the segments of a process, or changes nothing. -/
theorem lleva_destruirSegmentos (hfase : s.fase h = .libre) (hestado : consola.estado = s.estado)
    (hsalida : fnConsolaDestruirSegmentos consola pszConsola = .ok salida) :
    Lleva B s h salida.consola.estado := by
  obtain ⟨szParametro, -, hsalida⟩ := Checked.bind_eq_ok.1 hsalida
  split_ifs at hsalida
  · rw [← Except.ok.inj hsalida, hestado]
    exact lleva_paso (.eliminar hfase)
  · rw [← Except.ok.inj hsalida, Salida.sinRespuesta, hestado]
    exact lleva_nada hfase

/-- `retardo` does not change the state of the UMV. -/
theorem fnConsolaRetardo_estado (hsalida : fnConsolaRetardo consola pszConsola = .ok salida) :
    salida.consola.estado = consola.estado := by
  obtain ⟨szParametro, -, hsalida⟩ := Checked.bind_eq_ok.1 hsalida
  split_ifs at hsalida <;> rw [← Except.ok.inj hsalida] <;> rfl

/-- **A line of the console is a run of the UMV** in which only the thread of the console takes
steps, so that what holds of every run of the UMV holds of its commands. -/
theorem pfnConsola_run (hfase : s.fase h = .libre) (hestado : consola.estado = s.estado)
    (hsalida : pfnConsola B contexto consola szConsola = .ok (some salida)) :
    Lleva B s h salida.consola.estado := by
  have hnada : Lleva B s h consola.estado := hestado ▸ lleva_nada hfase
  have hfin {x : Except ℕ Salida} (hx : x.map some = .ok (some salida)) : x = .ok salida := by
    obtain ⟨salida', hx, heq⟩ := Checked.map_eq_ok.1 hx
    rw [hx, Option.some.inj heq]
  rw [pfnConsola] at hsalida
  split at hsalida
  · rw [← Option.some.inj (Except.ok.inj hsalida)]
    exact hnada
  · split_ifs at hsalida
    · rwa [fnConsolaRetardo_estado (hfin hsalida)]
    · rwa [fnConsolaSolicBytes_consola (hfin hsalida)]
    · rw [← Except.ok.inj (hfin hsalida)]
      exact hnada
    · have hcompactar := hfin hsalida
      rw [fnConsolaCompactar] at hcompactar
      split_ifs at hcompactar
      · rw [← Except.ok.inj hcompactar]
        exact hnada
      · rw [← Except.ok.inj hcompactar, Salida.sinRespuesta, hestado]
        exact lleva_paso (.consolaCompactar hfase)
    · exact lleva_algoritmo hfase hestado (hfin hsalida)
    · exact lleva_enviarBytes hfase hestado (hfin hsalida)
    · obtain ⟨pid, -, hcrear⟩ := Checked.bind_eq_ok.1 hsalida
      obtain ⟨tamanio, -, hcrear⟩ := Checked.bind_eq_ok.1 hcrear
      obtain ⟨r, hr, heq⟩ := Option.map_eq_some_iff.1 (Except.ok.inj hcrear)
      rw [← heq]
      rw [hestado] at hr
      exact lleva_generarSegmento hfase hr
    · exact lleva_destruirSegmentos hfase hestado (hfin hsalida)
    · rw [← Option.some.inj (Except.ok.inj hsalida)]
      exact hnada

end Ansisop.Umv
