/-
**The line interpreter.**

`analizadorLinea` of the parser library recognises a line by how it starts or what it contains and
calls the primitives for it.  Its translation produces the tree of the calls.  Strings are the texts
before their NUL; a read through a null pointer (a missing operand) and a write past the ten
parameters that fit make the line undefined.

C leaves open in which order the operands of a sum, and the arguments of a call, are evaluated; the
order is a parameter.

Main definitions:

* `Ansisop.Cpu.stringTrim`, `Ansisop.Cpu.separarOperadores`, `Ansisop.Cpu.stringSplit`,
  `Ansisop.Cpu.atoi` — strings;
* `Ansisop.Cpu.operar` — the value of an operand;
* `Ansisop.Cpu.analizadorLinea` — the calls of a line.
-/

import Ansisop.Cpu.Primitivas

set_option relaxedAutoImplicit false
set_option autoImplicit false

namespace Ansisop.Cpu

/-! ### Strings -/

/-- `_esEspacio`. -/
def esEspacio (caracter : Char) : Bool :=
  caracter = ' ' || caracter = '\t' || caracter = '\x0c' || caracter = '\r' || caracter = '\x0b'

/-- `_string_trim`. -/
def stringTrim (texto : Texto) : Texto :=
  ((texto.dropWhile esEspacio).reverse.dropWhile esEspacio).reverse

/-- `strstr`, with the text before the first occurrence and the text after it. -/
def strstr (separador : Texto) : Texto → Option (Texto × Texto)
  | [] => if separador = [] then some ([], []) else none
  | c :: texto =>
      if separador.isPrefixOf (c :: texto) then some ([], (c :: texto).drop separador.length)
      else (strstr separador texto).map fun p => (c :: p.1, p.2)

/-- `_separarOperadores`. -/
def separarOperadores (texto separador : Texto) : Texto × Option Texto :=
  match strstr separador texto with
  | some (antes, despues) => (stringTrim antes, some (stringTrim despues))
  | none => (texto, none)

/-- The tokens of `strtok_r` for one separator, the current one given apart. -/
def tokens (separador : Char) : Texto → Texto → List Texto
  | [], actual => if actual = [] then [] else [actual]
  | c :: texto, actual =>
      if c = separador then
        if actual = [] then tokens separador texto [] else actual :: tokens separador texto []
      else tokens separador texto (actual ++ [c])

/-- `string_split`. -/
def stringSplit (texto : Texto) (separador : Char) : List Texto := tokens separador texto []

/-- The value of the leading digits of a text. -/
def digitos : Texto → ℕ → ℕ
  | [], n => n
  | c :: texto, n => if c.isDigit then digitos texto (10 * n + (c.toNat - 48)) else n

/-- `atoi`: out of range it gives the nearest `int`. -/
def atoi (texto : Texto) : U32 :=
  match texto.dropWhile (fun c => esEspacio c || c = '\n') with
  | '-' :: texto => BitVec.ofInt 32 (-(min (digitos texto 0) (2 ^ 31) : ℕ))
  | '+' :: texto => BitVec.ofNat 32 (min (digitos texto 0) (2 ^ 31 - 1))
  | texto => BitVec.ofNat 32 (min (digitos texto 0) (2 ^ 31 - 1))

/-- The character at a position of a string; after the last one comes the NUL. -/
def caracter (texto : Texto) (i : ℕ) : Byte :=
  match texto[i]? with
  | some c => BitVec.ofNat 8 c.toNat
  | none => 0#8

/-! ### Operands -/

/-- The orders of evaluation that a compiler chooses: whether the left operand of a sum, and the
first argument of a call, goes first. -/
structure Orden where
  operandos : Bool
  argumentos : Bool

/-- Two evaluations in the order chosen, and what follows. -/
def ambos (primero : Bool) (a b : (U32 → Linea) → Linea) (k : U32 → U32 → Linea) : Linea :=
  if primero then a fun x => b fun y => k x y else b fun y => a fun x => k x y

/-- `_obtenerPosicion`. -/
def obtenerPosicion (operador : Texto) (k : U32 → Linea) : Linea :=
  match operador with
  | '$' :: nombre => .llamar (.obtenerPosicionVariable (caracter nombre 0)) k
  | _ => .llamar (.obtenerPosicionVariable (caracter operador 0)) k

/-- `_operar`.  Every recursive call is on a shorter text, so its length is enough fuel. -/
def operar (orden : Orden) : ℕ → Texto → (U32 → Linea) → Linea
  | 0, _, _ => .indefinida
  | fuel + 1, operador, k =>
      match operador with
      | '*' :: operador => operar orden fuel operador fun v => .llamar (.dereferenciar v) k
      | _ =>
          match separarOperadores operador ['+'] with
          | (a, some b) =>
              ambos orden.operandos (operar orden fuel a) (operar orden fuel b) fun x y => k (x + y)
          | (_, none) =>
              match separarOperadores operador ['-'] with
              | (a, some b) =>
                  ambos orden.operandos (operar orden fuel a) (operar orden fuel b)
                    fun x y => k (x - y)
              | (_, none) =>
                  match operador with
                  | '&' :: operador => obtenerPosicion operador k
                  | '!' :: nombre => .llamar (.obtenerValorCompartida nombre) k
                  | c :: _ =>
                      if c.isDigit then k (atoi operador)
                      else obtenerPosicion operador fun p => .llamar (.dereferenciar p) k
                  | [] => obtenerPosicion [] fun p => .llamar (.dereferenciar p) k

/-- `_operar` with enough fuel. -/
def operarTexto (orden : Orden) (operador : Texto) (k : U32 → Linea) : Linea :=
  operar orden (operador.length + 1) operador k

/-! ### Lines -/

/-- The definition of a list of variables. -/
def definirVariables : List Texto → Linea
  | [] => .fin
  | v :: vs => .llamar (.definirVariable (caracter (stringTrim v) 0)) fun _ => definirVariables vs

/-- `_saltoCondicional`. -/
def saltoCondicional (orden : Orden) (linea : Texto) (comparacion : U32 → Bool) : Linea :=
  let operation := stringSplit linea ' '
  match operation[1]? with
  | none => .indefinida
  | some operador =>
      operarTexto orden (stringTrim operador) fun x =>
        if comparacion x then
          match operation[2]? with
          | none => .indefinida
          | some etiqueta => .llamar (.irAlLabel (stringTrim etiqueta)) fun _ => .fin
        else .fin

/-- `_obtenerParametros`: the values of the parameters, in order. -/
def obtenerParametros (orden : Orden) : List Texto → (List U32 → Linea) → Linea
  | [], k => k []
  | p :: ps, k => operarTexto orden p fun v => obtenerParametros orden ps fun vs => k (v :: vs)

/-- The definition of the anonymous parameters of a call, from the number `i` on. -/
def definirParametros : ℕ → List U32 → Linea
  | _, [] => .fin
  | i, v :: vs =>
      .llamar (.definirVariable (BitVec.ofNat 8 (48 + i))) fun p =>
        .llamar (.asignar p v) fun _ => definirParametros (i + 1) vs

/-- `_llamadaFuncion`, with what the call itself is given in continuation form. -/
def llamadaFuncion (orden : Orden) (parametrosLiteral : Option Texto) (helper : Linea → Linea) :
    Linea :=
  let parametros := (parametrosLiteral.map fun p => stringSplit p ',').getD []
  if parametros.length ≤ 10 then
    obtenerParametros orden parametros fun valores => helper (definirParametros 0 valores)
  else .indefinida

/-- `analizadorLinea`. -/
def analizadorLinea (orden : Orden) (instruccion : Texto) : Linea :=
  let linea := stringTrim instruccion
  let resto := fun (n : ℕ) => linea.drop n
  if "end".toList.isPrefixOf linea then .llamar .finalizar fun _ => .fin
  else if "variables ".toList.isPrefixOf linea then
    definirVariables (stringSplit (stringTrim (resto 10)) ',')
  else if (strstr ['='] linea).isSome then
    match separarOperadores linea ['='] with
    | (_, none) => .indefinida
    | ('!' :: nombre, some b) =>
        operarTexto orden b fun v => .llamar (.asignarValorCompartida nombre v) fun _ => .fin
    | ('*' :: a, some b) =>
        ambos orden.argumentos (operarTexto orden a) (operarTexto orden b)
          fun p v => .llamar (.asignar p v) fun _ => .fin
    | (a, some b) =>
        ambos orden.argumentos (obtenerPosicion a) (operarTexto orden b)
          fun p v => .llamar (.asignar p v) fun _ => .fin
  else if "print ".toList.isPrefixOf linea then
    operarTexto orden (stringTrim (resto 6)) fun v => .llamar (.imprimir v) fun _ => .fin
  else if "textPrint ".toList.isPrefixOf linea then
    .llamar (.imprimirTexto (resto 10)) fun _ => .fin
  else if "return".toList.isPrefixOf linea then
    operarTexto orden (stringTrim (resto 6)) fun v => .llamar (.retornar v) fun _ => .fin
  else if "goto ".toList.isPrefixOf linea then
    .llamar (.irAlLabel (stringTrim (resto 5))) fun _ => .fin
  else if "jnz ".toList.isPrefixOf linea then saltoCondicional orden linea fun x => x != 0#32
  else if "jz ".toList.isPrefixOf linea then saltoCondicional orden linea fun x => x == 0#32
  else if "signal ".toList.isPrefixOf linea then
    .llamar (.signalAnsisop (stringTrim (resto 7))) fun _ => .fin
  else if "wait ".toList.isPrefixOf linea then
    .llamar (.waitAnsisop (stringTrim (resto 5))) fun _ => .fin
  else if (strstr "io ".toList linea).isSome then
    match stringSplit (resto 3) ' ' with
    | dispositivo :: tiempo :: _ =>
        .llamar (.entrarSalida (stringTrim dispositivo) (atoi (stringTrim tiempo))) fun _ => .fin
    | _ => .indefinida
  else
    match separarOperadores linea ['<', '-'] with
    | (variable_, some llamada) =>
        let (etiqueta, parametros) := separarOperadores llamada [' ']
        llamadaFuncion orden parametros fun k =>
          obtenerPosicion variable_ fun p => .llamar (.llamarConRetorno etiqueta p) fun _ => k
    | (_, none) =>
        let (etiqueta, parametros) := separarOperadores linea [' ']
        llamadaFuncion orden parametros fun k => .llamar (.llamarSinRetorno etiqueta) fun _ => k

end Ansisop.Cpu
