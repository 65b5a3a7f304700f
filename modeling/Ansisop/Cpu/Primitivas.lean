/-
**The AnSISOP primitives.**

The line interpreter of the parser library calls the primitives of `funcionesAnsisop.c`, one after
the other.  A line is then a tree: the primitive that it calls first, and what it does with the
result.

A primitive starts with a line for the log, which it puts into a buffer of two hundred bytes.  The
lines with names and texts of the script are part of the model, since these may be too long, or look
like a format; those with numbers only always fit and have no conversions.

Main definitions:

* `Ansisop.Cpu.Primitiva`, `Ansisop.Cpu.Primitiva.registro` — a call of a primitive, and its line
  for the log;
* `Ansisop.Cpu.definirVariable`, …, `Ansisop.Cpu.signalAnsisop` — the sixteen primitives;
* `Ansisop.Cpu.ejecutar` — what a call does;
* `Ansisop.Cpu.Linea`, `Ansisop.Cpu.interpretar` — the calls of a line.
-/

import Ansisop.Commons.Log
import Ansisop.Cpu.Maquina

set_option relaxedAutoImplicit false
set_option autoImplicit false

namespace Ansisop.Cpu

open Commons (logLevelDebug Registrable registrar_eq_some_iff decimal sinConversiones_append
  sinConversiones_of_append)

/-! ### Labels -/

/-- `tolower` on ASCII letters. -/
def minuscula (c : Byte) : Byte := if 65#8 ≤ c ∧ c ≤ 90#8 then c + 32#8 else c

/-- `strncasecmp(…, …, n) == 0` on two strings given without their NUL. -/
def strncasecmp (nombre objetivo : List Byte) (n : ℕ) : Bool :=
  (nombre.map minuscula ++ [0#8]).take n == (objetivo.map minuscula ++ [0#8]).take n

/-- The loop of `metadata_buscar_etiqueta` over the bytes of the index that remain.  A label is a
name, a NUL and four bytes with its instruction; the code returns the first of the four, as a signed
`char`.  Each turn moves on by five bytes or more, so the length of the index is enough fuel. -/
def buscarEtiqueta (objetivo : List Byte) : ℕ → List Byte → U32
  | 0, _ => -1
  | _ + 1, [] => -1
  | fuel + 1, etiquetas =>
      let nombre := etiquetas.takeWhile (· ≠ 0#8)
      if strncasecmp nombre objetivo etiquetas.length then
        (etiquetas.getD (nombre.length + 1) 0#8).signExtend 32
      else buscarEtiqueta objetivo fuel (etiquetas.drop (nombre.length + 1 + 4))

/-- The bytes of a text. -/
def bytesDeTexto (texto : Texto) : List Byte := texto.map fun c => BitVec.ofNat 8 c.toNat

/-- `metadata_buscar_etiqueta`. -/
def metadataBuscarEtiqueta (objetivo : Texto) (etiquetas : List Byte) (etiquetasSize : U32) : U32 :=
  buscarEtiqueta (bytesDeTexto objetivo) (etiquetasSize.toNat + 1)
    (etiquetas.take etiquetasSize.toNat)

/-! ### Calls, and their lines for the log -/

/-- A call of a primitive. -/
inductive Primitiva
  | definirVariable (identificador_variable : Byte)
  | obtenerPosicionVariable (identificador_variable : Byte)
  | dereferenciar (direccion_variable : TPuntero)
  | asignar (direccion_variable : TPuntero) (valor : U32)
  | irAlLabel (etiqueta : Texto)
  | llamarSinRetorno (etiqueta : Texto)
  | llamarConRetorno (etiqueta : Texto) (donde_retornar : TPuntero)
  | finalizar
  | retornar (retorno : U32)
  | obtenerValorCompartida (nombre : Texto)
  | asignarValorCompartida (nombre : Texto) (valor : U32)
  | imprimir (valor_mostrar : U32)
  | imprimirTexto (texto : Texto)
  | entrarSalida (dispositivo : Texto) (tiempo : U32)
  | waitAnsisop (identificador_semaforo : Texto)
  | signalAnsisop (identificador_semaforo : Texto)
deriving DecidableEq

/-- `sizeof(bufferLog)`. -/
def sizeBufferLog : ℕ := 200

/-- The line for the log that a call starts with, if there is a name or a text of the script in
it. -/
def Primitiva.registro : Primitiva → Option Texto
  | .definirVariable id => some ("Definir variable:".toList ++ [Char.ofNat id.toNat])
  | .obtenerPosicionVariable id => some ("Obtener variable:".toList ++ [Char.ofNat id.toNat])
  | .irAlLabel etiqueta => some ("Ir a la etiqueta:".toList ++ etiqueta)
  | .llamarSinRetorno etiqueta => some ("Llamar sin retornor a la etiqueta:".toList ++ etiqueta)
  | .llamarConRetorno etiqueta donde_retornar =>
      some ("Llamar con retorno a la etiqueta:".toList ++ etiqueta ++ " para retornar en:".toList ++
        decimal donde_retornar)
  | .obtenerValorCompartida nombre => some ("Obtener variable compartida:".toList ++ nombre)
  | .asignarValorCompartida nombre valor =>
      some ("Obtener variable compartida:".toList ++ nombre ++ " y su valor:".toList ++
        decimal valor)
  | .imprimirTexto texto => some texto
  | .entrarSalida dispositivo tiempo =>
      some ("E/S del dispositivo:".toList ++ dispositivo ++ " con tiempo:".toList ++ decimal tiempo)
  | .waitAnsisop semaforo => some ("wait semaforo:".toList ++ semaforo)
  | .signalAnsisop semaforo => some ("signal semaforo:".toList ++ semaforo)
  | _ => none

variable {σ : Type*} (E : Entorno σ)

/-- `sprintf` of a text into `bufferLog`, and `bufferLog` to the log of the CPU. -/
def Entorno.registrarTexto (level : ℕ) (texto : Texto) : Option Unit :=
  Commons.registrar sizeBufferLog E.lvl level texto

/-- A text that the CPU can log. -/
def Entorno.RegistraTexto (level : ℕ) (texto : Texto) : Prop :=
  Registrable sizeBufferLog E.lvl level texto

/-- The line of a call, to the log. -/
def Entorno.registrar (p : Primitiva) : Option Unit :=
  match p.registro with
  | some texto => E.registrarTexto logLevelDebug texto
  | none => some ()

/-- **The line of a call can be logged.** -/
def Entorno.Registra (p : Primitiva) : Prop :=
  ∀ texto, p.registro = some texto → E.RegistraTexto logLevelDebug texto

theorem Entorno.registrarTexto_eq_some_iff {level : ℕ} {texto : Texto} :
    E.registrarTexto level texto = some () ↔ E.RegistraTexto level texto :=
  registrar_eq_some_iff

theorem Entorno.registrar_eq_some_iff {p : Primitiva} : E.registrar p = some () ↔ E.Registra p := by
  rw [Entorno.registrar, Entorno.Registra]
  cases p.registro with
  | some texto => simp [E.registrarTexto_eq_some_iff]
  | none => simp

theorem Entorno.registrar_isSome {p : Primitiva} : (E.registrar p).isSome = true ↔
    E.Registra p := by
  rw [← E.registrar_eq_some_iff]
  cases E.registrar p with
  | some _ => simp
  | none => simp

/-- The lines with numbers only. -/
theorem Entorno.registra_of_none {p : Primitiva} (h : p.registro = none) : E.Registra p := by
  intro texto htexto
  rw [h] at htexto
  exact absurd htexto (by simp)

/-- What follows the line of a call. -/
theorem Entorno.registrar_map {α : Type*} {p : Primitiva} {f : Unit → α} {r : α} :
    (E.registrar p).map f = some r ↔ E.Registra p ∧ f () = r := by
  rw [Option.map_eq_some_iff, ← E.registrar_eq_some_iff]
  exact ⟨fun ⟨_, h, hf⟩ => ⟨h, hf⟩, fun ⟨h, hf⟩ => ⟨(), h, hf⟩⟩

theorem Entorno.registrar_bind {α : Type*} {p : Primitiva} {f : Unit → Option α} {r : α} :
    (E.registrar p).bind f = some r ↔ E.Registra p ∧ f () = some r := by
  rw [Option.bind_eq_some_iff, ← E.registrar_eq_some_iff]
  exact ⟨fun ⟨_, h, hf⟩ => ⟨h, hf⟩, fun ⟨h, hf⟩ => ⟨(), h, hf⟩⟩

theorem Entorno.registrar_bind_isSome {α : Type*} {p : Primitiva} {f : Unit → Option α} :
    ((E.registrar p).bind f).isSome = true ↔ E.Registra p ∧ (f ()).isSome = true := by
  simp only [Option.isSome_iff_exists, E.registrar_bind, exists_and_left]

/-! ### The primitives -/

/-- `definirVariable`: the name and the four bytes that follow the parameter in memory go to the top
of the stack. -/
def definirVariable (identificador_variable : Byte) (m : Maquina σ) :
    Option (TPuntero × Maquina σ) :=
  (E.registrar (.definirVariable identificador_variable)).map fun () =>
    let (basura, m) := m.basura E
    let pcb := m.estado.pcb
    let buffer := fun i => if i = 0 then identificador_variable else Words.byteAt basura (i - 1)
    match m.almacenar E ⟨pcb.segmentoStack, pcb.cursorStack - pcb.segmentoStack, 5#32, buffer⟩ with
    | (.ok _, m) =>
        let punteroVariable := pcb.cursorStack + 1#32
        let m := m.conDiccionario
          (dictionaryPut m.estado.diccionarioVariables identificador_variable punteroVariable)
        (punteroVariable, m.conPcb { pcb with
          tamanioContexto := pcb.tamanioContexto + 1#32
          cursorStack := pcb.cursorStack + 5#32 })
    | (.error texto, m) => (0#32, excepcionSolicitud E m texto)

/-- `obtenerPosicionVariable`.  It reads through the pointer that the dictionary returns, which is
null for a name that is not there. -/
def obtenerPosicionVariable (identificador_variable : Byte) (m : Maquina σ) :
    Option (TPuntero × Maquina σ) :=
  (E.registrar (.obtenerPosicionVariable identificador_variable)).bind fun () =>
    (dictionaryGet m.estado.diccionarioVariables identificador_variable).map fun p => (p, m)

/-- `dereferenciar`. -/
def dereferenciar (direccion_variable : TPuntero) (m : Maquina σ) : U32 × Maquina σ :=
  let pcb := m.estado.pcb
  match m.solicitar E ⟨pcb.segmentoStack, direccion_variable - pcb.segmentoStack, 4#32⟩ with
  | (.ok data, m) => (palabra data 0, m)
  | (.error texto, m) => (0#32, excepcionSolicitud E m texto)

/-- `asignar`. -/
def asignar (direccion_variable : TPuntero) (valor : U32) (m : Maquina σ) : Maquina σ :=
  let pcb := m.estado.pcb
  match m.almacenar E ⟨pcb.segmentoStack, direccion_variable - pcb.segmentoStack, 4#32,
      Words.byteAt valor⟩ with
  | (.ok _, m) => m
  | (.error texto, m) => excepcionSolicitud E m texto

/-- `irAlLabel`. -/
def irAlLabel (etiqueta : Texto) (m : Maquina σ) : Option (Maquina σ) :=
  (E.registrar (.irAlLabel etiqueta)).map fun () =>
    let pcb := m.estado.pcb
    m.conPcb { pcb with
      programCounter :=
        metadataBuscarEtiqueta etiqueta m.estado.bloqueEtiquetas pcb.tamanioEtiqueta }

/-- What a jump does when the name can be logged. -/
theorem irAlLabel_of_registra {E : Entorno σ} {etiqueta : Texto}
    (h : E.Registra (.irAlLabel etiqueta)) (m : Maquina σ) :
    irAlLabel E etiqueta m = some (m.conPcb { m.estado.pcb with
      programCounter :=
        metadataBuscarEtiqueta etiqueta m.estado.bloqueEtiquetas m.estado.pcb.tamanioEtiqueta }) :=
  E.registrar_map.2 ⟨h, rfl⟩

/-- The bytes of some words, one after the other, as the buffer of a store. -/
def bufferPalabras (ws : List U32) (i : ℕ) : Byte := (serializarPalabras ws).getD i 0#8

/-- What `llamarSinRetorno` and `llamarConRetorno` share: the words of the header of the new context
go to the top of the stack, the dictionary is emptied and the jump is made. -/
def llamar (etiqueta : Texto) (nuevosPunteros : Pcb → List U32) (m : Maquina σ) :
    Option (Maquina σ) :=
  let m := m.conDiccionario (HashTable.clean m.estado.diccionarioVariables)
  let pcb := m.estado.pcb
  let punteros := nuevosPunteros pcb
  let m := m.conPcb { pcb with tamanioContexto := 0#32 }
  let tamanio := BitVec.ofNat 32 (4 * punteros.length)
  match m.almacenar E ⟨pcb.segmentoStack, pcb.cursorStack - pcb.segmentoStack, tamanio,
      bufferPalabras punteros⟩ with
  | (.ok _, m) =>
      (irAlLabel E etiqueta m).map fun m =>
        m.conPcb { m.estado.pcb with cursorStack := m.estado.pcb.cursorStack + tamanio }
  | (.error texto, m) => some (excepcionSolicitud E m texto)

/-- The start of the current context. -/
def iniContexto (pcb : Pcb) : TPuntero := pcb.cursorStack - 5#32 * pcb.tamanioContexto

/-- `llamarSinRetorno`. -/
def llamarSinRetorno (etiqueta : Texto) (m : Maquina σ) : Option (Maquina σ) :=
  (E.registrar (.llamarSinRetorno etiqueta)).bind fun () =>
    llamar E etiqueta (fun pcb => [iniContexto pcb, pcb.programCounter]) m

/-- `llamarConRetorno`. -/
def llamarConRetorno (etiqueta : Texto) (donde_retornar : TPuntero) (m : Maquina σ) :
    Option (Maquina σ) :=
  (E.registrar (.llamarConRetorno etiqueta donde_retornar)).bind fun () =>
    llamar E etiqueta (fun pcb => [iniContexto pcb, pcb.programCounter, donde_retornar]) m

/-- `finalizar`. -/
def finalizar (m : Maquina σ) : Maquina σ :=
  let pcb := m.estado.pcb
  if pcb.cursorStack - (pcb.segmentoStack + 5#32 * pcb.tamanioContexto) = 0#32 then
    m.conRafaga .notificarPorFinPrograma
  else
    match m.solicitar E ⟨pcb.segmentoStack,
        pcb.cursorStack - (pcb.segmentoStack + 5#32 * pcb.tamanioContexto + 8#32), 8#32⟩ with
    | (.ok data, m) =>
        let m := m.conInicio (palabra data 0)
        let m := m.conPcb { pcb with
          programCounter := palabra data 4
          cursorStack := pcb.cursorStack - (5#32 * pcb.tamanioContexto + 8#32) }
        actualizarContexto E m
    | (.error texto, m) => excepcionSolicitud E m texto

/-- The request of `retornar` for the header of the context. -/
def pedidoRetornar (pcb : Pcb) : SolicitudBytes :=
  ⟨pcb.segmentoStack,
    pcb.cursorStack - (pcb.segmentoStack + 5#32 * pcb.tamanioContexto + 12#32), 12#32⟩

/-- `retornar`. -/
def retornar (retorno : U32) (m : Maquina σ) : Maquina σ :=
  let pcb := m.estado.pcb
  match m.solicitar E (pedidoRetornar pcb) with
  | (.ok data, m) =>
      let m := m.conInicio (palabra data 0)
      let m := m.conPcb { pcb with
        programCounter := palabra data 4
        cursorStack := pcb.cursorStack - (5#32 * pcb.tamanioContexto + 12#32) }
      let m := actualizarContexto E (asignar E (palabra data 8) retorno m)
      if m.estado.pcb.cursorStack = m.estado.pcb.segmentoStack then
        m.conRafaga .notificarPorFinPrograma
      else m
  | (.error texto, m) => excepcionSolicitud E m texto

/-- `obtenerValorCompartida`.  For a reply without a value it returns an uninitialised variable. -/
def obtenerValorCompartida (variable_ : Texto) (m : Maquina σ) : Option (U32 × Maquina σ) :=
  (E.registrar (.obtenerValorCompartida variable_)).map fun () =>
    match m.consultar E (.obtenerValorVarCompartida variable_) with
    | (.valorCompartida valorVariable, m) => (valorVariable, m)
    | (_, m) => (m.conRafaga .notificarPorFinPrograma).basura E

/-- `asignarValorCompartida`. -/
def asignarValorCompartida (variable_ : Texto) (valor : U32) (m : Maquina σ) :
    Option (U32 × Maquina σ) :=
  (E.registrar (.asignarValorCompartida variable_ valor)).map fun () =>
    match m.consultar E (.asignarValorVarCompartida variable_ valor) with
    | (.continuar, m) => (valor, m)
    | (_, m) => (valor, m.conRafaga .notificarPorFinPrograma)

/-- `imprimir`. -/
def imprimir (valor_mostrar : U32) (m : Maquina σ) : Maquina σ :=
  if m.estado.estadoRafaga = .notificarPorFinPrograma then m
  else
    match m.consultar E (.imprimirKernel valor_mostrar) with
    | (.continuar, m) => m
    | (_, m) => m.conRafaga .notificarPorFinPrograma

/-- `imprimirTexto`. -/
def imprimirTexto (texto : Texto) (m : Maquina σ) : Option (Maquina σ) :=
  (E.registrar (.imprimirTexto texto)).map fun () =>
    match m.consultar E (.imprimirTextoKernel texto) with
    | (.continuar, m) => m
    | (_, m) => m.conRafaga .notificarPorFinPrograma

/-- `entrarSalida`. -/
def entrarSalida (dispositivo : Texto) (tiempo : U32) (m : Maquina σ) : Option (Maquina σ) :=
  (E.registrar (.entrarSalida dispositivo tiempo)).map fun () =>
    (m.conRafaga .entradaSalidaKernel).enviarAKernel E
      (.entradaSalidaKernel dispositivo tiempo m.estado.pcb)

/-- `waitAnsisop`. -/
def waitAnsisop (identificador_semaforo : Texto) (m : Maquina σ) : Option (Maquina σ) :=
  (E.registrar (.waitAnsisop identificador_semaforo)).map fun () =>
    match m.consultar E (.waitKernel identificador_semaforo m.estado.pcb) with
    | (.continuar, m) => m
    | (_, m) => m.conRafaga .waitPcbBloqueado

/-- `signalAnsisop`. -/
def signalAnsisop (identificador_semaforo : Texto) (m : Maquina σ) : Option (Maquina σ) :=
  (E.registrar (.signalAnsisop identificador_semaforo)).map fun () =>
    match m.consultar E (.signalKernel identificador_semaforo) with
    | (.terminar, m) => m.conRafaga .notificarPorFinPrograma
    | (_, m) => m

/-! ### Calls and lines -/

/-- A result that is `0`, for the primitives that return nothing. -/
def sinResultado (m : Maquina σ) : U32 × Maquina σ := (0#32, m)

/-- The call of a primitive, with its result, which is `0` for those that return nothing.  There is
none when the code reads through a null pointer, or when the line of the call cannot be logged. -/
def ejecutar (m : Maquina σ) : Primitiva → Option (U32 × Maquina σ)
  | .definirVariable id => definirVariable E id m
  | .obtenerPosicionVariable id => obtenerPosicionVariable E id m
  | .dereferenciar dir => some (dereferenciar E dir m)
  | .asignar dir valor => some (sinResultado (asignar E dir valor m))
  | .irAlLabel etiqueta => (irAlLabel E etiqueta m).map sinResultado
  | .llamarSinRetorno etiqueta => (llamarSinRetorno E etiqueta m).map sinResultado
  | .llamarConRetorno etiqueta donde => (llamarConRetorno E etiqueta donde m).map sinResultado
  | .finalizar => some (sinResultado (finalizar E m))
  | .retornar retorno => some (sinResultado (retornar E retorno m))
  | .obtenerValorCompartida nombre => obtenerValorCompartida E nombre m
  | .asignarValorCompartida nombre valor => asignarValorCompartida E nombre valor m
  | .imprimir valor => some (sinResultado (imprimir E valor m))
  | .imprimirTexto texto => (imprimirTexto E texto m).map sinResultado
  | .entrarSalida dispositivo tiempo => (entrarSalida E dispositivo tiempo m).map sinResultado
  | .waitAnsisop semaforo => (waitAnsisop E semaforo m).map sinResultado
  | .signalAnsisop semaforo => (signalAnsisop E semaforo m).map sinResultado

/-- The line of a jump can be logged if that of the call can: it is a part of it. -/
theorem Entorno.registra_irAlLabel {etiqueta : Texto} (h : E.Registra (.llamarSinRetorno etiqueta) ∨
    ∃ donde, E.Registra (.llamarConRetorno etiqueta donde)) : E.Registra (.irAlLabel etiqueta) := by
  rintro _ ⟨⟩
  rcases h with h | ⟨donde, h⟩
  · obtain ⟨hcabe, hformato⟩ := h _ rfl
    refine ⟨?_, fun hnivel => ?_⟩
    · simp only [List.length_append] at hcabe ⊢
      exact Nat.lt_of_le_of_lt (Nat.add_le_add_right (by decide) _) hcabe
    · rw [sinConversiones_append (by decide)]
      rw [sinConversiones_append (by decide)] at hformato
      exact hformato hnivel
  · obtain ⟨hcabe, hformato⟩ := h _ rfl
    refine ⟨?_, fun hnivel => ?_⟩
    · simp only [List.length_append] at hcabe ⊢
      have hprefijo : "Ir a la etiqueta:".toList.length ≤
          "Llamar con retorno a la etiqueta:".toList.length := by decide
      omega
    · rw [sinConversiones_append (by decide)]
      rw [List.append_assoc, List.append_assoc, sinConversiones_append (by decide)] at hformato
      have hespacio : (" para retornar en:".toList ++ decimal donde).head? ≠ some '%' :=
        show some ' ' ≠ some '%' by decide
      exact sinConversiones_of_append hespacio (hformato hnivel)

/-- What a line does: it ends, it calls a primitive and goes on with the result, or it runs into
undefined behaviour of the interpreter (a missing operand, for example). -/
inductive Linea
  | fin
  | indefinida
  | llamar (primitiva : Primitiva) (resto : U32 → Linea)

/-- The calls of a line. -/
def interpretar : Linea → Maquina σ → Option (Maquina σ)
  | .fin, m => some m
  | .indefinida, _ => none
  | .llamar primitiva resto, m =>
      match ejecutar E m primitiva with
      | some (valor, m) => interpretar (resto valor) m
      | none => none

end Ansisop.Cpu
