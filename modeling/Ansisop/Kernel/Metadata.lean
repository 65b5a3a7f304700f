/-
**The metadata of a script.**

`metadata_desde_literal` of the parser library reads a script line by line.  A line that is not a
comment, the `begin`, a label or a function is an instruction, and its start and its length with the
newline go to the index of instructions.  A label or a function goes to the index of labels: its
name, a NUL and the number of instructions before it, as four bytes.  `nuevo_programa` makes the
program that the kernel admits out of this.

Main definitions:

* `Ansisop.Kernel.Metadata`, `Ansisop.Kernel.metadataDesdeLiteral`, `Ansisop.Kernel.nuevoPrograma` —
  the code;
* `Ansisop.Kernel.lineas`, `Ansisop.Kernel.esEjecutable`, `Ansisop.Kernel.definicion`,
  `Ansisop.Kernel.definiciones` — the lines of a script, and what they are.

Main results:

* `Ansisop.Kernel.metadataDesdeLiteral_instrucciones` — **the index of instructions has the lines
  that are instructions**, with where they start;
* `Ansisop.Kernel.metadataDesdeLiteral_etiquetas` — **the index of labels has the definitions**,
  with the number of instructions before each one.
-/

import Ansisop.Lib.Lines
import Ansisop.Cpu.Primitivas
import Ansisop.Kernel.Admision

set_option relaxedAutoImplicit false
set_option autoImplicit false

namespace Ansisop.Kernel

open Cpu (bytesDeTexto)

/-! ### The code -/

/-- `_esEspacio`. -/
def esEspacio (caracter : Byte) : Bool :=
  caracter = 32#8 || caracter = 9#8 || caracter = 12#8 || caracter = 13#8 || caracter = 11#8

/-- `_string_trim`. -/
def stringTrim (texto : List Byte) : List Byte :=
  ((texto.dropWhile esEspacio).reverse.dropWhile esEspacio).reverse

/-- `TEXT_BEGIN`. -/
def textBegin : List Byte := bytesDeTexto "begin".toList

/-- `TEXT_START_LABEL`. -/
def textStartLabel : List Byte := bytesDeTexto ":".toList

/-- `TEXT_FUNCTION`. -/
def textFunction : List Byte := bytesDeTexto "function ".toList

/-- `TEXT_COMMENT`. -/
def textComment : Byte := 35#8

/-- `t_metadata_program`.  The sizes of the two indices are the lengths of the lists. -/
structure Metadata where
  instruccion_inicio : U32
  instrucciones_serializado : List (U32 × U32)
  etiquetas : List Byte
  cantidad_de_funciones : U32
  cantidad_de_etiquetas : U32

/-- What `memset` leaves. -/
def Metadata.vacia : Metadata := ⟨0#32, [], [], 0#32, 0#32⟩

/-- `instrucciones_size`. -/
def Metadata.instruccionesSize (ret : Metadata) : U32 :=
  BitVec.ofNat 32 ret.instrucciones_serializado.length

/-- An entry of the index of labels. -/
def entrada (definicion : List Byte × U32) : List Byte :=
  definicion.1 ++ 0#8 :: serializarPalabras [definicion.2]

/-- `_agregarEtiqueta`. -/
def agregarEtiqueta (linea pref : List Byte) (programa : Metadata) : Metadata :=
  { programa with
    etiquetas :=
      programa.etiquetas ++ entrada (linea.drop pref.length, programa.instruccionesSize) }

/-- The `t_intructions` of a line. -/
def auxinst (position : ℕ) (buffer : List Byte) : U32 × U32 :=
  (BitVec.ofNat 32 position, BitVec.ofNat 32 (buffer.length + 1))

/-- A turn of the loop of `metadata_desde_literal`. -/
def leerLinea (position : ℕ) (buffer : List Byte) (ret : Metadata) : Metadata :=
  let linea := stringTrim buffer
  if textBegin.isPrefixOf linea then { ret with instruccion_inicio := ret.instruccionesSize }
  else if textStartLabel.isPrefixOf linea then
    { agregarEtiqueta linea textStartLabel ret with
      cantidad_de_etiquetas := ret.cantidad_de_etiquetas + 1#32 }
  else if textFunction.isPrefixOf linea then
    { agregarEtiqueta linea textFunction ret with
      cantidad_de_funciones := ret.cantidad_de_funciones + 1#32 }
  else if linea.head? = some textComment ∨ linea = [] then ret
  else
    { ret with
      instrucciones_serializado := ret.instrucciones_serializado ++ [auxinst position buffer] }

/-- The loop of `metadata_desde_literal`, with the turns that are left. -/
def recorrer (copia_literal : List Byte) (tamanioTotal : ℤ) : ℕ → ℕ → Metadata → Metadata
  | 0, _, ret => ret
  | turnos + 1, position, ret =>
      if (position : ℤ) < tamanioTotal then
        let buffer := (copia_literal.drop position).takeWhile (· ≠ 0#8)
        recorrer copia_literal tamanioTotal turnos (position + (buffer.length + 1))
          (leerLinea position buffer ret)
      else ret

/-- `_separarLineas`. -/
def separarLineas (linea : List Byte) : List Byte := linea.map fun c => if c = 10#8 then 0#8 else c

/-- `metadata_desde_literal`.  The length is an `int`, and every turn moves on by a byte or more. -/
def metadataDesdeLiteral (literal : Cadena) : Metadata :=
  recorrer (separarLineas literal.bytes) (BitVec.ofNat 32 literal.bytes.length).toInt
    (literal.bytes.length + 1) 0 .vacia

/-- The program of `nuevo_programa`, when its indices fit in a memory with addresses of 32 bits. -/
def nuevoPrograma (codigoAnsisop : Cadena) : Option Prog :=
  let metadada := metadataDesdeLiteral codigoAnsisop
  if h : 8 * metadada.instrucciones_serializado.length < 2 ^ 32 ∧
    metadada.etiquetas.length < 2 ^ 32 then
    some ⟨codigoAnsisop.bytes, metadada.instrucciones_serializado, metadada.etiquetas,
      codigoAnsisop.strlen_lt, h.1, h.2⟩
  else none

/-- The PCB of `nuevo_programa`, but for the pid.  The other fields are those of the memory it is
given. -/
def nuevoPcb (codigoAnsisop : Cadena) (pcb : Pcb) : Pcb :=
  let metadada := metadataDesdeLiteral codigoAnsisop
  { pcb with
    tamanioEtiqueta := BitVec.ofNat 32 metadada.etiquetas.length
    tamanioContexto := 0#32
    programCounter := metadada.instruccion_inicio
    cantidad_de_etiquetas := metadada.cantidad_de_etiquetas
    cantidad_de_funciones := metadada.cantidad_de_funciones }

/-! ### The lines of a script -/

/-- The lines of a script. -/
def lineas (literal : Cadena) : List (List Byte) := literal.bytes.splitOn 10#8

/-- The line is an instruction. -/
def esEjecutable (linea : List Byte) : Bool :=
  let linea := stringTrim linea
  !textBegin.isPrefixOf linea && !textStartLabel.isPrefixOf linea &&
    !textFunction.isPrefixOf linea &&
    linea.head? != some textComment && linea != []

/-- The name of the label or the function that the line defines. -/
def definicion (linea : List Byte) : Option (List Byte) :=
  let linea := stringTrim linea
  if textBegin.isPrefixOf linea then none
  else if textStartLabel.isPrefixOf linea then some (linea.drop textStartLabel.length)
  else if textFunction.isPrefixOf linea then some (linea.drop textFunction.length)
  else none

/-- The number of instructions among some lines. -/
def instruccionesEn (ls : List (List Byte)) : ℕ := (ls.filter esEjecutable).length

/-- The definitions of some lines, each with the number of instructions before it. -/
def definiciones : ℕ → List (List Byte) → List (List Byte × U32)
  | _, [] => []
  | n, linea :: ls =>
      (definicion linea).toList.map (fun nombre => (nombre, BitVec.ofNat 32 n)) ++
        definiciones (n + instruccionesEn [linea]) ls

variable {literal : Cadena} {linea : List Byte} {ls ls' : List (List Byte)} {position n : ℕ}
  {ret : Metadata}

theorem notMem_lineas (h : linea ∈ lineas literal) : 0#8 ∉ linea :=
  fun hmem => literal.sinNul (Lines.mem_of_mem_splitOn h hmem)

/-! ### A turn of the loop -/

/-- **The line goes to the index of instructions**, when it is one. -/
theorem leerLinea_instrucciones (position : ℕ) (linea : List Byte) (ret : Metadata) :
    (leerLinea position linea ret).instrucciones_serializado = ret.instrucciones_serializado ++
      if esEjecutable linea then [auxinst position linea] else [] := by
  simp only [leerLinea, esEjecutable]
  split
  · simp [*]
  · split
    · simp [*, agregarEtiqueta]
    · split
      · simp [*, agregarEtiqueta]
      · split
        · rename_i hnada
          rcases hnada with hnada | hnada <;> simp [hnada]
        · simp_all

/-- **The line goes to the index of labels**, when it is a definition. -/
theorem leerLinea_etiquetas (position : ℕ) (linea : List Byte) (ret : Metadata) :
    (leerLinea position linea ret).etiquetas = ret.etiquetas ++
      ((definicion linea).toList.map fun nombre => (nombre, ret.instruccionesSize)).flatMap
      entrada := by
  simp only [leerLinea, definicion]
  split
  · simp
  · split
    · simp [agregarEtiqueta]
    · split
      · simp [agregarEtiqueta]
      · split <;> simp

/-! ### The loop -/

/-- The lines are read one after the other, from their positions. -/
def leerLineas (position : ℕ) (ls : List (List Byte)) (ret : Metadata) : Metadata :=
  (Lines.placed position ls).foldl (fun ret x => leerLinea x.1 x.2 ret) ret

theorem leerLineas_cons (position : ℕ) (linea : List Byte) (ls : List (List Byte))
    (ret : Metadata) :
    leerLineas position (linea :: ls) ret =
      leerLineas (position + (linea.length + 1)) ls (leerLinea position linea ret) := rfl

theorem leerLineas_instrucciones (position : ℕ) (ls : List (List Byte)) (ret : Metadata) :
    (leerLineas position ls ret).instrucciones_serializado = ret.instrucciones_serializado ++
      ((Lines.placed position ls).filter fun x => esEjecutable x.2).map fun x =>
        auxinst x.1 x.2 := by
  induction ls generalizing position ret with
  | nil => exact (List.append_nil _).symm
  | cons linea ls ih =>
      rw [leerLineas_cons, ih, leerLinea_instrucciones, List.append_assoc, Lines.placed]
      congr 1
      by_cases hlinea : esEjecutable linea = true
      · rw [if_pos hlinea, List.filter_cons_of_pos (by exact hlinea)]
        rfl
      · rw [if_neg hlinea, List.filter_cons_of_neg (by exact hlinea)]
        rfl

/-- A line adds the instruction that it is. -/
theorem length_leerLinea (position : ℕ) (linea : List Byte) (ret : Metadata) :
    (leerLinea position linea ret).instrucciones_serializado.length =
      ret.instrucciones_serializado.length + instruccionesEn [linea] := by
  rw [leerLinea_instrucciones, List.length_append, instruccionesEn]
  by_cases hlinea : esEjecutable linea = true <;> simp [hlinea]

theorem leerLineas_etiquetas (position : ℕ) (ls : List (List Byte)) (ret : Metadata) :
    (leerLineas position ls ret).etiquetas = ret.etiquetas ++
      (definiciones ret.instrucciones_serializado.length ls).flatMap entrada := by
  induction ls generalizing position ret with
  | nil => exact (List.append_nil _).symm
  | cons linea ls ih =>
      rw [leerLineas_cons, ih, leerLinea_etiquetas, length_leerLinea, definiciones,
        List.flatMap_append, List.append_assoc]
      rfl

/-- The loop is over at the end of the script. -/
theorem recorrer_fin {copia_literal : List Byte} {tamanioTotal : ℤ} (h : tamanioTotal ≤ position)
    (turnos : ℕ) (ret : Metadata) :
    recorrer copia_literal tamanioTotal turnos position ret = ret := by
  cases turnos with
  | zero => rfl
  | succ turnos => exact if_neg (Int.not_lt.2 h)

/-- **The loop reads the lines one after the other.**  The induction is on the lines that are
left. -/
theorem recorrer_eq {copia_literal : List Byte} {turnos : ℕ} (hne : ls ≠ [])
    (hls : ∀ l ∈ ls, 0#8 ∉ l) (hcopia : copia_literal.drop position = [0#8].intercalate ls)
    (hposition : position ≤ copia_literal.length) (hturnos : ls.length ≤ turnos) (ret : Metadata) :
    recorrer copia_literal copia_literal.length turnos position ret =
    leerLineas position ls ret := by
  induction ls generalizing position turnos ret with
  | nil => exact absurd rfl hne
  | cons linea ls ih =>
      have hlinea := hls linea List.mem_cons_self
      have hlength := congrArg List.length hcopia
      rw [List.length_drop] at hlength
      obtain ⟨turnos, rfl⟩ : ∃ t, turnos = t + 1 := ⟨turnos - 1, by simp at hturnos; omega⟩
      cases ls with
      | nil =>
          rw [List.intercalate_singleton] at hcopia hlength
          rw [leerLineas_cons]
          by_cases hvacia : linea = []
          · -- the last line of a script that ends in a newline: the loop is already over
            subst hvacia
            rw [List.length_nil] at hlength
            exact recorrer_fin (by omega) _ _
          · have hpos : 0 < linea.length := List.length_pos_of_ne_nil hvacia
            rw [recorrer, if_pos (by omega), hcopia, Lines.takeWhile_last hlinea]
            exact recorrer_fin (by omega) _ _
      | cons linea' ls =>
          rw [List.intercalate_cons_cons, List.append_assoc] at hcopia hlength
          rw [List.length_append, List.length_append, List.length_singleton] at hlength
          have hresto : copia_literal.drop (position + (linea.length + 1)) =
              [0#8].intercalate (linea' :: ls) := by
            rw [← List.drop_drop, hcopia, ← List.append_assoc]
            exact List.drop_left' (by simp)
          rw [recorrer, if_pos (by omega), hcopia, List.singleton_append,
            Lines.takeWhile_append_sep hlinea, leerLineas_cons]
          exact ih (by simp) (fun l hl => hls l (List.mem_cons_of_mem _ hl)) hresto (by omega)
            (Nat.le_of_succ_le_succ hturnos) _

/-! ### The metadata -/

/-- The text with its lines apart. -/
theorem separarLineas_eq (literal : Cadena) :
    separarLineas literal.bytes = [0#8].intercalate (lineas literal) := by
  have hmismas :
      (lineas literal).map (List.map fun c => if c = 10#8 then 0#8 else c) = lineas literal := by
    refine List.map_congr_left (g := id) (fun linea hlinea => ?_) |>.trans (List.map_id _)
    refine List.map_congr_left (g := id) (fun c hc => ?_) |>.trans (List.map_id _)
    exact if_neg fun heq : c = 10#8 => Lines.notMem_of_mem_splitOn hlinea (heq ▸ hc)
  have htexto : [10#8].intercalate (lineas literal) = literal.bytes := List.intercalate_splitOn 10#8
  rw [← hmismas, separarLineas, ← htexto, Lines.map_intercalate]
  rfl

/-- **The script is read line by line**, when its length is an `int`. -/
theorem metadataDesdeLiteral_eq (h : literal.bytes.length < 2 ^ 31) :
    metadataDesdeLiteral literal = leerLineas 0 (lineas literal) .vacia := by
  have hlength : (separarLineas literal.bytes).length = literal.bytes.length := List.length_map ..
  have htamanio : (BitVec.ofNat 32 literal.bytes.length).toInt =
      ((separarLineas literal.bytes).length : ℤ) := by
    rw [hlength, BitVec.toInt_eq_toNat_of_lt, BitVec.toNat_ofNat, Nat.mod_eq_of_lt (by omega)]
    rw [BitVec.toNat_ofNat, Nat.mod_eq_of_lt (by omega)]
    omega
  have hcopia : (separarLineas literal.bytes).drop 0 = [0#8].intercalate (lineas literal) :=
    separarLineas_eq literal
  rw [metadataDesdeLiteral, htamanio]
  exact recorrer_eq (List.splitOn_ne_nil _ _) (fun _ hl => notMem_lineas hl) hcopia (Nat.zero_le _)
    (Lines.length_splitOn_le _ _) _

/-- The instructions of a script. -/
def lineasEjecutables (literal : Cadena) : List (List Byte) := (lineas literal).filter esEjecutable

/-- The instructions of a script, with where they start. -/
def colocadas (literal : Cadena) : List (ℕ × List Byte) :=
  (Lines.placed 0 (lineas literal)).filter fun x => esEjecutable x.2

theorem map_snd_colocadas (literal : Cadena) :
    (colocadas literal).map Prod.snd = lineasEjecutables literal := by
  rw [lineasEjecutables, ← Lines.map_snd_placed 0 (lineas literal), List.filter_map]
  rfl

/-- **The index of instructions has the lines that are instructions**, with where they start. -/
theorem metadataDesdeLiteral_instrucciones (h : literal.bytes.length < 2 ^ 31) :
    (metadataDesdeLiteral literal).instrucciones_serializado =
      (colocadas literal).map fun x => auxinst x.1 x.2 := by
  rw [metadataDesdeLiteral_eq h, leerLineas_instrucciones]
  rfl

/-- **The index of labels has the definitions**, with the number of instructions before each one. -/
theorem metadataDesdeLiteral_etiquetas (h : literal.bytes.length < 2 ^ 31) :
    (metadataDesdeLiteral literal).etiquetas =
    (definiciones 0 (lineas literal)).flatMap entrada := by
  rw [metadataDesdeLiteral_eq h, leerLineas_etiquetas]
  rfl

/-- **What the index of instructions says of a line**: at its start there is the line, and after it
a newline or the NUL. -/
theorem slice_of_mem_colocadas (h : (position, linea) ∈ colocadas literal) :
    ∃ c, (c = 10#8 ∨ c = 0#8) ∧
      ((literal.bytes ++ [0#8]).drop position).take (linea.length + 1) = linea ++ [c] ∧
      position + (linea.length + 1) ≤ literal.bytes.length + 1 := by
  obtain ⟨pre, c, post, hc, heq, hpre⟩ :=
    Lines.slice_of_mem_placed 10#8 0#8 [] (List.mem_of_mem_filter h)
  rw [List.nil_append, lineas, List.intercalate_splitOn] at heq
  refine ⟨c, hc, ?_, ?_⟩
  · rw [heq, List.drop_left' hpre, List.append_cons]
    exact List.take_left' (by simp)
  · have hlength := congrArg List.length heq
    simp only [List.length_append, List.length_cons, List.length_nil] at hlength
    omega

/-- The areas of a program are those of its script. -/
theorem nuevoPrograma_areas {prog : Prog} (h : nuevoPrograma literal = some prog) :
    prog.archivoAnsisop = literal.bytes ∧
      prog.instrucciones_serializado = (metadataDesdeLiteral literal).instrucciones_serializado ∧
      prog.etiquetas = (metadataDesdeLiteral literal).etiquetas := by
  rw [nuevoPrograma] at h
  split at h
  · obtain rfl := Option.some_inj.1 h
    exact ⟨rfl, rfl, rfl⟩
  · exact absurd h (by simp)

/-! ### The definitions -/

theorem instruccionesEn_append (ls ls' : List (List Byte)) :
    instruccionesEn (ls ++ ls') = instruccionesEn ls + instruccionesEn ls' := by
  rw [instruccionesEn, List.filter_append, List.length_append]
  rfl

theorem definiciones_append (n : ℕ) (ls ls' : List (List Byte)) :
    definiciones n (ls ++ ls') = definiciones n ls ++
    definiciones (n + instruccionesEn ls) ls' := by
  induction ls generalizing n with
  | nil => rfl
  | cons linea ls ih =>
      rw [List.cons_append, definiciones, ih, definiciones, List.append_assoc, Nat.add_assoc,
        ← instruccionesEn_append]
      rfl

/-- A definition is not an instruction. -/
theorem esEjecutable_of_definicion {nombre : List Byte} (h : definicion linea = some nombre) :
    esEjecutable linea = false := by
  simp only [definicion] at h
  simp only [esEjecutable]
  split at h
  · exact absurd h (by simp)
  · split at h
    · simp [*]
    · split at h
      · simp [*]
      · exact absurd h (by simp)

/-- A definition is in a line. -/
theorem definicion_of_mem {d : List Byte × U32} (h : d ∈ definiciones n ls) :
    ∃ linea ∈ ls, definicion linea = some d.1 := by
  induction ls generalizing n with
  | nil => exact absurd h List.not_mem_nil
  | cons linea ls ih =>
      rcases List.mem_append.1 h with h | h
      · obtain ⟨nombre, hnombre, rfl⟩ := List.mem_map.1 h
        exact ⟨linea, List.mem_cons_self, Option.mem_toList.1 hnombre⟩
      · obtain ⟨linea', hlinea', hd⟩ := ih h
        exact ⟨linea', List.mem_cons_of_mem _ hlinea', hd⟩

/-- The symbols of a name are symbols of the line. -/
theorem mem_of_definicion {nombre : List Byte} {c : Byte} (h : definicion linea = some nombre)
    (hc : c ∈ nombre) : c ∈ linea := by
  have htrim : stringTrim linea ⊆ linea := by
    intro c hc
    rw [stringTrim, List.mem_reverse] at hc
    have hc' := List.mem_reverse.1 ((List.dropWhile_sublist _).subset hc)
    exact (List.dropWhile_sublist _).subset hc'
  refine htrim ?_
  simp only [definicion] at h
  split at h
  · exact absurd h (by simp)
  · split at h
    · obtain rfl := Option.some_inj.1 h
      exact List.mem_of_mem_drop hc
    · split at h
      · obtain rfl := Option.some_inj.1 h
        exact List.mem_of_mem_drop hc
      · exact absurd h (by simp)

end Ansisop.Kernel
