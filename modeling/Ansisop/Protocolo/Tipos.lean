/-
**The types that the programs share.**

Machine words are `BitVec 32`: the code stores pointers in `u_int32_t` fields, so it is written for
a machine whose pointers, `int` and `long` take four bytes.  An `int` is read as its bit pattern.

Main definitions:

* `Ansisop.Byte`, `Ansisop.U32`, `Ansisop.TPuntero`, `Ansisop.TIdPrograma`, `Ansisop.Texto`;
* `Ansisop.SolicitudBytes`, `Ansisop.AlmacenarBytes` — the two requests to the UMV that carry data.
-/

import Mathlib.Data.BitVec

set_option relaxedAutoImplicit false
set_option autoImplicit false

namespace Ansisop

/-- `char`. -/
abbrev Byte := BitVec 8

-- Every module finds this one.
instance : LawfulBEq Byte := inferInstance

/-- `u_int32_t`, and `int` read as its bit pattern. -/
abbrev U32 := BitVec 32

/-- `t_puntero`, the 32 bits of an address, physical or logical. -/
abbrev TPuntero := BitVec 32

/-- `t_idPrograma`, the `int` that names a process. -/
abbrev TIdPrograma := BitVec 32

/-- A string without its final NUL. -/
abbrev Texto := List Char

/-- The null pointer. -/
def null : TPuntero := 0#32

/-- `t_solicitudBytes`. -/
structure SolicitudBytes where
  base : TPuntero
  offset : U32
  tamanio : U32

/-- `t_almacenarBytes`; `buffer i` is the byte at `buffer + i`. -/
structure AlmacenarBytes where
  base : TPuntero
  offset : U32
  tamanio : U32
  buffer : ℕ → Byte

end Ansisop
