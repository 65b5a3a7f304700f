/-
**The segment table of the UMV.**

The UMV (`src/umv/umvMain.c`) serves one big `malloc` of `CANT_MEM` bytes in segments.  The list
`pSegmentos` records, for each live segment, the process that owns it, its size, the logical address
that clients use and the physical address where its bytes are now.  This module holds these data and
the invariant of the table.

Main definitions:

* `Ansisop.Umv.TipoSegmento` — an entry of `pSegmentos`;
* `Ansisop.Umv.Bloque` — the block of memory, with what its configuration and its `malloc`
  guarantee;
* `Ansisop.Umv.Estado` — the shared state of the UMV;
* `Ansisop.Umv.TablaBienFormada` — the segments are laid out in the block in order, and no two have
  the same logical address;
* `Ansisop.Umv.TablaValida` — **the invariant**: moreover, no segment is empty.

Main results:

* `Ansisop.Umv.TablaValida.filter` — removing segments keeps the table valid;
* `Ansisop.Umv.TablaBienFormada.eq_of_dirLogica` — a logical address names at most one segment.
-/

import Ansisop.Lib.Layout
import Ansisop.Lib.Memory
import Ansisop.Protocolo.Tipos

set_option relaxedAutoImplicit false
set_option autoImplicit false

namespace Ansisop.Umv

/-- `tipoSegmento`: an entry of the segment table. -/
structure TipoSegmento where
  idPrograma : TIdPrograma
  tamanio : U32
  dirLogica : TPuntero
  dirFisica : TPuntero
deriving DecidableEq, Repr

/-- `enum { WF, FF }`: the values of `ALG_MEM`. -/
inductive Algoritmo
  | WF
  | FF
deriving DecidableEq, Repr

/-- The block of memory that `main` allocates: `CANT_MEM` is an `int` of the configuration file that
is not negative, and the block that `malloc` returns starts at a non-null address and does not wrap
around the address space. -/
structure Bloque where
  pInicioMemoria : TPuntero
  cantMem : U32
  cantMem_lt : cantMem.toNat < 2 ^ 31
  inicio_ne_null : pInicioMemoria ≠ null
  no_wrap : pInicioMemoria.toNat + cantMem.toNat ≤ 2 ^ 32

/-- The first address of the block. -/
def Bloque.lo (B : Bloque) : ℕ := B.pInicioMemoria.toNat

/-- The address after the last one of the block. -/
def Bloque.hi (B : Bloque) : ℕ := B.pInicioMemoria.toNat + B.cantMem.toNat

/-- The globals that the connections and the console share: `ALG_MEM`, the bytes of the memory and
the segment table. -/
structure Estado where
  algMem : Algoritmo
  memoria : TPuntero → Byte
  pSegmentos : List TipoSegmento

/-- The physical base of a segment, as a number. -/
def base (s : TipoSegmento) : ℕ := s.dirFisica.toNat

/-- The length of a segment, as a number. -/
def len (s : TipoSegmento) : ℕ := s.tamanio.toNat

/-- The bytes of the live segments. -/
abbrev ocupado (xs : List TipoSegmento) : ℕ := Layout.total len xs

/-- A well-formed segment table. -/
structure TablaBienFormada (B : Bloque) (xs : List TipoSegmento) : Prop where
  /-- the segments lie in the block, in increasing order, none overlapping the next -/
  within : Layout.Within base len B.lo B.hi xs
  /-- no two segments have the same logical address -/
  distintas : (xs.map TipoSegmento.dirLogica).Nodup

/-- **The invariant of the segment table**: it is well formed, and no segment is empty. -/
structure TablaValida (B : Bloque) (xs : List TipoSegmento) : Prop
    extends TablaBienFormada B xs where
  /-- no segment is empty -/
  pos : ∀ s ∈ xs, 0 < len s

variable {B : Bloque} {xs : List TipoSegmento}

theorem Bloque.lo_pos (B : Bloque) : 0 < B.lo :=
  Nat.pos_of_ne_zero fun h => B.inicio_ne_null (BitVec.eq_of_toNat_eq (h))

theorem Bloque.hi_le (B : Bloque) : B.hi ≤ 2 ^ 32 := B.no_wrap

theorem Bloque.hi_eq (B : Bloque) : B.hi = B.lo + B.cantMem.toNat := rfl

theorem Bloque.lo_le_hi (B : Bloque) : B.lo ≤ B.hi := Nat.le_add_right _ _

/-- The empty table is valid. -/
theorem TablaValida.nil : TablaValida B [] :=
  ⟨⟨B.lo_le_hi, List.nodup_nil⟩, by simp⟩

/-- Removing segments keeps the table valid. -/
theorem TablaValida.filter (h : TablaValida B xs) (p : TipoSegmento → Bool) :
    TablaValida B (xs.filter p) where
  within := h.within.sublist List.filter_sublist
  pos := fun s hs => h.pos s (List.mem_of_mem_filter hs)
  distintas := h.distintas.sublist (List.filter_sublist.map _)

/-- A logical address names at most one segment. -/
theorem TablaBienFormada.eq_of_dirLogica (h : TablaBienFormada B xs)
    {a b : TipoSegmento} (ha : a ∈ xs) (hb : b ∈ xs) (hab : a.dirLogica = b.dirLogica) : a = b :=
  List.inj_on_of_nodup_map h.distintas ha hb hab

end Ansisop.Umv
