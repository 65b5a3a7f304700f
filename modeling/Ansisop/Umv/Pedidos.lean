/-
**The requests of the UMV.**

The functions of `umvMain.c` that answer the requests of the connections and of the console:
`solicitarBytes` and `almacenarBytes` read and write a segment, `generarSegmento` creates one and
`eliminarSegmentos` destroys those of a process.  Each of them runs under the mutex of the table,
except that `generarSegmento` gives the mutex up around its compaction; its two critical sections
other than the compaction are `primeraBusqueda` and `segundaBusqueda`.

Main definitions:

* `Ansisop.Umv.Respuesta` — the answers, with what they carry;
* `Ansisop.Umv.solicitarBytes`, `Ansisop.Umv.almacenarBytes`, `Ansisop.Umv.eliminarSegmentos`,
  `Ansisop.Umv.generarDireccionLogica`, `Ansisop.Umv.generarSegmento`;
* `Ansisop.Umv.Hilo.almacenarBytes` — a store with what comes before the mutex.

Main results:

* `Ansisop.Umv.eliminarSegmentos_pSegmentos` — destroying the segments of a process is filtering
  the table;
* `Ansisop.Umv.crearSegmento_spec`, `Ansisop.Umv.TablaValida.insertarNodo` — creating a segment adds
  one entry, with a fresh logical address, and keeps the table valid;
* `Ansisop.Umv.generarDireccionLogica_isSome` — a fresh logical address is found as soon as
  `random()` returns one.
-/

import Ansisop.Commons.Log
import Ansisop.Umv.Busqueda
import Ansisop.Umv.Compactacion

set_option relaxedAutoImplicit false
set_option autoImplicit false

namespace Ansisop.Umv

open Commons (logLevelDebug registrar)

/-! ### Answers and requests -/

/-- The answers that `serializar_respuesta` encodes. -/
inductive Respuesta
  | OK
  | segmentoCreado (dirLogica : TPuntero)
  | bytesSolicitados (data : List Byte)
  | segmentation_fault
  | memory_overload
deriving DecidableEq

/-- `bfnSegmento`: the segment of a process with a given logical address. -/
def bfnSegmento (idProg : TIdPrograma) (dirLogica : TPuntero) (unSegmento : TipoSegmento) : Bool :=
  unSegmento.idPrograma == idProg && unSegmento.dirLogica == dirLogica

/-- `serializar_buffer`: the bytes that an answer copies from the memory, at the physical base that
`solicitarBytes` has put in the request. -/
def serializarBuffer (memoria : TPuntero → Byte) (solicitud : SolicitudBytes) : List Byte :=
  Mem.read memoria (solicitud.base + solicitud.offset) solicitud.tamanio.toNat

/-- `solicitarBytes`. -/
def solicitarBytes (s : Estado) (idProg : TIdPrograma) (solicitud : SolicitudBytes) : Respuesta :=
  match s.pSegmentos.find? (bfnSegmento idProg solicitud.base) with
  | none => .segmentation_fault
  | some segmentoPedido =>
      if solicitud.tamanio + solicitud.offset > segmentoPedido.tamanio then .segmentation_fault
      else .bytesSolicitados
        (serializarBuffer s.memoria { solicitud with base := segmentoPedido.dirFisica })

/-- The section of `almacenarBytes` under the mutex. -/
def almacenarBytes (s : Estado) (idProg : TIdPrograma) (stAlmacenar : AlmacenarBytes) :
    Respuesta × Estado :=
  match s.pSegmentos.find? (bfnSegmento idProg stAlmacenar.base) with
  | none => (.segmentation_fault, s)
  | some segmentoPedido =>
      if stAlmacenar.tamanio + stAlmacenar.offset > segmentoPedido.tamanio then
        (.segmentation_fault, s)
      else
        let memoria := Mem.write s.memoria (segmentoPedido.dirFisica + stAlmacenar.offset)
          stAlmacenar.buffer stAlmacenar.tamanio.toNat
        (.OK, { s with memoria })

/-- The thread that runs a request: the largest array that its stack has room for, the bytes that
are there, and the level of `logUmv`. -/
structure Hilo where
  pila : ℕ
  resto : ℕ → Byte
  detail : ℕ

/-- `sizeof(bufferLogUmv)`. -/
def sizeBufferLogUmv : ℕ := 80

/-- The text in `imprimo`, which is never filled: what was in the stack, up to the first zero byte
or to the one at the end. -/
def Hilo.textoImprimo (hilo : Hilo) (tamanio : U32) : Texto :=
  (((List.range tamanio.toNat).map hilo.resto).takeWhile (· ≠ 0#8)).map fun b => Char.ofNat b.toNat

/-- `char imprimo[stAlmacenar->tamanio + 1]`, with a zero in `imprimo[stAlmacenar->tamanio]`, as a
text.  There is none when the sum wraps around, so that the byte is not in the array, or when the
stack has no room for it. -/
def Hilo.imprimo (hilo : Hilo) (tamanio : U32) : Option Texto :=
  let largo := tamanio + 1#32
  if tamanio < largo ∧ largo.toNat ≤ hilo.pila then some (hilo.textoImprimo tamanio) else none

/-- The line for the log with the text of `imprimo`. -/
def registroImprimo (imprimo : Texto) : Texto := "el buffer es ".toList ++ imprimo

/-- **`almacenarBytes`**, with the lines that it logs before it takes the mutex.  Those with the
size and with the address always fit. -/
def Hilo.almacenarBytes (hilo : Hilo) (s : Estado) (idProg : TIdPrograma)
    (stAlmacenar : AlmacenarBytes) : Option (Respuesta × Estado) :=
  (hilo.imprimo stAlmacenar.tamanio).bind fun imprimo =>
    (registrar sizeBufferLogUmv hilo.detail logLevelDebug (registroImprimo imprimo)).map fun () =>
      Umv.almacenarBytes s idProg stAlmacenar

/-- The loop of `eliminarSegmentos`: while some segment belongs to the process, remove the first one
that does.  Each turn shortens the list, whose length is the fuel. -/
def eliminarMientras (bfnSegmento : TipoSegmento → Bool) :
    ℕ → List TipoSegmento → List TipoSegmento
  | 0, pSegmentos => pSegmentos
  | fuel + 1, pSegmentos =>
      if pSegmentos.any bfnSegmento then
        eliminarMientras bfnSegmento fuel (pSegmentos.eraseP bfnSegmento)
      else pSegmentos

/-- `eliminarSegmentos`. -/
def eliminarSegmentos (s : Estado) (idPrograma : TIdPrograma) : Respuesta × Estado :=
  let pSegmentos := eliminarMientras (fun unSegmento => unSegmento.idPrograma == idPrograma)
    s.pSegmentos.length s.pSegmentos
  (.OK, { s with pSegmentos })

/-- `generarDireccionLogica`, on the values that `random()` returns one after the other: the first
one that is the logical address of no segment.  With none in the list, the loop is still running. -/
def generarDireccionLogica (pSegmentos : List TipoSegmento) : List TPuntero → Option TPuntero
  | [] => none
  | nueDir :: random =>
      if pSegmentos.any fun unSegmento => unSegmento.dirLogica == nueDir then
        generarDireccionLogica pSegmentos random
      else some nueDir

/-- The loop of `generarSegmento` over the table and `list_add_in_index`: insertion of the new entry
before the first one with a larger physical address. -/
def insertarNodo (pSegmentos : List TipoSegmento) (nodoAux : TipoSegmento) : List TipoSegmento :=
  pSegmentos.insertIdx
    (pSegmentos.findIdx fun nodoLista => decide (nodoAux.dirFisica < nodoLista.dirFisica)) nodoAux

/-- The last branch of `generarSegmento`, once a search has found `pFisica`. -/
def crearSegmento (s : Estado) (pid : TIdPrograma) (tamanio : U32) (pFisica : TPuntero)
    (random : List TPuntero) : Option (Respuesta × Estado) :=
  (generarDireccionLogica s.pSegmentos random).map fun dirLogica =>
    (.segmentoCreado dirLogica,
      { s with pSegmentos := insertarNodo s.pSegmentos ⟨pid, tamanio, dirLogica, pFisica⟩ })

/-- The critical section that ends `generarSegmento`: the search, and the answer.  The code compares
the pointer `tamanio` with `0` after the search, a test that never succeeds. -/
def segundaBusqueda (B : Bloque) (s : Estado) (pid : TIdPrograma) (tamanio : U32)
    (random : List TPuntero) : Option (Respuesta × Estado) :=
  if buscarEspacio B s tamanio = null then some (.memory_overload, s)
  else crearSegmento s pid tamanio (buscarEspacio B s tamanio) random

/-- `generarSegmento` run without interference: when the first search fails, the compaction and the
second search follow at once. -/
def generarSegmento (B : Bloque) (s : Estado) (pid : TIdPrograma) (tamanio : U32)
    (random : List TPuntero) : Option (Respuesta × Estado) :=
  if buscarEspacio B s tamanio = null then segundaBusqueda B (fnCompactar B s) pid tamanio random
  else crearSegmento s pid tamanio (buscarEspacio B s tamanio) random

variable {B : Bloque} {s : Estado} {xs : List TipoSegmento}

/-! ### Looking a segment up -/

theorem bfnSegmento_iff {idProg : TIdPrograma} {dirLogica : TPuntero} {x : TipoSegmento} :
    bfnSegmento idProg dirLogica x = true ↔ x.idPrograma = idProg ∧ x.dirLogica = dirLogica := by
  simp [bfnSegmento]

/-- In a well-formed table the lookup finds the segment of the process with the logical address, if
there is one. -/
theorem find_bfnSegmento (h : TablaBienFormada B xs) {idProg : TIdPrograma} {dirLogica : TPuntero}
    {x : TipoSegmento} (hx : x ∈ xs) (hpid : x.idPrograma = idProg)
    (hdir : x.dirLogica = dirLogica) : xs.find? (bfnSegmento idProg dirLogica) = some x := by
  cases hf : xs.find? (bfnSegmento idProg dirLogica) with
  | none =>
      have := List.find?_eq_none.1 hf x hx
      exact absurd (bfnSegmento_iff.2 ⟨hpid, hdir⟩) this
  | some y =>
      have hy := bfnSegmento_iff.1 (List.find?_some hf)
      rw [h.eq_of_dirLogica hx (List.mem_of_find?_eq_some hf) (hdir.trans hy.2.symm)]

theorem mem_of_find_bfnSegmento {idProg : TIdPrograma} {dirLogica : TPuntero} {x : TipoSegmento}
    (h : xs.find? (bfnSegmento idProg dirLogica) = some x) :
    x ∈ xs ∧ x.idPrograma = idProg ∧ x.dirLogica = dirLogica :=
  ⟨List.mem_of_find?_eq_some h, bfnSegmento_iff.1 (List.find?_some h)⟩

/-! ### Destroying segments -/

theorem filter_eraseP (p : TipoSegmento → Bool) (xs : List TipoSegmento) :
    (xs.eraseP p).filter (fun x => !p x) = xs.filter fun x => !p x := by
  induction xs with
  | nil => rfl
  | cons x xs ih =>
      rw [List.eraseP_cons]
      cases hp : p x with
      | true => simp [hp]
      | false => simp [hp, ih]

/-- Removing the first one while there is one removes them all. -/
theorem eliminarMientras_eq (p : TipoSegmento → Bool) {fuel : ℕ} (h : xs.length ≤ fuel) :
    eliminarMientras p fuel xs = xs.filter fun x => !p x := by
  induction fuel generalizing xs with
  | zero =>
      obtain rfl := List.length_eq_zero_iff.1 (Nat.le_zero.1 h)
      rfl
  | succ fuel ih =>
      rw [eliminarMientras]
      split
      · next hany =>
          obtain ⟨x, hx, hpx⟩ := List.any_eq_true.1 hany
          rw [ih (by rw [List.length_eraseP_of_mem hx hpx]; omega), filter_eraseP]
      · next hany =>
          rw [Bool.not_eq_true, List.any_eq_false] at hany
          exact (List.filter_eq_self.2 fun x hx => by simpa using hany x hx).symm

/-- **Destroying the segments of a process is filtering the table.** -/
theorem eliminarSegmentos_pSegmentos (s : Estado) (pid : TIdPrograma) :
    (eliminarSegmentos s pid).2.pSegmentos = s.pSegmentos.filter fun x => x.idPrograma != pid :=
  eliminarMientras_eq _ le_rfl

@[simp] theorem eliminarSegmentos_memoria (s : Estado) (pid : TIdPrograma) :
    (eliminarSegmentos s pid).2.memoria = s.memoria := rfl

@[simp] theorem eliminarSegmentos_respuesta (s : Estado) (pid : TIdPrograma) :
    (eliminarSegmentos s pid).1 = .OK := rfl

/-! ### Storing -/

/-- Storing bytes leaves the table as it was. -/
@[simp] theorem almacenarBytes_pSegmentos (s : Estado) (pid : TIdPrograma) (r : AlmacenarBytes) :
    (almacenarBytes s pid r).2.pSegmentos = s.pSegmentos := by
  rw [almacenarBytes]
  split
  · rfl
  · split <;> rfl

/-! ### Creating a segment -/

/-- The address found is one that `random()` returned and that no segment has. -/
theorem generarDireccionLogica_spec {random : List TPuntero} {d : TPuntero}
    (h : generarDireccionLogica xs random = some d) : d ∈ random ∧ ∀ x ∈ xs, x.dirLogica ≠ d := by
  induction random with
  | nil => simp [generarDireccionLogica] at h
  | cons r random ih =>
      rw [generarDireccionLogica] at h
      split at h
      · exact ⟨List.mem_cons_of_mem _ (ih h).1, (ih h).2⟩
      · next hany =>
          obtain rfl := Option.some_inj.1 h
          rw [Bool.not_eq_true, List.any_eq_false] at hany
          exact ⟨List.mem_cons_self, fun x hx => by simpa using hany x hx⟩

/-- As soon as `random()` returns an address that no segment has, the loop ends. -/
theorem generarDireccionLogica_isSome {random : List TPuntero} {d : TPuntero} (hd : d ∈ random)
    (hfresh : ∀ x ∈ xs, x.dirLogica ≠ d) : (generarDireccionLogica xs random).isSome := by
  induction random with
  | nil => simp at hd
  | cons r random ih =>
      rw [generarDireccionLogica]
      split
      · next hany =>
          rcases List.mem_cons.1 hd with rfl | hd
          · obtain ⟨x, hx, hxr⟩ := List.any_eq_true.1 hany
            exact absurd (by simpa using hxr) (hfresh x hx)
          · exact ih hd
      · rfl

/-- The code's insertion by index is insertion before the first larger base. -/
theorem insertarNodo_eq (xs : List TipoSegmento) (x : TipoSegmento) :
    insertarNodo xs x = Layout.insertBefore base x xs := by
  induction xs with
  | nil => rfl
  | cons y ys ih =>
      have hlt : x.dirFisica < y.dirFisica ↔ base x < base y := BitVec.lt_def
      rw [Layout.insertBefore]
      by_cases h : base x < base y
      · rw [if_pos h, insertarNodo, List.findIdx_cons, decide_eq_true (hlt.2 h), cond_true,
          List.insertIdx_zero]
      · rw [if_neg h, ← ih, insertarNodo, insertarNodo, List.findIdx_cons,
          decide_eq_false (mt hlt.1 h), cond_false, List.insertIdx_succ_cons]

/-- **A new entry keeps the table valid**, when its bytes lie at the start of a gap that holds them
and its logical address is fresh. -/
theorem TablaValida.insertarNodo (h : TablaValida B xs) {x : TipoSegmento} {k : ℕ}
    (hg : (base x, k) ∈ huecos B xs) (hk : len x ≤ k) (hpos : 0 < len x)
    (hfresh : ∀ y ∈ xs, y.dirLogica ≠ x.dirLogica) : TablaValida B (insertarNodo xs x) where
  within := by
    rw [insertarNodo_eq]
    exact h.within.insertBefore hg hk hpos
  pos := by
    intro y hy
    rw [insertarNodo_eq, Layout.mem_insertBefore] at hy
    rcases hy with rfl | hy
    · exact hpos
    · exact h.pos y hy
  distintas := by
    rw [insertarNodo_eq, ((Layout.insertBefore_perm x xs).map _).nodup_iff, List.map_cons,
      List.nodup_cons]
    refine ⟨fun hmem => ?_, h.distintas⟩
    obtain ⟨y, hy, hyx⟩ := List.mem_map.1 hmem
    exact hfresh y hy hyx

/-- **What creating a segment does**: the answer carries a fresh logical address, the memory stays
as it was and the table gets the new entry. -/
theorem crearSegmento_spec {pid : TIdPrograma} {n : U32} {p : TPuntero} {random : List TPuntero}
    {r : Respuesta} {t : Estado} (h : crearSegmento s pid n p random = some (r, t)) :
    ∃ d, r = .segmentoCreado d ∧ d ∈ random ∧ (∀ x ∈ s.pSegmentos, x.dirLogica ≠ d) ∧
      t = { s with pSegmentos := insertarNodo s.pSegmentos ⟨pid, n, d, p⟩ } := by
  rw [crearSegmento, Option.map_eq_some_iff] at h
  obtain ⟨d, hd, h⟩ := h
  obtain ⟨rfl, rfl⟩ := Prod.mk.inj h
  obtain ⟨hmem, hfresh⟩ := generarDireccionLogica_spec hd
  exact ⟨d, rfl, hmem, hfresh, rfl⟩

/-- Creating a segment where a search found room keeps the table valid. -/
theorem crearSegmento_valida (h : TablaValida B s.pSegmentos) {pid : TIdPrograma} {n : U32}
    {random : List TPuntero} {r : Respuesta} {t : Estado} (hn : 0 < n.toNat)
    (hp : buscarEspacio B s n ≠ null)
    (hc : crearSegmento s pid n (buscarEspacio B s n) random = some (r, t)) :
    TablaValida B t.pSegmentos := by
  obtain ⟨d, -, -, hfresh, rfl⟩ := crearSegmento_spec hc
  rcases buscarEspacio_spec h hn with ⟨k, hk, hnk, -⟩ | ⟨hnull, -⟩
  · exact h.insertarNodo hk hnk hn hfresh
  · exact absurd hnull hp

end Ansisop.Umv
