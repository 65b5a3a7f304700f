/-
**Compaction.**

`fnCompactar` moves every segment down, byte by byte and in the order of the table, to where the
previous one ends.  The destination of a segment may overlap its own source, but never the source of
a segment that has not been moved yet.

What a client can see of a segment is its owner, its logical address and its bytes; `vista` collects
them.  Compaction is right when it leaves the list of these views as it was, and the segments
packed.

Main definitions:

* `Ansisop.Umv.bytes`, `Ansisop.Umv.Vista`, `Ansisop.Umv.vista` — the contents of a segment, and
  what a client can see of it;
* `Ansisop.Umv.fnCompactar` — compaction;
* `Ansisop.Umv.Reubicada` — the segments have been moved to the start of the block, and nothing is
  lost.

Main results:

* `Ansisop.Umv.fnCompactar_vistas` — **compaction is invisible**: same segments, same order, same
  bytes;
* `Ansisop.Umv.fnCompactar_packed` — after it all the free space is one gap at the end;
* `Ansisop.Umv.TablaValida.fnCompactar` — it keeps the table valid;
* `Ansisop.Umv.compactacion_sin_perdida` — **it is a lossless relocation that keeps the order**, and
  to compact again changes nothing.
-/

import Ansisop.Umv.Tabla

set_option relaxedAutoImplicit false
set_option autoImplicit false

namespace Ansisop.Umv

/-! ### What a client can see of a segment -/

/-- The bytes of a segment. -/
def bytes (m : TPuntero → Byte) (s : TipoSegmento) : List Byte :=
  Mem.read m s.dirFisica s.tamanio.toNat

/-- What a client can see of a segment. -/
structure Vista where
  idPrograma : TIdPrograma
  dirLogica : TPuntero
  bytes : List Byte
deriving DecidableEq

/-- The view of a segment in a memory. -/
def vista (m : TPuntero → Byte) (s : TipoSegmento) : Vista :=
  ⟨s.idPrograma, s.dirLogica, bytes m s⟩

/-- The views of the live segments, in the order of the table. -/
def Estado.vistas (s : Estado) : List Vista := s.pSegmentos.map (vista s.memoria)

@[simp] theorem length_bytes (m : TPuntero → Byte) (s : TipoSegmento) :
    (bytes m s).length = len s := Mem.length_read _ _ _

/-- The sizes of the segments are the lengths of their views. -/
theorem ocupado_eq_vistas (s : Estado) :
    ocupado s.pSegmentos = (s.vistas.map fun v => v.bytes.length).sum := by
  simp [Layout.total, Estado.vistas, vista, Function.comp_def]

/-- The logical addresses of the segments are those of their views. -/
theorem dirLogicas_eq_vistas (s : Estado) :
    s.pSegmentos.map TipoSegmento.dirLogica = s.vistas.map Vista.dirLogica := by
  simp [Estado.vistas, vista, Function.comp_def]

/-- A memory that agrees on the addresses of a segment shows the same bytes. -/
theorem bytes_congr {m m' : TPuntero → Byte} {s : TipoSegmento} (hs : base s + len s ≤ 2 ^ 32)
    (h : ∀ p : TPuntero, base s ≤ p.toNat → p.toNat < base s + len s → m p = m' p) :
    bytes m s = bytes m' s := by
  refine Mem.read_congr fun i hi => h _ ?_ ?_
  all_goals
    simp only [base, len] at hs ⊢
    bv_omega

/-! ### The compaction loop -/

/-- The loop of `fnCompactar` over the segments that remain to be moved, with `pCompactado` at the
end of those already moved: the new memory and the new entries of the table. -/
def compactarDesde : List TipoSegmento → TPuntero → (TPuntero → Byte) →
    (TPuntero → Byte) × List TipoSegmento
  | [], _, memoria => (memoria, [])
  | seg :: resto, pCompactado, memoria =>
      let memoria := Mem.copyForward seg.tamanio.toNat memoria seg.dirFisica pCompactado
      let pCompactado := pCompactado + seg.tamanio
      let (memoria, movidos) := compactarDesde resto pCompactado memoria
      (memoria, { seg with dirFisica := pCompactado - seg.tamanio } :: movidos)

/-- `fnCompactar`, the whole of it one critical section. -/
def fnCompactar (B : Bloque) (s : Estado) : Estado :=
  let (memoria, pSegmentos) := compactarDesde s.pSegmentos B.pInicioMemoria s.memoria
  { s with memoria, pSegmentos }

theorem compactarDesde_cons (seg : TipoSegmento) (resto : List TipoSegmento) (p : TPuntero)
    (m : TPuntero → Byte) :
    compactarDesde (seg :: resto) p m =
      ((compactarDesde resto (p + seg.tamanio)
          (Mem.copyForward seg.tamanio.toNat m seg.dirFisica p)).1,
        { seg with dirFisica := p + seg.tamanio - seg.tamanio } ::
          (compactarDesde resto (p + seg.tamanio)
            (Mem.copyForward seg.tamanio.toNat m seg.dirFisica p)).2) := rfl

variable {B : Bloque} {xs : List TipoSegmento} {m : TPuntero → Byte}

/-- **What the loop does** from the address `p` on, when no remaining segment starts below `p`: the
segments keep their views, end up packed from `p` on, and nothing below `p` changes. -/
theorem compactarDesde_spec {lo hi : ℕ} {p : TPuntero} (hw : Layout.Within base len lo hi xs)
    (hhi : hi ≤ 2 ^ 32) (hp : p.toNat ≤ lo) (hpos : ∀ s ∈ xs, 0 < len s) :
    (compactarDesde xs p m).2.map (vista (compactarDesde xs p m).1) = xs.map (vista m) ∧
      Layout.Packed base len p.toNat (compactarDesde xs p m).2 ∧
      ∀ q : TPuntero, q.toNat < p.toNat → (compactarDesde xs p m).1 q = m q := by
  induction xs generalizing lo p m with
  | nil => simp [compactarDesde]
  | cons seg resto ih =>
      have hseg := hpos seg List.mem_cons_self
      have hle := hw.1
      have hend := hw.2.le
      have hsrc : seg.dirFisica.toNat + seg.tamanio.toNat ≤ 2 ^ 32 := le_trans hend hhi
      set m₁ := Mem.copyForward seg.tamanio.toNat m seg.dirFisica p with hm₁
      have hcopy : ∀ q : TPuntero, m₁ q =
          if p.toNat ≤ q.toNat ∧ q.toNat < p.toNat + seg.tamanio.toNat then
            m (seg.dirFisica + (q - p)) else m q :=
        fun q => Mem.copyForward_apply (le_trans hp hle) hsrc
      have hdir : p + seg.tamanio - seg.tamanio = p := by bv_omega
      -- the remaining segments lie above everything written so far
      have hresto : resto.map (vista m₁) = resto.map (vista m) := by
        refine List.map_congr_left fun s hs => ?_
        have hb := hw.2.bounds hs
        rw [vista, vista, bytes_congr (by omega) fun q hq _ => ?_]
        rw [hcopy q, if_neg]
        simp only [base, len] at hb hle hq
        omega
      -- the rest of the loop, which starts at the end of the moved segment
      obtain ⟨hvis, hpack, hframe⟩ :
          (compactarDesde resto (p + seg.tamanio) m₁).2.map
              (vista (compactarDesde resto (p + seg.tamanio) m₁).1) = resto.map (vista m₁) ∧
            Layout.Packed base len (p.toNat + seg.tamanio.toNat)
              (compactarDesde resto (p + seg.tamanio) m₁).2 ∧
            ∀ q : TPuntero, q.toNat < p.toNat + seg.tamanio.toNat →
              (compactarDesde resto (p + seg.tamanio) m₁).1 q = m₁ q := by
        rcases eq_or_ne resto [] with rfl | hne
        · simp [compactarDesde]
        · obtain ⟨s, hs⟩ := List.exists_mem_of_ne_nil resto hne
          have hb := hw.2.bounds hs
          have hspos := hpos s (List.mem_cons_of_mem _ hs)
          have hnext : (p + seg.tamanio).toNat = p.toNat + seg.tamanio.toNat := by
            simp only [base, len] at hb hspos hle
            bv_omega
          have hlo : (p + seg.tamanio).toNat ≤ base seg + len seg := by
            simp only [base, len] at hle ⊢
            omega
          rw [← hnext]
          exact ih hw.2 hlo fun s hs => hpos s (List.mem_cons_of_mem _ hs)
      rw [compactarDesde_cons, hdir, ← hm₁]
      refine ⟨?_, ⟨rfl, hpack⟩, fun q hq => ?_⟩
      · rw [List.map_cons, List.map_cons, hvis, hresto]
        congr 1
        rw [vista, vista, Vista.mk.injEq]
        refine ⟨rfl, rfl, Mem.read_congr fun i hi => ?_⟩
        have hi' : (p + BitVec.ofNat 32 i - p).toNat = i :=
          Mem.add_ofNat_sub_toNat p (lt_trans hi seg.tamanio.isLt)
        have hto : (p + BitVec.ofNat 32 i).toNat = p.toNat + i := by
          simp only [base] at hle
          bv_omega
        have hdif : p + BitVec.ofNat 32 i - p = BitVec.ofNat 32 i := by bv_omega
        simp only at hi ⊢
        rw [hframe _ (by omega), hcopy, if_pos (by omega), hdif]
      · rw [hframe q (by omega), hcopy q, if_neg (by omega)]

/-! ### What compaction does to a valid table -/

/-- **Compaction is invisible**: the same segments, in the same order, with the same bytes. -/
theorem fnCompactar_vistas {s : Estado} (h : TablaValida B s.pSegmentos) :
    (fnCompactar B s).vistas = s.vistas :=
  (compactarDesde_spec h.within B.hi_le le_rfl h.pos).1

/-- After compaction the segments are packed from the start of the memory on. -/
theorem fnCompactar_packed {s : Estado} (h : TablaValida B s.pSegmentos) :
    Layout.Packed base len B.lo (fnCompactar B s).pSegmentos :=
  (compactarDesde_spec h.within B.hi_le le_rfl h.pos).2.1

@[simp] theorem fnCompactar_algMem (B : Bloque) (s : Estado) :
    (fnCompactar B s).algMem = s.algMem := rfl

theorem fnCompactar_ocupado {s : Estado} (h : TablaValida B s.pSegmentos) :
    ocupado (fnCompactar B s).pSegmentos = ocupado s.pSegmentos := by
  rw [ocupado_eq_vistas, fnCompactar_vistas h, ocupado_eq_vistas]

/-- The bytes of the live segments are bytes of the block. -/
theorem TablaValida.ocupado_le (h : TablaValida B xs) : ocupado xs ≤ B.cantMem.toNat := by
  have : _ + ocupado xs = B.hi - B.lo := h.within.sum_gaps
  have := B.hi_eq
  omega

/-- Equal views have equal sizes, so that a table of nonempty segments stays one. -/
theorem pos_of_vistas {s t : Estado} (h : t.vistas = s.vistas)
    (hpos : ∀ x ∈ s.pSegmentos, 0 < len x) : ∀ x ∈ t.pSegmentos, 0 < len x := by
  intro x hx
  have hv : vista t.memoria x ∈ s.vistas := h ▸ List.mem_map_of_mem hx
  obtain ⟨y, hy, heq⟩ := List.mem_map.1 hv
  have := congrArg (fun v => v.bytes.length) heq
  simp only [vista, length_bytes] at this
  rw [← this]
  exact hpos y hy

/-- Compaction keeps the table valid. -/
theorem TablaValida.fnCompactar {s : Estado} (h : TablaValida B s.pSegmentos) :
    TablaValida B (fnCompactar B s).pSegmentos where
  within := by
    have hle : ocupado (Umv.fnCompactar B s).pSegmentos ≤ B.cantMem.toNat := by
      rw [fnCompactar_ocupado h]
      exact h.ocupado_le
    exact (fnCompactar_packed h).within (Nat.add_le_add_left hle B.lo)
  pos := pos_of_vistas (fnCompactar_vistas h) h.pos
  distintas := by
    rw [dirLogicas_eq_vistas, fnCompactar_vistas h, ← dirLogicas_eq_vistas]
    exact h.distintas

/-! ### Lossless relocation -/

/-- What the table says of a segment, other than where its bytes are. -/
def ficha (s : TipoSegmento) : TIdPrograma × U32 × TPuntero :=
  (s.idPrograma, s.tamanio, s.dirLogica)

/-- **The segments have been relocated without a loss**, to the start of the block. -/
structure Reubicada (B : Bloque) (s t : Estado) : Prop where
  /-- the same segments, in the same order -/
  mismos : t.pSegmentos.map ficha = s.pSegmentos.map ficha
  /-- the first one starts where the block does, and each other one where the previous one ends -/
  contiguos : Layout.Packed base len B.lo t.pSegmentos
  /-- every byte of every segment is what it was -/
  bytes : t.pSegmentos.map (bytes t.memoria) = s.pSegmentos.map (bytes s.memoria)
  /-- the free addresses are those of one gap at the end -/
  libre : ∀ p, B.lo ≤ p → p < B.hi →
    ((∀ x ∈ t.pSegmentos, ¬ (base x ≤ p ∧ p < base x + len x)) ↔ B.lo + ocupado s.pSegmentos ≤ p)
  /-- to compact again changes nothing -/
  otraVez : fnCompactar B t = t

theorem compactarDesde_fichas (xs : List TipoSegmento) (p : TPuntero) (m : TPuntero → Byte) :
    (compactarDesde xs p m).2.map ficha = xs.map ficha := by
  induction xs generalizing p m with
  | nil => rfl
  | cons seg resto ih =>
      rw [compactarDesde_cons, List.map_cons, List.map_cons, ih]
      rfl

/-- The loop leaves packed segments where they are. -/
theorem compactarDesde_packed {p : TPuntero} (h : Layout.Packed base len p.toNat xs) :
    compactarDesde xs p m = (m, xs) := by
  induction xs generalizing p with
  | nil => rfl
  | cons seg resto ih =>
      obtain ⟨hbase, hresto⟩ := h
      obtain rfl : seg.dirFisica = p := BitVec.eq_of_toNat_eq hbase
      have hdir : seg.dirFisica + seg.tamanio - seg.tamanio = seg.dirFisica := by bv_omega
      have hih : compactarDesde resto (seg.dirFisica + seg.tamanio) m = (m, resto) := by
        cases resto with
        | nil => rfl
        | cons s resto' =>
            refine ih ?_
            -- the next segment starts there, so that the sum does not wrap around
            have hs : s.dirFisica.toNat = seg.dirFisica.toNat + seg.tamanio.toNat := hresto.1
            have hsum : (seg.dirFisica + seg.tamanio).toNat =
                seg.dirFisica.toNat + seg.tamanio.toNat := by bv_omega
            rw [hsum]
            exact hresto
      rw [compactarDesde_cons, Mem.copyForward_self, hih, hdir]

theorem fnCompactar_of_packed {s : Estado} (h : Layout.Packed base len B.lo s.pSegmentos) :
    fnCompactar B s = s := by
  rw [fnCompactar, compactarDesde_packed h]

/-- **Compaction is a lossless relocation that keeps the order**, of any table whose segments lie in
the block in increasing order, none of them empty, over any memory. -/
theorem compactacion_sin_perdida (B : Bloque) (s : Estado)
    (hdentro : Layout.Within base len B.lo B.hi s.pSegmentos)
    (hpos : ∀ x ∈ s.pSegmentos, 0 < len x) : Reubicada B s (fnCompactar B s) := by
  obtain ⟨hvistas, hpacked, -⟩ := compactarDesde_spec (m := s.memoria) (p := B.pInicioMemoria)
    hdentro B.hi_le le_rfl hpos
  have hpacked : Layout.Packed base len B.lo (fnCompactar B s).pSegmentos := hpacked
  have hbytes : (fnCompactar B s).pSegmentos.map (bytes (fnCompactar B s).memoria) =
      s.pSegmentos.map (bytes s.memoria) := by
    have := congrArg (List.map Vista.bytes) hvistas
    rwa [List.map_map, List.map_map] at this
  have hocupado : ocupado (fnCompactar B s).pSegmentos = ocupado s.pSegmentos := by
    have := congrArg (fun bs => (bs.map List.length).sum) hbytes
    simpa [Layout.total, Function.comp_def] using this
  refine ⟨compactarDesde_fichas _ _ _, hpacked, hbytes, fun p hlo _ => ?_,
    fnCompactar_of_packed hpacked⟩
  have hcubren := hpacked.exists_iff (p := p)
  rw [show Layout.total len _ = ocupado s.pSegmentos from hocupado] at hcubren
  constructor
  · intro hno
    by_contra hlt
    obtain ⟨x, hx, hp⟩ := hcubren.2 ⟨hlo, by omega⟩
    exact hno x hx hp
  · intro hle x hx hp
    have := (hcubren.1 ⟨x, hx, hp⟩).2
    omega

theorem pagina_ne_null : 0x1000#32 ≠ null := by decide

/-- A block of twelve bytes, with a segment of eight at its end. -/
def bloque12 : Bloque :=
  ⟨0x1000#32, 12#32, by decide, pagina_ne_null, by decide⟩

/-- The segment overlaps the place that it moves to. -/
def solapado : Estado :=
  ⟨.FF, fun q => q.setWidth 8, [⟨1#32, 8#32, 100#32, 0x1004#32⟩]⟩

theorem compactacion_sin_perdida_solapado :
    Reubicada bloque12 solapado (fnCompactar bloque12 solapado) :=
  compactacion_sin_perdida bloque12 solapado (by decide) (by decide)

end Ansisop.Umv
