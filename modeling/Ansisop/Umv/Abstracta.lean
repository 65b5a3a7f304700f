/-
**The UMV as a segmented memory.**

What the UMV is for: a map from processes and logical addresses to arrays of bytes.  This module
states it, with the library's segmented memory, and proves that the UMV of `Sistema` refines it:
every run of critical sections gives the answers of some run of the abstract memory, step by step.
In the abstract memory there are no physical addresses, no compaction and no algorithm; what they
can still decide is whether a creation fails and what the bytes of a new segment are at first.

A request whose offset and size add up to `2 ^ 32` or more is left out: the check of the code does
not catch all of them (`Proteccion`).

Main definitions:

* `Ansisop.Umv.PasoAbstracto` — the steps of the abstract memory, with the labels of the UMV;
* `Ansisop.Umv.Refina` — the simulation relation;
* `Ansisop.Umv.Estado.abstracta` — the abstract memory that a state shows.

Main results:

* `Ansisop.Umv.Paso.abstracto`, `Ansisop.Umv.refina_paso` — **one critical section of the UMV is one
  step of the abstract memory**;
* `Ansisop.Umv.umv_refina` — the refinement, on whole runs;
* `Ansisop.Umv.lectura_ultimo_valor` — a read answers, for each byte, the last value stored there.
-/

import Ansisop.Lib.SegMem
import Ansisop.Umv.Proteccion
import Mathlib.Data.List.Pairwise

set_option relaxedAutoImplicit false
set_option autoImplicit false

namespace Ansisop.Umv

/-! ### The abstract memory -/

/-- The bytes of each segment, by process and logical address. -/
abbrev Abstracta := SegMem.Memory TIdPrograma TPuntero Byte

/-- The section is one of the two that can create a segment. -/
def Seccion.Crea (pid : TIdPrograma) (n : U32) (sec : Seccion) : Prop :=
  sec = .primeraBusqueda pid n ∨ sec = .segundaBusqueda pid n

/-- **The steps of the abstract memory.**  A creation is a fresh entry of the length requested, with
arbitrary bytes, or fails; sections that do not answer change nothing. -/
inductive PasoAbstracto (a : Abstracta) : Evento → Abstracta → Prop
  | pendiente {h : ℕ} {pid : TIdPrograma} {n : U32} :
      PasoAbstracto a ⟨h, .primeraBusqueda pid n, none⟩ a
  | compactacion {h : ℕ} {pid : TIdPrograma} {n : U32} :
      PasoAbstracto a ⟨h, .compactacion pid n, none⟩ a
  | crear {h : ℕ} {pid : TIdPrograma} {n : U32} {d : TPuntero} {bs : List Byte} {sec : Seccion} :
      sec.Crea pid n → (∀ p, a p d = none) → bs.length = n.toNat →
      PasoAbstracto a ⟨h, sec, some (.segmentoCreado d)⟩ (SegMem.create a pid d bs)
  | memoryOverload {h : ℕ} {pid : TIdPrograma} {n : U32} :
      PasoAbstracto a ⟨h, .segundaBusqueda pid n, some .memory_overload⟩ a
  | eliminar {h : ℕ} {pid : TIdPrograma} :
      PasoAbstracto a ⟨h, .eliminarSegmentos pid, some .OK⟩ (SegMem.destroy a pid)
  | almacenar {h : ℕ} {pid : TIdPrograma} {st : AlmacenarBytes} {b : Abstracta} :
      SegMem.store a pid st.base st.offset.toNat st.tamanio.toNat st.buffer = some b →
      PasoAbstracto a ⟨h, .almacenarBytes pid st, some .OK⟩ b
  | almacenarFalla {h : ℕ} {pid : TIdPrograma} {st : AlmacenarBytes} :
      SegMem.store a pid st.base st.offset.toNat st.tamanio.toNat st.buffer = none →
      PasoAbstracto a ⟨h, .almacenarBytes pid st, some .segmentation_fault⟩ a
  | solicitar {h : ℕ} {pid : TIdPrograma} {sol : SolicitudBytes} {data : List Byte} :
      SegMem.load a pid sol.base sol.offset.toNat sol.tamanio.toNat = some data →
      PasoAbstracto a ⟨h, .solicitarBytes pid sol, some (.bytesSolicitados data)⟩ a
  | solicitarFalla {h : ℕ} {pid : TIdPrograma} {sol : SolicitudBytes} :
      SegMem.load a pid sol.base sol.offset.toNat sol.tamanio.toNat = none →
      PasoAbstracto a ⟨h, .solicitarBytes pid sol, some .segmentation_fault⟩ a
  | consolaCompactar {h : ℕ} : PasoAbstracto a ⟨h, .fnConsolaCompactar, none⟩ a
  | consolaAlgoritmo {h : ℕ} {alg : Algoritmo} :
      PasoAbstracto a ⟨h, .fnConsolaAlgoritmo alg, none⟩ a

/-! ### The simulation relation -/

/-- The requests that the refinement is about: no creation of size zero, and no offset and size that
add up to `2 ^ 32` or more. -/
def Seccion.Segura : Seccion → Prop
  | primeraBusqueda _ n => 0 < n.toNat
  | almacenarBytes _ st => st.offset.toNat + st.tamanio.toNat < 2 ^ 32
  | solicitarBytes _ sol => sol.offset.toNat + sol.tamanio.toNat < 2 ^ 32
  | _ => True

/-- The requests of which one critical section is one step of the abstract memory: no creation of
size zero, and no check that a wrapped sum gets past. -/
def Seccion.Cabe (s : Estado) : Seccion → Prop
  | primeraBusqueda _ n => 0 < n.toNat
  | almacenarBytes pid st => SinDesborde s pid st.base st.offset st.tamanio
  | solicitarBytes pid sol => SinDesborde s pid sol.base sol.offset sol.tamanio
  | _ => True

/-- The abstract memory has exactly the segments of a list of views. -/
def Muestra (vs : List Vista) (a : Abstracta) : Prop :=
  ∀ pid d bs, a pid d = some bs ↔ ⟨pid, d, bs⟩ ∈ vs

/-- **The simulation relation**: the state is valid and the abstract memory shows its segments. -/
structure Refina (B : Bloque) (s : Sistema) (a : Abstracta) : Prop where
  valido : s.Valido B
  muestra : Muestra s.estado.vistas a

variable {B : Bloque} {s : Estado} {a : Abstracta} {pid : TIdPrograma} {x : TipoSegmento}

theorem Seccion.Cabe.tamanioPositivo {sec : Seccion} (h : sec.Cabe s) : sec.TamanioPositivo := by
  cases sec <;> first | exact h | trivial

theorem Seccion.Segura.cabe {sec : Seccion} (h : sec.Segura) : sec.Cabe s := by
  cases sec with
  | almacenarBytes pid st => exact fun _ _ _ _ => h
  | solicitarBytes pid sol => exact fun _ _ _ _ => h
  | _ => exact h

theorem mem_vistas {v : Vista} :
    v ∈ s.vistas ↔ ∃ x ∈ s.pSegmentos, vista s.memoria x = v := by
  rw [Estado.vistas, List.mem_map]

/-- A segment of the table is an entry of the abstract memory. -/
theorem Muestra.of_mem (h : Muestra s.vistas a) (hx : x ∈ s.pSegmentos) {d : TPuntero}
    (hd : Direccionado pid d x) : a pid d = some (bytes s.memoria x) := by
  obtain ⟨rfl, rfl⟩ := hd
  exact (h _ _ _).2 (mem_vistas.2 ⟨x, hx, rfl⟩)

/-- An entry of the abstract memory is a segment of the table. -/
theorem Muestra.exists_mem (h : Muestra s.vistas a) {d : TPuntero} {bs : List Byte}
    (ha : a pid d = some bs) :
    ∃ x ∈ s.pSegmentos, Direccionado pid d x ∧ bytes s.memoria x = bs := by
  obtain ⟨x, hx, hv⟩ := mem_vistas.1 ((h _ _ _).1 ha)
  obtain ⟨rfl, rfl, rfl⟩ := Vista.mk.injEq .. ▸ hv
  exact ⟨x, hx, ⟨rfl, rfl⟩, rfl⟩

/-! ### Creation and destruction -/

theorem mem_vistas_insertarNodo {v : Vista} :
    v ∈ { s with pSegmentos := insertarNodo s.pSegmentos x }.vistas ↔
      v = vista s.memoria x ∨ v ∈ s.vistas := by
  rw [mem_vistas, mem_vistas, @eq_comm _ v]
  simp only [insertarNodo_eq, Layout.mem_insertBefore, or_and_right, exists_or, exists_eq_left]

/-- A new segment is a new entry. -/
theorem Muestra.insertarNodo (h : Muestra s.vistas a)
    (hfresh : ∀ y ∈ s.pSegmentos, y.dirLogica ≠ x.dirLogica) :
    Muestra { s with pSegmentos := insertarNodo s.pSegmentos x }.vistas
      (SegMem.create a x.idPrograma x.dirLogica (bytes s.memoria x)) := by
  intro pid d bs
  rw [mem_vistas_insertarNodo, ← h pid d bs, vista, Vista.mk.injEq]
  by_cases hk : pid = x.idPrograma ∧ d = x.dirLogica
  · obtain ⟨rfl, rfl⟩ := hk
    have hnone : a x.idPrograma x.dirLogica ≠ some bs := fun hs => by
      obtain ⟨y, hy, hd, -⟩ := h.exists_mem hs
      exact hfresh y hy hd.2
    rw [SegMem.create_self, Option.some_inj]
    simp [hnone, eq_comm]
  · rw [SegMem.create_of_ne hk]
    exact ⟨Or.inr, fun hor => hor.resolve_left fun heq => hk ⟨heq.1, heq.2.1⟩⟩

/-- A fresh logical address is the address of no entry. -/
theorem Muestra.eq_none (h : Muestra s.vistas a) {d : TPuntero}
    (hfresh : ∀ y ∈ s.pSegmentos, y.dirLogica ≠ d) (p : TIdPrograma) : a p d = none := by
  rw [Option.eq_none_iff_forall_ne_some]
  intro bs hs
  obtain ⟨y, hy, hd, -⟩ := h.exists_mem hs
  exact hfresh y hy hd.2

/-- Destroying the segments of a process removes its entries. -/
theorem Muestra.eliminarSegmentos (h : Muestra s.vistas a) (pid : TIdPrograma) :
    Muestra (eliminarSegmentos s pid).2.vistas (SegMem.destroy a pid) := by
  intro p d bs
  have hmem : (⟨p, d, bs⟩ : Vista) ∈ (Umv.eliminarSegmentos s pid).2.vistas ↔
      (⟨p, d, bs⟩ : Vista) ∈ s.vistas ∧ p ≠ pid := by
    simp only [mem_vistas, eliminarSegmentos_pSegmentos, eliminarSegmentos_memoria,
      List.mem_filter, bne_iff_ne]
    constructor
    · rintro ⟨y, ⟨hy, hne⟩, hv⟩
      exact ⟨⟨y, hy, hv⟩, fun hp => hne ((congrArg Vista.idPrograma hv).trans hp)⟩
    · rintro ⟨⟨y, hy, hv⟩, hne⟩
      exact ⟨y, ⟨hy, fun hp => hne ((congrArg Vista.idPrograma hv).symm.trans hp)⟩, hv⟩
  rw [hmem, ← h p d bs]
  by_cases hp : p = pid
  · simp [SegMem.destroy, hp]
  · simp [SegMem.destroy, hp]

/-! ### Stores -/

/-- The segment stored to shows its bytes overwritten. -/
theorem bytes_almacenarBytes (h : TablaBienFormada B s.pSegmentos) {r : AlmacenarBytes}
    (hx : x ∈ s.pSegmentos) (hd : Direccionado pid r.base x)
    (hr : EnRango r.offset r.tamanio x) :
    bytes (almacenarBytes s pid r).2.memoria x =
      SegMem.overwrite (bytes s.memoria x) r.offset.toNat r.tamanio.toNat r.buffer := by
  have hend := h.base_add_le hx
  have hbase : base x = x.dirFisica.toNat := rfl
  refine List.ext_getElem (by simp) fun i hi hi' => ?_
  rw [length_bytes, len] at hi
  have hto : (x.dirFisica + BitVec.ofNat 32 i).toNat = base x + i := by bv_omega
  simp only [bytes, SegMem.overwrite, Mem.read_getElem, List.getElem_mapIdx,
    almacenarBytes_enRango h hx hd hr, hto]
  by_cases hin : r.offset.toNat ≤ i ∧ i < r.offset.toNat + r.tamanio.toNat
  · rw [if_pos (by omega), if_pos hin, Nat.add_sub_add_left]
  · rw [if_neg (by omega), if_neg hin]

/-- Two segments of the table do not overlap. -/
theorem TablaBienFormada.disjuntos (h : TablaBienFormada B s.pSegmentos) {y : TipoSegmento}
    (hx : x ∈ s.pSegmentos) (hy : y ∈ s.pSegmentos) (hne : x ≠ y) :
    base x + len x ≤ base y ∨ base y + len y ≤ base x := by
  have : Std.Symm fun a b : TipoSegmento => base a + len a ≤ base b ∨ base b + len b ≤ base a :=
    ⟨fun _ _ => Or.symm⟩
  have hp : s.pSegmentos.Pairwise fun a b => base a + len a ≤ base b ∨ base b + len b ≤ base a :=
    h.within.pairwise.imp Or.inl
  exact hp.forall hx hy hne

/-- The other segments show the same bytes. -/
theorem bytes_almacenarBytes_of_ne (h : TablaBienFormada B s.pSegmentos) {r : AlmacenarBytes}
    {y : TipoSegmento} (hx : x ∈ s.pSegmentos) (hd : Direccionado pid r.base x)
    (hr : EnRango r.offset r.tamanio x) (hy : y ∈ s.pSegmentos) (hne : x ≠ y) :
    bytes (almacenarBytes s pid r).2.memoria y = bytes s.memoria y := by
  refine bytes_congr (h.base_add_le hy) fun q hlo hhi => ?_
  have hdis := h.disjuntos hx hy hne
  rw [almacenarBytes_enRango h hx hd hr, if_neg]
  rw [EnRango] at hr
  simp only [len] at hdis hhi
  omega

/-- A store in bounds overwrites the entry addressed. -/
theorem Muestra.almacenarBytes (hm : Muestra s.vistas a) (h : TablaBienFormada B s.pSegmentos)
    {r : AlmacenarBytes} (hx : x ∈ s.pSegmentos) (hd : Direccionado pid r.base x)
    (hr : EnRango r.offset r.tamanio x) :
    Muestra (almacenarBytes s pid r).2.vistas (SegMem.create a pid r.base
      (SegMem.overwrite (bytes s.memoria x) r.offset.toNat r.tamanio.toNat r.buffer)) := by
  intro p d bs
  rw [mem_vistas, almacenarBytes_pSegmentos]
  by_cases hk : p = pid ∧ d = r.base
  · obtain ⟨rfl, rfl⟩ := hk
    rw [SegMem.create_self, Option.some_inj]
    constructor
    · rintro rfl
      exact ⟨x, hx, by rw [vista, bytes_almacenarBytes h hx hd hr, hd.1, hd.2]⟩
    · rintro ⟨y, hy, hv⟩
      -- the logical address names `x` alone
      obtain rfl : y = x :=
        h.eq_of_dirLogica hy hx ((congrArg Vista.dirLogica hv).trans hd.2.symm)
      rw [← bytes_almacenarBytes h hy hd hr]
      exact congrArg Vista.bytes hv
  · rw [SegMem.create_of_ne hk, hm p d bs, mem_vistas]
    refine exists_congr fun y => and_congr_right fun hy => ?_
    rcases eq_or_ne x y with rfl | hne
    · -- neither side can hold: the entry is another one
      refine ⟨fun hv => absurd ?_ hk, fun hv => absurd ?_ hk⟩
      all_goals exact ⟨(congrArg Vista.idPrograma hv).symm.trans hd.1,
        (congrArg Vista.dirLogica hv).symm.trans hd.2⟩
    · rw [vista, vista, bytes_almacenarBytes_of_ne h hx hd hr hy hne]

/-! ### The simulation -/

/-- An entry of the abstract memory in bounds is a segment in bounds. -/
theorem Muestra.enRango (h : Muestra s.vistas a) {d : TPuntero} {bs : List Byte}
    {offset tamanio : U32} (ha : a pid d = some bs)
    (hle : offset.toNat + tamanio.toNat ≤ bs.length) :
    ∃ x ∈ s.pSegmentos, Direccionado pid d x ∧ EnRango offset tamanio x := by
  obtain ⟨x, hx, hd, rfl⟩ := h.exists_mem ha
  exact ⟨x, hx, hd, by simpa [EnRango, len] using hle⟩

/-- A request that no segment holds is out of the bounds of every entry. -/
theorem Muestra.not_le (h : Muestra s.vistas a) {d : TPuntero} {offset tamanio : U32}
    (hf : ∀ x ∈ s.pSegmentos, Direccionado pid d x → ¬ EnRango offset tamanio x) {bs : List Byte}
    (ha : a pid d = some bs) : ¬ offset.toNat + tamanio.toNat ≤ bs.length := by
  intro hle
  obtain ⟨x, hx, hd, hr⟩ := h.enRango ha hle
  exact hf x hx hd hr

/-- A store of the UMV is a store of the abstract memory. -/
theorem simula_almacenarBytes (hm : Muestra s.vistas a) (h : TablaBienFormada B s.pSegmentos)
    {r : AlmacenarBytes} (hsum : SinDesborde s pid r.base r.offset r.tamanio) (i : ℕ) :
    ∃ b, PasoAbstracto a ⟨i, .almacenarBytes pid r, some (almacenarBytes s pid r).1⟩ b ∧
      Muestra (almacenarBytes s pid r).2.vistas b := by
  by_cases hx : ∃ x ∈ s.pSegmentos, Direccionado pid r.base x ∧ EnRango r.offset r.tamanio x
  · obtain ⟨x, hx, hd, hr⟩ := hx
    refine ⟨_, ?_, hm.almacenarBytes h hx hd hr⟩
    rw [almacenarBytes_of_le h hx hd hr.le]
    exact .almacenar (SegMem.store_of_le (hm.of_mem hx hd) (by simpa [EnRango, len] using hr))
  · have hf : ∀ x ∈ s.pSegmentos, Direccionado pid r.base x → ¬ EnRango r.offset r.tamanio x :=
      fun x hmem hd hr => hx ⟨x, hmem, hd, hr⟩
    rw [almacenarBytes_fault (hsum.not_le hf)]
    exact ⟨a, .almacenarFalla (SegMem.store_eq_none fun _ => hm.not_le hf), hm⟩

/-- A read of the UMV is a read of the abstract memory. -/
theorem simula_solicitarBytes (hm : Muestra s.vistas a) (h : TablaBienFormada B s.pSegmentos)
    {sol : SolicitudBytes} (hsum : SinDesborde s pid sol.base sol.offset sol.tamanio) (i : ℕ) :
    PasoAbstracto a ⟨i, .solicitarBytes pid sol, some (solicitarBytes s pid sol)⟩ a := by
  by_cases hx : ∃ x ∈ s.pSegmentos, Direccionado pid sol.base x ∧ EnRango sol.offset sol.tamanio x
  · obtain ⟨x, hx, hd, hr⟩ := hx
    rw [solicitarBytes_enRango h hx hd hr]
    exact .solicitar (SegMem.load_of_le (hm.of_mem hx hd) (by simpa [EnRango, len] using hr))
  · have hf : ∀ x ∈ s.pSegmentos, Direccionado pid sol.base x →
        ¬ EnRango sol.offset sol.tamanio x :=
      fun x hmem hd hr => hx ⟨x, hmem, hd, hr⟩
    rw [solicitarBytes_fault (hsum.not_le hf)]
    exact .solicitarFalla (SegMem.load_eq_none fun _ => hm.not_le hf)

/-- A creation of the UMV, after either search, is a creation of the abstract memory. -/
theorem simula_crearSegmento (hm : Muestra s.vistas a) {n : U32} {p : TPuntero}
    {random : List TPuntero} {r : Respuesta} {t : Estado}
    (hc : crearSegmento s pid n p random = some (r, t)) {sec : Seccion} (hsec : sec.Crea pid n)
    (i : ℕ) : ∃ b, PasoAbstracto a ⟨i, sec, some r⟩ b ∧ Muestra t.vistas b := by
  obtain ⟨d, rfl, -, hfresh, rfl⟩ := crearSegmento_spec hc
  exact ⟨_, .crear hsec (hm.eq_none hfresh) (length_bytes s.memoria ⟨pid, n, d, p⟩),
    hm.insertarNodo hfresh⟩

/-- **A critical section that gets past no check is one step of the abstract memory**, with the same
answer. -/
theorem Paso.simula {s t : Sistema} {e : Evento} (hp : Paso B s e t)
    (hcabe : e.seccion.Cabe s.estado) (hr : Refina B s a) : ∃ b, PasoAbstracto a e b ∧
    Refina B t b := by
  obtain ⟨hv, hm⟩ := hr
  have ht : t.Valido B := hp.valido hv hcabe.tamanioPositivo
  suffices ∃ b, PasoAbstracto a e b ∧ Muestra t.estado.vistas b by
    obtain ⟨b, hb, hmb⟩ := this
    exact ⟨b, hb, ht, hmb⟩
  cases hp with
  | sinLugar hf hp => exact ⟨a, .pendiente, hm⟩
  | crear random hf hp hc => exact simula_crearSegmento hm hc (Or.inl rfl) _
  | compactar hf => exact ⟨a, .compactacion, by rwa [← fnCompactar_vistas hv.tabla] at hm⟩
  | buscar random hf hb =>
      rw [segundaBusqueda] at hb
      split at hb
      · obtain ⟨rfl, rfl⟩ := Prod.mk.inj (Option.some_inj.1 hb)
        exact ⟨a, .memoryOverload, hm⟩
      · exact simula_crearSegmento hm hb (Or.inr rfl) _
  | eliminar hf => exact ⟨_, .eliminar, hm.eliminarSegmentos _⟩
  | almacenar hf => exact simula_almacenarBytes hm hv.tabla.toTablaBienFormada hcabe _
  | solicitar hf => exact ⟨a, simula_solicitarBytes hm hv.tabla.toTablaBienFormada hcabe _, hm⟩
  | consolaCompactar hf =>
      exact ⟨a, .consolaCompactar, by rwa [← fnCompactar_vistas hv.tabla] at hm⟩
  | consolaAlgoritmo hf => exact ⟨a, .consolaAlgoritmo, hm⟩

/-- **One critical section of the UMV is one step of the abstract memory**, with the same answer. -/
theorem refina_paso (B : Bloque) :
    Lts.Simulates (Refina B) (Lts.restrict (fun _ e => e.seccion.Segura) (Paso B))
      PasoAbstracto :=
  fun _ _ _ _ hr hp => hp.2.simula hp.1.cabe hr

/-- The abstract memory that a state shows. -/
def Estado.abstracta (s : Estado) : Abstracta :=
  fun pid d => (s.pSegmentos.find? (bfnSegmento pid d)).map (bytes s.memoria)

theorem muestra_abstracta (h : TablaBienFormada B s.pSegmentos) : Muestra s.vistas s.abstracta := by
  intro pid d bs
  rw [Estado.abstracta, Option.map_eq_some_iff, mem_vistas]
  constructor
  · rintro ⟨x, hx, rfl⟩
    obtain ⟨hmem, rfl, rfl⟩ := mem_of_find_bfnSegmento hx
    exact ⟨x, hmem, rfl⟩
  · rintro ⟨x, hx, hv⟩
    obtain ⟨rfl, rfl, rfl⟩ := Vista.mk.injEq .. ▸ hv
    exact ⟨x, find_bfnSegmento h hx rfl rfl, rfl⟩

/-- A state shows one abstract memory. -/
theorem Muestra.eq_abstracta (h : TablaBienFormada B s.pSegmentos) (hm : Muestra s.vistas a) :
    a = s.abstracta := by
  funext pid d
  refine Option.ext fun bs => ?_
  exact (hm pid d bs).trans (muestra_abstracta h pid d bs).symm

/-- **A critical section that gets past no check is one step of the memory that the state
shows.** -/
theorem Paso.abstracto {s t : Sistema} {e : Evento} (hp : Paso B s e t)
    (hcabe : e.seccion.Cabe s.estado) (hs : s.Valido B) :
    PasoAbstracto s.estado.abstracta e t.estado.abstracta := by
  obtain ⟨b, hb, ht, hm⟩ := hp.simula hcabe
    ⟨hs, muestra_abstracta hs.tabla.toTablaBienFormada⟩
  rwa [← hm.eq_abstracta ht.tabla.toTablaBienFormada]

/-- The runs in which every request is one that the refinement is about. -/
def CorridaSegura (B : Bloque) : Sistema → List Evento → Sistema → Prop :=
  Lts.Run (Lts.restrict (fun _ e => e.seccion.Segura) (Paso B))

theorem Sistema.Inicial.refina {s : Sistema} (h : s.Inicial) : Refina B s SegMem.empty where
  valido := h.valido
  muestra := fun pid d bs => by simp [SegMem.empty, Estado.vistas, h.1]

/-- **The UMV refines the segmented memory**: the labels of every run, answers included, are those
of a run of the abstract memory, and the segments at the end are its entries. -/
theorem umv_refina (B : Bloque) {s t : Sistema} {tr : List Evento} (hs : s.Inicial)
    (h : CorridaSegura B s tr t) :
    ∃ a, Lts.Run PasoAbstracto SegMem.empty tr a ∧
      ∀ pid d bs, a pid d = some bs ↔
        ∃ x ∈ t.estado.pSegmentos, x.idPrograma = pid ∧ x.dirLogica = d ∧
          bytes t.estado.memoria x = bs := by
  obtain ⟨a, ha, -, hm⟩ := Lts.Run.simulation (refina_paso B) h hs.refina
  refine ⟨a, ha, fun pid d bs => ?_⟩
  rw [hm pid d bs, mem_vistas]
  simp only [vista, Vista.mk.injEq]

theorem umv_refina_dosSegmentos : ∃ a, Lts.Run PasoAbstracto SegMem.empty trazaDosSegmentos a ∧
    ∀ pid d bs, a pid d = some bs ↔
      ∃ x ∈ dosSegmentos.estado.pSegmentos, x.idPrograma = pid ∧ x.dirLogica = d ∧
        bytes dosSegmentos.estado.memoria x = bs :=
  umv_refina bloque16 ⟨rfl, fun _ => rfl⟩
    (run_dosSegmentos.restrict (by simp [trazaDosSegmentos, Seccion.Segura]))

/-! ### The value of a byte -/

/-- The section can change the byte at position `i` of a segment: it destroys the segment, or stores
to the byte. -/
def Seccion.Toca (pid : TIdPrograma) (d : TPuntero) (i : ℕ) : Seccion → Prop
  | eliminarSegmentos p => p = pid
  | almacenarBytes p st =>
      p = pid ∧ st.base = d ∧ st.offset.toNat ≤ i ∧ i < st.offset.toNat + st.tamanio.toNat
  | _ => False

/-- A step that does not touch a byte leaves it as it was. -/
theorem PasoAbstracto.holds {b : Abstracta} {e : Evento} {d : TPuntero} {i : ℕ} {v : Byte}
    (hp : PasoAbstracto a e b) (ht : ¬ e.seccion.Toca pid d i) (h : SegMem.Holds a pid d i v) :
    SegMem.Holds b pid d i v := by
  cases hp with
  | crear hsec hnew hlen => exact h.create (hnew _)
  | eliminar => exact h.destroy fun hpid => ht hpid.symm
  | almacenar hs =>
      exact h.store_of_notMem hs fun hin => ht ⟨hin.1.symm, hin.2.1.symm, hin.2.2⟩
  | _ => exact h

/-- **A read answers, for each byte, the last value stored there**: the answer at a byte that was
stored, and that nothing has touched since, is the value stored. -/
theorem lectura_ultimo_valor (B : Bloque) {s t : Sistema} {tr tr' : List Evento} {h h' : ℕ}
    {st : AlmacenarBytes} {sol : SolicitudBytes} {data : List Byte} {i : ℕ} (hs : s.Inicial)
    (hrun : CorridaSegura B s (tr ++ [⟨h, .almacenarBytes pid st, some .OK⟩] ++ tr' ++
      [⟨h', .solicitarBytes pid sol, some (.bytesSolicitados data)⟩]) t)
    (hbase : sol.base = st.base) (htr : ∀ e ∈ tr', ¬ e.seccion.Toca pid st.base i)
    (hst : st.offset.toNat ≤ i ∧ i < st.offset.toNat + st.tamanio.toNat)
    (hsol : sol.offset.toNat ≤ i ∧ i < sol.offset.toNat + sol.tamanio.toNat) :
    data[i - sol.offset.toNat]? = some (st.buffer (i - st.offset.toNat)) := by
  obtain ⟨a, ha, -⟩ := Lts.Run.simulation (refina_paso B) hrun hs.refina
  obtain ⟨a₃, ha₃, hread⟩ := ha.snoc_inv
  obtain ⟨a₂, ha₂, hkeep⟩ := ha₃.split
  obtain ⟨a₁, -, hstore⟩ := ha₂.snoc_inv
  have hwritten : SegMem.Holds a₂ pid st.base i (st.buffer (i - st.offset.toNat)) := by
    cases hstore with
    | almacenar hb => exact SegMem.holds_of_store hb hst.1 hst.2
  have hkept : SegMem.Holds a₃ pid st.base i (st.buffer (i - st.offset.toNat)) :=
    hkeep.invariant_of_labels (fun _ e he _ hh hp => hp.holds (htr e he) hh) hwritten
  cases hread with
  | solicitar hd =>
      rw [hbase] at hd
      exact hkept.load hd hsol.1 hsol.2

end Ansisop.Umv
