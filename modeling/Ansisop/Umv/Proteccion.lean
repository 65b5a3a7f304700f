/-
**Memory protection.**

A request of the CPU or of the kernel names a process, the logical address of one of its segments,
an offset and a size.  It is *in bounds* when the segment exists and offset and size, added as
natural numbers, do not go past its end.  The functions of the UMV compare the size of the segment
with `tamanio + offset`, which is a sum of two `u_int32_t` and wraps around.  Before that, a store
declares an array of the size of the request and logs what is in it.

Main definitions:

* `Ansisop.Umv.EnRango` — the request is in bounds of a segment;
* `Ansisop.Umv.AlmacenarProtegido`, `Ansisop.Umv.SolicitarProtegido` — a store and a read succeed
  exactly when they are in bounds, and then touch exactly the bytes asked for;
* `Ansisop.Umv.SinDesborde` — the check of the code is not fooled by a sum that wraps around;
* `Ansisop.Umv.Hilo.Imprime` — the thread gets through the lines that a store logs first.

Main results:

* `Ansisop.Umv.almacenarBytes_enRango`, `Ansisop.Umv.solicitarBytes_enRango` — what a request in
  bounds does;
* `Ansisop.Umv.Hilo.almacenarBytes_eq_some_iff` — exactly when a store gets to the mutex;
* `Ansisop.Umv.protegido_iff` — **the memory is protected exactly from the requests whose sum does
  not wrap around to a small number**, as long as the thread gets through what a store logs;
* `Ansisop.Umv.no_protegido_dosSegmentos` — a store of one process over the bytes of another.
-/

import Ansisop.Umv.Sistema

set_option relaxedAutoImplicit false
set_option autoImplicit false

namespace Ansisop.Umv

/-- The segment belongs to the process and has the logical address. -/
def Direccionado (pid : TIdPrograma) (base : TPuntero) (x : TipoSegmento) : Prop :=
  x.idPrograma = pid ∧ x.dirLogica = base

instance (pid : TIdPrograma) (base : TPuntero) (x : TipoSegmento) :
    Decidable (Direccionado pid base x) :=
  inferInstanceAs (Decidable (_ ∧ _))

/-- `tamanio` bytes from `offset` on lie in the segment. -/
def EnRango (offset tamanio : U32) (x : TipoSegmento) : Prop :=
  offset.toNat + tamanio.toNat ≤ x.tamanio.toNat

/-- **A store is protected**: in bounds, it answers `OK` and changes exactly the bytes asked for;
otherwise it answers `segmentation_fault` and changes nothing. -/
structure AlmacenarProtegido (hilo : Hilo) (s : Estado) (pid : TIdPrograma) (r : AlmacenarBytes) :
    Prop where
  dentro : ∀ x ∈ s.pSegmentos, Direccionado pid r.base x → EnRango r.offset r.tamanio x →
    ∃ s', hilo.almacenarBytes s pid r = some (.OK, s') ∧
      ∀ q : TPuntero, s'.memoria q =
        if base x + r.offset.toNat ≤ q.toNat ∧
            q.toNat < base x + r.offset.toNat + r.tamanio.toNat then
          r.buffer (q.toNat - (base x + r.offset.toNat))
        else s.memoria q
  fuera : (∀ x ∈ s.pSegmentos, Direccionado pid r.base x → ¬ EnRango r.offset r.tamanio x) →
    ∃ s', hilo.almacenarBytes s pid r = some (.segmentation_fault, s') ∧ s'.memoria = s.memoria

/-- **A read is protected**: in bounds, it answers exactly the bytes asked for; otherwise it answers
`segmentation_fault`. -/
structure SolicitarProtegido (s : Estado) (pid : TIdPrograma) (sol : SolicitudBytes) : Prop where
  dentro : ∀ x ∈ s.pSegmentos, Direccionado pid sol.base x → EnRango sol.offset sol.tamanio x →
    solicitarBytes s pid sol = .bytesSolicitados
      (((bytes s.memoria x).drop sol.offset.toNat).take sol.tamanio.toNat)
  fuera : (∀ x ∈ s.pSegmentos, Direccionado pid sol.base x → ¬ EnRango sol.offset sol.tamanio x) →
    solicitarBytes s pid sol = .segmentation_fault

/-- Where the wrapped sum of offset and size does not go past the end of the segment addressed, it
has not wrapped around. -/
def SinDesborde (s : Estado) (pid : TIdPrograma) (base : TPuntero) (offset tamanio : U32) : Prop :=
  ∀ x ∈ s.pSegmentos, Direccionado pid base x → tamanio + offset ≤ x.tamanio →
    offset.toNat + tamanio.toNat < 2 ^ 32

/-- **The thread gets through what a store logs first**: the array of `tamanio + 1` bytes has a
place for its last one and fits in the stack, and what is in it can be logged. -/
structure Hilo.Imprime (hilo : Hilo) (tamanio : U32) : Prop where
  largo : tamanio.toNat + 1 < 2 ^ 32
  pila : tamanio.toNat + 1 ≤ hilo.pila
  texto : Commons.Registrable sizeBufferLogUmv hilo.detail Commons.logLevelDebug
    (registroImprimo (hilo.textoImprimo tamanio))

variable {B : Bloque} {s : Estado} {pid : TIdPrograma} {x : TipoSegmento} {hilo : Hilo}

/-! ### Before the mutex -/

theorem Hilo.imprimo_eq_some_iff {tamanio : U32} {imprimo : Texto} :
    hilo.imprimo tamanio = some imprimo ↔
      (tamanio.toNat + 1 < 2 ^ 32 ∧ tamanio.toNat + 1 ≤ hilo.pila) ∧
        hilo.textoImprimo tamanio = imprimo := by
  have hlargo : tamanio < tamanio + 1#32 ∧ (tamanio + 1#32).toNat ≤ hilo.pila ↔
      tamanio.toNat + 1 < 2 ^ 32 ∧ tamanio.toNat + 1 ≤ hilo.pila := by
    bv_omega
  rw [Hilo.imprimo, Option.ite_none_right_eq_some, Option.some_inj, hlargo]

/-- **Exactly when a store gets to the mutex.** -/
theorem Hilo.almacenarBytes_eq_some_iff {r : AlmacenarBytes} {respuesta : Respuesta × Estado} :
    hilo.almacenarBytes s pid r = some respuesta ↔
      hilo.Imprime r.tamanio ∧ Umv.almacenarBytes s pid r = respuesta := by
  rw [Hilo.almacenarBytes, Option.bind_eq_some_iff]
  simp only [Option.map_eq_some_iff, Hilo.imprimo_eq_some_iff]
  constructor
  · rintro ⟨_, ⟨⟨hlargo, hpila⟩, rfl⟩, ⟨⟩, htexto, hrespuesta⟩
    exact ⟨⟨hlargo, hpila, Commons.registrar_eq_some_iff.1 htexto⟩, hrespuesta⟩
  · rintro ⟨h, hrespuesta⟩
    exact ⟨_, ⟨⟨h.largo, h.pila⟩, rfl⟩, (), Commons.registrar_eq_some_iff.2 h.texto, hrespuesta⟩

/-! ### The check of the code -/

/-- In bounds, the check of the code succeeds. -/
theorem EnRango.le {offset tamanio : U32} (h : EnRango offset tamanio x) :
    tamanio + offset ≤ x.tamanio := by
  rw [EnRango] at h
  bv_omega

/-- When the sum does not wrap around, the check of the code is being in bounds. -/
theorem enRango_of_le {offset tamanio : U32} (hsum : offset.toNat + tamanio.toNat < 2 ^ 32)
    (h : tamanio + offset ≤ x.tamanio) : EnRango offset tamanio x := by
  rw [EnRango]
  bv_omega

/-- Without a wrapped sum, a request that is in bounds of no segment fails the check everywhere. -/
theorem SinDesborde.not_le {base : TPuntero} {offset tamanio : U32}
    (h : SinDesborde s pid base offset tamanio)
    (hf : ∀ x ∈ s.pSegmentos, Direccionado pid base x → ¬ EnRango offset tamanio x) :
    ∀ x ∈ s.pSegmentos, Direccionado pid base x → ¬ tamanio + offset ≤ x.tamanio :=
  fun x hx hd hle => hf x hx hd (enRango_of_le (h x hx hd hle) hle)

/-! ### The functions on a segment that passes the check -/

theorem find_of_direccionado (h : TablaBienFormada B s.pSegmentos) (hx : x ∈ s.pSegmentos)
    {base : TPuntero} (hd : Direccionado pid base x) :
    s.pSegmentos.find? (bfnSegmento pid base) = some x :=
  find_bfnSegmento h hx hd.1 hd.2

theorem almacenarBytes_of_le (h : TablaBienFormada B s.pSegmentos) {r : AlmacenarBytes}
    (hx : x ∈ s.pSegmentos) (hd : Direccionado pid r.base x)
    (hle : r.tamanio + r.offset ≤ x.tamanio) :
    almacenarBytes s pid r = (.OK, { s with
      memoria := Mem.write s.memoria (x.dirFisica + r.offset) r.buffer r.tamanio.toNat }) := by
  rw [almacenarBytes, find_of_direccionado h hx hd]
  exact if_neg (BitVec.not_lt.2 hle)

theorem solicitarBytes_of_le (h : TablaBienFormada B s.pSegmentos) {sol : SolicitudBytes}
    (hx : x ∈ s.pSegmentos) (hd : Direccionado pid sol.base x)
    (hle : sol.tamanio + sol.offset ≤ x.tamanio) :
    solicitarBytes s pid sol = .bytesSolicitados
      (Mem.read s.memoria (x.dirFisica + sol.offset) sol.tamanio.toNat) := by
  rw [solicitarBytes, find_of_direccionado h hx hd]
  exact if_neg (BitVec.not_lt.2 hle)

theorem almacenarBytes_fault {r : AlmacenarBytes}
    (hf : ∀ x ∈ s.pSegmentos, Direccionado pid r.base x → ¬ r.tamanio + r.offset ≤ x.tamanio) :
    almacenarBytes s pid r = (.segmentation_fault, s) := by
  rw [almacenarBytes]
  split
  · rfl
  · next y hy =>
      obtain ⟨hmem, hd⟩ := mem_of_find_bfnSegmento hy
      exact if_pos (BitVec.not_le.1 (hf y hmem hd))

theorem solicitarBytes_fault {sol : SolicitudBytes}
    (hf : ∀ x ∈ s.pSegmentos, Direccionado pid sol.base x →
      ¬ sol.tamanio + sol.offset ≤ x.tamanio) :
    solicitarBytes s pid sol = .segmentation_fault := by
  rw [solicitarBytes]
  split
  · rfl
  · next y hy =>
      obtain ⟨hmem, hd⟩ := mem_of_find_bfnSegmento hy
      exact if_pos (BitVec.not_le.1 (hf y hmem hd))

/-! ### Requests in bounds -/

/-- The physical range of a request in bounds does not wrap around. -/
theorem TablaBienFormada.base_add_le (h : TablaBienFormada B s.pSegmentos)
    (hx : x ∈ s.pSegmentos) : x.dirFisica.toNat + x.tamanio.toNat ≤ 2 ^ 32 :=
  (h.within.bounds hx).2.trans B.hi_le

/-- **A store in bounds** writes the bytes of the request, and only those. -/
theorem almacenarBytes_enRango (h : TablaBienFormada B s.pSegmentos) {r : AlmacenarBytes}
    (hx : x ∈ s.pSegmentos) (hd : Direccionado pid r.base x)
    (hr : EnRango r.offset r.tamanio x) (q : TPuntero) :
    (almacenarBytes s pid r).2.memoria q =
      if base x + r.offset.toNat ≤ q.toNat ∧
          q.toNat < base x + r.offset.toNat + r.tamanio.toNat then
        r.buffer (q.toNat - (base x + r.offset.toNat))
      else s.memoria q := by
  have hend := h.base_add_le hx
  have hbase : base x = x.dirFisica.toNat := rfl
  rw [almacenarBytes_of_le h hx hd hr.le]
  rw [EnRango] at hr
  have hdir : x.dirFisica + r.offset = BitVec.ofNat 32 (base x + r.offset.toNat) := by
    rw [hbase, BitVec.ofNat_add, BitVec.ofNat_toNat, BitVec.ofNat_toNat, BitVec.setWidth_eq,
      BitVec.setWidth_eq]
  simp only [hdir]
  exact Mem.write_apply s.memoria r.buffer q (by omega)

/-- Reading a run of bytes inside a segment is taking a slice of its contents. -/
theorem read_slice (m : TPuntero → Byte) {offset tamanio : U32} (hr : EnRango offset tamanio x) :
    Mem.read m (x.dirFisica + offset) tamanio.toNat =
      ((bytes m x).drop offset.toNat).take tamanio.toNat := by
  rw [EnRango] at hr
  refine List.ext_getElem (by simp [len]; omega) fun i hi hi' => ?_
  rw [Mem.read_getElem, List.getElem_take, List.getElem_drop]
  simp only [bytes, Mem.read_getElem]
  congr 1
  rw [BitVec.ofNat_add, BitVec.ofNat_toNat, BitVec.setWidth_eq, BitVec.add_assoc]

/-- **A read in bounds** answers the bytes asked for. -/
theorem solicitarBytes_enRango (h : TablaBienFormada B s.pSegmentos) {sol : SolicitudBytes}
    (hx : x ∈ s.pSegmentos) (hd : Direccionado pid sol.base x)
    (hr : EnRango sol.offset sol.tamanio x) :
    solicitarBytes s pid sol = .bytesSolicitados
      (((bytes s.memoria x).drop sol.offset.toNat).take sol.tamanio.toNat) := by
  rw [solicitarBytes_of_le h hx hd hr.le, read_slice _ hr]

/-! ### When the memory is protected -/

/-- A store is protected exactly when its sum is not one that wraps around to a small number, and it
gets to the mutex. -/
theorem almacenarProtegido_iff (h : TablaBienFormada B s.pSegmentos) {r : AlmacenarBytes} :
    AlmacenarProtegido hilo s pid r ↔
      SinDesborde s pid r.base r.offset r.tamanio ∧ hilo.Imprime r.tamanio := by
  constructor
  · intro hp
    refine ⟨fun x hx hd hle => ?_, ?_⟩
    · by_contra hsum
      -- the sum is larger than any size, so that no segment holds the request
      obtain ⟨s', hfuera, -⟩ := hp.fuera fun y _ _ hr => by
        have := y.tamanio.isLt
        rw [EnRango] at hr
        omega
      have hrespuesta := (Hilo.almacenarBytes_eq_some_iff.1 hfuera).2
      rw [almacenarBytes_of_le h hx hd hle] at hrespuesta
      exact absurd (congrArg Prod.fst hrespuesta) (by simp)
    · by_cases hdentro : ∃ x ∈ s.pSegmentos, Direccionado pid r.base x ∧
        EnRango r.offset r.tamanio x
      · obtain ⟨x, hx, hd, hr⟩ := hdentro
        obtain ⟨s', hok, -⟩ := hp.dentro x hx hd hr
        exact (Hilo.almacenarBytes_eq_some_iff.1 hok).1
      · obtain ⟨s', hfuera, -⟩ := hp.fuera fun x hx hd hr => hdentro ⟨x, hx, hd, hr⟩
        exact (Hilo.almacenarBytes_eq_some_iff.1 hfuera).1
  · rintro ⟨hs, himprime⟩
    refine ⟨fun x hx hd hr => ⟨(almacenarBytes s pid r).2, ?_, almacenarBytes_enRango h hx hd hr⟩,
      fun hf => ⟨s, ?_, rfl⟩⟩
    · refine Hilo.almacenarBytes_eq_some_iff.2 ⟨himprime, ?_⟩
      rw [almacenarBytes_of_le h hx hd hr.le]
    · exact Hilo.almacenarBytes_eq_some_iff.2 ⟨himprime, almacenarBytes_fault (hs.not_le hf)⟩

/-- A read is protected exactly when its sum is not one that wraps around to a small number. -/
theorem solicitarProtegido_iff (h : TablaBienFormada B s.pSegmentos) {sol : SolicitudBytes} :
    SolicitarProtegido s pid sol ↔ SinDesborde s pid sol.base sol.offset sol.tamanio := by
  constructor
  · intro hp x hx hd hle
    by_contra hsum
    have hfuera := hp.fuera fun y _ _ hr => by
      have := y.tamanio.isLt
      rw [EnRango] at hr
      omega
    rw [solicitarBytes_of_le h hx hd hle] at hfuera
    exact absurd hfuera (by simp)
  · exact fun hs => ⟨fun x hx hd hr => solicitarBytes_enRango h hx hd hr,
      fun hf => solicitarBytes_fault (hs.not_le hf)⟩

/-- **Memory protection**: in a well-formed state a store and a read are protected if and only if
their sum of offset and size does not wrap around to at most the size of the segment addressed, and
the thread gets through what a store logs first. -/
theorem protegido_iff (B : Bloque) (s : Estado) (h : TablaBienFormada B s.pSegmentos) (hilo : Hilo)
    (pid : TIdPrograma) (base : TPuntero) (offset tamanio : U32) (buffer : ℕ → Byte) :
    (AlmacenarProtegido hilo s pid ⟨base, offset, tamanio, buffer⟩ ∧
        SolicitarProtegido s pid ⟨base, offset, tamanio⟩) ↔
      SinDesborde s pid base offset tamanio ∧ hilo.Imprime tamanio := by
  rw [almacenarProtegido_iff h, solicitarProtegido_iff h, and_right_comm, and_self]

theorem tablaBienFormada_dosSegmentos :
    TablaBienFormada bloque16 dosSegmentos.estado.pSegmentos :=
  (corrida_dosSegmentos.valido
    (Sistema.Inicial.valido ⟨rfl, fun _ => rfl⟩)).tabla.toTablaBienFormada

/-- A thread with eight megabytes of stack, all zeros, that prints every line. -/
def hiloNulo : Hilo := ⟨2 ^ 23, fun _ => 0#8, 0⟩

theorem protegido_iff_dosSegmentos :
    AlmacenarProtegido hiloNulo dosSegmentos.estado 2#32 ⟨200#32, 4#32, 4#32, fun _ => 7#8⟩ ∧
      SolicitarProtegido dosSegmentos.estado 2#32 ⟨200#32, 4#32, 4#32⟩ :=
  (protegido_iff bloque16 dosSegmentos.estado tablaBienFormada_dosSegmentos hiloNulo
    2#32 200#32 4#32
    4#32 _).2 ⟨fun _ _ _ _ => by decide, by decide, by decide, by decide⟩

/-- The second process stores four bytes at the offset `-2` of its segment.  The answer is `OK`, and
the last byte of the segment of the first process changes.  And a store of `2 ^ 31 - 1` bytes, which
is in bounds of no segment, gets no answer. -/
theorem no_protegido_dosSegmentos :
    TablaBienFormada bloque16 dosSegmentos.estado.pSegmentos ∧
      (∃ s', hiloNulo.almacenarBytes dosSegmentos.estado 2#32
          ⟨200#32, 0xFFFFFFFE#32, 4#32, fun _ => 7#8⟩ = some (.OK, s') ∧
        s'.memoria 0x1007#32 = 7#8) ∧
      dosSegmentos.estado.memoria 0x1007#32 = 0#8 ∧
      ¬ AlmacenarProtegido hiloNulo dosSegmentos.estado 2#32
        ⟨200#32, 0xFFFFFFFE#32, 4#32, fun _ => 7#8⟩ ∧
      hiloNulo.almacenarBytes dosSegmentos.estado 2#32
        ⟨200#32, 0#32, 0x7FFFFFFF#32, fun _ => 7#8⟩ = none := by
  have himprime : hiloNulo.Imprime 4#32 := ⟨by decide, by decide, by decide⟩
  have hok : hiloNulo.almacenarBytes dosSegmentos.estado 2#32
      ⟨200#32, 0xFFFFFFFE#32, 4#32, fun _ => 7#8⟩ = some (almacenarBytes dosSegmentos.estado 2#32
        ⟨200#32, 0xFFFFFFFE#32, 4#32, fun _ => 7#8⟩) :=
    Hilo.almacenarBytes_eq_some_iff.2 ⟨himprime, rfl⟩
  refine ⟨tablaBienFormada_dosSegmentos, ⟨_, hok, by decide⟩, rfl, fun h => ?_, by decide⟩
  obtain ⟨s', hfuera, -⟩ := h.fuera fun x _ _ hr => by
    have := x.tamanio.isLt
    simp only [EnRango, BitVec.reduceToNat] at hr
    omega
  rw [hok] at hfuera
  have hrespuesta : _ = Respuesta.segmentation_fault := congrArg Prod.fst (Option.some_inj.1 hfuera)
  exact absurd hrespuesta (by decide)

end Ansisop.Umv
