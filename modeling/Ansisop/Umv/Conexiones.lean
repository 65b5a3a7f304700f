/-
**The connections of the UMV.**

A connection has a record with the type of its client and the process that its requests are for.  A
handshake and a change of process write the record; the other requests run critical sections for
that process.

In the abstract memory, what is done for one process leaves the segments of the others alone.  So a
process can be taken out of a run: what is left is a run of the other processes.

Main definitions:

* `Ansisop.Umv.Atiende` — the critical sections that a message runs (`pfnControladorConexion`);
* `Ansisop.Umv.Seccion.proceso` — the process that a critical section is for.

Main results:

* `Ansisop.Umv.PasoAbstracto.ajena` — **a step for another process leaves the segments of a process
  alone**;
* `Ansisop.Umv.PasoAbstracto.queda` — a segment that is neither destroyed nor stored to stays as it
  was;
* `Ansisop.Umv.PasoAbstracto.sin_ajena`, `Ansisop.Umv.PasoAbstracto.sin_propia` — a step for another
  process is the same step without the segments of a process, and a step for the process is no step
  at all.
-/

import Ansisop.Umv.Abstracta
import Ansisop.Umv.Protocolo

set_option relaxedAutoImplicit false
set_option autoImplicit false

namespace Ansisop.Umv

/-! ### The requests of a connection -/

/-- `kernel`, a type of client. -/
def tipoKernel : U32 := 0#32

/-- `cpu`, the other one. -/
def tipoCpu : U32 := 1#32

/-- **The `switch` of `pfnControladorConexion`**: the critical sections that a message runs, for the
process of the connection.  `crearSegmento` runs up to three, one after the other. -/
inductive Atiende (stConexion : Conexion) : MensajeUmv → Seccion → Prop
  | almacenar {st : AlmacenarBytes} :
      Atiende stConexion (.almacenar st) (.almacenarBytes stConexion.idPrograma st)
  | primeraBusqueda {tamanio : U32} : stConexion.tipoConexion = tipoKernel →
      Atiende stConexion (.crearSegmento tamanio) (.primeraBusqueda stConexion.idPrograma tamanio)
  | compactacion {tamanio : U32} : stConexion.tipoConexion = tipoKernel →
      Atiende stConexion (.crearSegmento tamanio) (.compactacion stConexion.idPrograma tamanio)
  | segundaBusqueda {tamanio : U32} : stConexion.tipoConexion = tipoKernel →
      Atiende stConexion (.crearSegmento tamanio) (.segundaBusqueda stConexion.idPrograma tamanio)
  | destruirSegmentos : stConexion.tipoConexion = tipoKernel →
      Atiende stConexion .destruirSegmentos (.eliminarSegmentos stConexion.idPrograma)
  | solicitar {solicitud : SolicitudBytes} : stConexion.tipoConexion = tipoCpu →
      Atiende stConexion (.solicitar solicitud) (.solicitarBytes stConexion.idPrograma solicitud)

/-- The process that a critical section is for. -/
def Seccion.proceso : Seccion → Option TIdPrograma
  | primeraBusqueda pid _ => some pid
  | compactacion pid _ => some pid
  | segundaBusqueda pid _ => some pid
  | eliminarSegmentos pid => some pid
  | almacenarBytes pid _ => some pid
  | solicitarBytes pid _ => some pid
  | fnConsolaCompactar => none
  | fnConsolaAlgoritmo _ => none

variable {a b : Abstracta} {e : Evento} {pid : TIdPrograma} {stConexion : Conexion}

/-- A connection runs critical sections for its process. -/
theorem Atiende.proceso {m : MensajeUmv} {sec : Seccion} (h : Atiende stConexion m sec) :
    sec.proceso = some stConexion.idPrograma := by
  cases h <;> rfl

theorem Seccion.Crea.proceso {n : U32} {sec : Seccion} (h : sec.Crea pid n) :
    sec.proceso = some pid := by
  rcases h with rfl | rfl <;> rfl

theorem Seccion.Crea.unica {pid' : TIdPrograma} {n n' : U32} {sec : Seccion} (h : sec.Crea pid n)
    (h' : sec.Crea pid' n') : pid = pid' ∧ n = n' := by
  rcases h with rfl | rfl
  · rcases h' with h' | h'
    · exact Seccion.primeraBusqueda.inj h'
    · exact Seccion.noConfusion h'
  · rcases h' with h' | h'
    · exact Seccion.noConfusion h'
    · exact Seccion.segundaBusqueda.inj h'

/-! ### What a step does -/

/-- A section that gives no answer changes nothing. -/
theorem PasoAbstracto.eq_of_none (h : PasoAbstracto a e b) (he : e.respuesta = none) : b = a := by
  cases h <;> first | rfl | exact absurd he (by simp)

/-- A compaction gives no answer. -/
theorem PasoAbstracto.compactacion_none (h : PasoAbstracto a e b) {n : U32}
    (hsec : e.seccion = .compactacion pid n) : e.respuesta = none := by
  cases h with
  | crear hsec' _ _ =>
      rcases hsec' with hsec' | hsec' <;> exact absurd (hsec.symm.trans hsec') (by simp)
  | _ => first | rfl | exact absurd hsec (by simp)

/-- The segments of a process are destroyed. -/
theorem PasoAbstracto.eliminado (h : PasoAbstracto a e b)
    (hsec : e.seccion = .eliminarSegmentos pid) : b = SegMem.destroy a pid := by
  cases h with
  | eliminar =>
      obtain rfl := Seccion.eliminarSegmentos.inj hsec
      rfl
  | crear hsec' _ _ =>
      rcases hsec' with hsec' | hsec' <;> exact absurd (hsec.symm.trans hsec') (by simp)
  | _ => exact absurd hsec (by simp)

/-- A creation that succeeds adds a segment with a fresh address. -/
theorem PasoAbstracto.creado (h : PasoAbstracto a e b) {n : U32} {d : TPuntero}
    (hsec : e.seccion.Crea pid n) (he : e.respuesta = some (.segmentoCreado d)) :
    ∃ bs, (∀ p, a p d = none) ∧ bs.length = n.toNat ∧ b = SegMem.create a pid d bs := by
  cases h with
  | crear hsec' hnew hlen =>
      obtain rfl : _ = d := by simpa using he
      obtain ⟨rfl, rfl⟩ := hsec.unica hsec'
      exact ⟨_, hnew, hlen, rfl⟩
  | _ => exact absurd he (by simp)

/-- A store that fills a whole segment gives it the bytes that were sent. -/
theorem PasoAbstracto.llena (h : PasoAbstracto a e b) {st : AlmacenarBytes} {bs data : List Byte}
    (hsec : e.seccion = .almacenarBytes pid st) (hbs : a pid st.base = some bs)
    (hoffset : st.offset = 0#32) (hlen : bs.length = st.tamanio.toNat)
    (hdata : data.length = bs.length) (hbuffer : ∀ i < data.length, st.buffer i = data.getD i 0#8) :
    b = SegMem.create a pid st.base data := by
  have hle : st.offset.toNat + st.tamanio.toNat ≤ bs.length := by
    rw [hoffset, hlen]
    simp
  have hllena : SegMem.overwrite bs st.offset.toNat st.tamanio.toNat st.buffer = data := by
    refine List.ext_getElem (by simp [hdata]) fun i hi hi' => ?_
    simp only [SegMem.overwrite, List.getElem_mapIdx, hoffset, BitVec.toNat_ofNat, Nat.zero_mod]
    rw [if_pos ⟨Nat.zero_le i, by omega⟩, Nat.sub_zero, hbuffer i hi', List.getD_eq_getElem _ _ hi']
  have hstore : SegMem.store a pid st.base st.offset.toNat st.tamanio.toNat st.buffer =
      some (SegMem.create a pid st.base
        (SegMem.overwrite bs st.offset.toNat st.tamanio.toNat st.buffer)) :=
    SegMem.store_of_le hbs hle
  rw [hllena] at hstore
  cases h with
  | almacenar hs =>
      obtain ⟨rfl, rfl⟩ := Seccion.almacenarBytes.inj hsec
      exact Option.some_inj.1 (hs.symm.trans hstore)
  | almacenarFalla hs =>
      obtain ⟨rfl, rfl⟩ := Seccion.almacenarBytes.inj hsec
      exact absurd (hs.symm.trans hstore) (by simp)
  | crear hsec' _ _ =>
      rcases hsec' with hsec' | hsec' <;> exact absurd (hsec.symm.trans hsec') (by simp)
  | _ => exact absurd hsec (by simp)

/-! ### One process and the others -/

/-- **A step for another process leaves the segments of a process alone.** -/
theorem PasoAbstracto.ajena (h : PasoAbstracto a e b) (he : e.seccion.proceso ≠ some pid)
    (d : TPuntero) : b pid d = a pid d := by
  cases h with
  | crear hsec hnew hlen =>
      rw [hsec.proceso] at he
      exact SegMem.create_of_ne fun heq => he (congrArg some heq.1.symm)
  | eliminar => exact SegMem.destroy_of_ne fun heq => he (congrArg some heq.symm)
  | almacenar hs =>
      obtain ⟨bs, -, -, rfl⟩ := SegMem.store_eq_some hs
      exact SegMem.create_of_ne fun heq => he (congrArg some heq.1.symm)
  | _ => rfl

/-- **A segment stays as it was** when it is neither destroyed nor stored to. -/
theorem PasoAbstracto.queda {d : TPuntero} {bs : List Byte} (hpaso : PasoAbstracto a e b)
    (hbs : a pid d = some bs) (helimina : e.seccion ≠ .eliminarSegmentos pid)
    (halmacena : ∀ st, e.seccion = .almacenarBytes pid st → st.base ≠ d) : b pid d = some bs := by
  cases hpaso with
  | crear hsec hnuevo _ =>
      rw [SegMem.create_of_ne]
      · exact hbs
      · rintro ⟨-, rfl⟩
        exact absurd ((hnuevo pid).symm.trans hbs) (by simp)
  | eliminar =>
      rw [SegMem.destroy_of_ne]
      · exact hbs
      · rintro rfl
        exact helimina rfl
  | almacenar hs =>
      obtain ⟨bs', -, -, rfl⟩ := SegMem.store_eq_some hs
      rw [SegMem.create_of_ne]
      · exact hbs
      · rintro ⟨rfl, rfl⟩
        exact halmacena _ rfl rfl
  | _ => exact hbs

/-- **A step for another process is the same step without the segments of a process.** -/
theorem PasoAbstracto.sin_ajena (h : PasoAbstracto a e b) (he : e.seccion.proceso ≠ some pid) :
    PasoAbstracto (SegMem.destroy a pid) e (SegMem.destroy b pid) := by
  cases h with
  | pendiente => exact .pendiente
  | compactacion => exact .compactacion
  | @crear h p n d bs sec hsec hnew hlen =>
      rw [hsec.proceso] at he
      rw [SegMem.destroy_create fun heq => he (congrArg some heq)]
      refine .crear hsec ?_ hlen
      intro q
      rcases eq_or_ne q pid with rfl | hne
      · exact SegMem.destroy_self
      · rw [SegMem.destroy_of_ne hne]
        exact hnew q
  | memoryOverload => exact .memoryOverload
  | eliminar =>
      rw [SegMem.destroy_comm]
      exact .eliminar
  | almacenar hs =>
      refine .almacenar ?_
      rw [SegMem.destroy_store fun heq => he (congrArg some heq), hs]
      rfl
  | almacenarFalla hs =>
      refine .almacenarFalla ?_
      rw [SegMem.destroy_store fun heq => he (congrArg some heq), hs]
      rfl
  | solicitar hl =>
      refine .solicitar ?_
      rw [SegMem.load_destroy fun heq => he (congrArg some heq), hl]
  | solicitarFalla hl =>
      refine .solicitarFalla ?_
      rw [SegMem.load_destroy fun heq => he (congrArg some heq), hl]
  | consolaCompactar => exact .consolaCompactar
  | consolaAlgoritmo => exact .consolaAlgoritmo

/-- **A step for a process is no step without its segments.** -/
theorem PasoAbstracto.sin_propia (h : PasoAbstracto a e b) (he : e.seccion.proceso = some pid) :
    SegMem.destroy b pid = SegMem.destroy a pid := by
  cases h with
  | crear hsec hnew hlen =>
      obtain rfl := Option.some_inj.1 (hsec.proceso.symm.trans he)
      exact SegMem.destroy_create_self
  | eliminar =>
      obtain rfl := Option.some_inj.1 he
      exact SegMem.destroy_destroy a _
  | almacenar hs =>
      obtain rfl := Option.some_inj.1 he
      obtain ⟨bs, -, -, rfl⟩ := SegMem.store_eq_some hs
      exact SegMem.destroy_create_self
  | _ => rfl

end Ansisop.Umv
