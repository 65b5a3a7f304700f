/-
**The protocol of the UMV, and its two implementations.**

The clients write their requests with `msgUMV/serializar.c`; the UMV reads them, and writes its
answers, with `umv/serializado/serializado.c`.  Each of the two defines its structures and its
layouts.  Both are written for pointers and words of four bytes.

The UMV copies a request into a block that it asks `malloc` for.  How many bytes such a block has
room for is a parameter, at least those asked for.  A decoder that would write past the end of its
block, or read past the end of the message, has no result.

Main definitions:

* `Ansisop.Umv.PedidoUmv`, `Ansisop.Umv.umvSerializar` — the requests of a client;
* `Ansisop.Umv.Conexion`, `Ansisop.Umv.deserealizarOperacion` — what the UMV makes of a request;
* `Ansisop.Umv.PedidoCompleto` — the bytes of a request that is complete;
* `Ansisop.Umv.serializarRespuesta` — the answers of the UMV;
* `Ansisop.Umv.umvDeserializar`, `Ansisop.Umv.consolaDeserializar` — what a client and the console
  make of an answer.

Main results:

* `Ansisop.Umv.deserealizarOperacion_isSome_iff` — the requests that the UMV can read are the
  complete ones;
* `Ansisop.Umv.umv_ida_y_vuelta_iff` — **every answer survives the trip, and a request does exactly
  when its structure fits in the block that it is copied into**;
* `Ansisop.Umv.no_ida_y_vuelta_vacio` — a request to store no bytes does not.
-/

import Ansisop.Protocolo.KernelCpu
import Ansisop.Umv.Pedidos

set_option relaxedAutoImplicit false
set_option autoImplicit false

namespace Ansisop.Umv

/-! ### The requests of a client -/

/-- The operations that a client asks for, with their structures. -/
inductive PedidoUmv
  | handshake (tipo : U32)
  | solicitar (solicitud : SolicitudBytes)
  | almacenar (almacenar : AlmacenarBytes)
  | cambioProcesoActivo (idPrograma : TIdPrograma)
  | crearSegmento (tamanio : U32)
  | destruirSegmentos

/-- The number of an operation. -/
def PedidoUmv.operacion : PedidoUmv → U32
  | handshake _ => 0#32
  | solicitar _ => 1#32
  | almacenar _ => 2#32
  | cambioProcesoActivo _ => 3#32
  | crearSegmento _ => 4#32
  | destruirSegmentos => 5#32

/-- `serializar_solicitarBytes`. -/
def serializarSolicitarBytes (solicitud : SolicitudBytes) : List Byte :=
  serializarPalabras [solicitud.base, solicitud.offset, solicitud.tamanio]

/-- `serializar_almacenarBytes`: the bytes of the buffer come after the words. -/
def serializarAlmacenarBytes (almacenar : AlmacenarBytes) : List Byte :=
  serializarPalabras [almacenar.base, almacenar.offset, almacenar.tamanio] ++
    (List.range almacenar.tamanio.toNat).map almacenar.buffer

/-- `umv_serializar`. -/
def umvSerializar (p : PedidoUmv) : List Byte :=
  serializarOperacion p.operacion <|
    match p with
    | .handshake tipo => serializarPalabras [tipo]
    | .solicitar solicitud => serializarSolicitarBytes solicitud
    | .almacenar almacenar => serializarAlmacenarBytes almacenar
    | .cambioProcesoActivo idPrograma => serializarPalabras [idPrograma]
    | .crearSegmento tamanio => serializarPalabras [tamanio]
    | .destruirSegmentos => []

/-! ### What the UMV makes of a request -/

/-- `t_conexion`. -/
structure Conexion where
  tipoConexion : U32
  idPrograma : TIdPrograma
deriving DecidableEq

/-- The operations that the UMV serves, with the structures that it has copied. -/
inductive MensajeUmv
  | handshake
  | solicitar (solicitud : SolicitudBytes)
  | almacenar (almacenar : AlmacenarBytes)
  | cambioProcesoActivo
  | crearSegmento (tamanio : U32)
  | destruirSegmentos

section Malloc

/-! `malloc n` is the number of bytes that the block for `n` bytes has room for. -/

variable (malloc : ℕ → ℕ)

/-- `memcpy(palabra, stream->data, stream->size)`: the first bytes of a word are replaced. -/
def copiarEnPalabra (vieja : U32) (stream : List Byte) : Option U32 :=
  if stream.length ≤ 4 then some (Words.ofBytes fun i => stream.getD i (Words.byteAt vieja i))
  else none

/-- `deserializar_solicitudBytes`: three words, in a block for the bytes of the message. -/
def deserializarSolicitudBytes (stream : List Byte) : Option SolicitudBytes :=
  if 12 ≤ malloc stream.length ∧ 12 ≤ stream.length then
    some ⟨palabra stream 0, palabra stream 4, palabra stream 8⟩
  else none

/-- `deserializar_almacenarBytes`: three words and a pointer to the bytes that come after them, in a
block for the bytes of the message. -/
def deserializarAlmacenarBytes (stream : List Byte) : Option AlmacenarBytes :=
  let tamanio := palabra stream 8
  if 16 ≤ malloc stream.length ∧ tamanio.toNat ≤ malloc tamanio.toNat ∧
      12 + tamanio.toNat ≤ stream.length then
    some ⟨palabra stream 0, palabra stream 4, tamanio, fun i => stream.getD (12 + i) 0#8⟩
  else none

/-- `deserealizar_crearSegmento`: a word, in a block for the bytes of the message. -/
def deserealizarCrearSegmento (stream : List Byte) : Option U32 :=
  if 4 ≤ malloc stream.length ∧ 4 ≤ stream.length then some (palabra stream 0) else none

/-- The `switch` of `deserealizar_operacion`, on the bytes after the operation. -/
def estructuraDeUmv (operacion : U32) (stream : List Byte) (stConexion : Conexion) :
    Option (MensajeUmv × Conexion) :=
  match operacion.toNat with
  | 0 => (copiarEnPalabra stConexion.tipoConexion stream).map fun tipoConexion =>
      (.handshake, { stConexion with tipoConexion })
  | 1 => (deserializarSolicitudBytes malloc stream).map fun solicitud =>
      (.solicitar solicitud, stConexion)
  | 2 => (deserializarAlmacenarBytes malloc stream).map fun almacenar =>
      (.almacenar almacenar, stConexion)
  | 3 => (copiarEnPalabra stConexion.idPrograma stream).map fun idPrograma =>
      (.cambioProcesoActivo, { stConexion with idPrograma })
  | 4 => (deserealizarCrearSegmento malloc stream).map fun tamanio =>
      (.crearSegmento tamanio, stConexion)
  | 5 => some (.destruirSegmentos, stConexion)
  | _ => none

/-- `deserealizar_operacion`. -/
def deserealizarOperacion (stream : List Byte) (stConexion : Conexion) :
    Option (MensajeUmv × Conexion) :=
  if 4 ≤ stream.length then
    estructuraDeUmv malloc (palabra stream 0) (stream.drop 4) stConexion
  else none

/-- **A request that is complete**: it has the bytes of its operation and the lengths that it
declares, and they fit in the blocks that they are copied into. -/
def PedidoCompleto (stream : List Byte) : Prop :=
  4 ≤ stream.length ∧
  match (palabra stream 0).toNat with
  | 0 => stream.length ≤ 8
  | 1 => 12 ≤ malloc (stream.length - 4) ∧ 16 ≤ stream.length
  | 2 => 16 ≤ malloc (stream.length - 4) ∧
      (palabra stream 12).toNat ≤ malloc (palabra stream 12).toNat ∧
      16 + (palabra stream 12).toNat ≤ stream.length
  | 3 => stream.length ≤ 8
  | 4 => 4 ≤ malloc (stream.length - 4) ∧ 8 ≤ stream.length
  | 5 => True
  | _ => False

end Malloc

/-! ### The answers of the UMV -/

/-- A text with its NUL. -/
def textoConNul (texto : String) : List Byte :=
  (texto.toList.map fun c => BitVec.ofNat 8 c.toNat) ++ [0#8]

/-- The text of `serializar_segmentation_fault`. -/
def textoSegmentationFault : List Byte :=
  textoConNul
    "Segmentation Fault: esta tratando de acceder a un sector de memoria no permitido"

/-- The text of `serializar_memory_overload`. -/
def textoMemoryOverload : List Byte :=
  textoConNul "Memory Overload: no existe espacio suficiente para crear el segmento"

/-- The number of an answer. -/
def Respuesta.operacion : Respuesta → U32
  | OK => 0#32
  | segmentoCreado _ => 1#32
  | bytesSolicitados _ => 2#32
  | segmentation_fault => 3#32
  | memory_overload => 4#32

/-- `serializar_respuesta`. -/
def serializarRespuesta (r : Respuesta) : List Byte :=
  serializarOperacion r.operacion <|
    match r with
    | .OK => []
    | .segmentoCreado dirLogica => serializarPalabras [dirLogica]
    | .bytesSolicitados data => data
    | .segmentation_fault => textoSegmentationFault
    | .memory_overload => textoMemoryOverload

/-- The answers as a client has them: those that report an error carry a text. -/
inductive RespuestaRecibida
  | OK
  | segmentoCreado (dirLogica : TPuntero)
  | bytesSolicitados (buffer : List Byte)
  | segmentation_fault (buffer : List Byte)
  | memory_overload (buffer : List Byte)
deriving DecidableEq

section Malloc

variable (malloc : ℕ → ℕ)

/-- `deserializar_segmentoCreado`, and `consola_deserializar_segmentoCreado`: the whole message is
copied into a word. -/
def deserializarSegmentoCreado (stream : List Byte) : Option TPuntero :=
  if stream.length ≤ malloc 4 ∧ stream.length = 4 then some (palabra stream 0) else none

/-- `copiar_buffer`, in both implementations. -/
def copiarBuffer (stream : List Byte) : Option (List Byte) :=
  if stream.length ≤ malloc stream.length then some stream else none

/-- The `switch` of `umv_deserializar` and of `consola_deserializar`, on the bytes after the
operation. -/
def respuestaDe (operacion : U32) (stream : List Byte) : Option RespuestaRecibida :=
  match operacion.toNat with
  | 0 => some .OK
  | 1 => (deserializarSegmentoCreado malloc stream).map .segmentoCreado
  | 2 => (copiarBuffer malloc stream).map .bytesSolicitados
  | 3 => (copiarBuffer malloc stream).map .segmentation_fault
  | 4 => (copiarBuffer malloc stream).map .memory_overload
  | _ => none

/-- `umv_deserializar`, of the clients. -/
def umvDeserializar (stream : List Byte) : Option RespuestaRecibida :=
  if 4 ≤ stream.length then respuestaDe malloc (palabra stream 0) (stream.drop 4) else none

/-- `consola_deserializar`, of the console of the UMV. -/
def consolaDeserializar (stream : List Byte) : Option RespuestaRecibida :=
  if 4 ≤ stream.length then respuestaDe malloc (palabra stream 0) (stream.drop 4) else none

end Malloc

/-! ### The round trip -/

/-- **The request has arrived**: the message has the values of the request, and the connection what
the request sets of it. -/
def PedidoUmv.Llega (stConexion : Conexion) (m : MensajeUmv) (stConexion' : Conexion) :
    PedidoUmv → Prop
  | handshake tipo => m = .handshake ∧ stConexion' = { stConexion with tipoConexion := tipo }
  | solicitar solicitud => m = .solicitar solicitud ∧ stConexion' = stConexion
  | almacenar a => stConexion' = stConexion ∧ ∃ b : AlmacenarBytes, m = .almacenar b ∧
      b.base = a.base ∧ b.offset = a.offset ∧ b.tamanio = a.tamanio ∧
      ∀ i < a.tamanio.toNat, b.buffer i = a.buffer i
  | cambioProcesoActivo idPrograma =>
      m = .cambioProcesoActivo ∧ stConexion' = { stConexion with idPrograma := idPrograma }
  | crearSegmento tamanio => m = .crearSegmento tamanio ∧ stConexion' = stConexion
  | destruirSegmentos => m = .destruirSegmentos ∧ stConexion' = stConexion

/-- The block that a request to store bytes is copied into has room for the 16 bytes of its
structure. -/
def PedidoUmv.TieneLugar (malloc : ℕ → ℕ) : PedidoUmv → Prop
  | almacenar a => 16 ≤ malloc (12 + a.tamanio.toNat)
  | _ => True

/-- What a client has of an answer. -/
def Respuesta.recibida : Respuesta → RespuestaRecibida
  | OK => .OK
  | segmentoCreado dirLogica => .segmentoCreado dirLogica
  | bytesSolicitados data => .bytesSolicitados data
  | segmentation_fault => .segmentation_fault textoSegmentationFault
  | memory_overload => .memory_overload textoMemoryOverload

variable {malloc : ℕ → ℕ} {stConexion : Conexion}

/-- Four bytes take the place of the whole word. -/
theorem copiarEnPalabra_of_length (vieja : U32) {stream : List Byte} (hlen : stream.length = 4) :
    copiarEnPalabra vieja stream = some (palabra stream 0) := by
  rw [copiarEnPalabra, if_pos hlen.le]
  refine congrArg some (Words.ofBytes_congr fun i hi => ?_)
  rw [Nat.zero_add, List.getD_eq_getElem _ _ (by omega), List.getD_eq_getElem _ _ (by omega)]

/-- A word that takes the place of another one. -/
theorem copiarEnPalabra_serializarPalabras (vieja w : U32) :
    copiarEnPalabra vieja (serializarPalabras [w]) = some w := by
  rw [copiarEnPalabra_of_length vieja (length_serializarPalabras _), palabra_cons_zero]

theorem palabra_drop (data : List Byte) (off d : ℕ) :
    palabra (data.drop off) d = palabra data (off + d) := by
  refine palabra_congr fun i _ => ?_
  rw [List.getD_eq_getElem?_getD, List.getElem?_drop, List.getD_eq_getElem?_getD, Nat.add_assoc]

/-- **The requests that the UMV can read are the complete ones.** -/
theorem deserealizarOperacion_isSome_iff (stream : List Byte) :
    (deserealizarOperacion malloc stream stConexion).isSome ↔ PedidoCompleto malloc stream := by
  unfold deserealizarOperacion PedidoCompleto
  by_cases hlen : 4 ≤ stream.length
  · rw [if_pos hlen, estructuraDeUmv]
    refine Iff.trans ?_ (and_iff_right hlen).symm
    split
    · simp only [copiarEnPalabra, Option.isSome_map, List.length_drop, Option.isSome_ite]
      omega
    · simp only [deserializarSolicitudBytes, Option.isSome_map, List.length_drop, Option.isSome_ite]
      omega
    · simp only [deserializarAlmacenarBytes, Option.isSome_map, List.length_drop, Option.isSome_ite,
        palabra_drop, Nat.reduceAdd]
      omega
    · simp only [copiarEnPalabra, Option.isSome_map, List.length_drop, Option.isSome_ite]
      omega
    · simp only [deserealizarCrearSegmento, Option.isSome_map, List.length_drop, Option.isSome_ite]
      omega
    · simp
    · simp
  · rw [if_neg hlen]
    exact iff_of_false (by simp) fun h => hlen h.1

instance (malloc : ℕ → ℕ) (stream : List Byte) : Decidable (PedidoCompleto malloc stream) :=
  decidable_of_iff ((deserealizarOperacion malloc stream ⟨0#32, 0#32⟩).isSome = true)
    (deserealizarOperacion_isSome_iff stream)

theorem deserializarSolicitudBytes_serializar (hmalloc : ∀ n, n ≤ malloc n)
    (solicitud : SolicitudBytes) :
    deserializarSolicitudBytes malloc (serializarSolicitarBytes solicitud) = some solicitud := by
  have hlen : (serializarSolicitarBytes solicitud).length = 12 := length_serializarPalabras _
  rw [deserializarSolicitudBytes, hlen, if_pos ⟨hmalloc 12, le_rfl⟩]
  have hpalabra (k : ℕ) {w : U32}
      (hw : [solicitud.base, solicitud.offset, solicitud.tamanio][k]? = some w) :
      palabra (serializarSolicitarBytes solicitud) (4 * k) = w := by
    have h := palabra_serializarPalabras [] hw
    rwa [List.append_nil] at h
  rw [hpalabra 0 rfl, show 4 = 4 * 1 from rfl, hpalabra 1 rfl, show 8 = 4 * 2 from rfl,
    hpalabra 2 rfl]

section Almacenar

variable (a : AlmacenarBytes)

theorem length_serializarAlmacenarBytes :
    (serializarAlmacenarBytes a).length = 12 + a.tamanio.toNat := by
  rw [serializarAlmacenarBytes, List.length_append, length_serializarPalabras, List.length_map,
    List.length_range]
  rfl

theorem palabra_serializarAlmacenarBytes (k : ℕ) {w : U32}
    (hw : [a.base, a.offset, a.tamanio][k]? = some w) :
    palabra (serializarAlmacenarBytes a) (4 * k) = w :=
  palabra_serializarPalabras _ hw

/-- The bytes come after the words. -/
theorem getD_serializarAlmacenarBytes {i : ℕ} (hi : i < a.tamanio.toNat) :
    (serializarAlmacenarBytes a).getD (12 + i) 0#8 = a.buffer i := by
  have hlen : (serializarPalabras [a.base, a.offset, a.tamanio]).length = 12 :=
    length_serializarPalabras _
  rw [serializarAlmacenarBytes, List.getD_append_right _ _ _ _ (by omega), hlen,
    Nat.add_sub_cancel_left, List.getD_eq_getElem _ _ (by simpa using hi)]
  simp

/-- **A request to store bytes is copied if and only if its block has room for the structure.** -/
theorem deserializarAlmacenarBytes_serializar (hmalloc : ∀ n, n ≤ malloc n) :
    (∃ b : AlmacenarBytes,
      deserializarAlmacenarBytes malloc (serializarAlmacenarBytes a) = some b ∧
      b.base = a.base ∧ b.offset = a.offset ∧ b.tamanio = a.tamanio ∧
      ∀ i < a.tamanio.toNat, b.buffer i = a.buffer i) ↔ 16 ≤ malloc (12 + a.tamanio.toNat) := by
  have htamanio : palabra (serializarAlmacenarBytes a) 8 = a.tamanio :=
    palabra_serializarAlmacenarBytes a 2 rfl
  rw [deserializarAlmacenarBytes, htamanio, length_serializarAlmacenarBytes]
  constructor
  · rintro ⟨b, hb, -⟩
    exact (Option.ite_none_right_eq_some.1 hb).1.1
  · intro hlugar
    rw [if_pos ⟨hlugar, hmalloc _, le_rfl⟩]
    refine ⟨_, rfl, ?_, ?_, rfl, fun i hi => getD_serializarAlmacenarBytes a hi⟩
    · exact palabra_serializarAlmacenarBytes a 0 rfl
    · exact palabra_serializarAlmacenarBytes a 1 rfl

end Almacenar

/-- The operation of a request is read from its start. -/
theorem deserealizarOperacion_serializarOperacion (operacion : U32) (cuerpo : List Byte) :
    deserealizarOperacion malloc (serializarOperacion operacion cuerpo) stConexion =
      estructuraDeUmv malloc operacion cuerpo stConexion := by
  have hpalabra := palabra_serializarOperacion operacion cuerpo []
  have hdrop := drop_serializarOperacion operacion cuerpo []
  have hlen := le_length_serializarOperacion operacion cuerpo []
  rw [List.append_nil] at hpalabra hdrop hlen
  rw [deserealizarOperacion, if_pos hlen, hpalabra, hdrop, List.append_nil]

/-- **A request arrives if and only if its block has room for it.** -/
theorem deserealizarOperacion_iff (hmalloc : ∀ n, n ≤ malloc n) (p : PedidoUmv) :
    (∃ m stConexion', deserealizarOperacion malloc (umvSerializar p) stConexion =
      some (m, stConexion') ∧ p.Llega stConexion m stConexion') ↔ p.TieneLugar malloc := by
  unfold umvSerializar
  rw [deserealizarOperacion_serializarOperacion]
  cases p with
  | handshake tipo =>
      refine iff_of_true ⟨_, _, ?_, rfl, rfl⟩ trivial
      exact congrArg
        (Option.map fun tipoConexion => (MensajeUmv.handshake, { stConexion with tipoConexion }))
        (copiarEnPalabra_serializarPalabras stConexion.tipoConexion tipo)
  | solicitar solicitud =>
      refine iff_of_true ⟨_, _, ?_, rfl, rfl⟩ trivial
      exact congrArg (Option.map _) (deserializarSolicitudBytes_serializar hmalloc solicitud)
  | almacenar a =>
      refine Iff.trans ?_ (deserializarAlmacenarBytes_serializar a hmalloc)
      constructor
      · rintro ⟨m, stConexion', hdes, rfl, b, rfl, hb⟩
        obtain ⟨b', hb', heq⟩ := Option.map_eq_some_iff.1 hdes
        cases heq
        exact ⟨_, hb', hb⟩
      · rintro ⟨b, hdes, hb⟩
        exact ⟨_, _, congrArg (Option.map _) hdes, rfl, b, rfl, hb⟩
  | cambioProcesoActivo idPrograma =>
      refine iff_of_true ⟨_, _, ?_, rfl, rfl⟩ trivial
      exact congrArg
        (Option.map fun idPrograma =>
          (MensajeUmv.cambioProcesoActivo, { stConexion with idPrograma }))
        (copiarEnPalabra_serializarPalabras stConexion.idPrograma idPrograma)
  | crearSegmento tamanio =>
      refine iff_of_true ⟨_, _, ?_, rfl, rfl⟩ trivial
      have hcrear : deserealizarCrearSegmento malloc (serializarPalabras [tamanio]) =
          some tamanio := by
        have hlen : (serializarPalabras [tamanio]).length = 4 := length_serializarPalabras _
        rw [deserealizarCrearSegmento, hlen, if_pos ⟨hmalloc 4, le_rfl⟩, palabra_cons_zero]
      exact congrArg (Option.map _) hcrear
  | destruirSegmentos => exact iff_of_true ⟨_, _, rfl, rfl, rfl⟩ trivial

theorem copiarBuffer_eq (hmalloc : ∀ n, n ≤ malloc n) (stream : List Byte) :
    copiarBuffer malloc stream = some stream := if_pos (hmalloc _)

/-- **The switch on an answer gives the answer.** -/
theorem respuestaDe_serializarRespuesta (hmalloc : ∀ n, n ≤ malloc n) (r : Respuesta) :
    respuestaDe malloc (palabra (serializarRespuesta r) 0) ((serializarRespuesta r).drop 4) =
      some r.recibida ∧ 4 ≤ (serializarRespuesta r).length := by
  unfold serializarRespuesta
  generalize hcuerpo : (match r with
    | .OK => []
    | .segmentoCreado dirLogica => serializarPalabras [dirLogica]
    | .bytesSolicitados data => data
    | .segmentation_fault => textoSegmentationFault
    | .memory_overload => textoMemoryOverload) = cuerpo
  have hpalabra := palabra_serializarOperacion r.operacion cuerpo []
  have hdrop := drop_serializarOperacion r.operacion cuerpo []
  have hlen := le_length_serializarOperacion r.operacion cuerpo []
  rw [List.append_nil] at hpalabra hdrop hlen
  rw [hpalabra, hdrop, List.append_nil]
  refine ⟨?_, hlen⟩
  subst hcuerpo
  cases r with
  | OK => rfl
  | segmentoCreado dirLogica =>
      have hcreado : deserializarSegmentoCreado malloc (serializarPalabras [dirLogica]) =
          some dirLogica := by
        have hlen : (serializarPalabras [dirLogica]).length = 4 := length_serializarPalabras _
        rw [deserializarSegmentoCreado, hlen, if_pos ⟨hmalloc 4, rfl⟩, palabra_cons_zero]
      exact congrArg (Option.map _) hcreado
  | bytesSolicitados data => exact congrArg (Option.map _) (copiarBuffer_eq hmalloc data)
  | segmentation_fault => exact congrArg (Option.map _) (copiarBuffer_eq hmalloc _)
  | memory_overload => exact congrArg (Option.map _) (copiarBuffer_eq hmalloc _)

/-- With four bytes to store there is room. -/
theorem PedidoUmv.tieneLugar_of_le (hmalloc : ∀ n, n ≤ malloc n) {a : AlmacenarBytes}
    (h : 4 ≤ a.tamanio.toNat) : (PedidoUmv.almacenar a).TieneLugar malloc := by
  have := hmalloc (12 + a.tamanio.toNat)
  show 16 ≤ malloc (12 + a.tamanio.toNat)
  omega

/-- **The round trip of the protocol of the UMV.**  A request arrives at the UMV with its operation,
its values and its bytes if and only if the block that it is copied into has room for its structure;
and every answer arrives at a client and at the console. -/
theorem umv_ida_y_vuelta_iff (malloc : ℕ → ℕ) (hmalloc : ∀ n, n ≤ malloc n) :
    (∀ (p : PedidoUmv) (stConexion : Conexion),
      (∃ m stConexion', deserealizarOperacion malloc (umvSerializar p) stConexion =
        some (m, stConexion') ∧ p.Llega stConexion m stConexion') ↔ p.TieneLugar malloc) ∧
    ∀ r : Respuesta, umvDeserializar malloc (serializarRespuesta r) = some r.recibida ∧
      consolaDeserializar malloc (serializarRespuesta r) = some r.recibida := by
  refine ⟨fun p stConexion => deserealizarOperacion_iff hmalloc p, fun r => ?_⟩
  obtain ⟨hrespuesta, hlen⟩ := respuestaDe_serializarRespuesta hmalloc r
  exact ⟨(if_pos hlen).trans hrespuesta, (if_pos hlen).trans hrespuesta⟩

/-- An allocator whose blocks are multiples of eight bytes, four of which are its own. -/
def mallocDeOcho (n : ℕ) : ℕ := 8 * ((n + 11) / 8) - 4

theorem le_mallocDeOcho (n : ℕ) : n ≤ mallocDeOcho n := by
  unfold mallocDeOcho
  omega

/-- A request to store no bytes. -/
def almacenarNada : AlmacenarBytes := ⟨100#32, 0#32, 0#32, fun _ => 0#8⟩

/-- The round trip with that allocator. -/
theorem umv_ida_y_vuelta_mallocDeOcho :
    (∀ (p : PedidoUmv) (stConexion : Conexion),
      (∃ m stConexion', deserealizarOperacion mallocDeOcho (umvSerializar p) stConexion =
        some (m, stConexion') ∧ p.Llega stConexion m stConexion') ↔ p.TieneLugar mallocDeOcho) ∧
    ∀ r : Respuesta, umvDeserializar mallocDeOcho (serializarRespuesta r) = some r.recibida ∧
      consolaDeserializar mallocDeOcho (serializarRespuesta r) = some r.recibida :=
  umv_ida_y_vuelta_iff mallocDeOcho le_mallocDeOcho

/-- **A request to store no bytes does not arrive**: its block has room for 12 bytes, and the
pointer to the bytes is written after them. -/
theorem no_ida_y_vuelta_vacio : ¬ ∀ (malloc : ℕ → ℕ), (∀ n, n ≤ malloc n) →
    ∀ (p : PedidoUmv) (stConexion : Conexion),
    ∃ m stConexion', deserealizarOperacion malloc (umvSerializar p) stConexion =
      some (m, stConexion') ∧ p.Llega stConexion m stConexion' := by
  intro hclaim
  obtain ⟨m, stConexion', hdes, -⟩ :=
    hclaim mallocDeOcho le_mallocDeOcho (.almacenar almacenarNada) ⟨1#32, 1001#32⟩
  have hnada : deserealizarOperacion mallocDeOcho (umvSerializar (.almacenar almacenarNada))
      ⟨1#32, 1001#32⟩ = none := by rfl
  rw [hnada] at hdes
  exact absurd hdes (by simp)

end Ansisop.Umv
