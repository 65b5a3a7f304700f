/-
**The bounds of the decoders.**

Each decoder takes the operation off the start of a message, copies the rest into a new block and
copies the fields of the operation from there.  None of them looks at the size of what it was given:
a message that is too short is read past its end, and the structures of the UMV are copied into
blocks that are as large as the message.

Here the decoders are run with every access checked.  A message is a `t_buffer`, whose size is a
word.

Main definitions:

* `Ansisop.Buffer` — a message;
* `Ansisop.Limites.deserealizarOperacion`, `Ansisop.Limites.umvDeserializar`,
  `Ansisop.Limites.deserializarKernel`, `Ansisop.Limites.deserializarCpu` — the decoders, with
  checked accesses;
* `Ansisop.Limites.PedidoEntero` and its siblings — the messages that have all that their operation
  reads;
* `Ansisop.Limites.Prudente` — no access out of bounds, and no structure for a message that is too
  short.

Main results:

* `Ansisop.Limites.decodificadores_dentro` — **each decoder is prudent exactly for the messages that
  are complete**;
* `Ansisop.Limites.no_decodificadores_dentro` — a request to store two bytes, which a client may
  send, is written past the end of its block.
-/

import Ansisop.Lib.Checked
import Ansisop.Umv.Protocolo

set_option relaxedAutoImplicit false
set_option autoImplicit false

namespace Ansisop

/-- `t_buffer`: the bytes of a message, as many as its `size` says. -/
structure Buffer where
  data : List Byte
  size_lt : data.length < 2 ^ 32

namespace Limites

open Checked

/-! ### Fields -/

/-- `memcpy` of a word, from a block to an offset of another one. -/
def copiarPalabra (origen : List Byte) (desplazamiento destino hasta : ℕ) : Except Fault U32 :=
  (copy origen desplazamiento destino hasta 4).map fun bytes => palabra bytes 0

/-- `memcpy` of a word to a field of a structure that was allocated with its own size. -/
def leerPalabra (origen : List Byte) (desplazamiento : ℕ) : Except Fault U32 :=
  copiarPalabra origen desplazamiento 4 0

/-- The start of each decoder: the operation is copied, the size decreased, and the rest copied into
a block of that size. -/
def separarOperacion (data : List Byte) : Except Fault (U32 × List Byte) := do
  let idOperacion ← leerPalabra data 0
  let size ← sub data.length 4
  let nueStreamData ← copy data 4 size 0 size
  return (idOperacion, nueStreamData)

/-- `string_duplicate`: `strlen` reads up to the NUL. -/
def duplicar (data : List Byte) : Except Fault Cadena :=
  match stringDuplicate data with
  | some cadena => .ok cadena
  | none => .error .read

/-! ### The decoder of the UMV -/

/-- `memcpy(palabra, stream->data, stream->size)`, of `concretar_handshake` and
`cambiar_procesoActivo`. -/
def copiarEnPalabra (vieja : U32) (stream : List Byte) : Except Fault U32 := do
  let bytes ← copy stream 0 4 0 stream.length
  return Words.ofBytes fun i => bytes.getD i (Words.byteAt vieja i)

/-- `deserializar_solicitudBytes`, into `malloc(stream->size)`. -/
def deserializarSolicitudBytes (stream : List Byte) : Except Fault SolicitudBytes := do
  let base ← copiarPalabra stream 0 stream.length 0
  let offset ← copiarPalabra stream 4 stream.length 4
  let tamanio ← copiarPalabra stream 8 stream.length 8
  return ⟨base, offset, tamanio⟩

/-- `deserializar_almacenarBytes`, into `malloc(stream->size)`; the pointer to the bytes is its
fourth word. -/
def deserializarAlmacenarBytes (stream : List Byte) : Except Fault AlmacenarBytes := do
  let base ← copiarPalabra stream 0 stream.length 0
  let offset ← copiarPalabra stream 4 stream.length 4
  let tamanio ← copiarPalabra stream 8 stream.length 8
  let _ ← copy (serializarPalabras [null]) 0 stream.length 12 4
  let buffer ← copy stream 12 tamanio.toNat 0 tamanio.toNat
  return ⟨base, offset, tamanio, fun i => buffer.getD i 0#8⟩

/-- `deserealizar_crearSegmento`, into `malloc(stream->size)`. -/
def deserealizarCrearSegmento (stream : List Byte) : Except Fault U32 :=
  copiarPalabra stream 0 stream.length 0

/-- `deserealizar_operacion` of the UMV.  An unknown operation leaves the structure unset. -/
def deserealizarOperacion (stream : List Byte) (stConexion : Umv.Conexion) :
    Except Fault (Option Umv.MensajeUmv × Umv.Conexion) := do
  let (idOperacion, data) ← separarOperacion stream
  match idOperacion.toNat with
  | 0 =>
    let tipoConexion ← copiarEnPalabra stConexion.tipoConexion data
    return (some .handshake, { stConexion with tipoConexion })
  | 1 =>
    let solicitud ← deserializarSolicitudBytes data
    return (some (.solicitar solicitud), stConexion)
  | 2 =>
    let almacenar ← deserializarAlmacenarBytes data
    return (some (.almacenar almacenar), stConexion)
  | 3 =>
    let idPrograma ← copiarEnPalabra stConexion.idPrograma data
    return (some .cambioProcesoActivo, { stConexion with idPrograma })
  | 4 =>
    let tamanio ← deserealizarCrearSegmento data
    return (some (.crearSegmento tamanio), stConexion)
  | 5 => return (some .destruirSegmentos, stConexion)
  | _ => return (none, stConexion)

/-! ### The decoder of the clients of the UMV -/

/-- `deserializar_segmentoCreado`: the whole message is copied into a word. -/
def deserializarSegmentoCreado (stream : List Byte) : Except Fault TPuntero := do
  let bytes ← copy stream 0 4 0 stream.length
  return palabra bytes 0

/-- `copiar_buffer`. -/
def copiarBuffer (stream : List Byte) : Except Fault (List Byte) :=
  copy stream 0 stream.length 0 stream.length

/-- `umv_deserializar`. -/
def umvDeserializar (stream : List Byte) : Except Fault (Option Umv.RespuestaRecibida) := do
  let (idOperacion, data) ← separarOperacion stream
  match idOperacion.toNat with
  | 0 => return some .OK
  | 1 =>
    let dirLogica ← deserializarSegmentoCreado data
    return some (.segmentoCreado dirLogica)
  | 2 =>
    let buffer ← copiarBuffer data
    return some (.bytesSolicitados buffer)
  | 3 =>
    let buffer ← copiarBuffer data
    return some (.segmentation_fault buffer)
  | 4 =>
    let buffer ← copiarBuffer data
    return some (.memory_overload buffer)
  | _ => return none

/-! ### The decoders of the kernel and of the CPU -/

/-- The eleven words of a PCB, in `deserializar_pcb`, `kernel_deserializar_wait` and
`kernel_deserializar_entradaSalida`. -/
def leerPcb (data : List Byte) (desplazamiento : ℕ) : Except Fault Pcb := do
  let pid ← leerPalabra data desplazamiento
  let segmentoCodigo ← leerPalabra data (desplazamiento + 4)
  let segmentoStack ← leerPalabra data (desplazamiento + 8)
  let cursorStack ← leerPalabra data (desplazamiento + 12)
  let indiceCodigo ← leerPalabra data (desplazamiento + 16)
  let indiceEtiqueta ← leerPalabra data (desplazamiento + 20)
  let programCounter ← leerPalabra data (desplazamiento + 24)
  let tamanioContexto ← leerPalabra data (desplazamiento + 28)
  let tamanioEtiqueta ← leerPalabra data (desplazamiento + 32)
  let cantidad_de_funciones ← leerPalabra data (desplazamiento + 36)
  let cantidad_de_etiquetas ← leerPalabra data (desplazamiento + 40)
  return { pid, segmentoCodigo, segmentoStack, cursorStack, indiceCodigo, indiceEtiqueta,
           programCounter, tamanioContexto, tamanioEtiqueta, cantidad_de_funciones,
           cantidad_de_etiquetas }

/-- `kernel_deserializar_asignarVarCompartida`. -/
def kernelDeserializarAsignarVarCompartida (data : List Byte) :
    Except Fault VariableCompartida := do
  let nombre ← duplicar data
  let valor ← leerPalabra data (nombre.bytes.length + 1)
  return ⟨nombre, valor⟩

/-- `kernel_deserializar_wait`.  The name is copied with the length that the message declares;
without a NUL in it, it is no string. -/
def kernelDeserializarWait (data : List Byte) : Except Fault (Option MsjWait) := do
  let semaforo_long ← leerPalabra data 0
  let semaforo ← copy data 4 semaforo_long.toNat 0 semaforo_long.toNat
  let pcb ← leerPcb data (4 + semaforo_long.toNat)
  return (stringDuplicate semaforo).map fun semaforo => { semaforo_long, semaforo, pcb }

/-- `kernel_deserializar_entradaSalida`. -/
def kernelDeserializarEntradaSalida (data : List Byte) : Except Fault (Option EntradaSalida) := do
  let dispositivo_long ← leerPalabra data 0
  let dispositivo ← copy data 4 dispositivo_long.toNat 0 dispositivo_long.toNat
  let tiempo ← leerPalabra data (4 + dispositivo_long.toNat)
  let pcb ← leerPcb data (4 + dispositivo_long.toNat + 4)
  return (stringDuplicate dispositivo).map fun dispositivo =>
    { dispositivo_long, dispositivo, tiempo, pcb }

/-- `deserializar_kernel`.  An unknown operation leaves the structure unset. -/
def deserializarKernel (buffer : List Byte) : Except Fault (Option EstructuraCpu) := do
  let (idOperacion, data) ← separarOperacion buffer
  match idOperacion.toNat with
  | 0 =>
    let nombre ← duplicar data
    return some (.obtenerValorVarCompartida nombre)
  | 1 =>
    let varComp ← kernelDeserializarAsignarVarCompartida data
    return some (.asignarValorVarCompartida varComp)
  | 2 =>
    let valor ← leerPalabra data 0
    return some (.imprimirKernel valor)
  | 3 =>
    let texto ← duplicar data
    return some (.imprimirTextoKernel texto)
  | 4 =>
    let stDisp ← kernelDeserializarEntradaSalida data
    return stDisp.map .entradaSalidaKernel
  | 5 =>
    let msjWait ← kernelDeserializarWait data
    return msjWait.map .waitKernel
  | 6 =>
    let semaforo ← duplicar data
    return some (.signalKernel semaforo)
  | 7 =>
    let pcb ← leerPcb data 0
    return some (.notificarPorFinRafaga pcb)
  | 8 =>
    let pcb ← leerPcb data 0
    return some (.notificarPorFinPrograma pcb)
  | 9 =>
    let texto ← duplicar data
    return some (.exception texto)
  | 10 => return some .okCpu
  | _ => return none

/-- `deserializar_cpu`. -/
def deserializarCpu (buffer : List Byte) : Except Fault (Option MensajeKernel) := do
  let (idOperacion, data) ← separarOperacion buffer
  match idOperacion.toNat with
  | 0 => return some .continuar
  | 1 => return some .bloquear
  | 2 => return some .okKernel
  | 3 =>
    let iEjecuciones ← leerPalabra data 0
    let iDelay ← leerPalabra data 4
    return some (.primerMsj iEjecuciones iDelay)
  | 4 =>
    let pcb ← leerPcb data 0
    return some (.atendeProceso pcb)
  | 5 =>
    let valor ← leerPalabra data 0
    return some (.valorCompartida valor)
  | 6 => return some .terminar
  | _ => return none

/-! ### Which accesses stay inside -/

@[simp] theorem copiarPalabra_eq_ok {origen : List Byte} {desplazamiento destino hasta : ℕ}
    {w : U32} :
    copiarPalabra origen desplazamiento destino hasta = .ok w ↔
      desplazamiento + 4 ≤ origen.length ∧ hasta + 4 ≤ destino ∧
      palabra origen desplazamiento = w := by
  have hpalabra : palabra ((origen.drop desplazamiento).take 4) 0 = palabra origen desplazamiento :=
    palabra_slice origen le_rfl
  simp only [copiarPalabra, map_eq_ok, copy_eq_ok]
  constructor
  · rintro ⟨_, ⟨horigen, hdestino, rfl⟩, rfl⟩
    exact ⟨horigen, hdestino, hpalabra.symm⟩
  · rintro ⟨horigen, hdestino, rfl⟩
    exact ⟨_, ⟨horigen, hdestino, rfl⟩, hpalabra⟩

@[simp] theorem leerPalabra_eq_ok {origen : List Byte} {desplazamiento : ℕ} {w : U32} :
    leerPalabra origen desplazamiento = .ok w ↔
      desplazamiento + 4 ≤ origen.length ∧ palabra origen desplazamiento = w := by
  simp [leerPalabra]

/-- **The start of a decoder** stays inside if the message has an operation. -/
@[simp] theorem separarOperacion_eq_ok {data : List Byte} {p : U32 × List Byte} :
    separarOperacion data = .ok p ↔ 4 ≤ data.length ∧ (palabra data 0, data.drop 4) = p := by
  simp only [separarOperacion, bind_eq_ok, leerPalabra_eq_ok, sub_eq_ok, copy_eq_ok, pure_eq_ok]
  constructor
  · rintro ⟨_, ⟨-, rfl⟩, _, ⟨hlen, rfl⟩, _, ⟨-, -, rfl⟩, rfl⟩
    exact ⟨hlen, by rw [List.take_of_length_le (by rw [List.length_drop])]⟩
  · rintro ⟨hlen, rfl⟩
    refine ⟨_, ⟨by omega, rfl⟩, _, ⟨hlen, rfl⟩, _, ⟨by omega, by omega, rfl⟩, ?_⟩
    rw [List.take_of_length_le (by rw [List.length_drop])]

@[simp] theorem duplicar_eq_ok {data : List Byte} {cadena : Cadena} :
    duplicar data = .ok cadena ↔ stringDuplicate data = some cadena := by
  rw [duplicar]
  cases stringDuplicate data <;> simp

/-- **A program that ends without a fault.** -/
def SinFalta {α : Type} (r : Except Fault α) : Prop := ∃ x, r = .ok x

/-- After the operation, the decoder of its structure. -/
theorem sinFalta_separarOperacion {α : Type} {data : List Byte}
    {f : U32 × List Byte → Except Fault α} :
    SinFalta (separarOperacion data >>= f) ↔
      4 ≤ data.length ∧ SinFalta (f (palabra data 0, data.drop 4)) := by
  simp only [SinFalta, bind_eq_ok, separarOperacion_eq_ok]
  constructor
  · rintro ⟨x, _, ⟨hlen, rfl⟩, h⟩
    exact ⟨hlen, x, h⟩
  · rintro ⟨hlen, x, h⟩
    exact ⟨x, _, ⟨hlen, rfl⟩, h⟩

/-- What is done with a structure adds no fault. -/
theorem sinFalta_bind_pure {α β : Type} {r : Except Fault α} {f : α → β} :
    SinFalta (r >>= fun x => pure (f x)) ↔ SinFalta r := by
  simp only [SinFalta, bind_eq_ok, pure_eq_ok]
  constructor
  · rintro ⟨_, x, h, _⟩
    exact ⟨x, h⟩
  · rintro ⟨x, h⟩
    exact ⟨_, x, h, rfl⟩

theorem sinFalta_pure {α : Type} (x : α) : SinFalta (pure x : Except Fault α) := ⟨x, rfl⟩

theorem sinFalta_copiarEnPalabra {vieja : U32} {stream : List Byte} :
    SinFalta (copiarEnPalabra vieja stream) ↔ stream.length ≤ 4 := by
  rw [copiarEnPalabra, sinFalta_bind_pure]
  simp [SinFalta]

theorem sinFalta_deserializarSolicitudBytes {stream : List Byte} :
    SinFalta (deserializarSolicitudBytes stream) ↔ 12 ≤ stream.length := by
  simp only [SinFalta, deserializarSolicitudBytes, bind_eq_ok, copiarPalabra_eq_ok, pure_eq_ok]
  constructor
  · rintro ⟨_, _, -, _, -, _, ⟨h, -, -⟩, -⟩
    exact h
  · intro h
    exact ⟨_, _, ⟨by omega, by omega, rfl⟩, _, ⟨by omega, by omega, rfl⟩, _,
      ⟨by omega, by omega, rfl⟩, rfl⟩

theorem sinFalta_deserializarAlmacenarBytes {stream : List Byte} :
    SinFalta (deserializarAlmacenarBytes stream) ↔
      16 ≤ stream.length ∧ 12 + (palabra stream 8).toNat ≤ stream.length := by
  simp only [SinFalta, deserializarAlmacenarBytes, bind_eq_ok, copiarPalabra_eq_ok,
    copy_eq_ok, pure_eq_ok]
  constructor
  · rintro ⟨_, _, -, _, -, _, ⟨-, -, rfl⟩, _, ⟨-, hpuntero, -⟩, _, ⟨hbuffer, -, -⟩, -⟩
    exact ⟨by omega, hbuffer⟩
  · rintro ⟨hpuntero, hbuffer⟩
    exact ⟨_, _, ⟨by omega, by omega, rfl⟩, _, ⟨by omega, by omega, rfl⟩, _,
      ⟨by omega, by omega, rfl⟩,
      _, ⟨by simp, by omega, rfl⟩, _, ⟨hbuffer, by omega, rfl⟩, rfl⟩

theorem sinFalta_copiarPalabra {origen : List Byte} {desplazamiento destino hasta : ℕ} :
    SinFalta (copiarPalabra origen desplazamiento destino hasta) ↔
      desplazamiento + 4 ≤ origen.length ∧ hasta + 4 ≤ destino := by
  simp [SinFalta]

theorem sinFalta_leerPalabra {origen : List Byte} {desplazamiento : ℕ} :
    SinFalta (leerPalabra origen desplazamiento) ↔ desplazamiento + 4 ≤ origen.length := by
  simp [SinFalta]

theorem sinFalta_leerPcb {data : List Byte} {desplazamiento : ℕ} :
    SinFalta (leerPcb data desplazamiento) ↔ desplazamiento + 44 ≤ data.length := by
  simp only [SinFalta, leerPcb, bind_eq_ok, leerPalabra_eq_ok, pure_eq_ok]
  constructor
  · rintro ⟨_, _, -, _, -, _, -, _, -, _, -, _, -, _, -, _, -, _, -, _, -, _, ⟨h, -⟩, -⟩
    omega
  · intro h
    exact ⟨_, _, ⟨by omega, rfl⟩, _, ⟨by omega, rfl⟩, _, ⟨by omega, rfl⟩, _, ⟨by omega, rfl⟩,
      _, ⟨by omega, rfl⟩, _, ⟨by omega, rfl⟩, _, ⟨by omega, rfl⟩, _, ⟨by omega, rfl⟩,
      _, ⟨by omega, rfl⟩, _, ⟨by omega, rfl⟩, _, ⟨by omega, rfl⟩, rfl⟩

theorem sinFalta_kernelDeserializarWait {data : List Byte} :
    SinFalta (kernelDeserializarWait data) ↔ 4 + (palabra data 0).toNat + 44 ≤ data.length := by
  simp only [SinFalta, kernelDeserializarWait, bind_eq_ok, leerPalabra_eq_ok,
    copy_eq_ok, pure_eq_ok]
  constructor
  · rintro ⟨_, _, ⟨-, rfl⟩, _, -, pcb, hpcb, -⟩
    exact sinFalta_leerPcb.1 ⟨pcb, hpcb⟩
  · intro h
    obtain ⟨pcb, hpcb⟩ := sinFalta_leerPcb.2 h
    exact ⟨_, _, ⟨by omega, rfl⟩, _, ⟨by omega, by omega, rfl⟩, pcb, hpcb, rfl⟩

theorem sinFalta_kernelDeserializarEntradaSalida {data : List Byte} :
    SinFalta (kernelDeserializarEntradaSalida data) ↔
      4 + (palabra data 0).toNat + 48 ≤ data.length := by
  simp only [SinFalta, kernelDeserializarEntradaSalida, bind_eq_ok, leerPalabra_eq_ok, copy_eq_ok,
    pure_eq_ok]
  constructor
  · rintro ⟨_, _, ⟨-, rfl⟩, _, -, _, -, pcb, hpcb, -⟩
    have := sinFalta_leerPcb.1 ⟨pcb, hpcb⟩
    omega
  · intro h
    obtain ⟨pcb, hpcb⟩ := sinFalta_leerPcb.2
      (show 4 + (palabra data 0).toNat + 4 + 44 ≤ data.length by omega)
    exact ⟨_, _, ⟨by omega, rfl⟩, _, ⟨by omega, by omega, rfl⟩, _, ⟨by omega, rfl⟩, pcb, hpcb, rfl⟩

/-- The bytes before the first NUL, if there is one, are fewer than all. -/
theorem length_takeWhile_lt {data : List Byte} (h : 0#8 ∈ data) :
    (data.takeWhile (· != 0#8)).length < data.length := by
  induction data with
  | nil => exact absurd h (by simp)
  | cons b data ih =>
      by_cases hb : b = 0#8
      · simp [hb]
      · have hmem := (List.mem_cons.1 h).resolve_left fun heq => hb heq.symm
        simpa [List.takeWhile_cons_of_pos, hb] using ih hmem

/-- A string has its NUL. -/
theorem stringDuplicate_isSome_iff {data : List Byte} (hlen : data.length < 2 ^ 32) :
    (stringDuplicate data).isSome ↔ 0#8 ∈ data := by
  simp only [stringDuplicate, Option.isSome_dite]
  refine ⟨fun h => h.1, fun h => ⟨h, ?_⟩⟩
  have := length_takeWhile_lt h
  omega

theorem bytes_stringDuplicate {data : List Byte} {cadena : Cadena}
    (h : stringDuplicate data = some cadena) : cadena.bytes = data.takeWhile (· != 0#8) := by
  rw [stringDuplicate] at h
  split at h
  · obtain rfl := Option.some_inj.1 h
    rfl
  · exact absurd h (by simp)

theorem sinFalta_duplicar {data : List Byte} (hlen : data.length < 2 ^ 32) :
    SinFalta (duplicar data) ↔ 0#8 ∈ data := by
  rw [← stringDuplicate_isSome_iff hlen, Option.isSome_iff_exists]
  simp [SinFalta]

theorem sinFalta_kernelDeserializarAsignarVarCompartida {data : List Byte}
    (hlen : data.length < 2 ^ 32) :
    SinFalta (kernelDeserializarAsignarVarCompartida data) ↔
      0#8 ∈ data ∧ (data.takeWhile (· != 0#8)).length + 5 ≤ data.length := by
  simp only [SinFalta, kernelDeserializarAsignarVarCompartida, bind_eq_ok, duplicar_eq_ok,
    leerPalabra_eq_ok, pure_eq_ok]
  constructor
  · rintro ⟨_, cadena, hcadena, _, ⟨h, -⟩, -⟩
    have hnul := (stringDuplicate_isSome_iff hlen).1 (hcadena ▸ rfl)
    rw [bytes_stringDuplicate hcadena] at h
    exact ⟨hnul, by omega⟩
  · rintro ⟨hnul, h⟩
    obtain ⟨cadena, hcadena⟩ :=
      Option.isSome_iff_exists.1 ((stringDuplicate_isSome_iff hlen).2 hnul)
    rw [← bytes_stringDuplicate hcadena] at h
    exact ⟨_, cadena, hcadena, _, ⟨by omega, rfl⟩, rfl⟩

/-! ### What the decoders return -/

/-- The words of a PCB that stays inside. -/
theorem leerPcb_of_le {data : List Byte} {desplazamiento : ℕ}
    (h : desplazamiento + 44 ≤ data.length) :
    leerPcb data desplazamiento = .ok
      { pid := palabra data desplazamiento
        segmentoCodigo := palabra data (desplazamiento + 4)
        segmentoStack := palabra data (desplazamiento + 8)
        cursorStack := palabra data (desplazamiento + 12)
        indiceCodigo := palabra data (desplazamiento + 16)
        indiceEtiqueta := palabra data (desplazamiento + 20)
        programCounter := palabra data (desplazamiento + 24)
        tamanioContexto := palabra data (desplazamiento + 28)
        tamanioEtiqueta := palabra data (desplazamiento + 32)
        cantidad_de_funciones := palabra data (desplazamiento + 36)
        cantidad_de_etiquetas := palabra data (desplazamiento + 40) } := by
  have hpalabra {d : ℕ} (hd : d + 4 ≤ data.length) : leerPalabra data d = .ok (palabra data d) :=
    leerPalabra_eq_ok.2 ⟨hd, rfl⟩
  rw [leerPcb, hpalabra (by omega), hpalabra (by omega), hpalabra (by omega), hpalabra (by omega),
    hpalabra (by omega), hpalabra (by omega), hpalabra (by omega), hpalabra (by omega),
    hpalabra (by omega), hpalabra (by omega), hpalabra (by omega)]
  rfl

theorem leerPcb_of_some {data : List Byte} {pcb : Pcb} (h : deserializarPcbDe data = some pcb) :
    leerPcb data 0 = .ok pcb := by
  obtain ⟨hlen, h⟩ := Option.ite_none_right_eq_some.1 h
  obtain rfl := Option.some_inj.1 h
  exact leerPcb_of_le (by omega)

theorem leerPalabra_of_some {data : List Byte} {valor : U32}
    (h : deserializarValorVariable data = some valor) : leerPalabra data 0 = .ok valor := by
  obtain ⟨hlen, h⟩ := Option.ite_none_right_eq_some.1 h
  exact leerPalabra_eq_ok.2 ⟨by omega, Option.some_inj.1 h⟩

theorem kernelDeserializarAsignarVarCompartida_of_some {data : List Byte}
    {varComp : VariableCompartida}
    (h : Ansisop.kernelDeserializarAsignarVarCompartida data = some varComp) :
    kernelDeserializarAsignarVarCompartida data = .ok varComp := by
  obtain ⟨nombre, hnombre, h⟩ := Option.bind_eq_some_iff.1 h
  obtain ⟨hlen, h⟩ := Option.ite_none_right_eq_some.1 h
  obtain rfl := Option.some_inj.1 h
  exact bind_eq_ok.2 ⟨nombre, duplicar_eq_ok.2 hnombre,
    bind_eq_ok.2 ⟨_, leerPalabra_eq_ok.2 ⟨hlen, rfl⟩, rfl⟩⟩

theorem kernelDeserializarWait_of_some {data : List Byte} {msjWait : MsjWait}
    (h : Ansisop.kernelDeserializarWait data = some msjWait) :
    kernelDeserializarWait data = .ok (some msjWait) := by
  obtain ⟨hlen, h⟩ := Option.ite_none_right_eq_some.1 h
  refine bind_eq_ok.2 ⟨_, leerPalabra_eq_ok.2 ⟨by omega, rfl⟩, bind_eq_ok.2 ⟨_, copy_eq_ok.2
    ⟨by omega, by omega, rfl⟩, bind_eq_ok.2 ⟨_, leerPcb_of_le hlen, congrArg Except.ok h⟩⟩⟩

theorem kernelDeserializarEntradaSalida_of_some {data : List Byte} {stDisp : EntradaSalida}
    (h : Ansisop.kernelDeserializarEntradaSalida data = some stDisp) :
    kernelDeserializarEntradaSalida data = .ok (some stDisp) := by
  obtain ⟨hlen, h⟩ := Option.ite_none_right_eq_some.1 h
  refine bind_eq_ok.2 ⟨_, leerPalabra_eq_ok.2 ⟨by omega, rfl⟩, bind_eq_ok.2 ⟨_, copy_eq_ok.2
    ⟨by omega, by omega, rfl⟩, bind_eq_ok.2 ⟨_, leerPalabra_eq_ok.2 ⟨by omega, rfl⟩,
      bind_eq_ok.2 ⟨_, leerPcb_of_le (by omega), congrArg Except.ok h⟩⟩⟩⟩

/-- **What the kernel makes of a message is what the decoder with checked accesses returns**, which
then has no fault. -/
theorem deserializarKernel_of_some {buffer : List Byte} {m : EstructuraCpu}
    (h : Ansisop.deserializarKernel buffer = some m) :
    deserializarKernel buffer = .ok (some m) := by
  obtain ⟨hlen, h⟩ := Option.ite_none_right_eq_some.1 h
  refine bind_eq_ok.2 ⟨_, separarOperacion_eq_ok.2 ⟨hlen, rfl⟩, ?_⟩
  rw [estructuraDeCpu] at h
  dsimp only
  generalize (palabra buffer 0).toNat = operacion at h ⊢
  split at h
  case h_12 => exact absurd h (by simp)
  case h_11 => exact congrArg Except.ok h
  all_goals obtain ⟨x, hx, rfl⟩ := Option.map_eq_some_iff.1 h
  case h_1 => exact bind_eq_ok.2 ⟨x, duplicar_eq_ok.2 hx, rfl⟩
  case h_2 => exact bind_eq_ok.2 ⟨x, kernelDeserializarAsignarVarCompartida_of_some hx, rfl⟩
  case h_3 => exact bind_eq_ok.2 ⟨x, leerPalabra_of_some hx, rfl⟩
  case h_4 => exact bind_eq_ok.2 ⟨x, duplicar_eq_ok.2 hx, rfl⟩
  case h_5 => exact bind_eq_ok.2 ⟨_, kernelDeserializarEntradaSalida_of_some hx, rfl⟩
  case h_6 => exact bind_eq_ok.2 ⟨_, kernelDeserializarWait_of_some hx, rfl⟩
  case h_7 => exact bind_eq_ok.2 ⟨x, duplicar_eq_ok.2 hx, rfl⟩
  case h_8 => exact bind_eq_ok.2 ⟨x, leerPcb_of_some hx, rfl⟩
  case h_9 => exact bind_eq_ok.2 ⟨x, leerPcb_of_some hx, rfl⟩
  case h_10 => exact bind_eq_ok.2 ⟨x, duplicar_eq_ok.2 hx, rfl⟩

/-- The same for a CPU. -/
theorem deserializarCpu_of_some {buffer : List Byte} {m : MensajeKernel}
    (h : Ansisop.deserializarCpu buffer = some m) : deserializarCpu buffer = .ok (some m) := by
  obtain ⟨hlen, h⟩ := Option.ite_none_right_eq_some.1 h
  refine bind_eq_ok.2 ⟨_, separarOperacion_eq_ok.2 ⟨hlen, rfl⟩, ?_⟩
  rw [estructuraDeKernel] at h
  dsimp only
  generalize (palabra buffer 0).toNat = operacion at h ⊢
  split at h
  case h_8 => exact absurd h (by simp)
  case h_4 =>
      obtain ⟨hocho, h⟩ := Option.ite_none_right_eq_some.1 h
      obtain rfl := Option.some_inj.1 h
      exact bind_eq_ok.2 ⟨_, leerPalabra_eq_ok.2 ⟨by omega, rfl⟩,
        bind_eq_ok.2 ⟨_, leerPalabra_eq_ok.2 ⟨by omega, rfl⟩, rfl⟩⟩
  case h_5 =>
      obtain ⟨pcb, hpcb, rfl⟩ := Option.map_eq_some_iff.1 h
      exact bind_eq_ok.2 ⟨pcb, leerPcb_of_some hpcb, rfl⟩
  case h_6 =>
      obtain ⟨valor, hvalor, rfl⟩ := Option.map_eq_some_iff.1 h
      exact bind_eq_ok.2 ⟨valor, leerPalabra_of_some hvalor, rfl⟩
  all_goals exact congrArg Except.ok h

/-! ### Messages that are complete -/

/-- **A request that is not too short**: it has the fields of its operation, and the bytes that an
`almacenar` declares. -/
def PedidoEntero (stream : List Byte) : Prop :=
  4 ≤ stream.length ∧
  match (palabra stream 0).toNat with
  | 0 => 8 ≤ stream.length
  | 1 => 16 ≤ stream.length
  | 2 => 16 ≤ stream.length ∧ 16 + (palabra stream 12).toNat ≤ stream.length
  | 3 => 8 ≤ stream.length
  | 4 => 8 ≤ stream.length
  | _ => True

/-- **A request that fits where it is copied to**: a word, or a block as large as the message. -/
def PedidoEntra (stream : List Byte) : Prop :=
  match (palabra stream 0).toNat with
  | 0 => stream.length ≤ 8
  | 2 => 20 ≤ stream.length
  | 3 => stream.length ≤ 8
  | _ => True

/-- An answer of the UMV that is not too short. -/
def RespuestaEntera (stream : List Byte) : Prop :=
  4 ≤ stream.length ∧ ((palabra stream 0).toNat = 1 → 8 ≤ stream.length)

/-- An answer that fits where it is copied to. -/
def RespuestaEntra (stream : List Byte) : Prop := (palabra stream 0).toNat = 1 → stream.length ≤ 8

/-- **A message of a CPU that is not too short**: it has the fields of its operation, the bytes of
the name that it declares, and the NUL of its string. -/
def MensajeCpuEntero (buffer : List Byte) : Prop :=
  4 ≤ buffer.length ∧
  match (palabra buffer 0).toNat with
  | 0 => 0#8 ∈ buffer.drop 4
  | 1 => 0#8 ∈ buffer.drop 4 ∧ ((buffer.drop 4).takeWhile (· != 0#8)).length + 9 ≤ buffer.length
  | 2 => 8 ≤ buffer.length
  | 3 => 0#8 ∈ buffer.drop 4
  | 4 => 56 + (palabra buffer 4).toNat ≤ buffer.length ∧
      0#8 ∈ (buffer.drop 8).take (palabra buffer 4).toNat
  | 5 => 52 + (palabra buffer 4).toNat ≤ buffer.length ∧
      0#8 ∈ (buffer.drop 8).take (palabra buffer 4).toNat
  | 6 => 0#8 ∈ buffer.drop 4
  | 7 => 48 ≤ buffer.length
  | 8 => 48 ≤ buffer.length
  | 9 => 0#8 ∈ buffer.drop 4
  | _ => True

/-- A message of the kernel that is not too short. -/
def MensajeKernelEntero (buffer : List Byte) : Prop :=
  4 ≤ buffer.length ∧
  match (palabra buffer 0).toNat with
  | 3 => 12 ≤ buffer.length
  | 4 => 48 ≤ buffer.length
  | 5 => 8 ≤ buffer.length
  | _ => True

/-- **A prudent decoder**: no access leaves its block, no size wraps around, and a message that is
too short gets no structure. -/
structure Prudente {α : Type} (entero : Prop) (r : Except Fault α) : Prop where
  dentro : ∀ fault, r ≠ .error fault
  rechaza : ¬ entero → ∀ x, r ≠ .ok x

/-- No decoder rejects a message, so that a prudent one was given a message that is complete. -/
theorem prudente_iff {α : Type} {entero : Prop} {r : Except Fault α} :
    Prudente entero r ↔ entero ∧ SinFalta r := by
  cases r with
  | error fault => exact iff_of_false (fun h => h.dentro fault rfl) fun h => nomatch h.2.choose_spec
  | ok x =>
      refine ⟨fun h => ⟨by_contra fun hno => h.rechaza hno x rfl, x, rfl⟩, fun h => ⟨nofun, ?_⟩⟩
      exact fun hno => absurd h.1 hno

/-- **The decoder of the UMV has no fault** for the requests that `Umv.deserealizarOperacion` can
read, with blocks of just the size that is asked for, and for those of an unknown operation. -/
theorem sinFalta_deserealizarOperacion (stream : List Byte) (stConexion : Umv.Conexion) :
    SinFalta (deserealizarOperacion stream stConexion) ↔
      Umv.PedidoCompleto id stream ∨ 4 ≤ stream.length ∧ 5 < (palabra stream 0).toNat := by
  rw [deserealizarOperacion, sinFalta_separarOperacion, Umv.PedidoCompleto, ← and_or_left]
  refine and_congr_right fun hlen => ?_
  dsimp only
  split <;> rename_i hop <;> try simp only [hop, id]
  · rw [sinFalta_bind_pure, sinFalta_copiarEnPalabra, List.length_drop]
    omega
  · rw [sinFalta_bind_pure, sinFalta_deserializarSolicitudBytes, List.length_drop]
    omega
  · have htamanio : palabra (stream.drop 4) 8 = palabra stream 12 := Umv.palabra_drop _ _ _
    rw [sinFalta_bind_pure, sinFalta_deserializarAlmacenarBytes, List.length_drop, htamanio]
    omega
  · rw [sinFalta_bind_pure, sinFalta_copiarEnPalabra, List.length_drop]
    omega
  · rw [sinFalta_bind_pure, deserealizarCrearSegmento, sinFalta_copiarPalabra, List.length_drop]
    omega
  · exact iff_of_true (sinFalta_pure _) (Or.inl trivial)
  · refine iff_of_true (sinFalta_pure _) (Or.inr ?_)
    simp only [imp_false] at *
    omega

/-- **The decoder of the UMV.** -/
theorem prudente_deserealizarOperacion (stream : List Byte) (stConexion : Umv.Conexion) :
    Prudente (PedidoEntero stream) (deserealizarOperacion stream stConexion) ↔
      PedidoEntero stream ∧ PedidoEntra stream := by
  rw [prudente_iff, sinFalta_deserealizarOperacion]
  refine and_congr_right fun hentero => ?_
  obtain ⟨hlen, hentero⟩ := hentero
  rw [Umv.PedidoCompleto, PedidoEntra]
  split at hentero <;> rename_i hop <;> simp only [hop, id, iff_true]
  case h_6 =>
      -- destruirSegmentos, and the operations that are unknown
      by_cases hcinco : (palabra stream 0).toNat = 5
      · exact Or.inl ⟨hlen, by simp only [hcinco]⟩
      · simp only [imp_false] at *
        exact Or.inr ⟨hlen, by omega⟩
  all_goals omega

/-- **The decoder of the clients of the UMV.** -/
theorem prudente_umvDeserializar (stream : List Byte) :
    Prudente (RespuestaEntera stream) (umvDeserializar stream) ↔
      RespuestaEntera stream ∧ RespuestaEntra stream := by
  rw [prudente_iff]
  refine and_congr_right fun hentera => ?_
  have hcopiar (data : List Byte) : SinFalta (copiarBuffer data) := by simp [SinFalta, copiarBuffer]
  rw [umvDeserializar, sinFalta_separarOperacion, and_iff_right hentera.1, RespuestaEntra]
  dsimp only
  split <;> rename_i hop
  · exact iff_of_true (sinFalta_pure _) (by simp [hop])
  · rw [sinFalta_bind_pure, deserializarSegmentoCreado, sinFalta_bind_pure]
    simp only [SinFalta, copy_eq_ok, exists_and_left, exists_eq', and_true, hop, true_imp_iff,
      List.length_drop]
    omega
  · exact iff_of_true (sinFalta_bind_pure.2 (hcopiar _)) (by simp [hop])
  · exact iff_of_true (sinFalta_bind_pure.2 (hcopiar _)) (by simp [hop])
  · exact iff_of_true (sinFalta_bind_pure.2 (hcopiar _)) (by simp [hop])
  · exact iff_of_true (sinFalta_pure _) fun h => by contradiction

/-- **The decoder of the kernel.** -/
theorem prudente_deserializarKernel (buffer : List Byte) (hsize : buffer.length < 2 ^ 32) :
    Prudente (MensajeCpuEntero buffer) (deserializarKernel buffer) ↔ MensajeCpuEntero buffer := by
  rw [prudente_iff, and_iff_left_iff_imp]
  rintro ⟨hlen, hentero⟩
  have hsize' : (buffer.drop 4).length < 2 ^ 32 := by
    rw [List.length_drop]
    omega
  rw [deserializarKernel, sinFalta_separarOperacion]
  have hlargo : palabra (buffer.drop 4) 0 = palabra buffer 4 := Umv.palabra_drop _ _ _
  refine ⟨hlen, ?_⟩
  split at hentero <;> rename_i hop <;> simp only [hop]
  · exact sinFalta_bind_pure.2 ((sinFalta_duplicar hsize').2 hentero)
  · refine sinFalta_bind_pure.2
      ((sinFalta_kernelDeserializarAsignarVarCompartida hsize').2 ⟨hentero.1, ?_⟩)
    rw [List.length_drop]
    omega
  · refine sinFalta_bind_pure.2 (sinFalta_leerPalabra.2 ?_)
    rw [List.length_drop]
    omega
  · exact sinFalta_bind_pure.2 ((sinFalta_duplicar hsize').2 hentero)
  · refine sinFalta_bind_pure.2 (sinFalta_kernelDeserializarEntradaSalida.2 ?_)
    rw [List.length_drop, hlargo]
    omega
  · refine sinFalta_bind_pure.2 (sinFalta_kernelDeserializarWait.2 ?_)
    rw [List.length_drop, hlargo]
    omega
  · exact sinFalta_bind_pure.2 ((sinFalta_duplicar hsize').2 hentero)
  · refine sinFalta_bind_pure.2 (sinFalta_leerPcb.2 ?_)
    rw [List.length_drop]
    omega
  · refine sinFalta_bind_pure.2 (sinFalta_leerPcb.2 ?_)
    rw [List.length_drop]
    omega
  · exact sinFalta_bind_pure.2 ((sinFalta_duplicar hsize').2 hentero)
  · split <;> first | contradiction | exact sinFalta_pure _

/-- **The decoder of a CPU.** -/
theorem prudente_deserializarCpu (buffer : List Byte) :
    Prudente (MensajeKernelEntero buffer) (deserializarCpu buffer) ↔
    MensajeKernelEntero buffer := by
  rw [prudente_iff, and_iff_left_iff_imp]
  rintro ⟨hlen, hentero⟩
  rw [deserializarCpu, sinFalta_separarOperacion]
  refine ⟨hlen, ?_⟩
  split at hentero <;> rename_i hop <;> simp only [hop]
  · obtain ⟨w, hw⟩ := sinFalta_leerPalabra.2 (show 0 + 4 ≤ (buffer.drop 4).length by
      rw [List.length_drop]; omega)
    obtain ⟨w', hw'⟩ := sinFalta_leerPalabra.2 (show 4 + 4 ≤ (buffer.drop 4).length by
      rw [List.length_drop]; omega)
    exact ⟨_, bind_eq_ok.2 ⟨w, hw, bind_eq_ok.2 ⟨w', hw', rfl⟩⟩⟩
  · refine sinFalta_bind_pure.2 (sinFalta_leerPcb.2 ?_)
    rw [List.length_drop]
    omega
  · refine sinFalta_bind_pure.2 (sinFalta_leerPalabra.2 ?_)
    rw [List.length_drop]
    omega
  · split <;> first | contradiction | exact sinFalta_pure _

/-- **Each decoder is prudent exactly for the messages that are complete** and, in the protocol of
the UMV, that fit in the blocks that they are copied into. -/
theorem decodificadores_dentro (buffer : Buffer) (stConexion : Umv.Conexion) :
    (Prudente (PedidoEntero buffer.data) (deserealizarOperacion buffer.data stConexion) ↔
      PedidoEntero buffer.data ∧ PedidoEntra buffer.data) ∧
    (Prudente (RespuestaEntera buffer.data) (umvDeserializar buffer.data) ↔
      RespuestaEntera buffer.data ∧ RespuestaEntra buffer.data) ∧
    (Prudente (MensajeCpuEntero buffer.data) (deserializarKernel buffer.data) ↔
      MensajeCpuEntero buffer.data) ∧
    (Prudente (MensajeKernelEntero buffer.data) (deserializarCpu buffer.data) ↔
      MensajeKernelEntero buffer.data) :=
  ⟨prudente_deserealizarOperacion _ _, prudente_umvDeserializar _,
    prudente_deserializarKernel _ buffer.size_lt, prudente_deserializarCpu _⟩

/-- A request to store two bytes. -/
def almacenarDos : Buffer :=
  ⟨Umv.umvSerializar (.almacenar ⟨100#32, 0#32, 2#32, fun _ => 7#8⟩), by decide⟩

/-- **A request to store two bytes**, complete as it is, is written past the end of its block. -/
theorem no_decodificadores_dentro : ¬ ∀ (buffer : Buffer) (stConexion : Umv.Conexion),
    Prudente (PedidoEntero buffer.data) (deserealizarOperacion buffer.data stConexion) ∧
    Prudente (RespuestaEntera buffer.data) (umvDeserializar buffer.data) ∧
    Prudente (MensajeCpuEntero buffer.data) (deserializarKernel buffer.data) ∧
    Prudente (MensajeKernelEntero buffer.data) (deserializarCpu buffer.data) := by
  intro hclaim
  have hfalta : deserealizarOperacion almacenarDos.data ⟨0#32, 0#32⟩ = .error .write := by rfl
  exact (hclaim almacenarDos ⟨0#32, 0#32⟩).1.dentro .write hfalta

end Limites

end Ansisop
