/-
**The thread of a connection of the UMV.**

`pfnControladorConexion` waits for the handshake of its client, answers it, and serves messages in a
loop.  The decoder writes the type and the process of the connection before anything is checked;
three switches then leave an answer in `buffer_respuesta`, each for some operations and some types
of client.  For the other messages none of them does, and what is sent is whatever the pointer still
holds.

The thread runs among the others of the UMV: between two of its critical sections they may take any
number of steps.  A message that the decoder cannot read inside its bounds leaves the thread without
a defined behaviour.

Main definitions:

* `Ansisop.Umv.HiloConexion`, `Ansisop.Umv.PasoHilo` — the thread and its steps;
* `Ansisop.Umv.Envio.Propio` — a reply that was made in the iteration that sends it;
* `Ansisop.Umv.Autoridad` — a connection keeps its role, and its sections are those of its role, for
  the process that it named last.

Main results:

* `Ansisop.Umv.respuesta_propia` — **in every run whose messages are permitted every request gets
  its own reply**, and a message that is not permitted gets the buffer of an earlier one;
* `Ansisop.Umv.autoridad_conexion` — **in every run that repeats no other type and names a process
  first, a connection acts with its authority**.
-/

import Ansisop.Umv.Conexiones

set_option relaxedAutoImplicit false
set_option autoImplicit false

namespace Ansisop.Umv

/-! ### The thread and its steps -/

/-- What `buffer_respuesta` points to. -/
structure BufferRespuesta where
  /-- the iteration that made it; the handshake is iteration 0 -/
  pedido : ℕ
  respuesta : Respuesta
  destruido : Bool
deriving DecidableEq

/-- A `socket_send` of the loop: the iteration, and the buffer that it is given. -/
structure Envio where
  pedido : ℕ
  buffer : Option BufferRespuesta
deriving DecidableEq

/-- Where the thread of a connection is. -/
inductive Lugar
  | saludo
  | recibe
  /-- the message is decoded; an unknown operation has no structure -/
  | atiende (mensaje : Option MensajeUmv)
  | responde
  | fuera
  /-- the decoder has left its bounds -/
  | indefinido

/-- **The thread of a connection**, with what its history says: the type of the handshake that was
accepted, the messages of the loop, the last one first, and the buffers that were sent. -/
structure HiloConexion where
  umv : Sistema
  lugar : Lugar
  stConexion : Conexion
  bufferRespuesta : Option BufferRespuesta
  rol : Option U32
  mensajes : List (List Byte)
  enviados : List Envio

/-- What the thread and the others do. -/
inductive EventoHilo
  | saludo (stream : List Byte)
  | recibe (stream : List Byte)
  | propia (e : Evento)
  | cambia
  | nada
  | responde
  | ajena (e : Evento)
  | cierra

/-- The operation of a message is none of the six. -/
def OperacionDesconocida (stream : List Byte) : Prop :=
  4 ≤ stream.length ∧ 5 < (palabra stream 0).toNat

instance (stream : List Byte) : Decidable (OperacionDesconocida stream) :=
  inferInstanceAs (Decidable (_ ∧ _))

/-- What the decoder leaves: of an unknown operation, no structure. -/
def decodificar (malloc : ℕ → ℕ) (stream : List Byte) (stConexion : Conexion) :
    Option (Option MensajeUmv × Conexion) :=
  if OperacionDesconocida stream then some (none, stConexion)
  else (deserealizarOperacion malloc stream stConexion).map fun p => (some p.1, p.2)

/-- The number of the operation of a message. -/
def MensajeUmv.operacion : MensajeUmv → ℕ
  | handshake => 0
  | solicitar _ => 1
  | almacenar _ => 2
  | cambioProcesoActivo => 3
  | crearSegmento _ => 4
  | destruirSegmentos => 5

/-- **The operations that one of the switches has a case for**, on a connection of a type. -/
def OperacionPermitida (tipoConexion : U32) : ℕ → Prop
  | 1 => tipoConexion = tipoCpu
  | 2 => True
  | 3 => True
  | 4 => tipoConexion = tipoKernel
  | 5 => tipoConexion = tipoKernel
  | _ => False

instance (tipoConexion : U32) :
    (operacion : ℕ) → Decidable (OperacionPermitida tipoConexion operacion)
  | 0 => isFalse id
  | 1 => inferInstanceAs (Decidable (tipoConexion = tipoCpu))
  | 2 => isTrue trivial
  | 3 => isTrue trivial
  | 4 => inferInstanceAs (Decidable (tipoConexion = tipoKernel))
  | 5 => inferInstanceAs (Decidable (tipoConexion = tipoKernel))
  | _ + 6 => isFalse id

/-- One of the switches has a case for the message. -/
def Servido (stConexion : Conexion) : Option MensajeUmv → Prop
  | none => False
  | some m => OperacionPermitida stConexion.tipoConexion m.operacion

/-- The types of client that the handshake knows. -/
def TipoConocido (tipoConexion : U32) : Prop := tipoConexion = tipoCpu ∨ tipoConexion = tipoKernel

namespace HiloConexion

/-- The handshake was answered, and its buffer destroyed. -/
def saludado (s : HiloConexion) (stConexion : Conexion) : HiloConexion :=
  { s with
    lugar := .recibe
    stConexion
    bufferRespuesta := some ⟨0, .OK, true⟩
    rol := some stConexion.tipoConexion }

/-- A message was received and decoded. -/
def recibido (s : HiloConexion) (stream : List Byte) (m : Option MensajeUmv)
    (stConexion : Conexion) : HiloConexion :=
  { s with lugar := .atiende m, stConexion, mensajes := stream :: s.mensajes }

/-- A critical section was run; its answer, if it gives one, is the reply. -/
def atendido (s : HiloConexion) (umv : Sistema) : Option Respuesta → HiloConexion
  | none => { s with umv }
  | some respuesta =>
      { s with
        umv
        lugar := .responde
        bufferRespuesta := some ⟨s.mensajes.length, respuesta, false⟩ }

/-- The reply was sent, and its buffer destroyed. -/
def respondido (s : HiloConexion) : HiloConexion :=
  { s with
    lugar := .recibe
    bufferRespuesta := s.bufferRespuesta.map fun b => { b with destruido := true }
    enviados := s.enviados ++ [⟨s.mensajes.length, s.bufferRespuesta⟩] }

end HiloConexion

/-- **The steps of `pfnControladorConexion`**, run by thread `h`, among those of the others. -/
inductive PasoHilo (B : Bloque) (malloc : ℕ → ℕ) (h : ℕ) (s : HiloConexion) :
    EventoHilo → HiloConexion → Prop
  | saluda {stream : List Byte} {c : Conexion} : s.lugar = .saludo →
      decodificar malloc stream s.stConexion = some (some .handshake, c) →
      TipoConocido c.tipoConexion → PasoHilo B malloc h s (.saludo stream) (s.saludado c)
  | rechaza {stream : List Byte} {m : Option MensajeUmv} {c : Conexion} : s.lugar = .saludo →
      decodificar malloc stream s.stConexion = some (m, c) →
      ¬ (m = some .handshake ∧ TipoConocido c.tipoConexion) →
      PasoHilo B malloc h s (.saludo stream) { s with lugar := .fuera, stConexion := c }
  | saludoIndefinido {stream : List Byte} : s.lugar = .saludo →
      decodificar malloc stream s.stConexion = none →
      PasoHilo B malloc h s (.saludo stream) { s with lugar := .indefinido }
  | recibe {stream : List Byte} {m : Option MensajeUmv} {c : Conexion} : s.lugar = .recibe →
      decodificar malloc stream s.stConexion = some (m, c) →
      PasoHilo B malloc h s (.recibe stream) (s.recibido stream m c)
  | recibeIndefinido {stream : List Byte} : s.lugar = .recibe →
      decodificar malloc stream s.stConexion = none →
      PasoHilo B malloc h s (.recibe stream)
        { s with lugar := .indefinido, mensajes := stream :: s.mensajes }
  | propia {m : MensajeUmv} {e : Evento} {umv : Sistema} : s.lugar = .atiende (some m) →
      e.hilo = h → Atiende s.stConexion m e.seccion → Paso B s.umv e umv →
      PasoHilo B malloc h s (.propia e) (s.atendido umv e.respuesta)
  | cambia : s.lugar = .atiende (some .cambioProcesoActivo) →
      PasoHilo B malloc h s .cambia (s.atendido s.umv (some .OK))
  | nada {m : Option MensajeUmv} : s.lugar = .atiende m → ¬ Servido s.stConexion m →
      PasoHilo B malloc h s .nada { s with lugar := .responde }
  | responde : s.lugar = .responde → PasoHilo B malloc h s .responde s.respondido
  | ajena {e : Evento} {umv : Sistema} : e.hilo ≠ h → Paso B s.umv e umv →
      PasoHilo B malloc h s (.ajena e) { s with umv }
  | cierra : s.lugar = .recibe → PasoHilo B malloc h s .cierra { s with lugar := .fuera }

/-- The thread when it starts.  `stConexion` is a local that nothing has initialised. -/
structure HiloConexion.Inicial (s : HiloConexion) : Prop where
  lugar : s.lugar = .saludo
  bufferRespuesta : s.bufferRespuesta = none
  rol : s.rol = none
  mensajes : s.mensajes = []
  enviados : s.enviados = []

variable {B : Bloque} {malloc : ℕ → ℕ} {h : ℕ} {s t : HiloConexion} {ev : EventoHilo}

/-! ### What the decoder leaves -/

/-- **What the decoder writes of the connection**: its type for a handshake, its process for a
change of process, and nothing for the others. -/
def EscribeConexion (stream : List Byte) (c c' : Conexion) : MensajeUmv → Prop
  | .handshake => copiarEnPalabra c.tipoConexion (stream.drop 4) = some c'.tipoConexion ∧
      c'.idPrograma = c.idPrograma
  | .cambioProcesoActivo => copiarEnPalabra c.idPrograma (stream.drop 4) = some c'.idPrograma ∧
      c'.tipoConexion = c.tipoConexion
  | _ => c' = c

/-- The structure has the operation of the message. -/
theorem deserealizarOperacion_spec {stream : List Byte} {c c' : Conexion} {m : MensajeUmv}
    (hd : deserealizarOperacion malloc stream c = some (m, c')) :
    (palabra stream 0).toNat = m.operacion ∧ EscribeConexion stream c c' m := by
  rw [deserealizarOperacion] at hd
  obtain ⟨-, hd⟩ := Option.ite_none_right_eq_some.1 hd
  rw [estructuraDeUmv] at hd
  split at hd <;> rename_i hop
  case h_6 =>
      obtain ⟨rfl, rfl⟩ := Prod.mk.inj (Option.some_inj.1 hd)
      exact ⟨hop, rfl⟩
  case h_7 => exact absurd hd (by simp)
  all_goals
    obtain ⟨x, hx, heq⟩ := Option.map_eq_some_iff.1 hd
    obtain ⟨rfl, rfl⟩ := Prod.mk.inj heq
    first | exact ⟨hop, rfl⟩ | exact ⟨hop, hx, rfl⟩

/-- An unknown operation is no complete request. -/
theorem OperacionDesconocida.not_completo {stream : List Byte} (hs : OperacionDesconocida stream) :
    ¬ PedidoCompleto malloc stream := by
  rintro ⟨-, hcompleto⟩
  obtain ⟨-, hop⟩ := hs
  split at hcompleto <;> omega

/-- What is decoded: an unknown operation, or a complete request. -/
theorem decodificar_eq_some {stream : List Byte} {c c' : Conexion} {m : Option MensajeUmv}
    (hd : decodificar malloc stream c = some (m, c')) :
    (OperacionDesconocida stream ∧ m = none ∧ c' = c) ∨
      ∃ m', m = some m' ∧ PedidoCompleto malloc stream ∧
        (palabra stream 0).toNat = m'.operacion ∧ EscribeConexion stream c c' m' := by
  rw [decodificar] at hd
  split at hd
  · rename_i hdesconocida
    obtain ⟨rfl, rfl⟩ := Prod.mk.inj (Option.some_inj.1 hd)
    exact Or.inl ⟨hdesconocida, rfl, rfl⟩
  · obtain ⟨⟨m', c''⟩, hdes, heq⟩ := Option.map_eq_some_iff.1 hd
    obtain ⟨rfl, rfl⟩ := Prod.mk.inj heq
    have hsome : (deserealizarOperacion malloc stream c).isSome := by rw [hdes]; rfl
    exact Or.inr ⟨m', rfl, (deserealizarOperacion_isSome_iff stream).1 hsome,
      deserealizarOperacion_spec hdes⟩

/-- The decoder stays in its bounds exactly for these. -/
theorem decodificar_eq_none_iff {stream : List Byte} {c : Conexion} :
    decodificar malloc stream c = none ↔
      ¬ PedidoCompleto malloc stream ∧ ¬ OperacionDesconocida stream := by
  have hsome : (deserealizarOperacion malloc stream c).isSome ↔ PedidoCompleto malloc stream :=
    deserealizarOperacion_isSome_iff stream
  rw [decodificar]
  by_cases hd : OperacionDesconocida stream
  · simp [hd]
  · rw [if_neg hd, Option.map_eq_none_iff, ← hsome, Bool.not_eq_true, Option.isSome_eq_false_iff,
      Option.isNone_iff_eq_none]
    exact (and_iff_left hd).symm

/-! ### Every request gets its own reply -/

/-- **The buffer that is sent was made in the same iteration**, and was not destroyed before. -/
def Envio.Propio (e : Envio) : Prop :=
  ∃ b, e.buffer = some b ∧ b.pedido = e.pedido ∧ b.destruido = false

/-- The thread stays in its bounds, and all that it has sent in the loop are replies of their
own. -/
structure RespuestasPropias (s : HiloConexion) : Prop where
  definido : s.lugar ≠ .indefinido
  enviados : ∀ e ∈ s.enviados, e.Propio

/-- **A message that a connection of a type may send**: it is complete, and one of the switches has
a case for its operation. -/
def PedidoPermitido (malloc : ℕ → ℕ) (tipoConexion : U32) (stream : List Byte) : Prop :=
  PedidoCompleto malloc stream ∧ OperacionPermitida tipoConexion (palabra stream 0).toNat

/-- What is received in the loop is permitted; the first message is one that the decoder can
read. -/
def EventoHilo.Permitido (malloc : ℕ → ℕ) (s : HiloConexion) : EventoHilo → Prop
  | saludo stream => PedidoCompleto malloc stream ∨ OperacionDesconocida stream
  | recibe stream => PedidoPermitido malloc s.stConexion.tipoConexion stream
  | _ => True

/-- A request that is permitted is served. -/
theorem servido_of_permitido {stream : List Byte} {c c' : Conexion} {m : Option MensajeUmv}
    (hs : PedidoPermitido malloc c.tipoConexion stream)
    (hd : decodificar malloc stream c = some (m, c')) : Servido c' m := by
  obtain ⟨hcompleto, hop⟩ := hs
  obtain ⟨hdesconocida, -⟩ | ⟨m', rfl, -, hm, hescribe⟩ := decodificar_eq_some hd
  · exact absurd hcompleto hdesconocida.not_completo
  · rw [hm] at hop
    cases m' with
    | handshake => exact hop.elim
    | cambioProcesoActivo => exact trivial
    | _ =>
        obtain rfl : c' = c := hescribe
        exact hop

/-- A message that is not permitted is not served. -/
theorem not_servido_of_not_permitido {stream : List Byte} {c c' : Conexion} {m : Option MensajeUmv}
    (hs : ¬ PedidoPermitido malloc c.tipoConexion stream)
    (hd : decodificar malloc stream c = some (m, c')) : ¬ Servido c' m := by
  obtain ⟨-, rfl, -⟩ | ⟨m', rfl, hcompleto, hm, hescribe⟩ := decodificar_eq_some hd
  · exact id
  · intro hservido
    refine hs ⟨hcompleto, ?_⟩
    rw [hm]
    cases m' with
    | handshake => exact hservido
    | cambioProcesoActivo => exact trivial
    | _ =>
        obtain rfl : c' = c := hescribe
        exact hservido

/-- **The invariant**: what is decoded is served, and what is about to be sent was made by this
iteration. -/
structure HiloConexion.AlDia (s : HiloConexion) : Prop where
  propias : RespuestasPropias s
  servido : ∀ m, s.lugar = .atiende m → Servido s.stConexion m
  responde : s.lugar = .responde → Envio.Propio ⟨s.mensajes.length, s.bufferRespuesta⟩

theorem HiloConexion.Inicial.alDia (hs : s.Inicial) : s.AlDia := by
  refine ⟨⟨?_, ?_⟩, ?_, ?_⟩ <;> simp [hs.lugar, hs.enviados]

/-- Where nothing is decoded and nothing is about to be sent, there is nothing to keep. -/
theorem HiloConexion.AlDia.sigue (hs : s.AlDia) (henviados : t.enviados = s.enviados)
    (hdefinido : t.lugar ≠ .indefinido) (hatiende : ∀ m, t.lugar ≠ .atiende m)
    (hresponde : t.lugar ≠ .responde) : t.AlDia := by
  refine ⟨⟨hdefinido, ?_⟩, fun m hm => absurd hm (hatiende m), fun hr => absurd hr hresponde⟩
  rw [henviados]
  exact hs.propias.enviados

theorem HiloConexion.AlDia.atendido (hs : s.AlDia) (umv : Sistema) (r : Option Respuesta) :
    (s.atendido umv r).AlDia := by
  cases r with
  | none => exact ⟨⟨hs.propias.definido, hs.propias.enviados⟩, hs.servido, hs.responde⟩
  | some r =>
      exact ⟨⟨Lugar.noConfusion, hs.propias.enviados⟩, fun _ hm => Lugar.noConfusion hm,
        fun _ => ⟨_, rfl, rfl, rfl⟩⟩

/-- **A permitted step keeps the invariant.** -/
theorem PasoHilo.alDia (hp : PasoHilo B malloc h s ev t) (hev : ev.Permitido malloc s)
    (hs : s.AlDia) : t.AlDia := by
  cases hp with
  | saluda _ _ _ => exact hs.sigue rfl nofun nofun nofun
  | rechaza _ _ _ => exact hs.sigue rfl nofun nofun nofun
  | saludoIndefinido _ hd =>
      obtain ⟨hcompleto, hdesconocida⟩ := decodificar_eq_none_iff.1 hd
      exact absurd hev (not_or.2 ⟨hcompleto, hdesconocida⟩)
  | recibe _ hd =>
      refine ⟨⟨Lugar.noConfusion, hs.propias.enviados⟩, ?_, fun hr => Lugar.noConfusion hr⟩
      intro m hm
      obtain rfl := Lugar.atiende.inj hm
      exact servido_of_permitido hev hd
  | recibeIndefinido _ hd => exact absurd hev.1 (decodificar_eq_none_iff.1 hd).1
  | propia _ _ _ _ => exact hs.atendido _ _
  | cambia _ => exact hs.atendido _ _
  | nada hl hm => exact absurd (hs.servido _ hl) hm
  | responde hl =>
      refine ⟨⟨Lugar.noConfusion, ?_⟩, fun _ hm => Lugar.noConfusion hm, fun hr =>
        Lugar.noConfusion hr⟩
      intro e he
      obtain he | he := List.mem_append.1 he
      · exact hs.propias.enviados e he
      · obtain rfl := List.mem_singleton.1 he
        exact hs.responde hl
  | ajena _ _ => exact ⟨⟨hs.propias.definido, hs.propias.enviados⟩, hs.servido, hs.responde⟩
  | cierra _ => exact hs.sigue rfl nofun nofun nofun

/-- The thread with permitted messages. -/
def CorridaPermitida (B : Bloque) (malloc : ℕ → ℕ) (h : ℕ) :
    HiloConexion → List EventoHilo → HiloConexion → Prop :=
  Lts.Run (Lts.restrict (fun s ev => ev.Permitido malloc s) (PasoHilo B malloc h))

theorem CorridaPermitida.alDia {tr : List EventoHilo} (hr : CorridaPermitida B malloc h s tr t)
    (hs : s.AlDia) : t.AlDia :=
  Lts.Run.invariant (fun _ _ _ hu hp => hp.2.alDia hp.1 hu) hr hs

/-- Unless it is about to send, the thread holds no buffer that could be sent. -/
def HiloConexion.Gastado (s : HiloConexion) : Prop :=
  s.lugar ≠ .responde → ∀ b, s.bufferRespuesta = some b → b.destruido = true

/-- **Every step leaves the buffers that were sent destroyed.** -/
theorem PasoHilo.gastado (hp : PasoHilo B malloc h s ev t) (hs : s.Gastado) : t.Gastado := by
  have hestaba {l : Lugar} (hl : s.lugar = l) (hne : l ≠ .responde) :
      ∀ b, s.bufferRespuesta = some b → b.destruido = true := hs (hl ▸ hne)
  cases hp with
  | saluda hl _ _ =>
      intro _ b hb
      obtain rfl := Option.some_inj.1 hb
      rfl
  | rechaza hl _ _ => exact fun _ => hestaba hl Lugar.noConfusion
  | saludoIndefinido hl _ => exact fun _ => hestaba hl Lugar.noConfusion
  | recibe hl _ => exact fun _ => hestaba hl Lugar.noConfusion
  | recibeIndefinido hl _ => exact fun _ => hestaba hl Lugar.noConfusion
  | @propia m e umv hl _ _ _ =>
      cases hr : e.respuesta with
      | none => exact fun _ => hestaba hl Lugar.noConfusion
      | some r => exact fun hne => absurd rfl hne
  | cambia _ => exact fun hne => absurd rfl hne
  | nada _ _ => exact fun hne => absurd rfl hne
  | responde _ =>
      intro _ b hb
      obtain ⟨b', -, rfl⟩ := Option.map_eq_some_iff.1 hb
      rfl
  | ajena _ _ => exact hs
  | cierra hl => exact fun _ => hestaba hl Lugar.noConfusion

/-- **A message that is not permitted** gets a buffer that was destroyed, if any, or leaves the
bounds. -/
theorem HiloConexion.Gastado.no_permitido (hs : s.Gastado) (hl : s.lugar = .recibe)
    {stream : List Byte} (hstream : ¬ PedidoPermitido malloc s.stConexion.tipoConexion stream) :
    ∃ tr t, Lts.Run (PasoHilo B malloc h) s (.recibe stream :: tr) t ∧ ¬ RespuestasPropias t := by
  cases hd : decodificar malloc stream s.stConexion with
  | none =>
      refine ⟨[], _, Lts.Run.single (.recibeIndefinido hl hd), fun hpropias => ?_⟩
      exact hpropias.definido rfl
  | some p =>
      obtain ⟨m, c⟩ := p
      have hrecibe : PasoHilo B malloc h s (.recibe stream) (s.recibido stream m c) := .recibe hl hd
      have hnada : PasoHilo B malloc h (s.recibido stream m c) .nada
          { s.recibido stream m c with lugar := .responde } :=
        .nada rfl (not_servido_of_not_permitido hstream hd)
      refine ⟨[.nada, .responde], _, ((Lts.Run.single hrecibe).snoc hnada).snoc (.responde rfl), ?_⟩
      intro hpropias
      obtain ⟨b, hb, -, hvivo⟩ := hpropias.enviados ⟨s.mensajes.length + 1, s.bufferRespuesta⟩
        (List.mem_append_right _ (List.mem_singleton.2 rfl))
      exact absurd ((hs (hl ▸ Lugar.noConfusion) b hb).symm.trans hvivo) (by simp)

/-- **Every request gets its own reply, as long as the messages are permitted**: in every run in
which every message of the loop is complete and one that the connection may send, every buffer that
is sent was made in that iteration and was not destroyed before.  After any other message it was
not, or the decoder leaves its bounds. -/
theorem respuesta_propia (B : Bloque) (malloc : ℕ → ℕ) (h : ℕ) {s : HiloConexion} (hs : s.Inicial) :
    (∀ tr t, CorridaPermitida B malloc h s tr t → RespuestasPropias t) ∧
    ∀ tr t stream, Lts.Run (PasoHilo B malloc h) s tr t → t.lugar = .recibe →
      ¬ PedidoPermitido malloc t.stConexion.tipoConexion stream →
      ∃ tr' u, Lts.Run (PasoHilo B malloc h) t (.recibe stream :: tr') u ∧
      ¬ RespuestasPropias u := by
  refine ⟨fun tr t hr => (hr.alDia hs.alDia).propias, fun tr t stream hr hl hstream => ?_⟩
  have hgastado : s.Gastado := fun _ b hb => by simp [hs.bufferRespuesta] at hb
  exact (Lts.Run.invariant (fun _ _ _ hu hp => hp.gastado hu) hr hgastado).no_permitido hl hstream

/-- A thread that starts, in an empty memory. -/
def hiloNuevo : HiloConexion := ⟨vacio, .saludo, ⟨7#32, 7#32⟩, none, none, [], []⟩

/-- The thread after the handshake of a kernel. -/
def hiloKernel : HiloConexion := hiloNuevo.saludado ⟨tipoKernel, 7#32⟩

/-- The thread after the kernel has named process 1001. -/
def hilo1001 : HiloConexion :=
  ((hiloKernel.recibido (umvSerializar (.cambioProcesoActivo 1001#32)) (some .cambioProcesoActivo)
    ⟨tipoKernel, 1001#32⟩).atendido vacio (some .OK)).respondido

/-- The destruction of the segments of process 1001, of which there are none. -/
def destruccion : Evento :=
  ⟨0, .eliminarSegmentos 1001#32, some (eliminarSegmentos vacio.estado 1001#32).1⟩

/-- The thread after the kernel has had the segments of process 1001 destroyed. -/
def hiloSinSegmentos : HiloConexion :=
  ((hilo1001.recibido (umvSerializar .destruirSegmentos) (some .destruirSegmentos)
    ⟨tipoKernel, 1001#32⟩).atendido
      (vacio.con (eliminarSegmentos vacio.estado 1001#32).2 0 .libre)
        destruccion.respuesta).respondido

/-- What the thread does up to there. -/
def trazaSinSegmentos : List EventoHilo :=
  [.saludo (umvSerializar (.handshake tipoKernel)),
    .recibe (umvSerializar (.cambioProcesoActivo 1001#32)), .cambia, .responde,
    .recibe (umvSerializar .destruirSegmentos), .propia destruccion, .responde]

theorem inicial_hiloNuevo : hiloNuevo.Inicial := ⟨rfl, rfl, rfl, rfl, rfl⟩

theorem paso_saludo : PasoHilo bloque16 mallocDeOcho 0 hiloNuevo
    (.saludo (umvSerializar (.handshake tipoKernel))) hiloKernel :=
  .saluda rfl rfl (Or.inr rfl)

theorem corrida_sinSegmentos (ok : HiloConexion → EventoHilo → Prop)
    (hsaludo : ok hiloNuevo (.saludo (umvSerializar (.handshake tipoKernel))))
    (hcambio : ok hiloKernel (.recibe (umvSerializar (.cambioProcesoActivo 1001#32))))
    (hdestruir : ok hilo1001 (.recibe (umvSerializar .destruirSegmentos)))
    (hcambia : ∀ s, ok s .cambia) (hresponde : ∀ s, ok s .responde)
    (hpropia : ∀ s, ok s (.propia destruccion)) :
    Lts.Run (Lts.restrict ok (PasoHilo bloque16 mallocDeOcho 0)) hiloNuevo trazaSinSegmentos
      hiloSinSegmentos := by
  have hsaluda : Lts.restrict ok (PasoHilo bloque16 mallocDeOcho 0) hiloNuevo
    (.saludo (umvSerializar (.handshake tipoKernel))) hiloKernel := ⟨hsaludo, paso_saludo⟩
  have hnombra :=
    ((Lts.Run.single hsaluda).snoc ⟨hcambio, .recibe rfl rfl⟩).snoc ⟨hcambia _, .cambia rfl⟩
  have hrecibe := (hnombra.snoc ⟨hresponde _, .responde rfl⟩).snoc ⟨hdestruir, .recibe rfl rfl⟩
  have hdestruye := hrecibe.snoc (e := .propia destruccion) ⟨hpropia _,
    .propia rfl rfl (.destruirSegmentos rfl) (.eliminar rfl)⟩
  exact hdestruye.snoc ⟨hresponde _, .responde rfl⟩

/-- The replies to the two requests of the kernel, and what becomes of a request to read. -/
theorem respuesta_propia_sinSegmentos : RespuestasPropias hiloSinSegmentos ∧
    ∃ tr u, Lts.Run (PasoHilo bloque16 mallocDeOcho 0) hiloKernel
      (.recibe (umvSerializar (.solicitar ⟨0#32, 0#32, 4#32⟩)) :: tr) u ∧
      ¬ RespuestasPropias u := by
  obtain ⟨hpermitida, hno⟩ := respuesta_propia bloque16 mallocDeOcho 0 inicial_hiloNuevo
  refine ⟨hpermitida trazaSinSegmentos _ (corrida_sinSegmentos _ ?_ ?_ ?_ ?_ ?_ ?_), ?_⟩
  · exact Or.inl (by decide)
  · exact ⟨by decide, trivial⟩
  · exact ⟨by decide, rfl⟩
  · exact fun _ => trivial
  · exact fun _ => trivial
  · exact fun _ => trivial
  · exact hno _ _ _ (Lts.Run.single paso_saludo) rfl fun h => absurd h.2 (by decide)

/-- The thread after a kernel has sent a request to read, which only a CPU may send. -/
def hiloSinPermiso : HiloConexion :=
  { hiloKernel.recibido (umvSerializar (.solicitar ⟨0#32, 0#32, 4#32⟩))
      (some (.solicitar ⟨0#32, 0#32, 4#32⟩)) ⟨tipoKernel, 7#32⟩ with lugar := .responde }.respondido

/-- **A request of the kernel to read gets the buffer of its handshake**, which was destroyed. -/
theorem no_respuesta_propia : ¬ ∀ (B : Bloque) (malloc : ℕ → ℕ) (h : ℕ) (s t : HiloConexion)
    (tr : List EventoHilo), s.Inicial → Lts.Run (PasoHilo B malloc h) s tr t →
    ∀ e ∈ t.enviados, e.Propio := by
  intro hclaim
  have hsaluda : Lts.Run (PasoHilo bloque16 mallocDeOcho 0) hiloNuevo _ hiloKernel :=
    Lts.Run.single paso_saludo
  have hrecibe : PasoHilo bloque16 mallocDeOcho 0 hiloKernel
    (.recibe (umvSerializar (.solicitar ⟨0#32, 0#32, 4#32⟩))) _ := .recibe rfl rfl
  have hrun : Lts.Run (PasoHilo bloque16 mallocDeOcho 0) hiloNuevo _ hiloSinPermiso :=
    ((hsaluda.snoc hrecibe).snoc (.nada rfl fun h =>
      absurd h (by decide : ¬ tipoKernel = tipoCpu))).snoc
      (.responde rfl)
  obtain ⟨b, hb, -, hvivo⟩ := hclaim _ _ _ _ _ _ inicial_hiloNuevo hrun ⟨1, some ⟨0, .OK, true⟩⟩
    (List.mem_singleton.2 rfl)
  obtain rfl := Option.some_inj.1 hb
  exact absurd hvivo (by decide)

/-! ### The authority of a connection -/

/-- **The process that the connection named last**: the word of the most recent change of process.
A change of process without the four bytes of a word names none. -/
def ultimoProceso : List (List Byte) → Option TIdPrograma
  | [] => none
  | stream :: mensajes =>
      if palabra stream 0 = 3#32 then
        if stream.length = 8 then some (palabra stream 4) else none
      else ultimoProceso mensajes

/-- The critical sections that only the kernel may have run. -/
def Seccion.DelKernel : Seccion → Prop
  | primeraBusqueda _ _ => True
  | compactacion _ _ => True
  | segundaBusqueda _ _ => True
  | eliminarSegmentos _ => True
  | _ => False

/-- The one that only a CPU may have run. -/
def Seccion.DeLaCpu : Seccion → Prop
  | solicitarBytes _ _ => True
  | _ => False

/-- **The authority of a connection**: its type is the one of its handshake, and the critical
section that it runs next is one of its role, for the process that it named last. -/
structure Autoridad (B : Bloque) (malloc : ℕ → ℕ) (h : ℕ) (s : HiloConexion) : Prop where
  definido : s.lugar ≠ .indefinido
  rol : ∀ rol, s.rol = some rol → s.stConexion.tipoConexion = rol
  secciones : ∀ e t, PasoHilo B malloc h s (.propia e) t → ∃ rol pid,
    s.rol = some rol ∧ ultimoProceso s.mensajes = some pid ∧ e.seccion.proceso = some pid ∧
    (e.seccion.DelKernel → rol = tipoKernel) ∧ (e.seccion.DeLaCpu → rol = tipoCpu)

/-- The operations that run a critical section, on a connection of a type. -/
def OperacionDeSeccion (tipoConexion : U32) (operacion : ℕ) : Prop :=
  OperacionPermitida tipoConexion operacion ∧ operacion ≠ 3

/-- The bytes of a handshake are those of the type that the connection has. -/
def RepiteTipo (tipoConexion : U32) (stream : List Byte) : Prop :=
  copiarEnPalabra tipoConexion (stream.drop 4) = some tipoConexion

/-- **The messages that keep the authority**: the decoder can read them, a handshake repeats the
type of the connection, and an operation that runs a critical section comes after the connection has
named a process. -/
def EventoHilo.EnRegla (malloc : ℕ → ℕ) (s : HiloConexion) : EventoHilo → Prop
  | saludo stream => PedidoCompleto malloc stream ∨ OperacionDesconocida stream
  | recibe stream => (PedidoCompleto malloc stream ∨ OperacionDesconocida stream) ∧
      ((palabra stream 0).toNat = 0 → RepiteTipo s.stConexion.tipoConexion stream) ∧
      (OperacionDeSeccion s.stConexion.tipoConexion (palabra stream 0).toNat →
        ultimoProceso s.mensajes ≠ none)
  | _ => True

/-- **The invariant**: the record of the connection is what the history says, and a message that
runs a critical section has its process. -/
structure HiloConexion.Fiel (s : HiloConexion) : Prop where
  definido : s.lugar ≠ .indefinido
  antes : s.lugar = .saludo → s.rol = none ∧ s.mensajes = []
  saludado : s.lugar ≠ .saludo → s.lugar ≠ .fuera → s.rol ≠ none
  rol : ∀ rol, s.rol = some rol → s.stConexion.tipoConexion = rol
  proceso : ∀ pid, ultimoProceso s.mensajes = some pid → s.stConexion.idPrograma = pid
  listo : ∀ m, s.lugar = .atiende (some m) →
    OperacionDeSeccion s.stConexion.tipoConexion m.operacion →
    ultimoProceso s.mensajes ≠ none

theorem HiloConexion.Inicial.fiel (hs : s.Inicial) : s.Fiel where
  definido := by simp [hs.lugar]
  antes := fun _ => ⟨hs.rol, hs.mensajes⟩
  saludado := fun hl => absurd hs.lugar hl
  rol := by simp [hs.rol]
  proceso := by simp [hs.mensajes, ultimoProceso]
  listo := by simp [hs.lugar]

/-- The operation of a message as a number. -/
theorem ultimoProceso_cons_of_ne {stream : List Byte} {mensajes : List (List Byte)}
    (hop : (palabra stream 0).toNat ≠ 3) :
    ultimoProceso (stream :: mensajes) = ultimoProceso mensajes := by
  rw [ultimoProceso, if_neg fun heq => hop (by rw [heq]; rfl)]

/-- **What a message that keeps the authority writes**: not the type, and the process only if it
names it. -/
theorem escribe_of_enRegla {stream : List Byte} {c c' : Conexion} {m : Option MensajeUmv}
    {mensajes : List (List Byte)} (hd : decodificar malloc stream c = some (m, c'))
    (htipo : (palabra stream 0).toNat = 0 → RepiteTipo c.tipoConexion stream)
    (hproceso : ∀ pid, ultimoProceso mensajes = some pid → c.idPrograma = pid) :
    c'.tipoConexion = c.tipoConexion ∧
      ∀ pid, ultimoProceso (stream :: mensajes) = some pid → c'.idPrograma = pid := by
  obtain ⟨⟨-, hop⟩, rfl, rfl⟩ | ⟨m', rfl, -, hop, hescribe⟩ := decodificar_eq_some hd
  · rw [ultimoProceso_cons_of_ne (by omega)]
    exact ⟨rfl, hproceso⟩
  · cases m' with
    | handshake =>
        obtain ⟨hcopia, hid⟩ := hescribe
        rw [ultimoProceso_cons_of_ne (by rw [hop]; decide), hid]
        exact ⟨Option.some_inj.1 (hcopia.symm.trans (htipo hop)), hproceso⟩
    | cambioProcesoActivo =>
        obtain ⟨hcopia, htipo⟩ := hescribe
        refine ⟨htipo, fun pid hpid => ?_⟩
        rw [ultimoProceso, if_pos (BitVec.eq_of_toNat_eq hop)] at hpid
        obtain ⟨hlen, hpid⟩ := Option.ite_none_right_eq_some.1 hpid
        have hcuatro : (stream.drop 4).length = 4 := by rw [List.length_drop, hlen]
        rw [copiarEnPalabra_of_length _ hcuatro, palabra_drop] at hcopia
        exact (Option.some_inj.1 hcopia).symm.trans (Option.some_inj.1 hpid)
    | _ =>
        obtain rfl : c' = c := hescribe
        rw [ultimoProceso_cons_of_ne (by rw [hop]; simp [MensajeUmv.operacion])]
        exact ⟨rfl, hproceso⟩

/-- A message that runs a critical section, once it is decoded. -/
theorem listo_of_enRegla {stream : List Byte} {c c' : Conexion} {m : MensajeUmv}
    {mensajes : List (List Byte)} (hd : decodificar malloc stream c = some (some m, c'))
    (hseccion : OperacionDeSeccion c.tipoConexion (palabra stream 0).toNat →
      ultimoProceso mensajes ≠ none) (hm : OperacionDeSeccion c'.tipoConexion m.operacion) :
    ultimoProceso (stream :: mensajes) ≠ none := by
  obtain ⟨-, hnone, -⟩ | ⟨m', hm', -, hop, hescribe⟩ := decodificar_eq_some hd
  · exact absurd hnone (by simp)
  · obtain rfl := Option.some_inj.1 hm'
    rw [ultimoProceso_cons_of_ne (hop ▸ hm.2)]
    refine hseccion ?_
    rw [hop]
    cases m with
    | handshake => exact absurd hm.1 id
    | cambioProcesoActivo => exact absurd rfl hm.2
    | _ =>
        obtain rfl : c' = c := hescribe
        exact hm

/-- The thread goes on, after the handshake, with nothing decoded. -/
theorem HiloConexion.Fiel.sigue (hs : s.Fiel) (hrol : s.rol ≠ none) {lugar : Lugar} (umv : Sistema)
    (bufferRespuesta : Option BufferRespuesta) (enviados : List Envio)
    (hdefinido : lugar ≠ .indefinido) (hsaludo : lugar ≠ .saludo)
    (hatiende : ∀ m, lugar ≠ .atiende m) :
    ({ s with umv, bufferRespuesta, enviados, lugar } : HiloConexion).Fiel where
  definido := hdefinido
  antes := fun hl => absurd hl hsaludo
  saludado := fun _ _ => hrol
  rol := hs.rol
  proceso := hs.proceso
  listo := fun _ hm => absurd hm (hatiende _)

theorem HiloConexion.Fiel.atendido (hs : s.Fiel) (hl : s.lugar ≠ .saludo) (hl' : s.lugar ≠ .fuera)
    (umv : Sistema) (r : Option Respuesta) : (s.atendido umv r).Fiel := by
  cases r with
  | none => exact ⟨hs.definido, hs.antes, hs.saludado, hs.rol, hs.proceso, hs.listo⟩
  | some r => exact hs.sigue (hs.saludado hl hl') _ _ _ nofun nofun nofun

/-- **A message that keeps the authority keeps the invariant.** -/
theorem HiloConexion.Fiel.recibido (hs : s.Fiel) (hl : s.lugar = .recibe) {stream : List Byte}
    {c : Conexion} {m : Option MensajeUmv}
    (hd : decodificar malloc stream s.stConexion = some (m, c))
    (hev : EventoHilo.EnRegla malloc s (.recibe stream)) : (s.recibido stream m c).Fiel := by
  obtain ⟨htipo, hproceso⟩ := escribe_of_enRegla hd hev.2.1 hs.proceso
  refine ⟨Lugar.noConfusion, fun h => Lugar.noConfusion h, fun _ _ => ?_, ?_, hproceso, ?_⟩
  · exact hs.saludado (hl ▸ Lugar.noConfusion) (hl ▸ Lugar.noConfusion)
  · intro rol hrol
    exact htipo.trans (hs.rol rol hrol)
  · intro m' hm'
    obtain rfl := Lugar.atiende.inj hm'
    exact listo_of_enRegla hd hev.2.2

/-- **A step that keeps the authority keeps the invariant.** -/
theorem PasoHilo.fiel (hp : PasoHilo B malloc h s ev t) (hev : ev.EnRegla malloc s) (hs : s.Fiel) :
    t.Fiel := by
  have hfuera {l : Lugar} (hl : s.lugar = l) (hne : l ≠ .saludo) (hne' : l ≠ .fuera) :
      s.rol ≠ none :=
    hs.saludado (hl ▸ hne) (hl ▸ hne')
  cases hp with
  | @saluda stream c hl hd _ =>
      refine ⟨Lugar.noConfusion, fun h => Lugar.noConfusion h, fun _ _ => Option.some_ne_none _,
        fun rol hrol => Option.some_inj.1 hrol, fun pid hpid => ?_, fun _ h => Lugar.noConfusion h⟩
      have hnada : ultimoProceso s.mensajes = some pid := hpid
      rw [(hs.antes hl).2] at hnada
      exact absurd hnada (by simp [ultimoProceso])
  | @rechaza stream m c hl hd _ =>
      refine ⟨Lugar.noConfusion, fun h => Lugar.noConfusion h, fun _ h => absurd rfl h,
        fun rol hrol => ?_, fun pid hpid => ?_, fun _ h => Lugar.noConfusion h⟩
      · exact absurd ((hs.antes hl).1.symm.trans hrol) (by simp)
      · have hnada : ultimoProceso s.mensajes = some pid := hpid
        rw [(hs.antes hl).2] at hnada
        exact absurd hnada (by simp [ultimoProceso])
  | saludoIndefinido _ hd =>
      obtain ⟨hcompleto, hdesconocida⟩ := decodificar_eq_none_iff.1 hd
      exact absurd hev (not_or.2 ⟨hcompleto, hdesconocida⟩)
  | recibe hl hd => exact hs.recibido hl hd hev
  | recibeIndefinido _ hd =>
      obtain ⟨hcompleto, hdesconocida⟩ := decodificar_eq_none_iff.1 hd
      exact absurd hev.1 (not_or.2 ⟨hcompleto, hdesconocida⟩)
  | propia hl _ _ _ => exact hs.atendido (hl ▸ Lugar.noConfusion) (hl ▸ Lugar.noConfusion) _ _
  | cambia hl => exact hs.atendido (hl ▸ Lugar.noConfusion) (hl ▸ Lugar.noConfusion) _ _
  | nada hl _ => exact hs.sigue (hfuera hl nofun nofun) _ _ _ nofun nofun nofun
  | responde hl => exact hs.sigue (hfuera hl nofun nofun) _ _ _ nofun nofun nofun
  | ajena _ _ => exact ⟨hs.definido, hs.antes, hs.saludado, hs.rol, hs.proceso, hs.listo⟩
  | cierra hl => exact hs.sigue (hfuera hl nofun nofun) _ _ _ nofun nofun nofun

/-- A critical section is one of the operation that it is run for. -/
theorem Atiende.operacion {c : Conexion} {m : MensajeUmv} {sec : Seccion} (ha : Atiende c m sec) :
    OperacionDeSeccion c.tipoConexion m.operacion ∧
      (sec.DelKernel → c.tipoConexion = tipoKernel) ∧ (sec.DeLaCpu → c.tipoConexion = tipoCpu) := by
  have hne (m : MensajeUmv) (hm : m ≠ .cambioProcesoActivo) : m.operacion ≠ 3 := by
    cases m <;> simp_all [MensajeUmv.operacion]
  cases ha with
  | almacenar => exact ⟨⟨trivial, hne _ nofun⟩, False.elim, False.elim⟩
  | solicitar hcpu => exact ⟨⟨hcpu, hne _ nofun⟩, False.elim, fun _ => hcpu⟩
  | destruirSegmentos hkernel => exact ⟨⟨hkernel, hne _ nofun⟩, fun _ => hkernel, False.elim⟩
  | primeraBusqueda hkernel => exact ⟨⟨hkernel, hne _ nofun⟩, fun _ => hkernel, False.elim⟩
  | compactacion hkernel => exact ⟨⟨hkernel, hne _ nofun⟩, fun _ => hkernel, False.elim⟩
  | segundaBusqueda hkernel => exact ⟨⟨hkernel, hne _ nofun⟩, fun _ => hkernel, False.elim⟩

/-- **The invariant is the authority.** -/
theorem HiloConexion.Fiel.autoridad (hs : s.Fiel) : Autoridad B malloc h s := by
  refine ⟨hs.definido, hs.rol, fun e t hp => ?_⟩
  cases hp with
  | @propia m _ _ hl _ ha _ =>
      obtain ⟨hop, hkernel, hcpu⟩ := ha.operacion
      obtain ⟨pid, hpid⟩ := Option.ne_none_iff_exists'.1 (hs.listo m hl hop)
      obtain ⟨rol, hrol⟩ := Option.ne_none_iff_exists'.1
        (hs.saludado (hl ▸ Lugar.noConfusion) (hl ▸ Lugar.noConfusion))
      have htipo := hs.rol rol hrol
      refine ⟨rol, pid, hrol, hpid, ?_, fun hk => htipo ▸ hkernel hk, fun hc => htipo ▸ hcpu hc⟩
      rw [ha.proceso, hs.proceso pid hpid]

/-- **The authority of a connection**: in every run whose messages the decoder can read, in which no
handshake changes the type of the connection and which names a process before an operation that runs
a critical section, the role stays that of the first handshake, and every critical section is one of
that role, for the process that was named last. -/
theorem autoridad_conexion (B : Bloque) (malloc : ℕ → ℕ) (h : ℕ) {s t : HiloConexion}
    {tr : List EventoHilo} (hs : s.Inicial)
    (hr : Lts.Run (Lts.restrict (fun s ev => ev.EnRegla malloc s) (PasoHilo B malloc h)) s tr t) :
    Autoridad B malloc h t :=
  (Lts.Run.invariant (fun _ _ _ hu hp => hp.2.fiel hp.1 hu) hr hs.fiel).autoridad

/-- The authority of a kernel that names process 1001 and has its segments destroyed. -/
theorem autoridad_conexion_sinSegmentos : Autoridad bloque16 mallocDeOcho 0 hiloSinSegmentos := by
  refine autoridad_conexion bloque16 mallocDeOcho 0 inicial_hiloNuevo
    (corrida_sinSegmentos _ ?_ ?_ ?_ ?_ ?_ ?_)
  · exact Or.inl (by decide)
  · exact ⟨Or.inl (by decide), fun h => absurd h (by decide), fun h => absurd rfl h.2⟩
  · exact ⟨Or.inl (by decide), fun h => absurd h (by decide), fun _ => by decide⟩
  · exact fun _ => trivial
  · exact fun _ => trivial
  · exact fun _ => trivial

/-- The thread of a kernel that sends the handshake of a CPU. -/
def hiloCambiado : HiloConexion :=
  hiloKernel.recibido (umvSerializar (.handshake tipoCpu)) (some .handshake) ⟨tipoCpu, 7#32⟩

/-- **A second handshake changes the role of a connection.** -/
theorem no_autoridad_conexion : ¬ ∀ (B : Bloque) (malloc : ℕ → ℕ) (h : ℕ) (s t : HiloConexion)
    (tr : List EventoHilo), s.Inicial → Lts.Run (PasoHilo B malloc h) s tr t →
    Autoridad B malloc h t := by
  intro hclaim
  have hrun : Lts.Run (PasoHilo bloque16 mallocDeOcho 0) hiloNuevo _ hiloCambiado :=
    (Lts.Run.single paso_saludo).snoc (e := .recibe (umvSerializar (.handshake tipoCpu)))
      (.recibe rfl rfl)
  have htipo := (hclaim _ _ _ _ _ _ inicial_hiloNuevo hrun).rol tipoKernel rfl
  exact absurd htipo (by decide)

end Ansisop.Umv
