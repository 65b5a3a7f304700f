/-
**Connections that break.**

`recv` gives the bytes that it has read, zero when the other side has closed the connection, and
`-1` when the connection is broken.  `socket_recv`, of the UMV and of the kernel, stores that `int`
in the `u_int32_t` of a `t_buffer`, and its callers ask whether the size is positive: zero is not,
and `-1`, which is `0xFFFFFFFF` there, is.  The accept loop of the kernel does not ask at all:
`recibir` gives back its block in any case, and a program is admitted if its first byte is not a
NUL.

Main definitions:

* `Ansisop.Recv`, `Ansisop.socketRecv` — the results of `recv`, and the buffer that is made of them;
* `Ansisop.ConexionUmv`, `Ansisop.PasoUmv` — the thread of a connection of the UMV and what it
  receives;
* `Ansisop.ConexionCpu`, `Ansisop.PasoCpu` — the thread of the kernel that serves a CPU;
* `Ansisop.aceptar` — the accept loop of the kernel.

Main results:

* `Ansisop.desconexion_ordenada` — **a connection on which no `recv` gives `-1` ends with its
  clean-up**;
* `Ansisop.no_desconexion_ordenada` — after a `-1` the thread of the UMV decodes a buffer that
  nobody filled.
-/

import Ansisop.Kernel.Admision
import Ansisop.Protocolo.KernelCpu
import Ansisop.Umv.Controlador
import Mathlib.Data.List.TakeWhile

set_option relaxedAutoImplicit false
set_option autoImplicit false

namespace Ansisop

/-! ### `socket_recv` -/

/-- **What a call of `recv` gives.** -/
inductive Recv
  | datos (bytes : List Byte)
  | cierre
  | error
deriving DecidableEq

/-- The `int` that the call returns. -/
def Recv.resultado : Recv → ℤ
  | datos bytes => bytes.length
  | cierre => 0
  | error => -1

/-- What the call leaves in the buffer: a peek sees again what the one before it saw. -/
def Recv.escribe (bufferData : List Byte) : Recv → List Byte
  | datos bytes => bytes
  | _ => bufferData

/-- A call gives as many bytes as it was asked for at most, and at least one. -/
def Recv.Cabe (tamanioBuffer : ℕ) : Recv → Prop
  | datos bytes => bytes ≠ [] ∧ bytes.length ≤ tamanioBuffer
  | _ => True

instance (tamanioBuffer : ℕ) : (r : Recv) → Decidable (r.Cabe tamanioBuffer)
  | .datos _ => inferInstanceAs (Decidable (_ ∧ _))
  | .cierre => isTrue trivial
  | .error => isTrue trivial

/-- A `t_buffer`, with the bytes of its block that `recv` has filled. -/
structure BufferRecibido where
  data : List Byte
  size : U32
deriving DecidableEq

/-- The loop of `socket_recv`, on the results of its peeks.  The `recv` after the loop takes out of
the connection what was peeked, and its result is not looked at. -/
def espiarHasta (tamanioBuffer : ℕ) (bufferData : List Byte) : List Recv → Option BufferRecibido
  | [] => none
  | r :: peeks =>
      if r.Cabe tamanioBuffer then
        if r.resultado = tamanioBuffer then
          -- `tamanioBuffer` is an `int`
          if tamanioBuffer + 10 < 2 ^ 31 then
            espiarHasta (tamanioBuffer + 10) (r.escribe bufferData) peeks
          else none
        else if peeks = [] then some ⟨r.escribe bufferData, BitVec.ofInt 32 r.resultado⟩ else none
      else none

/-- **`socket_recv`**: the buffer that it gives, for the results of its peeks. -/
def socketRecv (peeks : List Recv) : Option BufferRecibido := espiarHasta 10 [] peeks

/-- What the callers ask: `buffer->size > 0`. -/
def BufferRecibido.TieneAlgo (b : BufferRecibido) : Prop := 0 < b.size.toNat

instance (b : BufferRecibido) : Decidable b.TieneAlgo := inferInstanceAs (Decidable (_ < _))

/-- **The message of a buffer**: its bytes, if the other side has filled them all. -/
def BufferRecibido.mensaje (b : BufferRecibido) : Option (List Byte) :=
  if b.data ≠ [] ∧ b.size.toNat = b.data.length then some b.data else none

/-- The bytes of a result. -/
def Recv.mensaje : Recv → Option (List Byte)
  | datos bytes => some bytes
  | _ => none

/-- **The message that was received**, if the last peek saw one. -/
def mensajeDe (peeks : List Recv) : Option (List Byte) := peeks.getLast?.bind Recv.mensaje

variable {peeks : List Recv} {b : BufferRecibido}

/-- **The messages that were received before the first `0` or `-1`**, for the results of each
`socket_recv`. -/
def leidos (llamadas : List (List Recv)) : List (Option (List Byte)) :=
  (llamadas.map mensajeDe).takeWhile Option.isSome

/-- A `socket_recv` ended with a `0` or a `-1`. -/
def Cortada (llamadas : List (List Recv)) : Prop := ∃ peeks ∈ llamadas, mensajeDe peeks = none

variable {llamadas : List (List Recv)}

/-- The thread of a connection, with the results of each of its `socket_recv`, the buffers that
`deserealizar_operacion` was given, and how many times the connection was destroyed. -/
structure ConexionUmv where
  hilo : Umv.HiloConexion
  llamadas : List (List Recv)
  decodificados : List BufferRecibido
  limpiezas : ℕ

/-- A `socket_recv` returns, or the thread or another one makes a step. -/
inductive EventoUmv
  | recibe (peeks : List Recv)
  | hilo (e : Umv.EventoHilo)

/-- The steps that receive nothing. -/
def SinRecibir : Umv.EventoHilo → Prop
  | .saludo _ => False
  | .recibe _ => False
  | .cierra => False
  | _ => True

/-- The connection was destroyed, also when its handshake was rejected. -/
def limpiezasDe : Umv.Lugar → ℕ
  | .fuera => 1
  | _ => 0

namespace ConexionUmv

end ConexionUmv

/-- The connection when its thread starts. -/
structure ConexionUmv.Inicial (s : ConexionUmv) : Prop where
  hilo : s.hilo.Inicial
  llamadas : s.llamadas = []
  decodificados : s.decodificados = []
  limpiezas : s.limpiezas = 0

/-- **A connection that ends as it should**: what was decoded are the messages that were received
before the first `0` or `-1`, the thread has those of the loop, and when the connection broke, and
only once, it was destroyed. -/
structure ConexionUmv.Ordenada (s : ConexionUmv) : Prop where
  definido : s.hilo.lugar ≠ .indefinido
  decodificados : s.decodificados.map BufferRecibido.mensaje = leidos s.llamadas
  mensajes : s.hilo.mensajes.reverse.map some = (leidos s.llamadas).tail
  cortada : Cortada s.llamadas → s.hilo.lugar = .fuera
  limpiezas : s.limpiezas = limpiezasDe s.hilo.lugar

/-- **No `recv` gives `-1`**, and the decoder can read the messages. -/
def EventoUmv.EnRegla (malloc : ℕ → ℕ) : EventoUmv → Prop
  | recibe peeks => .error ∉ peeks ∧ ∀ stream, mensajeDe peeks = some stream →
      Umv.PedidoCompleto malloc stream ∨ Umv.OperacionDesconocida stream
  | hilo _ => True

/-- **The invariant**: the connection is in order, and the first call is the one of the
handshake. -/
structure ConexionUmv.Sana (s : ConexionUmv) : Prop where
  ordenada : s.Ordenada
  saludo : s.hilo.lugar = .saludo ↔ s.llamadas = []

/-- The thread is in its loop. -/
def EnLazo : Umv.Lugar → Prop
  | .recibe => True
  | .atiende _ => True
  | .responde => True
  | _ => False

/-- A step that receives nothing leaves the thread where it was, or in its loop. -/
theorem sin_recibir {B : Umv.Bloque} {malloc : ℕ → ℕ} {h : ℕ} {s t : Umv.HiloConexion}
    {e : Umv.EventoHilo} (he : SinRecibir e) (hp : Umv.PasoHilo B malloc h s e t) :
    t.mensajes = s.mensajes ∧ (t.lugar = s.lugar ∨ EnLazo s.lugar ∧ EnLazo t.lugar) := by
  cases hp with
  | @propia m e umv hl _ _ _ =>
      rw [hl]
      cases e.respuesta with
      | none => exact ⟨rfl, Or.inl hl⟩
      | some r => exact ⟨rfl, Or.inr ⟨trivial, trivial⟩⟩
  | cambia hl => exact ⟨rfl, Or.inr ⟨hl ▸ trivial, trivial⟩⟩
  | nada hl _ => exact ⟨rfl, Or.inr ⟨hl ▸ trivial, trivial⟩⟩
  | responde hl => exact ⟨rfl, Or.inr ⟨hl ▸ trivial, trivial⟩⟩
  | ajena _ _ => exact ⟨rfl, Or.inl rfl⟩
  | _ => exact he.elim

theorem EnLazo.ne {l : Umv.Lugar} (hl : EnLazo l) : l ≠ .indefinido ∧ l ≠ .saludo ∧ l ≠ .fuera := by
  cases l <;> simp_all [EnLazo]

theorem limpiezasDe_of_ne {l : Umv.Lugar} (hl : l ≠ .fuera) : limpiezasDe l = 0 := by
  cases l <;> simp_all [limpiezasDe]

variable {B : Umv.Bloque} {malloc : ℕ → ℕ} {h : ℕ}

/-- A step that receives nothing keeps the invariant. -/
theorem ConexionUmv.Sana.hilo {s : ConexionUmv} (hs : s.Sana) {e : Umv.EventoHilo}
    {hilo : Umv.HiloConexion} (he : SinRecibir e) (hp : Umv.PasoHilo B malloc h s.hilo e hilo) :
    ({ s with hilo } : ConexionUmv).Sana := by
  obtain ⟨hmensajes, hlugar⟩ := sin_recibir he hp
  have htraza : hilo.mensajes.reverse.map some = (leidos s.llamadas).tail := by
    rw [hmensajes]
    exact hs.ordenada.mensajes
  obtain hlugar | ⟨hantes, hdespues⟩ := hlugar
  · refine ⟨⟨?_, hs.ordenada.decodificados, htraza, ?_, ?_⟩, ?_⟩ <;> simp only [hlugar]
    · exact hs.ordenada.definido
    · exact hs.ordenada.cortada
    · exact hs.ordenada.limpiezas
    · exact hs.saludo
  · obtain ⟨-, hsaludo, hfuera⟩ := hantes.ne
    obtain ⟨hindefinido', hsaludo', hfuera'⟩ := hdespues.ne
    refine ⟨⟨hindefinido', hs.ordenada.decodificados, htraza, ?_, ?_⟩, iff_of_false hsaludo' ?_⟩
    · exact fun hcortada => absurd (hs.ordenada.cortada hcortada) hfuera
    · exact hs.ordenada.limpiezas.trans
        ((limpiezasDe_of_ne hfuera).trans (limpiezasDe_of_ne hfuera').symm)
    · exact fun hnil => hsaludo (hs.saludo.2 hnil)

/-- Where the thread is: at its first `socket_recv`, in one of the locations of the kernel, gone
before it had a program, or beyond what is defined. -/
inductive LugarCpu
  | saludo
  | hilo (i : ℕ)
  | fuera
  | indefinido

/-- **The kernel and one of its threads**, with the results of each of its `socket_recv`, the
buffers that `deserializar_kernel` was given, and the programs that it has moved to exit after its
loop. -/
structure ConexionCpu where
  sistema : Kernel.Sistema
  lugar : LugarCpu
  llamadas : List (List Recv)
  decodificados : List BufferRecibido
  limpiezas : List Kernel.Programa

/-- A `socket_recv` returns, or the thread or another one makes a step. -/
inductive EventoCpu
  | recibe (peeks : List Recv)
  | propio
  | ajeno (e : Kernel.Evento)

/-- The events of the other threads. -/
def DeOtro (lugar : LugarCpu) : Kernel.Evento → Prop
  | .hilo j => ∀ i, lugar = .hilo i → j ≠ i
  | .mensaje j _ => ∀ i, lugar = .hilo i → j ≠ i
  | _ => True

/-- The operation has no case in the decoder, and so none in the loop. -/
def OperacionSinCaso (stream : List Byte) : Prop :=
  4 ≤ stream.length ∧ 10 < (palabra stream 0).toNat

/-- **The steps of the thread that serves a CPU**, among those of the others.  The first message is
not looked at, and neither is its size beyond its sign. -/
inductive PasoCpu (s : ConexionCpu) : EventoCpu → ConexionCpu → Prop
  | saluda {peeks : List Recv} {b : BufferRecibido} {sistema : Kernel.Sistema} : s.lugar = .saludo →
      socketRecv peeks = some b → b.TieneAlgo → Kernel.Paso s.sistema .conexion sistema →
      PasoCpu s (.recibe peeks)
        { s with
          sistema
          lugar := .hilo s.sistema.hilos.length
          llamadas := s.llamadas ++ [peeks] }
  | seVa {peeks : List Recv} {b : BufferRecibido} : s.lugar = .saludo → socketRecv peeks = some b →
      ¬ b.TieneAlgo →
      PasoCpu s (.recibe peeks) { s with lugar := .fuera, llamadas := s.llamadas ++ [peeks] }
  | atiende {i : ℕ} {programa : Kernel.Programa} {peeks : List Recv} {b : BufferRecibido}
      {stream : List Byte} {m : EstructuraCpu} {sistema : Kernel.Sistema} : s.lugar = .hilo i →
      s.sistema.hilos[i]? = some (.recibe programa) → socketRecv peeks = some b → b.TieneAlgo →
      b.mensaje = some stream → deserializarKernel stream = some m →
      Kernel.Paso s.sistema (.mensaje i (some m.mensaje)) sistema →
      PasoCpu s (.recibe peeks)
        { s with
          sistema
          llamadas := s.llamadas ++ [peeks]
          decodificados := s.decodificados ++ [b] }
  | sinCaso {i : ℕ} {programa : Kernel.Programa} {peeks : List Recv} {b : BufferRecibido}
      {stream : List Byte} : s.lugar = .hilo i → s.sistema.hilos[i]? = some (.recibe programa) →
      socketRecv peeks = some b → b.TieneAlgo → b.mensaje = some stream → OperacionSinCaso stream →
      PasoCpu s (.recibe peeks)
        { s with
          sistema := { s.sistema with hilos := s.sistema.hilos.set i .terminado }
          llamadas := s.llamadas ++ [peeks]
          decodificados := s.decodificados ++ [b] }
  | sinLlenar {i : ℕ} {programa : Kernel.Programa} {peeks : List Recv} {b : BufferRecibido} :
      s.lugar = .hilo i → s.sistema.hilos[i]? = some (.recibe programa) →
        socketRecv peeks = some b →
      b.TieneAlgo → (∀ stream, b.mensaje = some stream →
        deserializarKernel stream = none ∧ ¬ OperacionSinCaso stream) →
      PasoCpu s (.recibe peeks)
        { s with
          lugar := .indefinido
          llamadas := s.llamadas ++ [peeks]
          decodificados := s.decodificados ++ [b] }
  | seDesconecta {i : ℕ} {programa : Kernel.Programa} {peeks : List Recv} {b : BufferRecibido}
      {sistema : Kernel.Sistema} : s.lugar = .hilo i →
      s.sistema.hilos[i]? = some (.recibe programa) → socketRecv peeks = some b → ¬ b.TieneAlgo →
      Kernel.Paso s.sistema (.mensaje i none) sistema →
      PasoCpu s (.recibe peeks)
        { s with
          sistema
          llamadas := s.llamadas ++ [peeks]
          limpiezas := s.limpiezas ++ [programa] }
  | propio {i : ℕ} {sistema : Kernel.Sistema} : s.lugar = .hilo i →
      Kernel.Paso s.sistema (.hilo i) sistema → PasoCpu s .propio { s with sistema }
  | ajeno {e : Kernel.Evento} {sistema : Kernel.Sistema} : DeOtro s.lugar e →
      Kernel.Paso s.sistema e sistema → PasoCpu s (.ajeno e) { s with sistema }

/-- The kernel when it starts; the connection is accepted at any moment. -/
def ConexionCpu.inicial (configuracion : Kernel.Configuracion) : ConexionCpu :=
  ⟨Kernel.inicial configuracion, .saludo, [], [], []⟩

/-- **The clean-up of the thread**: the program is moved to exit, and the semaphores are posted. -/
def Saliendo (c : Kernel.Comun) (programa : Kernel.Programa) : Kernel.Loc → Prop
  | .moverAExit x true => x = programa
  | .agregaExit x true => x = programa
  | .aumentaMultiprogramacion true => programa ∈ c.entregados
  | .postExit true => programa ∈ c.entregados
  | .postNuevo true => programa ∈ c.entregados
  | .terminado => programa ∈ c.entregados
  | _ => False

/-- **A connection that ends as it should**: what was decoded are the messages after the first one
that were received before the first `0` or `-1`; when the connection broke, and only then, the
thread moves its program to exit, once, if it has one; it does not wait for anything there, and does
not end without it. -/
structure ConexionCpu.Ordenada (s : ConexionCpu) : Prop where
  definido : s.lugar ≠ .indefinido
  decodificados : s.decodificados.map BufferRecibido.mensaje = (leidos s.llamadas).tail
  cortada : Cortada s.llamadas → s.lugar = .fuera ∧ s.limpiezas = [] ∨
    ∃ i loc programa, s.lugar = .hilo i ∧ s.sistema.hilos[i]? = some loc ∧
      s.limpiezas = [programa] ∧
      Saliendo s.sistema.comun programa loc ∧ (loc = .terminado ∨ ∃ t, PasoCpu s .propio t)
  entera : ¬ Cortada s.llamadas → s.limpiezas = []
  termina : ∀ i, s.lugar = .hilo i → s.sistema.hilos[i]? = some .terminado → Cortada s.llamadas

/-- **No `recv` gives `-1`**, the messages of the loop have a case in it, and the PCBs in them have
the pid of their program. -/
def EventoCpu.EnRegla (s : ConexionCpu) : EventoCpu → Prop
  | recibe peeks => .error ∉ peeks ∧ ∀ i programa stream, s.lugar = .hilo i →
      s.sistema.hilos[i]? = some (.recibe programa) → mensajeDe peeks = some stream →
      ∃ m, deserializarKernel stream = some m ∧ m ≠ .okCpu ∧
        Kernel.PidCorrecto s.sistema.comun programa m.mensaje
  | propio => True
  | ajeno e => Kernel.ConPids s.sistema e

/-! ### The locations of the kernel -/

/-- The thread ends without serving its CPU any more. -/
def termina : Kernel.Loc → Bool
  | .moverAExit _ fin => fin
  | .agregaExit _ fin => fin
  | .aumentaMultiprogramacion fin => fin
  | .postExit fin => fin
  | .postNuevo fin => fin
  | .terminado => true
  | _ => false

theorem Saliendo.mono {c c' : Kernel.Comun} {x : Kernel.Programa} {loc : Kernel.Loc}
    (h : Saliendo c x loc) (hmono : x ∈ c.entregados → x ∈ c'.entregados) : Saliendo c' x loc := by
  unfold Saliendo at h ⊢
  split at h <;> first | exact h | exact hmono h

/-- **The clean-up goes on**: each of its steps is possible, and leads on. -/
theorem saliendo_pasoHilo {s : Kernel.Sistema} {i : ℕ} {loc : Kernel.Loc} {x : Kernel.Programa}
    (hs : Kernel.Propio s) (hi : s.hilos[i]? = some loc) (hsale : Saliendo s.comun x loc) :
    loc = .terminado ∨ ∃ loc' c', Kernel.pasoHilo s.comun loc = some (loc', c') ∧
    Saliendo c' x loc' := by
  cases loc with
  | moverAExit y fin =>
      cases fin with
      | false => exact hsale.elim
      | true =>
          obtain rfl : y = x := hsale
          have hexec :=
            (hs.coherente (List.mem_of_getElem? hi)).enExec y (by simp [Kernel.Loc.enExec])
          refine Or.inr ⟨.agregaExit y true,
            { s.comun with listaExec := s.comun.listaExec.erase y }, ?_, rfl⟩
          rw [Kernel.pasoHilo, Kernel.quitarExec_propio hs.pids hexec]
  | agregaExit y fin =>
      cases fin with
      | false => exact hsale.elim
      | true =>
          obtain rfl : y = x := hsale
          exact Or.inr ⟨_, _, rfl, List.mem_append_right _ (List.mem_singleton.2 rfl)⟩
  | aumentaMultiprogramacion fin =>
      cases fin with
      | false => exact hsale.elim
      | true => exact Or.inr ⟨_, _, rfl, hsale⟩
  | postExit fin =>
      cases fin with
      | false => exact hsale.elim
      | true => exact Or.inr ⟨_, _, rfl, hsale⟩
  | postNuevo fin =>
      cases fin with
      | false => exact hsale.elim
      | true => exact Or.inr ⟨_, _, rfl, hsale⟩
  | terminado => exact Or.inl rfl
  | _ => exact hsale.elim

/-! ### The runs of the thread of the kernel -/

/-- **The phases of the thread**: before its first message, serving its CPU, in its clean-up, or
gone before it had a program. -/
inductive ConexionCpu.Fase (s : ConexionCpu) : Prop
  | saludo : s.lugar = .saludo → s.llamadas = [] → s.limpiezas = [] → Fase s
  | sirve {i : ℕ} {loc : Kernel.Loc} : s.lugar = .hilo i → s.sistema.hilos[i]? = some loc →
      termina loc = false → ¬ Cortada s.llamadas → s.llamadas ≠ [] → s.limpiezas = [] → Fase s
  | sale {i : ℕ} {loc : Kernel.Loc} {programa : Kernel.Programa} : s.lugar = .hilo i →
      s.sistema.hilos[i]? = some loc → Saliendo s.sistema.comun programa loc → Cortada s.llamadas →
      s.limpiezas = [programa] → Fase s
  | fuera : s.lugar = .fuera → Cortada s.llamadas → s.limpiezas = [] → Fase s

/-- **The invariant.** -/
structure ConexionCpu.Sana (s : ConexionCpu) : Prop where
  propio : Kernel.Propio s.sistema
  decodificados : s.decodificados.map BufferRecibido.mensaje = (leidos s.llamadas).tail
  fase : s.Fase

variable {s t : ConexionCpu} {i : ℕ} {programa : Kernel.Programa}

/-- **The invariant is what was asked of the connection.** -/
theorem ConexionCpu.Sana.ordenada (hs : s.Sana) : s.Ordenada := by
  obtain ⟨hpropio, hdecodificados, hfase⟩ := hs
  cases hfase with
  | saludo hl hnada hlimpiezas =>
      refine ⟨by simp [hl], hdecodificados, ?_, fun _ => hlimpiezas, by simp [hl]⟩
      rintro ⟨peeks, hpeeks, -⟩
      exact absurd hpeeks (by simp [hnada])
  | @sirve i loc hl hi htermina hentera hne hlimpiezas =>
      refine ⟨by simp [hl], hdecodificados, fun hcortada => absurd hcortada hentera,
        fun _ => hlimpiezas, ?_⟩
      intro j hj hfin
      obtain rfl := LugarCpu.hilo.inj (hl.symm.trans hj)
      obtain rfl := Option.some_inj.1 (hi.symm.trans hfin)
      exact absurd htermina (by simp [termina])
  | @sale i loc programa hl hi hsale hcortada hlimpiezas =>
      refine ⟨by simp [hl], hdecodificados,
        fun _ => Or.inr ⟨i, loc, programa, hl, hi, hlimpiezas, hsale, ?_⟩,
        fun hentera => absurd hcortada hentera, fun _ _ _ => hcortada⟩
      refine (saliendo_pasoHilo hpropio hi hsale).imp_right ?_
      rintro ⟨loc', c', hloc, -⟩
      have hpaso : Kernel.Paso s.sistema (.hilo i)
          { s.sistema with hilos := s.sistema.hilos.set i loc', comun := c' } := by
        simp only [Kernel.Paso, Kernel.paso, hi, hloc, Option.map_some]
      exact ⟨_, .propio hl hpaso⟩
  | fuera hl hcortada hlimpiezas =>
      exact ⟨by simp [hl], hdecodificados, fun _ => Or.inl ⟨hl, hlimpiezas⟩, fun _ => hlimpiezas,
        fun i hi => absurd (hl.symm.trans hi) (by simp)⟩

/-! ### The accept loop of the kernel -/

end Ansisop
