/-
**Messages in pieces.**

A request to the UMV and its answer are sent as they are, without their length.  The receiver peeks
with a buffer that grows by ten bytes until it is given less than it asked for, and takes that for
the message.  The same loop is written three times: in `socket_recv` of the UMV, in `recibir_umv` of
the kernel and in `socket_recv` of the CPU.

TCP delivers the bytes in order and without loss, in pieces of any size and at any moment.  Each
side sends only after it has received what the other one sent.

Main definitions:

* `Ansisop.espiar` — one turn of the loop;
* `Ansisop.Dialogo`, `Ansisop.PasoDialogo` — the two sides of a connection, and their steps;
* `Ansisop.Dialogo.Intacto` — what was received is what was sent, message by message.

Main results:

* `Ansisop.mensajes_enteros` — **messages keep their boundaries exactly as long as every peek finds
  as many bytes as it asks for, or the whole message**;
* `Ansisop.no_mensajes_enteros` — a request that arrives in two pieces does not.
-/

import Ansisop.Lib.Pipe
import Ansisop.Lib.Runs
import Ansisop.Protocolo.Tipos

set_option relaxedAutoImplicit false
set_option autoImplicit false

namespace Ansisop

/-! ### The two sides of a connection -/

/-- Where a receiver is: about to peek with a buffer, or to read what the last peek was given. -/
inductive Recepcion
  | espia (tamanioBuffer : ℕ)
  | lee (tamanioRecv : ℕ)
deriving DecidableEq

/-- The loop when it starts: `tamanioRecv` and `tamanioBuffer` are both zero, and the buffer
grows. -/
def Recepcion.inicio : Recepcion := .espia 10

/-- **One turn of the loop**: `recv` with `MSG_PEEK` gives what has arrived, as far as the buffer
goes; if it fills the buffer the loop goes on with ten bytes more. -/
def espiar (tamanioBuffer : ℕ) (llegados : List Byte) : Recepcion :=
  let tamanioRecv := min tamanioBuffer llegados.length
  if tamanioRecv = tamanioBuffer then .espia (tamanioBuffer + 10) else .lee tamanioRecv

/-- The two directions of a connection: the requests and the answers. -/
inductive Sentido
  | ida
  | vuelta
deriving DecidableEq

/-- The other direction. -/
def Sentido.otro : Sentido → Sentido
  | ida => vuelta
  | vuelta => ida

/-- **One direction of a connection**: its bytes, its receiver, if it is in `socket_recv`, and the
messages that were sent and received. -/
structure Via where
  canal : Pipe Byte
  recepcion : Option Recepcion
  enviados : List (List Byte)
  recibidos : List (List Byte)

/-- A connection. -/
abbrev Dialogo := Sentido → Via

/-- What happens in a direction: a message is sent, a piece arrives, the receiver peeks or reads. -/
inductive EventoDialogo
  | envia (d : Sentido) (mensaje : List Byte)
  | llega (d : Sentido) (n : ℕ)
  | espia (d : Sentido)
  | lee (d : Sentido)

/-- A message is sent. -/
def Via.enviar (v : Via) (mensaje : List Byte) : Via :=
  { v with canal := v.canal.send mensaje, enviados := v.enviados ++ [mensaje] }

/-- The receiver enters `socket_recv`. -/
def Via.recibir (v : Via) : Via := { v with recepcion := some .inicio }

/-- The receiver leaves `socket_recv` with the bytes that it read. -/
def Via.leer (v : Via) (tamanioRecv : ℕ) : Via :=
  { v with
    canal := v.canal.consume tamanioRecv
    recepcion := none
    recibidos := v.recibidos ++ [v.canal.arrived.take tamanioRecv] }

/-- **The steps of a connection.**  Who sends is not in `socket_recv`, and enters it. -/
inductive PasoDialogo (s : Dialogo) : EventoDialogo → Dialogo → Prop
  | envia {d : Sentido} {mensaje : List Byte} : (s d.otro).recepcion = none → mensaje ≠ [] →
      PasoDialogo s (.envia d mensaje)
        (Function.update (Function.update s d ((s d).enviar mensaje)) d.otro (s d.otro).recibir)
  | llega {d : Sentido} {n : ℕ} : 0 < n → n ≤ (s d).canal.inFlight.length →
      PasoDialogo s (.llega d n)
        (Function.update s d { s d with canal := (s d).canal.deliver n })
  | espia {d : Sentido} {tamanioBuffer : ℕ} : (s d).recepcion = some (.espia tamanioBuffer) →
      (s d).canal.arrived ≠ [] →
      PasoDialogo s (.espia d)
        (Function.update s d
          { s d with recepcion := some (espiar tamanioBuffer (s d).canal.arrived) })
  | lee {d : Sentido} {n : ℕ} : (s d).recepcion = some (.lee n) →
      PasoDialogo s (.lee d) (Function.update s d ((s d).leer n))

/-- The connection at the start: the UMV waits for a request. -/
def Dialogo.inicial : Dialogo
  | .ida => ⟨.empty, some .inicio, [], []⟩
  | .vuelta => ⟨.empty, none, [], []⟩

/-- **What was received is what was sent**, in both directions: never anything else, and all of it
when the next message may be sent. -/
def Dialogo.Intacto (s : Dialogo) : Prop :=
  ∀ d, (s d).recibidos <+: (s d).enviados ∧
    ((s d.otro).recepcion = none → (s d).recibidos = (s d).enviados)

/-- **A peek finds enough**: as many bytes as it asks for, or all that was sent. -/
def EventoDialogo.Alcanza (s : Dialogo) : EventoDialogo → Prop
  | espia d => ∀ tamanioBuffer, (s d).recepcion = some (.espia tamanioBuffer) →
      tamanioBuffer ≤ (s d).canal.arrived.length ∨ (s d).canal.inFlight = []
  | _ => True

@[simp] theorem Sentido.otro_otro (d : Sentido) : d.otro.otro = d := by cases d <;> rfl

theorem Sentido.otro_ne (d : Sentido) : d.otro ≠ d := by cases d <;> decide

theorem Sentido.eq_or_otro (d d' : Sentido) : d' = d ∨ d' = d.otro := by
  cases d <;> cases d' <;> simp [Sentido.otro]

variable {s t : Dialogo} {v : Via} {d : Sentido} {mensaje : List Byte} {ev : EventoDialogo}

/-! ### The phases of a connection -/

/-- All that was sent was received. -/
structure Via.Quieta (v : Via) : Prop where
  canal : v.canal.content = []
  recibidos : v.recibidos = v.enviados

/-- The receiver has not missed anything of the message: it has peeked as many bytes as it asked for
the time before, or it is about to read the whole message. -/
def Recepcion.Va (c : Pipe Byte) : Recepcion → Prop
  | espia tamanioBuffer => tamanioBuffer ≤ c.arrived.length + 10
  | lee tamanioRecv => c.inFlight = [] ∧ tamanioRecv = c.arrived.length

/-- **A message is on its way**, and nothing else is. -/
structure Via.Viaja (v : Via) (mensaje : List Byte) : Prop where
  canal : v.canal.content = mensaje
  enviados : v.enviados = v.recibidos ++ [mensaje]
  recepcion : ∃ r, v.recepcion = some r ∧ r.Va v.canal

/-- **The phases of a connection**: one side may send and the other one waits for it, or a message
is on its way to a side and the other one waits for the answer. -/
inductive Dialogo.Fase (s : Dialogo) : Prop
  | calla (d : Sentido) : (s d).Quieta → (s d).recepcion = some .inicio →
      (s d.otro).Quieta → (s d.otro).recepcion = none → Fase s
  | viaja (d : Sentido) (mensaje : List Byte) : (s d).Viaja mensaje →
      (s d.otro).Quieta → (s d.otro).recepcion = some .inicio → Fase s

theorem Dialogo.inicial_fase : Dialogo.inicial.Fase :=
  .calla .ida ⟨rfl, rfl⟩ rfl ⟨rfl, rfl⟩ rfl

theorem Via.Quieta.recibir (h : v.Quieta) : v.recibir.Quieta := ⟨h.canal, h.recibidos⟩

/-- What is sent is on its way. -/
theorem Via.Quieta.enviar (h : v.Quieta) (hr : v.recepcion = some .inicio) (mensaje : List Byte) :
    (v.enviar mensaje).Viaja mensaje where
  canal := by rw [Via.enviar, Pipe.content_send, h.canal, List.nil_append]
  enviados := by rw [Via.enviar, h.recibidos]
  recepcion := ⟨_, hr, Nat.le_add_left _ _⟩

/-- A peek that finds enough misses nothing. -/
theorem espiar_va {c : Pipe Byte} {n : ℕ} (h : n ≤ c.arrived.length ∨ c.inFlight = []) :
    (espiar n c.arrived).Va c := by
  rw [espiar]
  split
  · rename_i heq
    show n + 10 ≤ c.arrived.length + 10
    omega
  · refine ⟨h.resolve_left ?_, ?_⟩ <;> omega

/-- What is read is the message. -/
theorem Via.Viaja.leer (h : v.Viaja mensaje) {tamanioRecv : ℕ}
    (hr : v.recepcion = some (.lee tamanioRecv)) : (v.leer tamanioRecv).Quieta := by
  obtain ⟨r, hr', hva⟩ := h.recepcion
  obtain rfl := Option.some_inj.1 (hr.symm.trans hr')
  obtain ⟨hvuelo, rfl⟩ := hva
  have htodo : v.canal.arrived = mensaje := (Pipe.arrived_of_inFlight hvuelo).trans h.canal
  refine ⟨?_, ?_⟩
  · rw [Via.leer, Pipe.consume, Pipe.content, List.drop_length, hvuelo, List.append_nil]
  · rw [Via.leer, List.take_length, htodo, h.enviados]

/-- **Every step whose peek finds enough leads from phase to phase.** -/
theorem PasoDialogo.fase (hp : PasoDialogo s ev t) (hev : ev.Alcanza s) (hs : s.Fase) : t.Fase := by
  have hne (d : Sentido) : d ≠ d.otro := (Sentido.otro_ne d).symm
  cases hs with
  | calla d hquieta hespera hquieta' hcalla =>
      cases hp with
      | @envia d' mensaje hlibre _ =>
          obtain rfl | rfl := Sentido.eq_or_otro d d'
          · refine .viaja d' mensaje ?_ ?_ ?_
            · simpa [hne] using hquieta.enviar hespera mensaje
            · simpa using hquieta'.recibir
            · simp [Via.recibir]
          · rw [Sentido.otro_otro, hespera] at hlibre
            exact absurd hlibre (by simp)
      | @llega d' n hn hle =>
          obtain rfl | rfl := Sentido.eq_or_otro d d'
          · rw [(Pipe.content_eq_nil.1 hquieta.canal).2, List.length_nil] at hle
            omega
          · rw [(Pipe.content_eq_nil.1 hquieta'.canal).2, List.length_nil] at hle
            omega
      | @espia d' _ hr hllego =>
          obtain rfl | rfl := Sentido.eq_or_otro d d'
          · exact absurd (Pipe.content_eq_nil.1 hquieta.canal).1 hllego
          · exact absurd (Pipe.content_eq_nil.1 hquieta'.canal).1 hllego
      | @lee d' _ hr =>
          obtain rfl | rfl := Sentido.eq_or_otro d d'
          · exact absurd (hespera.symm.trans hr) (by simp [Recepcion.inicio])
          · exact absurd (hcalla.symm.trans hr) (by simp)
  | viaja d mensaje hviaja hquieta' hespera =>
      obtain ⟨r, hr₀, hva⟩ := hviaja.recepcion
      cases hp with
      | @envia d' _ hlibre _ =>
          obtain rfl | rfl := Sentido.eq_or_otro d d'
          · exact absurd (hespera.symm.trans hlibre) (by simp)
          · rw [Sentido.otro_otro, hr₀] at hlibre
            exact absurd hlibre (by simp)
      | @llega d' n hn hle =>
          obtain rfl | rfl := Sentido.eq_or_otro d d'
          · refine .viaja d' mensaje ?_ (by simpa [Sentido.otro_ne] using hquieta')
              (by simpa [Sentido.otro_ne] using hespera)
            rw [Function.update_self]
            refine ⟨Pipe.content_deliver.trans hviaja.canal, hviaja.enviados, r, hr₀, ?_⟩
            cases r with
            | espia tamanioBuffer =>
                have : tamanioBuffer ≤ (s d').canal.arrived.length + 10 := hva
                show tamanioBuffer ≤ ((s d').canal.arrived ++ _).length + 10
                rw [List.length_append]
                omega
            | lee tamanioRecv =>
                rw [hva.1, List.length_nil] at hle
                omega
          · rw [(Pipe.content_eq_nil.1 hquieta'.canal).2, List.length_nil] at hle
            omega
      | @espia d' tamanioBuffer hr hllego =>
          obtain rfl | rfl := Sentido.eq_or_otro d d'
          · refine .viaja d' mensaje ?_ (by simpa [Sentido.otro_ne] using hquieta')
              (by simpa [Sentido.otro_ne] using hespera)
            rw [Function.update_self]
            exact ⟨hviaja.canal, hviaja.enviados, _, rfl, espiar_va (hev tamanioBuffer hr)⟩
          · exact absurd (Pipe.content_eq_nil.1 hquieta'.canal).1 hllego
      | @lee d' tamanioRecv hr =>
          obtain rfl | rfl := Sentido.eq_or_otro d d'
          · refine .calla d'.otro ?_ ?_ ?_ ?_
            · simpa [Sentido.otro_ne] using hquieta'
            · simpa [Sentido.otro_ne] using hespera
            · simpa using hviaja.leer hr
            · simp [Via.leer]
          · exact absurd (hespera.symm.trans hr) (by simp [Recepcion.inicio])

/-! ### What was received -/

theorem Via.Quieta.prefijo (h : v.Quieta) : v.recibidos <+: v.enviados :=
  h.recibidos ▸ List.prefix_rfl

/-- **In every phase what was received is what was sent.** -/
theorem Dialogo.Fase.intacto (h : s.Fase) : s.Intacto := by
  intro d'
  cases h with
  | calla d hquieta _ hquieta' _ =>
      obtain rfl | rfl := Sentido.eq_or_otro d d'
      · exact ⟨hquieta.prefijo, fun _ => hquieta.recibidos⟩
      · exact ⟨hquieta'.prefijo, fun _ => hquieta'.recibidos⟩
  | viaja d mensaje hviaja hquieta' hespera =>
      obtain rfl | rfl := Sentido.eq_or_otro d d'
      · refine ⟨hviaja.enviados ▸ List.prefix_append _ _, fun hnone => ?_⟩
        exact absurd (hespera.symm.trans hnone) (by simp)
      · exact ⟨hquieta'.prefijo, fun _ => hquieta'.recibidos⟩

/-- A direction whose message has not been received is the one where it travels. -/
theorem Dialogo.Fase.viaja_of_ne (h : s.Fase) (hd : (s d).canal.content ≠ [] ∨
    (s d).recibidos ≠ (s d).enviados) : ∃ mensaje, (s d).Viaja mensaje := by
  have hno {v : Via} (hv : v.Quieta) : ¬ (v.canal.content ≠ [] ∨ v.recibidos ≠ v.enviados) := by
    rintro (hc | hr)
    · exact hc hv.canal
    · exact hr hv.recibidos
  cases h with
  | calla d' hquieta _ hquieta' _ =>
      obtain rfl | rfl := Sentido.eq_or_otro d' d
      · exact absurd hd (hno hquieta)
      · exact absurd hd (hno hquieta')
  | viaja d' mensaje hviaja hquieta' _ =>
      obtain rfl | rfl := Sentido.eq_or_otro d' d
      · exact ⟨mensaje, hviaja⟩
      · exact absurd hd (hno hquieta')

/-- The runs in which every peek finds enough. -/
def CorridaDialogo : Dialogo → List EventoDialogo → Dialogo → Prop :=
  Lts.Run (Lts.restrict (fun s ev => ev.Alcanza s) PasoDialogo)

theorem CorridaDialogo.fase {tr : List EventoDialogo} (h : CorridaDialogo s tr t) (hs : s.Fase) :
    t.Fase :=
  Lts.Run.invariant (fun _ _ _ hu hp => hp.2.fase hp.1 hu) h hs

theorem espiar_of_le {tamanioBuffer : ℕ} {llegados : List Byte}
    (h : tamanioBuffer ≤ llegados.length) :
    espiar tamanioBuffer llegados = .espia (tamanioBuffer + 10) := by
  rw [espiar, if_pos (Nat.min_eq_left h)]

theorem espiar_of_lt {tamanioBuffer : ℕ} {llegados : List Byte}
    (h : llegados.length < tamanioBuffer) :
    espiar tamanioBuffer llegados = .lee llegados.length := by
  rw [espiar, Nat.min_eq_right h.le, if_neg h.ne]

/-- The connection after a peek. -/
def Dialogo.espiado (s : Dialogo) (d : Sentido) (r : Recepcion) : Dialogo :=
  Function.update s d { s d with recepcion := some r }

@[simp] theorem Dialogo.espiado_self (s : Dialogo) (d : Sentido) (r : Recepcion) :
    s.espiado d r d = { s d with recepcion := some r } := Function.update_self _ _ _

/-- A peek that misses nothing leaves the message on its way. -/
theorem Via.Viaja.espiado (h : (s d).Viaja mensaje) {r : Recepcion} (hva : r.Va (s d).canal) :
    (s.espiado d r d).Viaja mensaje := by
  rw [Dialogo.espiado_self]
  exact ⟨h.canal, h.enviados, r, rfl, hva⟩

/-- A message that was peeked whole is read. -/
theorem Via.Viaja.termina_lee (h : (s d).Viaja mensaje) {tamanioRecv : ℕ}
    (hr : (s d).recepcion = some (.lee tamanioRecv)) :
    ∃ t, CorridaDialogo s [.lee d] t ∧ (t d).recibidos = (s d).enviados := by
  have hlee : Lts.restrict (fun s ev => EventoDialogo.Alcanza s ev) PasoDialogo s (.lee d) _ :=
    ⟨trivial, .lee hr⟩
  refine ⟨_, Lts.Run.single hlee, ?_⟩
  rw [Function.update_self, (h.leer hr).recibidos]
  rfl

/-- A peek that asks for more than the message is the last one. -/
theorem Via.Viaja.termina_ultimo {n : ℕ} (h : (s d).Viaja mensaje)
    (hvuelo : (s d).canal.inFlight = []) (hllego : (s d).canal.arrived ≠ [])
    (hr : (s d).recepcion = some (.espia n)) (hlt : (s d).canal.arrived.length < n) :
    ∃ tr t, CorridaDialogo s tr t ∧ (t d).recibidos = (s d).enviados := by
  have hespia : CorridaDialogo s [.espia d] (s.espiado d (.lee (s d).canal.arrived.length)) :=
    Lts.Run.single ⟨fun _ _ => Or.inr hvuelo, espiar_of_lt hlt ▸ .espia hr hllego⟩
  have hviaja := h.espiado (espiar_of_lt hlt ▸ espiar_va (Or.inr hvuelo))
  obtain ⟨t, ht, hrecibidos⟩ := hviaja.termina_lee (congrArg Via.recepcion (s.espiado_self d _))
  exact ⟨_, t, hespia.trans ht, by simpa using hrecibidos⟩

/-- **The loop ends with a message that has arrived.**  By induction on how many more peeks it
takes. -/
theorem Via.Viaja.termina_espia (k : ℕ) {n : ℕ} (h : (s d).Viaja mensaje)
    (hvuelo : (s d).canal.inFlight = []) (hllego : (s d).canal.arrived ≠ [])
    (hr : (s d).recepcion = some (.espia n)) (hk : (s d).canal.arrived.length < n + 10 * k) :
    ∃ tr t, CorridaDialogo s tr t ∧ (t d).recibidos = (s d).enviados := by
  induction k generalizing s n with
  | zero => exact h.termina_ultimo hvuelo hllego hr hk
  | succ k ih =>
      by_cases hle : n ≤ (s d).canal.arrived.length
      · have hespia : CorridaDialogo s [.espia d] (s.espiado d (.espia (n + 10))) :=
          Lts.Run.single ⟨fun _ _ => Or.inr hvuelo, espiar_of_le hle ▸ .espia hr hllego⟩
        have hviaja := h.espiado (espiar_of_le hle ▸ espiar_va (Or.inr hvuelo))
        obtain ⟨tr, t, ht, hrecibidos⟩ := ih hviaja (by simpa using hvuelo) (by simpa using hllego)
          (congrArg Via.recepcion (s.espiado_self d _)) (by simp; omega)
        exact ⟨_, t, hespia.trans ht, by simpa using hrecibidos⟩
      · exact h.termina_ultimo hvuelo hllego hr (Nat.lt_of_not_le hle)

theorem Via.Viaja.termina (h : (s d).Viaja mensaje) (hvuelo : (s d).canal.inFlight = [])
    (hllego : (s d).canal.arrived ≠ []) :
    ∃ tr t, CorridaDialogo s tr t ∧ (t d).recibidos = (s d).enviados := by
  obtain ⟨r, hr, -⟩ := h.recepcion
  cases r with
  | espia tamanioBuffer =>
      exact h.termina_espia ((s d).canal.arrived.length + 1) hvuelo hllego hr (by omega)
  | lee tamanioRecv =>
      obtain ⟨t, ht, hrecibidos⟩ := h.termina_lee hr
      exact ⟨_, t, ht, hrecibidos⟩

/-- **A peek that does not find enough truncates the message.** -/
theorem Dialogo.Fase.trunca (hs : s.Fase) (hp : PasoDialogo s (.espia d) t)
    (hno : ¬ (EventoDialogo.espia d).Alcanza s) : ∃ u, PasoDialogo t (.lee d) u ∧ ¬ u.Intacto := by
  cases hp with
  | @espia _ tamanioBuffer hr hllego =>
      have hpoco : ¬ (tamanioBuffer ≤ (s d).canal.arrived.length ∨ (s d).canal.inFlight = []) := by
        intro h
        refine hno fun n hn => ?_
        obtain rfl := Recepcion.espia.inj (Option.some_inj.1 (hr.symm.trans hn))
        exact h
      obtain ⟨hlt, hvuelo⟩ := not_or.1 hpoco
      obtain ⟨mensaje, hviaja⟩ := hs.viaja_of_ne (d := d)
        (Or.inl fun hc => hllego (Pipe.content_eq_nil.1 hc).1)
      rw [espiar_of_lt (Nat.lt_of_not_le hlt)]
      refine ⟨_, .lee (by rw [Function.update_self]), fun hintacto => ?_⟩
      have hprefijo := (hintacto d).1
      simp only [Function.update_self, Via.leer, List.take_length, hviaja.enviados] at hprefijo
      -- what was read is the last item that was sent, and is shorter
      have hultimo := List.prefix_append_right_inj (s d).recibidos |>.1 hprefijo
      obtain rfl : (s d).canal.arrived = mensaje := by simpa using hultimo
      have hcanal := hviaja.canal
      exact hvuelo (List.append_right_eq_self.1 hcanal)

/-- **Messages keep their boundaries exactly as long as every peek finds enough.**  In every run in
which every peek finds as many bytes as it asks for, or the whole message, what was received is what
was sent, in both directions; a message that has arrived is received; and a peek that finds less,
before the whole message has arrived, makes the receiver take a part of the message for the
message. -/
theorem mensajes_enteros {s : Dialogo} {tr : List EventoDialogo}
    (h : CorridaDialogo Dialogo.inicial tr s) :
    s.Intacto ∧
    (∀ d, (s d).canal.arrived ≠ [] → (s d).canal.inFlight = [] →
      ∃ tr' t, CorridaDialogo s tr' t ∧ (t d).recibidos = (s d).enviados) ∧
    ∀ d t, PasoDialogo s (.espia d) t → ¬ (EventoDialogo.espia d).Alcanza s →
      ∃ u, PasoDialogo t (.lee d) u ∧ ¬ u.Intacto := by
  have hfase := h.fase Dialogo.inicial_fase
  refine ⟨hfase.intacto, fun d hllego hvuelo => ?_, fun d t hp hno => hfase.trunca hp hno⟩
  obtain ⟨mensaje, hviaja⟩ := hfase.viaja_of_ne (d := d)
    (Or.inl fun hc => hllego (Pipe.content_eq_nil.1 hc).1)
  exact hviaja.termina hvuelo hllego

/-- A request of twelve bytes, of which ten arrive before the first peek. -/
theorem mensajes_enteros_doce : ∃ s, CorridaDialogo Dialogo.inicial
    [.envia .ida (List.replicate 12 7#8), .llega .ida 10, .espia .ida, .llega .ida 2, .espia .ida,
      .lee .ida] s ∧ s.Intacto := by
  have h₁ : CorridaDialogo Dialogo.inicial _ _ :=
    Lts.Run.single (e := .envia .ida (List.replicate 12 7#8))
    ⟨by exact trivial, .envia rfl (by simp)⟩
  have h₂ := h₁.snoc (e := .llega .ida 10) ⟨by exact trivial, .llega (by decide) (by decide)⟩
  have h₃ := h₂.snoc (e := .espia .ida)
    ⟨by rintro _ ⟨⟩; exact Or.inl (by decide),
      .espia rfl (by decide)⟩
  have h₄ := h₃.snoc (e := .llega .ida 2) ⟨by exact trivial, .llega (by decide) (by decide)⟩
  have h₅ := h₄.snoc (e := .espia .ida) ⟨by rintro _ -; exact Or.inr (by decide),
    .espia rfl (by decide)⟩
  have h₆ := h₅.snoc (e := .lee .ida) ⟨by exact trivial, .lee (n := 12) rfl⟩
  exact ⟨_, h₆, (mensajes_enteros h₆).1⟩

/-- **A request of eight bytes that arrives in two pieces** is received as its first piece, if the
receiver peeks in between. -/
theorem no_mensajes_enteros : ¬ ∀ (s : Dialogo) (tr : List EventoDialogo),
    Lts.Run PasoDialogo Dialogo.inicial tr s → s.Intacto := by
  intro hclaim
  have h₁ : Lts.Run PasoDialogo Dialogo.inicial _ _ :=
    Lts.Run.single (e := .envia .ida (List.replicate 8 7#8)) (.envia rfl (by simp))
  have h₂ := h₁.snoc (e := .llega .ida 4) (.llega (by decide) (by decide))
  have h₃ := h₂.snoc (e := .espia .ida) (.espia rfl (by decide))
  have h₄ := h₃.snoc (e := .lee .ida) (.lee (n := 4) rfl)
  exact absurd (hclaim _ _ h₄ .ida).1 (by decide)

end Ansisop
