/-
**The end of a burst.**

The kernel takes the first burst-ending message of a CPU as the end of the program that it gave to
it, and what the CPU sends afterwards as sent by the next one.  A burst must therefore send exactly
one such message, and send it last.  The state of the burst is one variable that every primitive may
write, so a burst is followed here through three phases: open, closed by an ending message, and
broken.

Main definitions:

* `Ansisop.Cpu.esFinDeRafaga`, `Ansisop.Cpu.TerminaBien` — the ending messages, and **exactly one,
  and it is the last**;
* `Ansisop.Cpu.EnFase` — the phases of a burst;
* `Ansisop.Cpu.Sucede` — what a step does to the phase, whatever the phase;
* `Ansisop.Cpu.LlamadaLimpia`, `Ansisop.Cpu.CicloLimpio` — the condition on the calls of a burst.

Main results:

* `Ansisop.Cpu.ejecutar_sucede` — what a call of a primitive does to the phase;
* `Ansisop.Cpu.terminaBien_iff` — **a burst ends well exactly when every call of it is clean**.
-/

import Ansisop.Cpu.Rafaga

set_option relaxedAutoImplicit false
set_option autoImplicit false

namespace Ansisop.Cpu

open Commons (logLevelDebug logLevelInfo)

variable {σ : Type*} (E : Entorno σ) (orden : Orden)

/-! ### Ending messages -/

/-- The messages that end a burst; a wait ends it when the reply is not `continuar`. -/
def esFinDeRafaga : MensajeCpu × Option MensajeKernel → Bool
  | (.notificarPorFinRafaga _, _) => true
  | (.notificarPorFinPrograma _, _) => true
  | (.exception _, _) => true
  | (.entradaSalidaKernel _ _ _, _) => true
  | (.waitKernel _ _, respuesta) => respuesta != some .continuar
  | _ => false

/-- **Exactly one burst-ending message, and it is the last**, and the next reception is reached. -/
def TerminaBien (pcb : Pcb) (m : Maquina σ) : Prop :=
  ∃ m' previos u, ciclo E orden pcb m = some m' ∧ m'.enviados = previos ++ [u] ∧
    (∀ v ∈ previos, esFinDeRafaga v = false) ∧ esFinDeRafaga u = true

/-- The program has left the CPU with a message of its own. -/
def EstadoRafaga.terminada : EstadoRafaga → Bool
  | .exception => true
  | .entradaSalidaKernel => true
  | .waitPcbBloqueado => true
  | _ => false

/-! ### Phases -/

/-- The phases of a burst. -/
inductive Fase
  | abierta
  | cerrada
  | rota
deriving DecidableEq

/-- What matters of a step: it sends a message that does not end the burst or marks the end of the
program, or it sends an ending message and leaves. -/
inductive Suceso
  | aviso
  | cierre
deriving DecidableEq

/-- The phase after a step. -/
def Fase.sigue : Fase → Suceso → Fase
  | .abierta, .aviso => .abierta
  | .abierta, .cierre => .cerrada
  | .cerrada, _ => .rota
  | .rota, _ => .rota

/-- A machine in a phase: no ending message yet; one, the last, and the program has left; or one
that something follows or will follow. -/
def EnFase (m : Maquina σ) : Fase → Prop
  | .abierta => (∀ v ∈ m.enviados, esFinDeRafaga v = false) ∧
      m.estado.estadoRafaga.terminada = false
  | .cerrada => (∃ previos u, m.enviados = previos ++ [u] ∧
      (∀ v ∈ previos, esFinDeRafaga v = false) ∧ esFinDeRafaga u = true) ∧
      m.estado.estadoRafaga.terminada = true
  | .rota => ∃ previos u siguientes, m.enviados = previos ++ u :: siguientes ∧
      esFinDeRafaga u = true ∧ (siguientes ≠ [] ∨ m.estado.estadoRafaga.terminada = false)

@[simp] theorem Fase.sigue_cerrada (s : Suceso) : Fase.cerrada.sigue s = .rota := rfl

@[simp] theorem Fase.sigue_rota (l : List Suceso) : l.foldl Fase.sigue .rota = .rota := by
  induction l with
  | nil => rfl
  | cons s l ih => exact ih

/-- The steps between two machines, as their effect on every phase. -/
def Sucede (l : List Suceso) (m m' : Maquina σ) : Prop :=
  ∀ f, EnFase m f → EnFase m' (l.foldl Fase.sigue f)

variable {E} {m m' m'' : Maquina σ} {l l' : List Suceso}

theorem Sucede.trans (h : Sucede l m m') (h' : Sucede l' m' m'') : Sucede (l ++ l') m m'' := by
  intro f hf
  rw [List.foldl_append]
  exact h' _ (h _ hf)

/-- A step that neither sends nor marks anything. -/
theorem Sucede.nada (henv : m'.enviados = m.enviados)
    (hraf : m'.estado.estadoRafaga = m.estado.estadoRafaga) : Sucede [] m m' := by
  intro f hf
  cases f with
  | abierta => exact ⟨by rw [henv]; exact hf.1, by rw [hraf]; exact hf.2⟩
  | cerrada => exact ⟨by rw [henv]; exact hf.1, by rw [hraf]; exact hf.2⟩
  | rota =>
      obtain ⟨previos, u, siguientes, h, hu, hs⟩ := hf
      exact ⟨previos, u, siguientes, by rw [henv, h], hu, by rwa [hraf]⟩

/-- Marking the end of the program. -/
theorem Sucede.marca (henv : m'.enviados = m.enviados)
    (hraf : m'.estado.estadoRafaga.terminada = false) : Sucede [.aviso] m m' := by
  intro f hf
  cases f with
  | abierta => exact ⟨by rw [henv]; exact hf.1, hraf⟩
  | cerrada =>
      obtain ⟨⟨previos, u, h, -, hu⟩, -⟩ := hf
      exact ⟨previos, u, [], by rw [henv, h], hu, Or.inr hraf⟩
  | rota =>
      obtain ⟨previos, u, siguientes, h, hu, -⟩ := hf
      exact ⟨previos, u, siguientes, by rw [henv, h], hu, Or.inr hraf⟩

/-- A message after an ending message breaks the burst. -/
theorem rota_of_append {f : Fase} {v : MensajeCpu × Option MensajeKernel} (hf : EnFase m f)
    (hne : f ≠ .abierta) (henv : m'.enviados = m.enviados ++ [v]) : EnFase m' .rota := by
  cases f with
  | abierta => exact absurd rfl hne
  | cerrada =>
      obtain ⟨⟨previos, u, h, -, hu⟩, -⟩ := hf
      exact ⟨previos, u, [v], by rw [henv, h, List.append_assoc]; rfl, hu, Or.inl (by simp)⟩
  | rota =>
      obtain ⟨previos, u, siguientes, h, hu, -⟩ := hf
      exact ⟨previos, u, siguientes ++ [v], by rw [henv, h, List.append_assoc]; rfl, hu,
        Or.inl (by simp)⟩

/-- A message that does not end the burst. -/
theorem Sucede.mensaje {v : MensajeCpu × Option MensajeKernel}
    (henv : m'.enviados = m.enviados ++ [v]) (hv : esFinDeRafaga v = false)
    (hraf : m'.estado.estadoRafaga = m.estado.estadoRafaga) : Sucede [.aviso] m m' := by
  intro f hf
  cases f with
  | abierta =>
      refine ⟨fun w hw => ?_, by rw [hraf]; exact hf.2⟩
      rw [henv, List.mem_append, List.mem_singleton] at hw
      rcases hw with hw | rfl
      · exact hf.1 w hw
      · exact hv
  | cerrada => exact rota_of_append hf (by simp) henv
  | rota => exact rota_of_append hf (by simp) henv

/-- A message that ends the burst, when the program leaves with it. -/
theorem Sucede.fin {u : MensajeCpu × Option MensajeKernel}
    (henv : m'.enviados = m.enviados ++ [u]) (hu : esFinDeRafaga u = true)
    (hraf : m'.estado.estadoRafaga.terminada = true) : Sucede [.cierre] m m' := by
  intro f hf
  cases f with
  | abierta => exact ⟨⟨m.enviados, u, henv, hf.1, hu⟩, hraf⟩
  | cerrada => exact rota_of_append hf (by simp) henv
  | rota => exact rota_of_append hf (by simp) henv

/-! ### Requests to the UMV -/

/-- Some requests were made, and `k` of them were answered with an error; the CPU has told the
kernel about each of these. -/
structure Fallas (m m' : Maquina σ) (k : ℕ) : Prop where
  errores : m'.errores = m.errores + k
  enviados : ∃ ms : List (MensajeCpu × Option MensajeKernel), ms.length = k ∧
    m'.enviados = m.enviados ++ ms ∧ ∀ u ∈ ms, esFinDeRafaga u = true
  sucede : Sucede (List.replicate k .cierre) m m'

theorem Fallas.nada (herr : m'.errores = m.errores) (henv : m'.enviados = m.enviados)
    (hraf : m'.estado.estadoRafaga = m.estado.estadoRafaga) : Fallas m m' 0 :=
  ⟨herr, ⟨[], rfl, by rw [henv, List.append_nil], by simp⟩, Sucede.nada henv hraf⟩

theorem Fallas.trans {k k' : ℕ} (h : Fallas m m' k) (h' : Fallas m' m'' k') :
    Fallas m m'' (k + k') := by
  obtain ⟨ms, hlen, henv, hms⟩ := h.enviados
  obtain ⟨ms', hlen', henv', hms'⟩ := h'.enviados
  refine ⟨by rw [h'.errores, h.errores, Nat.add_assoc], ⟨ms ++ ms', ?_, ?_, ?_⟩, ?_⟩
  · rw [List.length_append, hlen, hlen']
  · rw [henv', henv, List.append_assoc]
  · intro u hu
    rcases List.mem_append.1 hu with hu | hu
    · exact hms u hu
    · exact hms' u hu
  · rw [← List.replicate_append_replicate]
    exact h.sucede.trans h'.sucede

/-- A change of the state alone, the state of the burst apart, before the requests. -/
theorem Fallas.antes {k : ℕ} (h : Fallas m' m'' k) (herr : m'.errores = m.errores)
    (henv : m'.enviados = m.enviados)
    (hraf : m'.estado.estadoRafaga = m.estado.estadoRafaga) : Fallas m m'' k := by
  have := (Fallas.nada herr henv hraf).trans h
  rwa [Nat.zero_add] at this

/-- A change of the state alone, the state of the burst apart, after the requests. -/
theorem Fallas.luego {k : ℕ} (h : Fallas m m' k) (herr : m''.errores = m'.errores)
    (henv : m''.enviados = m'.enviados)
    (hraf : m''.estado.estadoRafaga = m'.estado.estadoRafaga) : Fallas m m'' k :=
  h.trans (Fallas.nada herr henv hraf)

section Pedidos

variable {sol : SolicitudBytes} {st : AlmacenarBytes} {data : List Byte} {texto : Texto}

theorem fallas_solicitar_ok (h : m.solicitar E sol = (.ok data, m')) : Fallas m m' 0 := by
  rw [Maquina.solicitar, Prod.mk.injEq] at h
  obtain ⟨hok, rfl⟩ := h
  exact Fallas.nada (by simp [hok, contarError]) rfl rfl

theorem fallas_almacenar_ok (h : m.almacenar E st = (.ok (), m')) : Fallas m m' 0 := by
  rw [Maquina.almacenar, Prod.mk.injEq] at h
  obtain ⟨hok, rfl⟩ := h
  exact Fallas.nada (by simp [hok, contarError]) rfl rfl

/-- An exception after an error. -/
theorem fallas_excepcion (herr : m'.errores = m.errores + 1) (henv : m'.enviados = m.enviados) :
    Fallas m (excepcionSolicitud E m' texto) 1 := by
  have henv' : (excepcionSolicitud E m' texto).enviados =
      m.enviados ++ [(.exception texto, none)] := by rw [← henv]; rfl
  exact ⟨herr, ⟨_, rfl, henv', by simp [esFinDeRafaga]⟩, Sucede.fin henv' rfl rfl⟩

theorem fallas_solicitar_error (h : m.solicitar E sol = (.error texto, m')) :
    Fallas m (excepcionSolicitud E m' texto) 1 := by
  rw [Maquina.solicitar, Prod.mk.injEq] at h
  obtain ⟨herror, rfl⟩ := h
  exact fallas_excepcion (by simp [herror, contarError]) rfl

theorem fallas_almacenar_error (h : m.almacenar E st = (.error texto, m')) :
    Fallas m (excepcionSolicitud E m' texto) 1 := by
  rw [Maquina.almacenar, Prod.mk.injEq] at h
  obtain ⟨herror, rfl⟩ := h
  exact fallas_excepcion (by simp [herror, contarError]) rfl

/-- An error is counted, so an execution without errors has none. -/
theorem errores_solicitar_ne (h : m.solicitar E sol = (.error texto, m')) :
    (excepcionSolicitud E m' texto).errores ≠ m.errores := by
  rw [(fallas_solicitar_error h).errores]
  exact Nat.succ_ne_self _

theorem errores_almacenar_ne (h : m.almacenar E st = (.error texto, m')) :
    (excepcionSolicitud E m' texto).errores ≠ m.errores := by
  rw [(fallas_almacenar_error h).errores]
  exact Nat.succ_ne_self _

theorem estado_solicitar {r : Except Texto (List Byte)} (h : m.solicitar E sol = (r, m')) :
    m'.estado = m.estado := by
  rw [Maquina.solicitar, Prod.mk.injEq] at h
  obtain ⟨-, rfl⟩ := h
  rfl

theorem estado_almacenar {r : Except Texto Unit} (h : m.almacenar E st = (r, m')) :
    m'.estado = m.estado := by
  rw [Maquina.almacenar, Prod.mk.injEq] at h
  obtain ⟨-, rfl⟩ := h
  rfl

end Pedidos

variable (E)

theorem fallas_actualizarContexto (m : Maquina σ) :
    ∃ k ≤ 1, Fallas m (actualizarContexto E m) k := by
  rw [actualizarContexto]
  split
  · next data m₁ h =>
      refine ⟨0, by simp, ((fallas_solicitar_ok h).luego ?_ ?_ ?_).antes ?_ ?_ ?_⟩ <;> rfl
  · next texto m₁ h => exact ⟨1, le_rfl, (fallas_solicitar_error h).antes rfl rfl rfl⟩

/-- Loading the context does not move the stack. -/
theorem pila_actualizarContexto (m : Maquina σ) :
    (actualizarContexto E m).estado.pcb.cursorStack = m.estado.pcb.cursorStack ∧
      (actualizarContexto E m).estado.pcb.segmentoStack = m.estado.pcb.segmentoStack := by
  rw [actualizarContexto]
  split
  · next data m₁ h =>
      have := estado_solicitar h
      simp only [Maquina.conDiccionario, this]
      exact ⟨rfl, rfl⟩
  · next texto m₁ h =>
      have := estado_solicitar h
      simp only [excepcionSolicitud, Maquina.enviarAKernel, Maquina.conRafaga, this]
      exact ⟨rfl, rfl⟩

theorem fallas_generarBloqueEtiquetas (m : Maquina σ) :
    ∃ k, Fallas m (generarBloqueEtiquetas E m) k := by
  rw [generarBloqueEtiquetas]
  split
  · split
    · next data m₁ h => exact ⟨0, (fallas_solicitar_ok h).luego rfl rfl rfl⟩
    · next texto m₁ h => exact ⟨1, fallas_solicitar_error h⟩
  · exact ⟨0, Fallas.nada rfl rfl rfl⟩

theorem fallas_asignar (dir : TPuntero) (valor : U32) (m : Maquina σ) :
    ∃ k ≤ 1, Fallas m (asignar E dir valor m) k := by
  rw [asignar]
  split
  · next m₁ h => exact ⟨0, by simp, fallas_almacenar_ok h⟩
  · next texto m₁ h => exact ⟨1, le_rfl, fallas_almacenar_error h⟩

theorem pcb_asignar (dir : TPuntero) (valor : U32) (m : Maquina σ) :
    (asignar E dir valor m).estado.pcb = m.estado.pcb := by
  rw [asignar]
  split
  · next m₁ h => rw [estado_almacenar h]
  · next texto m₁ h =>
      have := estado_almacenar h
      simp only [excepcionSolicitud, Maquina.enviarAKernel, Maquina.conRafaga, this]

theorem fallas_definirVariable {id : Byte} {v : U32} (h : definirVariable E id m = some (v, m')) :
    ∃ k ≤ 1, Fallas m m' k := by
  obtain ⟨-, h⟩ := E.registrar_map.1 h
  obtain rfl := congrArg Prod.snd h
  dsimp only
  split
  · next m₁ h =>
      refine ⟨0, by simp, ((fallas_almacenar_ok h).luego ?_ ?_ ?_).antes ?_ ?_ ?_⟩ <;> rfl
  · next texto m₁ h => exact ⟨1, le_rfl, (fallas_almacenar_error h).antes rfl rfl rfl⟩

theorem fallas_dereferenciar (dir : TPuntero) (m : Maquina σ) :
    ∃ k ≤ 1, Fallas m (dereferenciar E dir m).2 k := by
  rw [dereferenciar]
  split
  · next data m₁ h => exact ⟨0, by simp, fallas_solicitar_ok h⟩
  · next texto m₁ h => exact ⟨1, le_rfl, fallas_solicitar_error h⟩

theorem fallas_irAlLabel {etiqueta : Texto} (h : irAlLabel E etiqueta m = some m') :
    Fallas m m' 0 := by
  obtain ⟨-, rfl⟩ := E.registrar_map.1 h
  exact Fallas.nada rfl rfl rfl

theorem fallas_llamar {etiqueta : Texto} {nuevosPunteros : Pcb → List U32}
    (h : llamar E etiqueta nuevosPunteros m = some m') : ∃ k ≤ 1, Fallas m m' k := by
  simp only [llamar] at h
  split at h
  · next m₁ halm =>
      obtain ⟨m₂, hsalto, rfl⟩ := Option.map_eq_some_iff.1 h
      have hf := (fallas_almacenar_ok halm).trans (fallas_irAlLabel E hsalto)
      refine ⟨0, by simp, (hf.luego ?_ ?_ ?_).antes ?_ ?_ ?_⟩ <;> rfl
  · next texto m₁ halm =>
      obtain rfl := Option.some_inj.1 h
      exact ⟨1, le_rfl, (fallas_almacenar_error halm).antes rfl rfl rfl⟩

theorem fallas_llamarSinRetorno {etiqueta : Texto} (h : llamarSinRetorno E etiqueta m = some m') :
    ∃ k ≤ 1, Fallas m m' k := fallas_llamar E (E.registrar_bind.1 h).2

theorem fallas_llamarConRetorno {etiqueta : Texto} {donde_retornar : TPuntero}
    (h : llamarConRetorno E etiqueta donde_retornar m = some m') : ∃ k ≤ 1, Fallas m m' k :=
  fallas_llamar E (E.registrar_bind.1 h).2

/-! ### What a call does to the phase -/

/-- The primitives that talk to the kernel. -/
def Primitiva.delKernel : Primitiva → Bool
  | .obtenerValorCompartida _ => true
  | .asignarValorCompartida _ _ => true
  | .imprimir _ => true
  | .imprimirTexto _ => true
  | .entrarSalida _ _ => true
  | .waitAnsisop _ => true
  | .signalAnsisop _ => true
  | _ => false

/-- The requests of a call that the UMV answers with an error. -/
def fallas (m : Maquina σ) (p : Primitiva) : ℕ :=
  match ejecutar E m p with
  | some (_, m') => m'.errores - m.errores
  | none => 0

/-- The calls that mark the end of the program: `finalizar` in the first context, and `retornar`
when the caller has nothing on the stack. -/
def marcaFin (m : Maquina σ) : Primitiva → Bool
  | .finalizar =>
      m.estado.pcb.cursorStack - (m.estado.pcb.segmentoStack + 5#32 * m.estado.pcb.tamanioContexto)
        == 0#32
  | .retornar _ => (E.solicitar m.entorno (pedidoRetornar m.estado.pcb)).1.isOk &&
      m.estado.pcb.cursorStack - (5#32 * m.estado.pcb.tamanioContexto + 12#32)
        == m.estado.pcb.segmentoStack
  | _ => false

/-- The steps of a call to a primitive that does not talk to the kernel. -/
def sucesosUmv (k : ℕ) (marca : Bool) : List Suceso :=
  List.replicate k .cierre ++ if marca then [.aviso] else []

/-- From an open burst, and from a closed one, the phase after those steps. -/
theorem sigue_sucesosUmv {f : Fase} (hf : f ≠ .rota) (k : ℕ) (marca : Bool) :
    (sucesosUmv k marca).foldl Fase.sigue f ≠ .rota ↔
      k + (f == .cerrada).toNat ≤ 1 ∧ (marca = true → k + (f == .cerrada).toNat = 0) := by
  rw [sucesosUmv]
  match k, f with
  | _, .rota => exact absurd rfl hf
  | 0, .abierta => cases marca <;> decide
  | 0, .cerrada => cases marca <;> decide
  | 1, .abierta => cases marca <;> decide
  | k + 1, .cerrada =>
      simp [List.replicate_succ]
  | k + 2, .abierta =>
      have : ¬ k + 2 + (Fase.abierta == Fase.cerrada).toNat ≤ 1 := by omega
      simp [List.replicate_succ, Fase.sigue, this]

theorem sucede_finalizar (m : Maquina σ) :
    ∃ k ≤ 1, (finalizar E m).errores = m.errores + k ∧
      Sucede (sucesosUmv k (marcaFin E m .finalizar)) m (finalizar E m) := by
  rw [finalizar]
  simp only [marcaFin]
  split
  · next h =>
      refine ⟨0, by simp, rfl, ?_⟩
      simp only [h, beq_self_eq_true]
      exact Sucede.marca rfl rfl
  · next h =>
      have hm : (m.estado.pcb.cursorStack -
          (m.estado.pcb.segmentoStack + 5#32 * m.estado.pcb.tamanioContexto) == 0#32) = false := by
        simpa using h
      simp only [hm, sucesosUmv, Bool.false_eq_true, if_false, List.append_nil]
      split
      · next data m₁ hs =>
          generalize hm₂ : (m₁.conInicio (palabra data 0)).conPcb { m.estado.pcb with
            programCounter := palabra data 4
            cursorStack := m.estado.pcb.cursorStack -
              (5#32 * m.estado.pcb.tamanioContexto + 8#32) } = m₂
          obtain ⟨k, hk, hf⟩ := fallas_actualizarContexto E m₂
          have h₂ : Fallas m m₂ 0 := (fallas_solicitar_ok hs).luego (by rw [← hm₂]; rfl)
            (by rw [← hm₂]; rfl) (by rw [← hm₂]; rfl)
          have := h₂.trans hf
          rw [Nat.zero_add] at this
          exact ⟨k, hk, this.errores, this.sucede⟩
      · next texto m₁ hs =>
          have := fallas_solicitar_error hs
          exact ⟨1, le_rfl, this.errores, this.sucede⟩

theorem sucede_retornar (valor : U32) (m : Maquina σ) :
    ∃ k, (retornar E valor m).errores = m.errores + k ∧
      Sucede (sucesosUmv k (marcaFin E m (.retornar valor))) m (retornar E valor m) := by
  rw [retornar]
  simp only [marcaFin]
  split
  · next data m₁ hs =>
      have hok : (E.solicitar m.entorno (pedidoRetornar m.estado.pcb)).1 = .ok data := by
        rw [Maquina.solicitar, Prod.mk.injEq] at hs
        exact hs.1
      generalize hm₂ : (m₁.conInicio (palabra data 0)).conPcb { m.estado.pcb with
        programCounter := palabra data 4
        cursorStack := m.estado.pcb.cursorStack -
          (5#32 * m.estado.pcb.tamanioContexto + 12#32) } = m₂
      obtain ⟨k, -, hk⟩ := fallas_asignar E (palabra data 8) valor m₂
      obtain ⟨k', -, hk'⟩ := fallas_actualizarContexto E (asignar E (palabra data 8) valor m₂)
      have h₂ : Fallas m m₂ 0 := (fallas_solicitar_ok hs).luego (by rw [← hm₂]; rfl)
        (by rw [← hm₂]; rfl) (by rw [← hm₂]; rfl)
      have hf := h₂.trans (hk.trans hk')
      rw [Nat.zero_add] at hf
      obtain ⟨hcur, hseg⟩ := pila_actualizarContexto E (asignar E (palabra data 8) valor m₂)
      rw [pcb_asignar] at hcur hseg
      have hcur₂ : m₂.estado.pcb.cursorStack = m.estado.pcb.cursorStack -
          (5#32 * m.estado.pcb.tamanioContexto + 12#32) := by rw [← hm₂]; rfl
      have hseg₂ : m₂.estado.pcb.segmentoStack = m.estado.pcb.segmentoStack := by rw [← hm₂]; rfl
      rw [hcur₂] at hcur
      rw [hseg₂] at hseg
      -- the mark of the end of the program depends on where the cursor ends, not on the answers
      refine ⟨k + k', ?_, ?_⟩
      · split
        · exact hf.errores
        · exact hf.errores
      · rw [hok, hcur, hseg]
        split
        · next h =>
            simp only [h, sucesosUmv, Except.isOk, Except.toBool, beq_self_eq_true, Bool.and_self,
              if_true]
            exact hf.sucede.trans (Sucede.marca rfl rfl)
        · next h =>
            have hne : (m.estado.pcb.cursorStack - (5#32 * m.estado.pcb.tamanioContexto + 12#32)
                == m.estado.pcb.segmentoStack) = false := by simpa using h
            simp only [hne, sucesosUmv, Bool.and_false, Bool.false_eq_true, if_false,
              List.append_nil]
            exact hf.sucede
  · next texto m₁ hs =>
      have herror : (E.solicitar m.entorno (pedidoRetornar m.estado.pcb)).1 = .error texto := by
        rw [Maquina.solicitar, Prod.mk.injEq] at hs
        exact hs.1
      have hf := fallas_solicitar_error hs
      refine ⟨1, hf.errores, ?_⟩
      simpa [herror, sucesosUmv, Except.isOk, Except.toBool] using hf.sucede

/-! ### Kernel messages -/

/-- The steps of a call to the kernel: something happens, unless the program is over already, and it
does not break an open burst. -/
def PasosKernel (m m' : Maquina σ) : Prop :=
  ∃ l, Sucede l m m' ∧ l.foldl Fase.sigue .abierta ≠ .rota ∧
    (m.estado.estadoRafaga.terminada = true → l ≠ []) ∧ m'.errores = m.errores

section Consultas

variable {E} {mensaje : MensajeCpu} {respuesta : MensajeKernel}

theorem consultar_spec (h : m.consultar E mensaje = (respuesta, m')) :
    m'.enviados = m.enviados ++ [(mensaje, some respuesta)] ∧ m'.estado = m.estado ∧
      m'.errores = m.errores := by
  rw [Maquina.consultar, Prod.mk.injEq] at h
  obtain ⟨rfl, rfl⟩ := h
  exact ⟨rfl, rfl, rfl⟩

/-- A question to the kernel that does not end the burst. -/
theorem pasosKernel_consultar (h : m.consultar E mensaje = (respuesta, m'))
    (hfin : esFinDeRafaga (mensaje, some respuesta) = false) : PasosKernel m m' := by
  obtain ⟨henv, hest, herr⟩ := consultar_spec h
  exact ⟨[.aviso], Sucede.mensaje henv hfin (by rw [hest]), by decide, by simp, herr⟩

/-- A question to the kernel, after which the end of the program is marked. -/
theorem pasosKernel_marca (h : m.consultar E mensaje = (respuesta, m'))
    (hfin : esFinDeRafaga (mensaje, some respuesta) = false) (henv' : m''.enviados = m'.enviados)
    (hraf : m''.estado.estadoRafaga.terminada = false) (herr' : m''.errores = m'.errores) :
    PasosKernel m m'' := by
  obtain ⟨henv, hest, herr⟩ := consultar_spec h
  exact ⟨[.aviso, .aviso],
    (Sucede.mensaje henv hfin (by rw [hest])).trans (Sucede.marca henv' hraf), by decide, by simp,
    herr'.trans herr⟩

end Consultas

theorem pasosKernel_obtenerValorCompartida {nombre : Texto} {v : U32}
    (h : obtenerValorCompartida E nombre m = some (v, m')) : PasosKernel m m' := by
  obtain ⟨-, h⟩ := E.registrar_map.1 h
  obtain rfl := congrArg Prod.snd h
  split
  · next h => exact pasosKernel_consultar h rfl
  · next h => exact pasosKernel_marca h rfl rfl rfl rfl

theorem pasosKernel_asignarValorCompartida {nombre : Texto} {valor v : U32}
    (h : asignarValorCompartida E nombre valor m = some (v, m')) : PasosKernel m m' := by
  obtain ⟨-, h⟩ := E.registrar_map.1 h
  obtain rfl := congrArg Prod.snd h
  split
  · next h => exact pasosKernel_consultar h rfl
  · next h => exact pasosKernel_marca h rfl rfl rfl rfl

theorem pasosKernel_imprimir (valor : U32) (m : Maquina σ) :
    PasosKernel m (imprimir E valor m) := by
  rw [imprimir]
  split
  · next hfin =>
      exact ⟨[], Sucede.nada rfl rfl, by decide, by rw [hfin]; simp [EstadoRafaga.terminada], rfl⟩
  · split
    · next h => exact pasosKernel_consultar h rfl
    · next h => exact pasosKernel_marca h rfl rfl rfl rfl

theorem pasosKernel_imprimirTexto {texto : Texto} (h : imprimirTexto E texto m = some m') :
    PasosKernel m m' := by
  obtain ⟨-, rfl⟩ := E.registrar_map.1 h
  split
  · next h => exact pasosKernel_consultar h rfl
  · next h => exact pasosKernel_marca h rfl rfl rfl rfl

theorem pasosKernel_signalAnsisop {semaforo : Texto} (h : signalAnsisop E semaforo m = some m') :
    PasosKernel m m' := by
  obtain ⟨-, rfl⟩ := E.registrar_map.1 h
  split
  · next h => exact pasosKernel_marca h rfl rfl rfl rfl
  · next h => exact pasosKernel_consultar h rfl

theorem pasosKernel_entrarSalida {dispositivo : Texto} {tiempo : U32}
    (h : entrarSalida E dispositivo tiempo m = some m') : PasosKernel m m' := by
  obtain ⟨-, rfl⟩ := E.registrar_map.1 h
  exact ⟨[.cierre], Sucede.fin rfl rfl rfl, by decide, by simp, rfl⟩

/-- A wait ends the burst exactly when the program leaves with it. -/
theorem pasosKernel_waitAnsisop {semaforo : Texto} (h : waitAnsisop E semaforo m = some m') :
    PasosKernel m m' := by
  obtain ⟨-, rfl⟩ := E.registrar_map.1 h
  split
  · next h => exact pasosKernel_consultar h rfl
  · next respuesta m₁ hne h =>
      obtain ⟨henv, hest, herr⟩ := consultar_spec h
      have hfin : esFinDeRafaga (.waitKernel semaforo m.estado.pcb, some respuesta) = true := by
        simpa [esFinDeRafaga] using hne
      exact ⟨[.cierre], Sucede.fin henv hfin rfl, by decide, by simp, herr⟩

/-! ### Calls -/

variable {p : Primitiva} {v : U32}

theorem ejecutar_sinResultado {r : Option (Maquina σ)} (h : r.map sinResultado = some (v, m')) :
    r = some m' := by
  obtain ⟨m₁, hm₁, heq⟩ := Option.map_eq_some_iff.1 h
  obtain rfl : m₁ = m' := congrArg Prod.snd heq
  exact hm₁

theorem pasosKernel_ejecutar (hp : p.delKernel = true) (h : ejecutar E m p = some (v, m')) :
    PasosKernel m m' := by
  cases p with
  | obtenerValorCompartida nombre => exact pasosKernel_obtenerValorCompartida E h
  | asignarValorCompartida nombre valor => exact pasosKernel_asignarValorCompartida E h
  | imprimir valor =>
      obtain rfl := congrArg Prod.snd (Option.some_inj.1 h)
      exact pasosKernel_imprimir E valor m
  | imprimirTexto texto => exact pasosKernel_imprimirTexto E (ejecutar_sinResultado h)
  | entrarSalida dispositivo tiempo => exact pasosKernel_entrarSalida E (ejecutar_sinResultado h)
  | waitAnsisop semaforo => exact pasosKernel_waitAnsisop E (ejecutar_sinResultado h)
  | signalAnsisop semaforo => exact pasosKernel_signalAnsisop E (ejecutar_sinResultado h)
  | _ => simp [Primitiva.delKernel] at hp

/-- A call that does not talk to the kernel: one exception for each request that is answered with an
error, and then the mark of the end of the program. -/
theorem sucede_umv (hp : p.delKernel = false) (h : ejecutar E m p = some (v, m')) :
    ∃ k, m'.errores = m.errores + k ∧ Sucede (sucesosUmv k (marcaFin E m p)) m m' := by
  have ofFallas (hf : ∃ k ≤ 1, Fallas m m' k) (hmarca : marcaFin E m p = false) :
      ∃ k, m'.errores = m.errores + k ∧ Sucede (sucesosUmv k (marcaFin E m p)) m m' := by
    obtain ⟨k, -, hk⟩ := hf
    refine ⟨k, hk.errores, ?_⟩
    simpa [hmarca, sucesosUmv] using hk.sucede
  cases p with
  | definirVariable id => exact ofFallas (fallas_definirVariable E h) rfl
  | obtenerPosicionVariable id =>
      obtain ⟨-, h⟩ := E.registrar_bind.1 h
      obtain ⟨_, -, h⟩ := Option.map_eq_some_iff.1 h
      obtain rfl := congrArg Prod.snd h
      exact ofFallas ⟨0, by simp, Fallas.nada rfl rfl rfl⟩ rfl
  | dereferenciar dir =>
      obtain rfl := congrArg Prod.snd (Option.some_inj.1 h)
      exact ofFallas (fallas_dereferenciar E dir m) rfl
  | asignar dir valor =>
      obtain rfl := congrArg Prod.snd (Option.some_inj.1 h)
      exact ofFallas (fallas_asignar E dir valor m) rfl
  | irAlLabel etiqueta =>
      exact ofFallas ⟨0, by simp, fallas_irAlLabel E (ejecutar_sinResultado h)⟩ rfl
  | llamarSinRetorno etiqueta =>
      exact ofFallas (fallas_llamarSinRetorno E (ejecutar_sinResultado h)) rfl
  | llamarConRetorno etiqueta donde =>
      exact ofFallas (fallas_llamarConRetorno E (ejecutar_sinResultado h)) rfl
  | finalizar =>
      obtain rfl := congrArg Prod.snd (Option.some_inj.1 h)
      obtain ⟨k, -, hk⟩ := sucede_finalizar E m
      exact ⟨k, hk⟩
  | retornar valor =>
      obtain rfl := congrArg Prod.snd (Option.some_inj.1 h)
      exact sucede_retornar E valor m
  | _ => simp [Primitiva.delKernel] at hp

/-! ### Clean calls -/

/-- **A clean call.**  Its line can be logged, and the variable looked for exists.  If the program
has left the CPU, the call does not talk to the kernel, none of its requests is answered with an
error, and it does not mark the end of the program; otherwise at most one request is answered with
an error, and none if it marks the end. -/
structure LlamadaLimpia (m : Maquina σ) (p : Primitiva) : Prop where
  registra : E.Registra p
  definida : ∀ id, p = .obtenerPosicionVariable id →
    (dictionaryGet m.estado.diccionarioVariables id).isSome = true
  kernel : p.delKernel = true → m.estado.estadoRafaga.terminada = false
  errores : fallas E m p + m.estado.estadoRafaga.terminada.toNat ≤ 1
  marca : marcaFin E m p = true → fallas E m p + m.estado.estadoRafaga.terminada.toNat = 0

/-- The burst is open, or it is closed. -/
def EnCurso (m : Maquina σ) : Prop := EnFase m .abierta ∨ EnFase m .cerrada

/-- A broken burst is not in course. -/
theorem EnCurso.no_rota (h : EnCurso m) : ¬ EnFase m .rota := by
  rintro ⟨previos, u, siguientes, henv, hu, hs⟩
  rcases h with ⟨hno, -⟩ | ⟨⟨previos', u', henv', hno, -⟩, hter⟩
  · have := hno u (by rw [henv]; simp)
    rw [hu] at this
    exact Bool.noConfusion this
  · -- the only ending message is the last one
    rcases List.eq_nil_or_concat siguientes with rfl | ⟨siguientes', w, rfl⟩
    · rw [hter] at hs
      simp at hs
    · have hmem : u ∈ previos' := by
        have heq : (previos ++ u :: siguientes') ++ [w] = previos' ++ [u'] := by
          rw [← henv', henv, List.concat_eq_append, List.append_assoc, List.cons_append]
        obtain ⟨rfl, -⟩ := List.append_inj' heq rfl
        simp
      have := hno u hmem
      rw [hu] at this
      exact Bool.noConfusion this

/-- A call whose line can be logged makes its jump. -/
theorem llamar_isSome {etiqueta : Texto} (h : E.Registra (.irAlLabel etiqueta))
    (nuevosPunteros : Pcb → List U32) (m : Maquina σ) :
    (llamar E etiqueta nuevosPunteros m).isSome = true := by
  simp only [llamar]
  split
  · rw [Option.isSome_map, irAlLabel, E.registrar_eq_some_iff.2 h]
    rfl
  · rfl

/-- **When a call has a result.** -/
theorem ejecutar_isSome_iff :
    (ejecutar E m p).isSome = true ↔ E.Registra p ∧ ∀ id, p = .obtenerPosicionVariable id →
      (dictionaryGet m.estado.diccionarioVariables id).isSome = true := by
  -- a call that does nothing undefined after its line
  have hsolo {r : Option (U32 × Maquina σ)} (hr : r.isSome = true ↔ E.Registra p)
      (hp : ∀ id, p ≠ .obtenerPosicionVariable id) :
      r.isSome = true ↔ E.Registra p ∧ ∀ id, p = .obtenerPosicionVariable id →
        (dictionaryGet m.estado.diccionarioVariables id).isSome = true :=
    hr.trans (and_iff_left fun id heq => absurd heq (hp id)).symm
  cases p with
  | obtenerPosicionVariable id =>
      rw [Option.isSome_iff_exists]
      simp only [ejecutar, obtenerPosicionVariable, E.registrar_bind, Option.map_eq_some_iff,
        Primitiva.obtenerPosicionVariable.injEq, forall_eq', Option.isSome_iff_exists]
      exact ⟨fun ⟨_, h, p, hp, _⟩ => ⟨h, p, hp⟩, fun ⟨h, p, hp⟩ => ⟨_, h, p, hp, rfl⟩⟩
  | llamarSinRetorno etiqueta =>
      refine hsolo ?_ (by simp)
      rw [ejecutar, Option.isSome_map, llamarSinRetorno, E.registrar_bind_isSome]
      exact and_iff_left_of_imp fun h => llamar_isSome E (E.registra_irAlLabel (Or.inl h)) _ m
  | llamarConRetorno etiqueta donde =>
      refine hsolo ?_ (by simp)
      rw [ejecutar, Option.isSome_map, llamarConRetorno, E.registrar_bind_isSome]
      exact and_iff_left_of_imp fun h =>
        llamar_isSome E (E.registra_irAlLabel (Or.inr ⟨donde, h⟩)) _ m
  | dereferenciar dir => exact hsolo (iff_of_true rfl (E.registra_of_none rfl)) (by simp)
  | asignar dir valor => exact hsolo (iff_of_true rfl (E.registra_of_none rfl)) (by simp)
  | finalizar => exact hsolo (iff_of_true rfl (E.registra_of_none rfl)) (by simp)
  | retornar valor => exact hsolo (iff_of_true rfl (E.registra_of_none rfl)) (by simp)
  | imprimir valor => exact hsolo (iff_of_true rfl (E.registra_of_none rfl)) (by simp)
  | _ => exact hsolo (by simp only [ejecutar, definirVariable, irAlLabel, obtenerValorCompartida,
      asignarValorCompartida, imprimirTexto, entrarSalida, waitAnsisop, signalAnsisop,
      Option.isSome_map, E.registrar_isSome]) (by simp)

theorem fallas_eq (h : ejecutar E m p = some (v, m')) : fallas E m p = m'.errores - m.errores := by
  rw [fallas, h]

/-- **What a call does to the phase**: a broken burst stays broken, and one in course stays so if
the call is clean and is broken if it is not. -/
theorem ejecutar_sucede (h : ejecutar E m p = some (v, m')) :
    (EnFase m .rota → EnFase m' .rota) ∧
      (EnCurso m → LlamadaLimpia E m p ∧ EnCurso m' ∨ ¬ LlamadaLimpia E m p ∧ EnFase m' .rota) := by
  obtain ⟨hregistra, hdef⟩ :=
    (ejecutar_isSome_iff E).1 (by rw [h]; rfl : (ejecutar E m p).isSome = true)
  -- what the call makes happen, and when it breaks the protocol from each phase
  obtain ⟨l, hl, hiff⟩ : ∃ l, Sucede l m m' ∧ (∀ f, EnFase m f → f ≠ .rota →
      (l.foldl Fase.sigue f ≠ .rota ↔ LlamadaLimpia E m p)) := by
    cases hp : p.delKernel with
    | true =>
        obtain ⟨l, hl, hab, hter, herr⟩ := pasosKernel_ejecutar E hp h
        refine ⟨l, hl, fun f hf hne => ?_⟩
        have hfallas : fallas E m p = 0 := by rw [fallas_eq E h, herr, Nat.sub_self]
        cases f with
        | abierta =>
            have hno : m.estado.estadoRafaga.terminada = false := hf.2
            exact iff_of_true hab ⟨hregistra, hdef, fun _ => hno, by simp [hfallas, hno],
              fun _ => by simp [hfallas, hno]⟩
        | cerrada =>
            obtain ⟨s, l', rfl⟩ := List.exists_cons_of_ne_nil (hter hf.2)
            refine iff_of_false (by simp) fun hlimpia => ?_
            have := hlimpia.kernel hp
            rw [hf.2] at this
            exact Bool.noConfusion this
        | rota => exact absurd rfl hne
    | false =>
        obtain ⟨k, herr, hl⟩ := sucede_umv E hp h
        refine ⟨_, hl, fun f hf hne => ?_⟩
        have hfallas : fallas E m p = k := by rw [fallas_eq E h, herr, Nat.add_sub_cancel_left]
        have hfase : m.estado.estadoRafaga.terminada = (f == .cerrada) := by
          cases f with
          | abierta => exact hf.2
          | cerrada => exact hf.2
          | rota => exact absurd rfl hne
        rw [sigue_sucesosUmv hne, ← hfallas, ← hfase]
        exact ⟨fun hk => ⟨hregistra, hdef, by simp [hp], hk.1, hk.2⟩, fun hk =>
          ⟨hk.errores, hk.marca⟩⟩
  refine ⟨fun hrota => by simpa using hl _ hrota, fun hcurso => ?_⟩
  obtain ⟨f, hf, hne⟩ : ∃ f, EnFase m f ∧ f ≠ .rota := by
    rcases hcurso with hf | hf
    · exact ⟨_, hf, by simp⟩
    · exact ⟨_, hf, by simp⟩
  have hf' := hl f hf
  have hlimpia := hiff f hf hne
  cases hfase : l.foldl Fase.sigue f with
  | abierta => exact Or.inl ⟨hlimpia.1 (by rw [hfase]; simp), Or.inl (hfase ▸ hf')⟩
  | cerrada => exact Or.inl ⟨hlimpia.1 (by rw [hfase]; simp), Or.inr (hfase ▸ hf')⟩
  | rota => exact Or.inr ⟨fun h => hlimpia.2 h hfase, hfase ▸ hf'⟩

/-! ### Lines, bursts and turns -/

/-- **A clean line**: no undefined behaviour of the interpreter, and every call is clean. -/
def LineaLimpia : Linea → Maquina σ → Prop
  | .fin, _ => True
  | .indefinida, _ => False
  | .llamar p resto, m =>
      LlamadaLimpia E m p ∧ ∀ v m', ejecutar E m p = some (v, m') → LineaLimpia (resto v) m'

/-- The machine after the fetch of a line, with the program counter on the next one. -/
def trasFetch (m : Maquina σ) : Maquina σ :=
  let m := (traerProximaInstruccion E m).2
  m.conPcb { m.estado.pcb with programCounter := m.estado.pcb.programCounter + 1#32 }

/-- **A clean burst**: as long as it goes on, the requests of the fetch are answered without an
error, the line can be logged, and it is clean. -/
def RafagaLimpia : ℕ → Maquina σ → Prop
  | 0, _ => True
  | turnos + 1, m => puedeSeguirEjecutando m = true →
      (traerProximaInstruccion E m).2.errores = m.errores ∧
      ∀ linea, (traerProximaInstruccion E m).1 = some linea →
        E.RegistraTexto logLevelInfo (registroLinea (sinSalto linea)) ∧
        LineaLimpia E (analizadorLinea orden (sinSalto linea)) (trasFetch E m) ∧
        ∀ m', interpretar E (analizadorLinea orden (sinSalto linea)) (trasFetch E m) = some m' →
          RafagaLimpia turnos m'

/-- **A clean turn**: no request before the burst is answered with an error, and the burst is
clean. -/
def CicloLimpio (pcb : Pcb) (m : Maquina σ) : Prop :=
  (iniciarRafaga E pcb m).errores = m.errores ∧
    RafagaLimpia E orden (iniciarRafaga E pcb m).estado.quantumDeEjecucion.toNat
      ((iniciarRafaga E pcb m).conRafaga .notificarPorFinRafaga)

/-- What some steps lead to: a burst in course if they are clean, and a broken one, or none, if
not. -/
def Balance (limpio : Prop) : Option (Maquina σ) → Prop
  | some m => limpio ∧ EnCurso m ∨ ¬ limpio ∧ EnFase m .rota
  | none => ¬ limpio

variable {orden} {li : Linea} {n : ℕ}

theorem interpretar_rota (hm : EnFase m .rota) (h : interpretar E li m = some m') :
    EnFase m' .rota := by
  induction li generalizing m with
  | fin => exact Option.some_inj.1 h ▸ hm
  | indefinida => exact absurd h (by simp [interpretar])
  | llamar p resto ih =>
      rw [interpretar] at h
      split at h
      · next v m₁ hp => exact ih v ((ejecutar_sucede E hp).1 hm) h
      · exact absurd h (by simp)

/-- A line keeps a burst in course exactly when it is clean. -/
theorem balance_interpretar (hm : EnCurso m) :
    Balance (LineaLimpia E li m) (interpretar E li m) := by
  induction li generalizing m with
  | fin => exact Or.inl ⟨trivial, hm⟩
  | indefinida => exact fun h => h
  | llamar p resto ih =>
      rw [LineaLimpia, interpretar]
      cases hp : ejecutar E m p with
      | none =>
          intro h
          have := (ejecutar_isSome_iff E).2 ⟨h.1.registra, h.1.definida⟩
          simp [hp] at this
      | some r =>
          obtain ⟨v, m₁⟩ := r
          rcases (ejecutar_sucede E hp).2 hm with ⟨hlimpia, hm₁⟩ | ⟨hno, hrota⟩
          · have hiff : (LlamadaLimpia E m p ∧ ∀ v' m', some (v, m₁) = some (v', m') →
                LineaLimpia E (resto v') m') ↔ LineaLimpia E (resto v) m₁ := by
              refine ⟨fun h => h.2 v m₁ rfl, fun h => ⟨hlimpia, ?_⟩⟩
              rintro v' m' ⟨⟩
              exact h
            rw [hiff]
            exact ih v hm₁
          · have hno' : ¬ (LlamadaLimpia E m p ∧ ∀ v' m', some (v, m₁) = some (v', m') →
                LineaLimpia E (resto v') m') := fun h => hno h.1
            simp only [hno']
            cases hr : interpretar E (resto v) m₁ with
            | none => exact fun h => h
            | some m' => exact Or.inr ⟨fun h => h, interpretar_rota E hrota hr⟩

/-- The fetch of a line: none is missing exactly when no request is answered with an error. -/
theorem traerProximaInstruccion_spec (m : Maquina σ) :
    (∃ linea, (traerProximaInstruccion E m).1 = some linea ∧
      Fallas m (traerProximaInstruccion E m).2 0) ∨
    (traerProximaInstruccion E m).1 = none ∧
      (traerProximaInstruccion E m).2.errores = m.errores + 1 := by
  rw [traerProximaInstruccion]
  split
  · next data m₁ h₁ =>
      rw [proximaLineaDeCodigo]
      split
      · next data₂ m₂ h₂ =>
          exact Or.inl ⟨_, rfl, (fallas_solicitar_ok h₁).trans (fallas_solicitar_ok h₂)⟩
      · next texto m₂ h₂ =>
          have := (fallas_solicitar_ok h₁).trans (fallas_solicitar_error h₂)
          exact Or.inr ⟨rfl, by rw [this.errores]⟩
  · next texto m₁ h₁ => exact Or.inr ⟨rfl, (fallas_solicitar_error h₁).errores⟩

/-- A turn of the loop of the burst. -/
theorem rafagaDesde_succ {linea : List Byte} (hsigue : puedeSeguirEjecutando m = true)
    (hlinea : (traerProximaInstruccion E m).1 = some linea) :
    rafagaDesde E orden (n + 1) m =
      (E.registrarTexto logLevelInfo (registroLinea (sinSalto linea))).bind fun () =>
        (interpretar E (analizadorLinea orden (sinSalto linea)) (trasFetch E m)).bind
          (rafagaDesde E orden n) := by
  rw [rafagaDesde, if_pos hsigue, trasFetch]
  split
  · next linea' m₁ h =>
      rw [h] at hlinea
      obtain rfl := Option.some_inj.1 hlinea
      rw [h]
  · next m₁ h =>
      rw [h] at hlinea
      exact absurd hlinea (by simp)

/-- A missing line is the end of the CPU. -/
theorem rafagaDesde_none (hsigue : puedeSeguirEjecutando m = true)
    (hlinea : (traerProximaInstruccion E m).1 = none) : rafagaDesde E orden (n + 1) m = none := by
  rw [rafagaDesde, if_pos hsigue]
  split
  · next linea m₁ h =>
      rw [h] at hlinea
      exact absurd hlinea (by simp)
  · rfl

theorem sucede_trasFetch {linea : List Byte}
    (hlinea : (traerProximaInstruccion E m).1 = some linea) : Sucede [] m (trasFetch E m) := by
  rcases traerProximaInstruccion_spec E m with ⟨_, -, h⟩ | ⟨h, -⟩
  · exact (h.luego rfl rfl rfl).sucede
  · rw [h] at hlinea
    exact absurd hlinea (by simp)

theorem rafagaDesde_rota (hm : EnFase m .rota) (h : rafagaDesde E orden n m = some m') :
    EnFase m' .rota := by
  induction n generalizing m with
  | zero => exact Option.some_inj.1 h ▸ hm
  | succ n ih =>
      cases hsigue : puedeSeguirEjecutando m with
      | false =>
          rw [rafagaDesde, hsigue] at h
          exact Option.some_inj.1 h ▸ hm
      | true =>
          rcases traerProximaInstruccion_spec E m with ⟨linea, hlinea, -⟩ | ⟨hlinea, -⟩
          · rw [rafagaDesde_succ E hsigue hlinea] at h
            obtain ⟨_, -, h⟩ := Option.bind_eq_some_iff.1 h
            obtain ⟨m₁, h₁, h⟩ := Option.bind_eq_some_iff.1 h
            exact ih (interpretar_rota E (sucede_trasFetch E hlinea _ hm) h₁) h
          · rw [rafagaDesde_none E hsigue hlinea] at h
            exact absurd h (by simp)

/-- A burst stays in course exactly when it is clean. -/
theorem balance_rafagaDesde (hm : EnCurso m) :
    Balance (RafagaLimpia E orden n m) (rafagaDesde E orden n m) := by
  induction n generalizing m with
  | zero => exact Or.inl ⟨trivial, hm⟩
  | succ n ih =>
      cases hsigue : puedeSeguirEjecutando m with
      | false =>
          -- the burst is over before the quantum
          rw [rafagaDesde, hsigue]
          exact Or.inl ⟨fun h => by rw [hsigue] at h; exact Bool.noConfusion h, hm⟩
      | true =>
          rcases traerProximaInstruccion_spec E m with ⟨linea, hlinea, hf⟩ | ⟨hlinea, herr⟩
          · have hm₁ : EnCurso (trasFetch E m) :=
              hm.imp (sucede_trasFetch E hlinea _) (sucede_trasFetch E hlinea _)
            have hbal : Balance
                (LineaLimpia E (analizadorLinea orden (sinSalto linea)) (trasFetch E m))
                (interpretar E (analizadorLinea orden (sinSalto linea)) (trasFetch E m)) :=
              balance_interpretar E hm₁
            rw [rafagaDesde_succ E hsigue hlinea]
            simp only [RafagaLimpia, hsigue, hlinea, hf.errores, Nat.add_zero, Option.some.injEq,
              forall_eq', true_and, forall_const]
            by_cases hregistra : E.RegistraTexto logLevelInfo (registroLinea (sinSalto linea))
            case neg =>
              -- the line does not fit in the buffer, or is no format
              rw [Option.eq_none_iff_forall_ne_some.2 fun u h =>
                hregistra (E.registrarTexto_eq_some_iff.1 h)]
              exact fun h => hregistra h.1
            rw [E.registrarTexto_eq_some_iff.2 hregistra, Option.bind_some]
            simp only [hregistra, true_and]
            cases h₂ : interpretar E (analizadorLinea orden (sinSalto linea)) (trasFetch E m) with
            | none =>
                rw [h₂] at hbal
                exact fun h => hbal h.1
            | some m₂ =>
                rw [h₂] at hbal
                rcases hbal with ⟨hlimpia, hm₂⟩ | ⟨hno, hrota⟩
                · simpa [hlimpia] using ih hm₂
                · -- the line has broken the protocol, and no line can mend it
                  simp only [hno, false_and]
                  rw [Option.bind_some]
                  cases h₃ : rafagaDesde E orden n m₂ with
                  | none => exact fun h => h
                  | some m' => exact Or.inr ⟨fun h => h, rafagaDesde_rota E hrota h₃⟩
          · -- without a line the code goes on with a null pointer
            rw [rafagaDesde_none E hsigue hlinea]
            intro h
            have := (h hsigue).1
            omega

theorem fallas_recargarContexto (m : Maquina σ) : ∃ k, Fallas m (recargarContexto E m) k := by
  obtain ⟨k, -, hk⟩ := fallas_actualizarContexto E
    (m.conInicio (m.estado.pcb.cursorStack - m.estado.pcb.tamanioContexto * 5#32))
  exact ⟨k, hk.antes rfl rfl rfl⟩

/-- What precedes the burst sends one exception for each request answered with an error, and nothing
else. -/
theorem iniciarRafaga_spec (pcb : Pcb) (m : Maquina σ) :
    (iniciarRafaga E pcb m).errores = m.errores + (iniciarRafaga E pcb m).enviados.length ∧
      ∀ u ∈ (iniciarRafaga E pcb m).enviados, esFinDeRafaga u = true := by
  have hrecibir : ∃ k, Fallas { m with enviados := [] } (recibirPcb E pcb m) k := by
    simp only [recibirPcb]
    generalize hm₁ : generarBloqueEtiquetas E _ = m₁
    obtain ⟨k, hk⟩ : ∃ k, Fallas { m with enviados := [] } m₁ k := by
      obtain ⟨k, hk⟩ := fallas_generarBloqueEtiquetas E { m.conPcb pcb with
        enviados := []
        entorno := E.cambioProcesoActivo m.entorno pcb.pid }
      exact ⟨k, hm₁ ▸ hk.antes rfl rfl rfl⟩
    split
    · obtain ⟨k', hk'⟩ := fallas_recargarContexto E m₁
      exact ⟨k + k', hk.trans hk'⟩
    · exact ⟨k, hk⟩
  obtain ⟨k, hk⟩ := hrecibir
  obtain ⟨k', hk'⟩ := fallas_recargarContexto E (recibirPcb E pcb m)
  rw [iniciarRafaga]
  have hf := hk.trans hk'
  obtain ⟨ms, hlen, henv, hms⟩ := hf.enviados
  rw [List.nil_append] at henv
  rw [henv]
  exact ⟨by rw [hf.errores, hlen], hms⟩

/-- The end of the turn: a burst in course ends well, and a broken one does not. -/
theorem enviarPcb_spec (m : Maquina σ) :
    (EnCurso m → ∃ previos u, (enviarPcb E m).enviados = previos ++ [u] ∧
      (∀ v ∈ previos, esFinDeRafaga v = false) ∧ esFinDeRafaga u = true) ∧
    (EnFase m .rota → ¬ ∃ previos u, (enviarPcb E m).enviados = previos ++ [u] ∧
      (∀ v ∈ previos, esFinDeRafaga v = false) ∧ esFinDeRafaga u = true) := by
  have hterminada (h : m.estado.estadoRafaga.terminada = true) : enviarPcb E m = m := by
    rw [enviarPcb]
    cases hr : m.estado.estadoRafaga <;> simp [hr, EstadoRafaga.terminada] at h ⊢
  have hsigue (h : m.estado.estadoRafaga.terminada = false) :
      ∃ u, (enviarPcb E m).enviados = m.enviados ++ [u] ∧ esFinDeRafaga u = true := by
    rw [enviarPcb]
    cases hr : m.estado.estadoRafaga with
    | notificarPorFinRafaga => exact ⟨_, rfl, rfl⟩
    | notificarPorFinPrograma => exact ⟨_, rfl, rfl⟩
    | _ => simp [hr, EstadoRafaga.terminada] at h
  constructor
  · rintro (⟨hno, hter⟩ | ⟨hlog, hter⟩)
    · obtain ⟨u, henv, hu⟩ := hsigue hter
      exact ⟨m.enviados, u, henv, hno, hu⟩
    · rw [hterminada hter]
      exact hlog
  · rintro hrota ⟨previos, u, henv, hno, hu⟩
    -- the machine after the end of the turn would be a closed one, and it is broken
    cases hter : m.estado.estadoRafaga.terminada with
    | true =>
        rw [hterminada hter] at henv
        exact EnCurso.no_rota (Or.inr ⟨⟨previos, u, henv, hno, hu⟩, hter⟩) hrota
    | false =>
        obtain ⟨u', henv', -⟩ := hsigue hter
        obtain ⟨previos', w, siguientes, hlog, hw, -⟩ := hrota
        have heq : m.enviados ++ [u'] = previos ++ [u] := by rw [← henv', henv]
        obtain ⟨rfl, -⟩ := List.append_inj' heq rfl
        have := hno w (by rw [hlog]; simp)
        rw [hw] at this
        exact Bool.noConfusion this

/-- **A burst ends well exactly when its turn is clean**, for every script, every replies of the UMV
and of the kernel and every order of evaluation. -/
theorem terminaBien_iff (E : Entorno σ) (orden : Orden) (pcb : Pcb) (m : Maquina σ) :
    TerminaBien E orden pcb m ↔ CicloLimpio E orden pcb m := by
  obtain ⟨herr, hfin⟩ := iniciarRafaga_spec E pcb m
  have hciclo : TerminaBien E orden pcb m ↔ ∃ m', ejecutarRafaga E orden (iniciarRafaga E pcb m) =
      some m' ∧ ∃ previos u, (enviarPcb E m').enviados = previos ++ [u] ∧
        (∀ v ∈ previos, esFinDeRafaga v = false) ∧ esFinDeRafaga u = true := by
    rw [TerminaBien, ciclo]
    constructor
    · rintro ⟨m', previos, u, h, hlog⟩
      obtain ⟨m₁, h₁, rfl⟩ := Option.map_eq_some_iff.1 h
      exact ⟨m₁, h₁, previos, u, hlog⟩
    · rintro ⟨m₁, h₁, previos, u, hlog⟩
      exact ⟨_, previos, u, by rw [h₁]; rfl, hlog⟩
  rw [hciclo, ejecutarRafaga, CicloLimpio]
  generalize hm₀ : (iniciarRafaga E pcb m).conRafaga .notificarPorFinRafaga = m₀
  have henv₀ : m₀.enviados = (iniciarRafaga E pcb m).enviados := by rw [← hm₀]; rfl
  have hraf₀ : m₀.estado.estadoRafaga.terminada = false := by rw [← hm₀]; rfl
  generalize (iniciarRafaga E pcb m).estado.quantumDeEjecucion.toNat = n
  rcases List.eq_nil_or_concat (iniciarRafaga E pcb m).enviados with hnil | ⟨previos, u, hlog⟩
  · -- no error before the burst: it is open
    have hlimpio : (iniciarRafaga E pcb m).errores = m.errores := by rw [herr, hnil]; rfl
    have hm : EnCurso m₀ := Or.inl ⟨by rw [henv₀, hnil]; simp, hraf₀⟩
    have hbal : Balance (RafagaLimpia E orden n m₀) (rafagaDesde E orden n m₀) :=
      balance_rafagaDesde E hm
    simp only [hlimpio, true_and]
    cases hr : rafagaDesde E orden n m₀ with
    | none =>
        rw [hr] at hbal
        exact iff_of_false (by simp) hbal
    | some m' =>
        rw [hr] at hbal
        rcases hbal with ⟨h, hm'⟩ | ⟨h, hm'⟩
        · exact iff_of_true ⟨m', rfl, (enviarPcb_spec E m').1 hm'⟩ h
        · refine iff_of_false ?_ h
          rintro ⟨m'', ⟨⟩, hlog⟩
          exact (enviarPcb_spec E m').2 hm' hlog
  · -- an exception before the burst: the kernel believes that it is over
    rw [List.concat_eq_append] at hlog
    have hrota : EnFase m₀ .rota :=
      ⟨previos, u, [], by rw [henv₀, hlog], hfin u (by rw [hlog]; simp), Or.inr hraf₀⟩
    refine iff_of_false ?_ ?_
    · rintro ⟨m', hr, hlog'⟩
      exact (enviarPcb_spec E m').2 (rafagaDesde_rota E hrota hr) hlog'
    · rintro ⟨h, -⟩
      rw [herr, hlog, List.length_append, List.length_singleton] at h
      omega

/-! ### The script that faults -/

/-- A burst that ends well sends one ending message. -/
theorem TerminaBien.uno {pcb : Pcb} (h : TerminaBien E orden pcb m) :
    (ciclo E orden pcb m).map (fun m => (m.enviados.filter esFinDeRafaga).length) = some 1 := by
  obtain ⟨m', previos, u, hciclo, henv, hno, hu⟩ := h
  have hprevios : previos.filter esFinDeRafaga = [] :=
    List.filter_eq_nil_iff.2 fun v hv => by simp [hno v hv]
  rw [hciclo, Option.map_some, henv, List.filter_append, hprevios, List.filter_singleton, hu]
  rfl

/-- The instructions of `segfault.ansisop`, and where each one starts and how long it is. -/
def codigoSegfault : List Byte × List Byte :=
  (bytesDeTexto "variables a\n\tprint *&a+300\nend".toList,
    serializarPalabras [0#32, 12#32, 12#32, 15#32, 27#32, 3#32])

/-- The PCB of `segfault.ansisop`, with its code at `1000`, the index of the code at `2000` and the
stack at `3000`. -/
def pcbSegfault : Pcb where
  pid := 1#32
  segmentoCodigo := 1000#32
  segmentoStack := 3000#32
  cursorStack := 3000#32
  indiceCodigo := 2000#32
  indiceEtiqueta := 0#32
  programCounter := 0#32
  tamanioContexto := 0#32
  tamanioEtiqueta := 0#32
  cantidad_de_funciones := 0#32
  cantidad_de_etiquetas := 0#32

/-- A UMV with the code of `segfault.ansisop`, the index and a stack of 200 bytes, and a kernel that
has another program ready: the CPU takes its PCB as the reply to the question that follows an
exception. -/
def entornoSegfault : Entorno Unit where
  lvl := 0
  solicitar := fun _ sol =>
    (let segmento := if sol.base = 1000#32 then codigoSegfault.1
      else if sol.base = 2000#32 then codigoSegfault.2 else List.replicate 200 0#8
    if sol.offset.toNat + sol.tamanio.toNat ≤ segmento.length then
      .ok ((segmento.drop sol.offset.toNat).take sol.tamanio.toNat)
    else .error "segmentation_fault".toList, ())
  almacenar := fun _ st =>
    (if st.offset.toNat + st.tamanio.toNat ≤ 200 then .ok ()
    else .error "segmentation_fault".toList, ())
  cambioProcesoActivo := fun _ _ => ()
  consultar := fun _ _ => (.atendeProceso { pcbSegfault with pid := 2#32 }, ())
  enviar := fun _ _ => ()
  basura := fun _ => (0#32, ())

/-- A CPU before its first PCB, with a quantum of three instructions. -/
def cpuInicial : Maquina Unit where
  estado :=
    { pcb := pcbSegfault
      diccionarioVariables := HashTable.empty 20
      bloqueEtiquetas := []
      inicioContexto := 0#32
      quantumDeEjecucion := 3#32
      estadoRafaga := .notificarPorFinRafaga }
  entorno := ()
  enviados := []
  errores := 0

/-- The read faults, and the same line goes on to print: the kernel gets an exception, a print and
the end of the program, and the last two as if the next program had sent them. -/
theorem no_terminaBien_segfault :
    ¬ TerminaBien entornoSegfault ⟨true, true⟩ pcbSegfault cpuInicial := by
  intro h
  have hdos : (ciclo entornoSegfault ⟨true, true⟩ pcbSegfault cpuInicial).map
      (fun m => (m.enviados.filter esFinDeRafaga).length) = some 2 := by decide +kernel
  rw [h.uno] at hdos
  exact absurd hdos (by decide)

end Ansisop.Cpu
