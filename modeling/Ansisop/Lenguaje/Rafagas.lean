/-
**Bursts and programs.**

A CPU fetches the text of each statement from the UMV and interprets it.  When the texts are those
of the statements of a program, a burst does what its statements mean; and the PCB that a CPU
receives, with the bytes of the stack, is enough for it to go on.

Main definitions:

* `Ansisop.Lenguaje.Codigo` — the statements and the labels of the program are in the UMV;
* `Ansisop.Lenguaje.Recibe` — a CPU, about to receive the PCB of the program.

Main results:

* `Ansisop.Lenguaje.representa_rafaga` — **a burst does what its statements mean**;
* `Ansisop.Lenguaje.representa_iniciarRafaga` — **the PCB and the bytes of the stack are enough to
  go on**;
* `Ansisop.Lenguaje.representa_ciclo` — **from the reception of a PCB to the end of its burst**.
-/

import Ansisop.Lenguaje.Simulacion
import Ansisop.Cpu.Reanudacion
import Ansisop.Cpu.Instrucciones

set_option relaxedAutoImplicit false
set_option autoImplicit false

namespace Ansisop.Lenguaje

open Cpu (Entorno Nucleo Maquina PilaBien Pila Orden DelPrograma traerProximaInstruccion
  sinSalto trasFetch
  rafagaDesde puedeSeguirEjecutando generarBloqueEtiquetas recargarContexto recibirPcb iniciarRafaga
  ejecutarRafaga enviarPcb ciclo)

open Commons (logLevelInfo)

variable {σ κ : Type*} {E : Entorno σ} {P : Guion κ} {S : Servicio E P.nucleo P.pcb.segmentoStack}
  {m m' : Maquina σ} {e e' : Ejecucion κ} {orden : Orden}

/-- **The statements and the labels of the program are in the UMV**, for as long as its stack is,
and the CPU can log the statements. -/
structure Codigo (S : Servicio E P.nucleo P.pcb.segmentoStack) (orden : Orden) : Prop where
  traer : ∀ m : Maquina σ, S.vale m.entorno → DelPrograma P.pcb m.estado.pcb →
    ∀ s, P.sentencia m.estado.pcb.programCounter = some s →
      ∃ bytes, (traerProximaInstruccion E m).1 = some bytes ∧
        EscribeSentencia s (Cpu.stringTrim (sinSalto bytes)) ∧
          Cpu.Registrable E orden (sinSalto bytes)
  etiquetas : ∀ m : Maquina σ, S.vale m.entorno → 0#32 < P.pcb.tamanioEtiqueta →
    ∃ data, (m.solicitar E ⟨P.pcb.indiceEtiqueta, 0#32, P.pcb.tamanioEtiqueta⟩).1 = .ok data ∧
      data.take P.pcb.tamanioEtiqueta.toNat = P.bloqueEtiquetas.take P.pcb.tamanioEtiqueta.toNat

/-! ### A burst -/

/-- The fetch of a statement leaves everything as it was. -/
theorem interna_traer (hv : S.vale m.entorno) {bytes : List Byte}
    (h : (traerProximaInstruccion E m).1 = some bytes) :
    (traerProximaInstruccion E m).2.estado = m.estado ∧
      S.bytes (traerProximaInstruccion E m).2 = S.bytes m ∧
      Interna S m (traerProximaInstruccion E m).2 := by
  rw [traerProximaInstruccion] at h ⊢
  split
  · next data m₁ h₁ =>
      rw [h₁] at h
      obtain ⟨hest, hbytes, hint⟩ := interna_solicitar (S := S) hv h₁
      simp only [Cpu.proximaLineaDeCodigo] at h ⊢
      split
      · next data' m₂ h₂ =>
          obtain ⟨hest', hbytes', hint'⟩ := interna_solicitar (S := S) hint.vale h₂
          exact ⟨hest'.trans hest, hbytes'.trans hbytes, hint.trans hint'⟩
      · next texto m₂ h₂ =>
          rw [h₂] at h
          cases h
  · next texto m₁ h₁ =>
      rw [h₁] at h
      cases h

theorem representa_trasFetch (h : Representa S m e) {bytes : List Byte}
    (hb : (traerProximaInstruccion E m).1 = some bytes) :
    Representa S (trasFetch E m) (e.conContador (e.programCounter + 1#32)) ∧
      (trasFetch E m).errores = m.errores := by
  obtain ⟨hest, hbytes, hint⟩ := interna_traer (S := S) h.vale hb
  have hint' : Interna S m (trasFetch E m) :=
    { hint with pcb := by simp only [trasFetch, Maquina.conPcb, hest] }
  refine ⟨?_, hint'.errores⟩
  change Representa S _ ((e.conContextos e.contextos).conContador (e.programCounter + 1#32))
  refine h.interna hint' ?_ ?_ (congrArg List.length hbytes) ?_
  · refine h.pila.quieta ⟨?_, ?_, ?_, ?_, hbytes⟩
    · simp only [trasFetch, Maquina.conPcb, hest]
    · simp only [trasFetch, Maquina.conPcb, hest]
    · simp only [trasFetch, Maquina.conPcb, hest]
    · simp only [trasFetch, Maquina.conPcb, hest]
  · change e.contextos.EnBytes (S.bytes (traerProximaInstruccion E m).2)
    rw [hbytes]
    exact h.valores
  · simp only [trasFetch, Maquina.conPcb, hest, h.programCounter]

theorem Representa.delPrograma (h : Representa S m e) : DelPrograma P.pcb m.estado.pcb := by
  rw [h.pcb]
  exact ⟨rfl, rfl, rfl, rfl⟩

/-- **A statement does what it means.** -/
theorem representa_paso (hcod : Codigo S orden) (h : Representa S m e)
    (he : P.paso orden e = some e') :
    ∃ bytes m', (traerProximaInstruccion E m).1 = some bytes ∧
      E.RegistraTexto logLevelInfo (Cpu.registroLinea (sinSalto bytes)) ∧
      Cpu.interpretar E (Cpu.analizadorLinea orden (sinSalto bytes)) (trasFetch E m) = some m' ∧
      Representa S m' e' ∧ m'.errores = m.errores := by
  rw [Guion.paso, Option.bind_eq_some_iff] at he
  obtain ⟨s, hs, he⟩ := he
  rw [← h.programCounter] at hs
  obtain ⟨bytes, hbytes, hescribe, hregistra⟩ := hcod.traer m h.vale h.delPrograma s hs
  obtain ⟨htras, herr⟩ := representa_trasFetch h hbytes
  have hlinea := analizadorLinea_escribe orden hescribe rfl
  have hllamadas := hregistra.llamadas
  rw [hlinea] at hllamadas
  obtain ⟨m', hint, hrep, herr'⟩ := representa_interpretar htras hllamadas he
  rw [← hlinea] at hint
  exact ⟨bytes, m', hbytes, hregistra.linea, hint, hrep, herr'.trans herr⟩

theorem puedeSeguirEjecutando_iff (h : Representa S m e) :
    puedeSeguirEjecutando m = true ↔ e.rafaga = .notificarPorFinRafaga := by
  rw [puedeSeguirEjecutando, h.rafaga]
  cases e.rafaga <;> decide

/-- **A burst does what its statements mean.** -/
theorem representa_rafaga (hcod : Codigo S orden) (h : Representa S m e) {n : ℕ}
    (he : P.rafaga orden n e = some e') :
    ∃ m', rafagaDesde E orden n m = some m' ∧ Representa S m' e' ∧ m'.errores = m.errores := by
  induction n generalizing m e with
  | zero =>
      obtain rfl := Option.some_inj.1 he
      exact ⟨m, rfl, h, rfl⟩
  | succ n ih =>
      rw [Guion.rafaga] at he
      split at he
      · next hsigue =>
          obtain ⟨e₁, hpaso, he⟩ := Option.bind_eq_some_iff.1 he
          obtain ⟨bytes, m₁, hbytes, hregistra, hint, hrep, herr⟩ := representa_paso hcod h hpaso
          obtain ⟨m', hrafaga, hrep', herr'⟩ := ih hrep he
          refine ⟨m', ?_, hrep', herr'.trans herr⟩
          rw [Cpu.rafagaDesde_succ E ((puedeSeguirEjecutando_iff h).2 hsigue) hbytes,
            E.registrarTexto_eq_some_iff.2 hregistra, Option.bind_some, hint]
          exact hrafaga
      · next hno =>
          obtain rfl := Option.some_inj.1 he
          refine ⟨m, ?_, h, rfl⟩
          rw [rafagaDesde, if_neg (fun hsigue => hno ((puedeSeguirEjecutando_iff h).1 hsigue))]

/-! ### The reception of a PCB -/

/-- The state of a program at the start of a burst: nothing has been said in it yet. -/
def Ejecucion.alComenzar (e : Ejecucion κ) : Ejecucion κ :=
  { e with rafaga := .notificarPorFinRafaga, enviados := [] }

/-- **A CPU, about to receive the PCB of the program**: once it has told the UMV of the process, the
bytes of the stack hold its contexts. -/
structure Recibe (S : Servicio E P.nucleo P.pcb.segmentoStack) (m : Maquina σ) (e : Ejecucion κ) :
    Prop where
  vale : S.vale (E.cambioProcesoActivo m.entorno P.pcb.pid)
  valores : e.contextos.EnBytes (S.pila (E.cambioProcesoActivo m.entorno P.pcb.pid))
  cabeceras : e.contextos.pila.EnMemoria P.pcb.segmentoStack
    (S.pila (E.cambioProcesoActivo m.entorno P.pcb.pid))
  largo : (S.pila (E.cambioProcesoActivo m.entorno P.pcb.pid)).length = P.tamanioStack
  tope : e.contextos.pila.tope ≤ P.tamanioStack
  tamanio : P.tamanioStack < 2 ^ 31
  resto : S.resto (E.cambioProcesoActivo m.entorno P.pcb.pid) = e.resto
  diccionario : 0 < m.estado.diccionarioVariables.maxSize

/-- **What the labels do not change**: all but their block. -/
structure Prepara (S : Servicio E P.nucleo P.pcb.segmentoStack) (m m' : Maquina σ) : Prop where
  vale : S.vale m'.entorno
  resto : S.resto m'.entorno = S.resto m.entorno
  enviados : m'.enviados = m.enviados
  errores : m'.errores = m.errores
  pcb : m'.estado.pcb = m.estado.pcb
  bytes : S.bytes m' = S.bytes m
  diccionario : m'.estado.diccionarioVariables = m.estado.diccionarioVariables
  etiquetas : m'.estado.bloqueEtiquetas.take P.pcb.tamanioEtiqueta.toNat =
    P.bloqueEtiquetas.take P.pcb.tamanioEtiqueta.toNat

/-- **The labels are brought.** -/
theorem prepara_generarBloqueEtiquetas (hcod : Codigo S orden) (hv : S.vale m.entorno)
    (hpcb : m.estado.pcb = P.pcbDe e) : Prepara S m (generarBloqueEtiquetas E m) := by
  have htam : m.estado.pcb.tamanioEtiqueta = P.pcb.tamanioEtiqueta := by rw [hpcb]; rfl
  have hindice : m.estado.pcb.indiceEtiqueta = P.pcb.indiceEtiqueta := by rw [hpcb]; rfl
  by_cases hpos : 0#32 < P.pcb.tamanioEtiqueta
  · obtain ⟨data, hdata, htake⟩ := hcod.etiquetas m hv hpos
    obtain ⟨m₁, hm₁⟩ :
      ∃ m₁, (m.solicitar E ⟨P.pcb.indiceEtiqueta, 0#32, P.pcb.tamanioEtiqueta⟩).2 = m₁ :=
      ⟨_, rfl⟩
    have hsol : m.solicitar E ⟨P.pcb.indiceEtiqueta, 0#32, P.pcb.tamanioEtiqueta⟩ =
        (.ok data, m₁) :=
      Prod.ext hdata hm₁
    obtain ⟨hest, hbytes, hint⟩ := interna_solicitar (S := S) hv hsol
    have hdef : generarBloqueEtiquetas E m =
        m₁.conEtiquetas (data.take P.pcb.tamanioEtiqueta.toNat) := by
      simp only [generarBloqueEtiquetas, htam, hindice, if_pos hpos, hsol]
    rw [hdef]
    exact {
      vale := hint.vale
      resto := hint.resto
      enviados := hint.enviados
      errores := hint.errores
      pcb := congrArg (·.pcb) hest
      bytes := hbytes
      diccionario := congrArg (·.diccionarioVariables) hest
      etiquetas := by
        change (data.take P.pcb.tamanioEtiqueta.toNat).take P.pcb.tamanioEtiqueta.toNat = _
        rw [List.take_take, Nat.min_self, htake] }
  · have hdef : generarBloqueEtiquetas E m = m := by
      simp only [generarBloqueEtiquetas, htam, if_neg hpos]
    have hcero : P.pcb.tamanioEtiqueta.toNat = 0 := by bv_omega
    rw [hdef]
    exact {
      vale := hv
      resto := rfl
      enviados := rfl
      errores := rfl
      pcb := rfl
      bytes := rfl
      diccionario := rfl
      etiquetas := by rw [hcero, List.take_zero, List.take_zero] }

/-- The context is loaded from the PCB. -/
theorem interna_recargarContexto (hv : S.vale m.entorno) {p : Pila}
    (h : Cpu.Cargable S.toUmvFiel m p) : Interna S m (recargarContexto E m) := by
  have hinicio : m.estado.pcb.cursorStack - m.estado.pcb.tamanioContexto * 5#32 =
      P.pcb.segmentoStack + BitVec.ofNat 32 p.inicio := by
    have heq := p.tope_eq
    have htope := h.tope
    have htam := h.tamanio
    rw [h.cursorStack, h.tamanioContexto, heq]
    bv_omega
  have hint := actualizarContexto_ok (S := S)
    (m := m.conInicio (m.estado.pcb.cursorStack - m.estado.pcb.tamanioContexto * 5#32)) hv
    h.segmentoStack h.cursorStack hinicio h.tope h.tamanio
  exact { hint with pcb := hint.pcb }

/-- **The PCB and the bytes of the stack are enough to go on**, in any CPU. -/
theorem representa_iniciarRafaga (hcod : Codigo S orden) (h : Recibe S m e) :
    Representa S ((iniciarRafaga E (P.pcbDe e) m).conRafaga .notificarPorFinRafaga) e.alComenzar ∧
      (iniciarRafaga E (P.pcbDe e) m).errores = m.errores := by
  obtain ⟨m₁, hm₁⟩ : ∃ m₁ : Maquina σ, m₁ = { m.conPcb (P.pcbDe e) with
      enviados := []
      entorno := E.cambioProcesoActivo m.entorno P.pcb.pid } := ⟨_, rfl⟩
  obtain ⟨m₂, hm₂⟩ : ∃ m₂, m₂ = generarBloqueEtiquetas E m₁ := ⟨_, rfl⟩
  have hpcb₁ : m₁.estado.pcb = P.pcbDe e := by rw [hm₁]; rfl
  have hbytes₁ : S.bytes m₁ = S.pila (E.cambioProcesoActivo m.entorno P.pcb.pid) := by rw [hm₁]; rfl
  have hvale₁ : S.vale m₁.entorno := by rw [hm₁]; exact h.vale
  have hcargable₁ : Cpu.Cargable S.toUmvFiel m₁ e.contextos.pila := by
    refine ⟨by rw [hpcb₁]; rfl, by rw [hpcb₁]; rfl, by rw [hpcb₁]; rfl, ?_, ?_, ?_, ?_⟩
    · rw [hbytes₁, h.largo]
      exact h.tope
    · rw [hbytes₁, h.largo]
      exact h.tamanio
    · rw [hbytes₁]
      exact h.cabeceras
    · rw [hm₁]
      exact h.diccionario
  have hprepara : Prepara S m₁ m₂ := by
    rw [hm₂]
    exact prepara_generarBloqueEtiquetas hcod hvale₁ hpcb₁
  have hcargable₂ : Cpu.Cargable S.toUmvFiel m₂ e.contextos.pila :=
    hcargable₁.congr hprepara.pcb hprepara.bytes
      (by rw [hprepara.diccionario]; exact hcargable₁.diccionario)
  -- the context, if it is not empty, and again
  have hrecibir : Interna S m₂ (recibirPcb E (P.pcbDe e) m) ∧
      Cpu.Cargable S.toUmvFiel (recibirPcb E (P.pcbDe e) m) e.contextos.pila := by
    have hdef : recibirPcb E (P.pcbDe e) m =
        if 0#32 < m₂.estado.pcb.tamanioContexto then recargarContexto E m₂ else m₂ := by
      rw [hm₂, hm₁]
      rfl
    rw [hdef]
    split
    · have hint := interna_recargarContexto (S := S) hprepara.vale hcargable₂
      exact ⟨hint, (hcargable₂.recargar hint.errores).1.cargable⟩
    · exact ⟨⟨hprepara.vale, rfl, rfl, rfl, rfl, rfl, rfl⟩, hcargable₂⟩
  have hint := hrecibir.1.trans (interna_recargarContexto (S := S) hrecibir.1.vale hrecibir.2)
  have herr : (iniciarRafaga E (P.pcbDe e) m).errores = m.errores := by
    refine hint.errores.trans (hprepara.errores.trans ?_)
    rw [hm₁]
    rfl
  have hcargable : Cpu.Cargable S.toUmvFiel { m.conPcb (P.pcbDe e) with
      entorno := E.cambioProcesoActivo m.entorno (P.pcbDe e).pid } e.contextos.pila := by
    refine hcargable₁.congr ?_ ?_ h.diccionario
    · rw [hpcb₁]
      rfl
    · rw [hbytes₁]
      rfl
  obtain ⟨hpila, hpcb, hbytes⟩ := Cpu.iniciarRafaga_pila hcargable herr
  refine ⟨?_, herr⟩
  exact {
    vale := hint.vale
    pila := hpila.conRafaga _
    valores := by
      change e.contextos.EnBytes (S.bytes (iniciarRafaga E (P.pcbDe e) m))
      rw [hbytes]
      exact h.valores
    largo := by
      change (S.bytes (iniciarRafaga E (P.pcbDe e) m)).length = _
      rw [hbytes]
      exact h.largo
    pcb := hpcb
    etiquetas := by
      change (iniciarRafaga E (P.pcbDe e) m).estado.bloqueEtiquetas.take _ = _
      rw [show (iniciarRafaga E (P.pcbDe e) m).estado.bloqueEtiquetas =
        m₂.estado.bloqueEtiquetas from
        hint.etiquetas]
      exact hprepara.etiquetas
    rafaga := rfl
    enviados := by
      refine hint.enviados.trans (hprepara.enviados.trans ?_)
      rw [hm₁]
      rfl
    resto := by
      refine hint.resto.trans (hprepara.resto.trans ?_)
      rw [hm₁]
      exact h.resto }

/-! ### From one PCB to the next -/

theorem quantum_actualizarContexto (m : Maquina σ) :
    (Cpu.actualizarContexto E m).estado.quantumDeEjecucion = m.estado.quantumDeEjecucion := by
  simp only [Cpu.actualizarContexto]
  split
  · next data m₁ h => exact congrArg (·.quantumDeEjecucion) (Cpu.estado_solicitar h)
  · next texto m₁ h => exact congrArg (·.quantumDeEjecucion) (Cpu.estado_solicitar h)

theorem quantum_generarBloqueEtiquetas (m : Maquina σ) :
    (generarBloqueEtiquetas E m).estado.quantumDeEjecucion = m.estado.quantumDeEjecucion := by
  simp only [generarBloqueEtiquetas]
  split
  · split
    · next data m₁ h => exact congrArg (·.quantumDeEjecucion) (Cpu.estado_solicitar h)
    · next texto m₁ h => exact congrArg (·.quantumDeEjecucion) (Cpu.estado_solicitar h)
  · rfl

/-- The quantum is that of the CPU. -/
theorem quantum_iniciarRafaga (pcb : Pcb) (m : Maquina σ) :
    (iniciarRafaga E pcb m).estado.quantumDeEjecucion = m.estado.quantumDeEjecucion := by
  have hrecibir : (recibirPcb E pcb m).estado.quantumDeEjecucion = m.estado.quantumDeEjecucion := by
    simp only [recibirPcb]
    split
    · rw [recargarContexto, quantum_actualizarContexto]
      exact quantum_generarBloqueEtiquetas _
    · exact quantum_generarBloqueEtiquetas _
  rw [iniciarRafaga, recargarContexto, quantum_actualizarContexto]
  exact hrecibir

/-- The end of a burst: the kernel is told, unless it has been told already. -/
def Guion.notificar (P : Guion κ) (e : Ejecucion κ) : Ejecucion κ :=
  match e.rafaga with
  | .notificarPorFinRafaga => e.enviar P.nucleo (.notificarPorFinRafaga (P.pcbDe e))
  | .notificarPorFinPrograma => e.enviar P.nucleo (.notificarPorFinPrograma (P.pcbDe e))
  | _ => e

theorem representa_enviarPcb (h : Representa S m e) :
    Representa S (enviarPcb E m) (P.notificar e) ∧ (enviarPcb E m).errores = m.errores := by
  rw [enviarPcb, Guion.notificar, h.rafaga, ← h.pcb]
  cases e.rafaga with
  | notificarPorFinRafaga => exact ⟨h.enviar _, rfl⟩
  | notificarPorFinPrograma => exact ⟨h.enviar _, rfl⟩
  | _ => exact ⟨h, rfl⟩

/-- **From the reception of a PCB to the end of its burst**: the CPU does what the statements mean,
and says to the kernel what they say. -/
theorem representa_ciclo (hcod : Codigo S orden) (h : Recibe S m e)
    (he : P.rafaga orden m.estado.quantumDeEjecucion.toNat e.alComenzar = some e') :
    ∃ m', ciclo E orden (P.pcbDe e) m = some m' ∧ Representa S m' (P.notificar e') ∧
      m'.errores = m.errores := by
  obtain ⟨hrep, herr⟩ := representa_iniciarRafaga hcod h
  obtain ⟨m₁, hrafaga, hrep₁, herr₁⟩ := representa_rafaga hcod hrep he
  obtain ⟨hfin, herr₂⟩ := representa_enviarPcb hrep₁
  refine ⟨enviarPcb E m₁, ?_, hfin, herr₂.trans (herr₁.trans herr)⟩
  rw [ciclo, ejecutarRafaga, quantum_iniciarRafaga, hrafaga, Option.map_some]

end Ansisop.Lenguaje
