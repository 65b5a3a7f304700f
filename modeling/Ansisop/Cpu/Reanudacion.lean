/-
**Preemption is transparent.**

When its quantum is over, the PCB of a program goes from the CPU to the kernel, and from there to
the CPU that resumes it.  The dictionary of the variables does not travel: the CPU that resumes the
program loads it again, from the bytes of the current context.  What it loads is what the first CPU
had, because both agree with the same stack.

The contexts of the program have to be left by the primitive that goes with their call.  After a
`finalizar` in a context that has a header of twelve bytes, the dictionary and the stack do not
agree, and the program resumes with other variables.

Main definitions:

* `Ansisop.Cpu.Nuevo`, `Ansisop.Cpu.comenzar` — a program that starts, and a CPU at the start of a
  burst;
* `Ansisop.Cpu.Continua` — **the life of a program**: its actions, and the CPUs that it goes
  through;
* `Ansisop.Cpu.Desalojo` — the trip of a PCB from a CPU to another one, through the kernel.

Main results:

* `Ansisop.Cpu.iniciarRafaga_pila` — a CPU that gets a PCB agrees with the stack of the program;
* `Ansisop.Cpu.Continua.pila` — the agreement is kept for the whole life of the program;
* `Ansisop.Cpu.desalojo_transparente` — **the CPU that resumes the program has the same PCB and the
  same variables**;
* `Ansisop.Cpu.no_transparente_finalizar` — it has not, after a `finalizar` in the wrong context.
-/

import Ansisop.Cpu.Anidamiento
import Ansisop.Kernel.Sistema
import Ansisop.Lib.Runs

set_option relaxedAutoImplicit false
set_option autoImplicit false

namespace Ansisop.Cpu

variable {σ : Type*} {E : Entorno σ} {base : TPuntero} {F : UmvFiel E base} {m m' m₂ : Maquina σ}
  {p : Pila} {pcb : Pcb}

/-! ### A PCB arrives at a CPU -/

theorem errores_le_generarBloqueEtiquetas (m : Maquina σ) :
    m.errores ≤ (generarBloqueEtiquetas E m).errores := by
  obtain ⟨k, hf⟩ := fallas_generarBloqueEtiquetas E m
  exact hf.errores ▸ Nat.le_add_right _ _

theorem errores_le_recargarContexto (m : Maquina σ) :
    m.errores ≤ (recargarContexto E m).errores := by
  obtain ⟨k, hf⟩ := fallas_recargarContexto E m
  exact hf.errores ▸ Nat.le_add_right _ _

/-- The labels have nothing to do with the stack. -/
theorem generarBloqueEtiquetas_spec (herr : (generarBloqueEtiquetas E m).errores = m.errores) :
    (generarBloqueEtiquetas E m).estado.pcb = m.estado.pcb ∧
      (generarBloqueEtiquetas E m).estado.diccionarioVariables = m.estado.diccionarioVariables ∧
      F.bytes (generarBloqueEtiquetas E m) = F.bytes m := by
  rw [generarBloqueEtiquetas] at herr ⊢
  revert herr
  split
  · split
    · next data m₁ h =>
        intro _
        have hest := estado_solicitar h
        have hbytes : F.bytes m₁ = F.bytes m := F.solicitar_bytes h
        exact ⟨congrArg (·.pcb) hest, congrArg (·.diccionarioVariables) hest, hbytes⟩
    · next texto m₁ h =>
        intro herr
        exact (errores_solicitar_ne h herr).elim
  · intro _
    exact ⟨rfl, rfl, rfl⟩

/-- What a CPU must know of a stack to load its current context. -/
structure Cargable (F : UmvFiel E base) (m : Maquina σ) (p : Pila) : Prop where
  segmentoStack : m.estado.pcb.segmentoStack = base
  cursorStack : m.estado.pcb.cursorStack = base + BitVec.ofNat 32 p.tope
  tamanioContexto : m.estado.pcb.tamanioContexto = BitVec.ofNat 32 p.celdas
  tope : p.tope ≤ (F.bytes m).length
  tamanio : (F.bytes m).length < 2 ^ 31
  cabeceras : p.EnMemoria base (F.bytes m)
  diccionario : 0 < m.estado.diccionarioVariables.maxSize

theorem PilaBien.cargable (h : PilaBien F m p) : Cargable F m p :=
  ⟨h.segmentoStack, h.cursorStack, h.tamanioContexto, h.tope, h.tamanio, h.cabeceras,
    h.diccionario.pos⟩

/-- The PCB, the bytes and the size of the dictionary are all that matters. -/
theorem Cargable.congr (h : Cargable F m p) (hpcb : m'.estado.pcb = m.estado.pcb)
    (hbytes : F.bytes m' = F.bytes m) (hdic : 0 < m'.estado.diccionarioVariables.maxSize) :
    Cargable F m' p := by
  obtain ⟨hseg, hcursor, htam, htope, hlargo, hcab, -⟩ := h
  rw [← hpcb] at hseg hcursor htam
  rw [← hbytes] at htope hlargo hcab
  exact ⟨hseg, hcursor, htam, htope, hlargo, hcab, hdic⟩

/-- **Loading the current context from the PCB alone.** -/
theorem Cargable.recargar (h : Cargable F m p)
    (herr : (recargarContexto E m).errores = m.errores) :
    PilaBien F (recargarContexto E m) p ∧ F.bytes (recargarContexto E m) = F.bytes m ∧
      (recargarContexto E m).estado.pcb = m.estado.pcb := by
  have hinicio : m.estado.pcb.cursorStack - m.estado.pcb.tamanioContexto * 5#32 =
      base + BitVec.ofNat 32 p.inicio := by
    have heq := p.tope_eq
    have htope := h.tope
    have htam := h.tamanio
    rw [h.cursorStack, h.tamanioContexto, heq]
    bv_omega
  obtain ⟨hpila, hbytes, hpcb, -⟩ := actualizarContexto_pila (F := F) (p := p)
    (m := m.conInicio (m.estado.pcb.cursorStack - m.estado.pcb.tamanioContexto * 5#32))
    h.segmentoStack h.cursorStack hinicio h.tope h.tamanio h.cabeceras h.diccionario herr
  refine ⟨hpila, hbytes, ?_⟩
  rw [recargarContexto, hpcb, ← h.tamanioContexto]
  rfl

/-- **A CPU that gets the PCB of a program agrees with its stack**, if it gets no error for an
answer, and has the PCB as it came. -/
theorem iniciarRafaga_pila
    (h : Cargable F { m.conPcb pcb with entorno := E.cambioProcesoActivo m.entorno pcb.pid } p)
    (herr : (iniciarRafaga E pcb m).errores = m.errores) :
    PilaBien F (iniciarRafaga E pcb m) p ∧ (iniciarRafaga E pcb m).estado.pcb = pcb ∧
      F.bytes (iniciarRafaga E pcb m) = F.pila (E.cambioProcesoActivo m.entorno pcb.pid) := by
  -- `recibirPcb` up to the labels
  generalize hm₁ : ({ m.conPcb pcb with
    enviados := []
    entorno := E.cambioProcesoActivo m.entorno pcb.pid } : Maquina σ) = m₁
  have h₁ : Cargable F m₁ p := by
    subst hm₁
    exact h.congr rfl rfl h.diccionario
  have hpcb₁ : m₁.estado.pcb = pcb := by
    subst hm₁
    rfl
  have hbytes₁ : F.bytes m₁ = F.pila (E.cambioProcesoActivo m.entorno pcb.pid) := by
    subst hm₁
    rfl
  have herr₁ : m₁.errores = m.errores := by
    subst hm₁
    rfl
  have hrecibir : recibirPcb E pcb m =
      if 0#32 < (generarBloqueEtiquetas E m₁).estado.pcb.tamanioContexto then
        recargarContexto E (generarBloqueEtiquetas E m₁) else generarBloqueEtiquetas E m₁ := by
    subst hm₁
    rfl
  have hle₁ := errores_le_generarBloqueEtiquetas (E := E) m₁
  have hle₂ := errores_le_recargarContexto (E := E) (recibirPcb E pcb m)
  rw [iniciarRafaga] at herr ⊢
  have hle₃ : (generarBloqueEtiquetas E m₁).errores ≤ (recibirPcb E pcb m).errores := by
    rw [hrecibir]
    split
    · exact errores_le_recargarContexto _
    · exact le_rfl
  obtain ⟨hpcb₂, hdic₂, hbytes₂⟩ := generarBloqueEtiquetas_spec (F := F) (m := m₁) (by omega)
  have h₂ : Cargable F (generarBloqueEtiquetas E m₁) p :=
    h₁.congr hpcb₂ hbytes₂ (hdic₂ ▸ h₁.diccionario)
  -- the context, if it is not empty, and again
  obtain ⟨h₃, hpcb₃, hbytes₃⟩ : Cargable F (recibirPcb E pcb m) p ∧
      (recibirPcb E pcb m).estado.pcb = (generarBloqueEtiquetas E m₁).estado.pcb ∧
      F.bytes (recibirPcb E pcb m) = F.bytes (generarBloqueEtiquetas E m₁) := by
    have herr₂ : (recibirPcb E pcb m).errores = (generarBloqueEtiquetas E m₁).errores := by omega
    rw [hrecibir] at herr₂ ⊢
    split at herr₂
    · rename_i hpos
      rw [if_pos hpos]
      obtain ⟨hpila, hbytes, hpcb⟩ := h₂.recargar herr₂
      exact ⟨hpila.cargable, hpcb, hbytes⟩
    · rename_i hpos
      rw [if_neg hpos]
      exact ⟨h₂, rfl, rfl⟩
  obtain ⟨hpila, hbytes, hpcb⟩ := h₃.recargar (by omega)
  refine ⟨hpila, ?_, ?_⟩
  · rw [hpcb, hpcb₃, hpcb₂, hpcb₁]
  · rw [hbytes, hbytes₃, hbytes₂, hbytes₁]

/-! ### The life of a program -/

/-- A CPU at the start of a burst: `recibirPcb`, the context, and the state of the burst. -/
def comenzar (E : Entorno σ) (pcb : Pcb) (m : Maquina σ) : Maquina σ :=
  (iniciarRafaga E pcb m).conRafaga .notificarPorFinRafaga

/-- **A program that starts**: its stack is empty.  The CPU gets no error for an answer. -/
structure Nuevo (F : UmvFiel E base) (pcb : Pcb) (m : Maquina σ) : Prop where
  segmentoStack : pcb.segmentoStack = base
  cursorStack : pcb.cursorStack = base
  tamanioContexto : pcb.tamanioContexto = 0#32
  tamanio : (F.pila (E.cambioProcesoActivo m.entorno pcb.pid)).length < 2 ^ 31
  diccionario : 0 < m.estado.diccionarioVariables.maxSize
  errores : (iniciarRafaga E pcb m).errores = m.errores

/-- The UMV keeps the bytes of the stack for another CPU, which has a dictionary. -/
structure Guarda (F : UmvFiel E base) (m m₂ : Maquina σ) : Prop where
  bytes : F.pila (E.cambioProcesoActivo m₂.entorno m.estado.pcb.pid) = F.bytes m
  diccionario : 0 < m₂.estado.diccionarioVariables.maxSize

/-- **The life of a program**, with its stack: it makes a permitted action, or a CPU, the same one
or another one, starts a burst with its PCB.  No request is answered with an error. -/
inductive Continua (F : UmvFiel E base) :
    Maquina σ × Pila → Option Accion → Maquina σ × Pila → Prop
  | accion {m m' : Maquina σ} {p : Pila} {a : Accion} (hpermite : p.PermiteAccion base a)
      (hpaso : a.paso E m = some m') (herr : m'.errores = m.errores) :
      Continua F (m, p) (some a) (m', p.trasAccion m.estado.pcb.programCounter a)
  | rafaga {m m₂ : Maquina σ} {p : Pila} (hguarda : Guarda F m m₂)
      (herr : (iniciarRafaga E m.estado.pcb m₂).errores = m₂.errores) :
      Continua F (m, p) none (comenzar E m.estado.pcb m₂, p)

theorem PilaBien.conRafaga (h : PilaBien F m p) (r : EstadoRafaga) : PilaBien F (m.conRafaga r) p :=
  h.quieta ⟨rfl, rfl, rfl, rfl, rfl⟩

theorem Nuevo.pila (h : Nuevo F pcb m) : PilaBien F (comenzar E pcb m) (.base 0) := by
  refine (iniciarRafaga_pila ?_ h.errores).1.conRafaga _
  refine ⟨h.segmentoStack, ?_, h.tamanioContexto, Nat.zero_le _, h.tamanio, trivial, h.diccionario⟩
  exact h.cursorStack.trans (BitVec.add_zero base).symm

/-- Another CPU can load the context of the program. -/
theorem Guarda.cargable (h : PilaBien F m p) (hg : Guarda F m m₂) :
    Cargable F { m₂.conPcb m.estado.pcb with
      entorno := E.cambioProcesoActivo m₂.entorno m.estado.pcb.pid } p :=
  h.cargable.congr rfl hg.bytes hg.diccionario

/-- **The agreement with the stack is kept for the whole life of the program.** -/
theorem Continua.pila {tr : List (Option Accion)} {x y : Maquina σ × Pila}
    (hrun : Lts.Run (Continua F) x tr y) (h : PilaBien F x.1 x.2) : PilaBien F y.1 y.2 := by
  refine Lts.Run.invariant (I := fun x => PilaBien F x.1 x.2) ?_ hrun h
  rintro _ _ _ hx (⟨hpermite, hpaso, herr⟩ | ⟨hguarda, herr⟩)
  · exact (paso_pila hx hpermite hpaso herr).1
  · exact (iniciarRafaga_pila (hguarda.cargable hx) herr).1.conRafaga _

/-- Actions that are permitted, one after the other. -/
def PermitenTodas (base : TPuntero) : List Accion → Pila → Prop
  | [], _ => True
  | a :: as, p => p.PermiteAccion base a ∧ ∀ pc, PermitenTodas base as (p.trasAccion pc a)

/-- An execution without errors is part of the life of the program. -/
theorem continua_of_ejecutarTodas {as : List Accion} (has : PermitenTodas base as p)
    (h : ejecutarTodas E as m = some m') (herr : m'.errores = m.errores) :
    ∃ p', Lts.Run (Continua F) (m, p) (as.map some) (m', p') := by
  induction as generalizing m p with
  | nil =>
      obtain rfl := Option.some_inj.1 h
      exact ⟨p, Lts.Run.nil⟩
  | cons a as ih =>
      obtain ⟨m₁, h₁, h⟩ := Option.bind_eq_some_iff.1 h
      have hle := errores_le_paso h₁
      have hle' := errores_le_ejecutarTodas h
      obtain ⟨p', hrun⟩ := ih (has.2 m.estado.pcb.programCounter) h (by omega)
      exact ⟨p', (Lts.Run.single (Continua.accion has.1 h₁ (by omega))).trans hrun⟩

/-! ### The trip of a PCB -/

/-- The PCB that arrives, when it is sent as bytes. -/
def recibido (pcb : Pcb) : Pcb := deserializarPcb (serializarPcb pcb)

/-- **The trip of the PCB of a program whose quantum is over**: the CPU sends it to the kernel with
`notificarPorFinRafaga`, `recargarReady` stores it, and the kernel sends it with `atendeProceso` to
the CPU that resumes the program.  The UMV keeps the bytes of the stack, and answers no request with
an error. -/
structure Desalojo (F : UmvFiel E base) (m : Maquina σ) where
  pcb : Pcb
  envia : enviarPcb E m = m.enviarAKernel E (.notificarPorFinRafaga pcb)
  comun : Kernel.Comun
  programa : Kernel.Programa
  comun' : Kernel.Comun
  recarga : Kernel.recargarReady comun (recibido pcb) = some (programa, comun')
  cpu : Maquina σ
  guarda : Guarda F (enviarPcb E m) cpu
  errores : (iniciarRafaga E (recibido (comun'.pcb programa)) cpu).errores = cpu.errores

/-- The CPU that resumes the program, after `recibirPcb` and the context. -/
def Desalojo.reanudada (d : Desalojo F m) : Maquina σ :=
  iniciarRafaga E (recibido (d.comun'.pcb d.programa)) d.cpu

theorem recibido_eq (pcb : Pcb) : recibido pcb = pcb := deserializarPcb_serializarPcb pcb

/-- What the CPU sends is its PCB. -/
theorem pcb_enviado (h : enviarPcb E m = m.enviarAKernel E (.notificarPorFinRafaga pcb)) :
    pcb = m.estado.pcb ∧ (enviarPcb E m).estado.pcb = m.estado.pcb := by
  refine ⟨?_, by rw [h]; rfl⟩
  have henv := congrArg (·.enviados) h
  rw [enviarPcb] at henv
  split at henv
  · simpa [Maquina.enviarAKernel] using henv.symm
  · simp [Maquina.enviarAKernel] at henv
  · simp [Maquina.enviarAKernel] at henv

/-- The kernel sends back the PCB that it got. -/
theorem Desalojo.pcb_eq (d : Desalojo F m) :
    recibido (d.comun'.pcb d.programa) = (enviarPcb E m).estado.pcb := by
  rw [recibido_eq, Kernel.pcb_recargarReady d.recarga, recibido_eq, (pcb_enviado d.envia).1,
    (pcb_enviado d.envia).2]

theorem Desalojo.reanudada_eq (d : Desalojo F m) :
    d.reanudada = iniciarRafaga E m.estado.pcb d.cpu := by
  rw [Desalojo.reanudada, d.pcb_eq, (pcb_enviado d.envia).2]

/-- A kernel that executes one program. -/
def comunCon (pcb : Pcb) : Kernel.Comun :=
  { (Kernel.inicial ⟨[], [], 1⟩).comun with pcb := fun _ => pcb, listaExec := [0] }

/-- A CPU whose quantum is over can send its PCB to any CPU for which the UMV keeps the stack. -/
def Desalojo.hacia (cpu : Maquina σ) (hraf : m.estado.estadoRafaga = .notificarPorFinRafaga)
    (guarda : Guarda F (enviarPcb E m) cpu)
    (herr : (iniciarRafaga E m.estado.pcb cpu).errores = cpu.errores) : Desalojo F m where
  pcb := m.estado.pcb
  envia := by rw [enviarPcb, hraf]
  comun := comunCon m.estado.pcb
  programa := 0
  comun' :=
    { comunCon m.estado.pcb with
      pcb := Function.update (fun _ => m.estado.pcb) 0 m.estado.pcb
      listaExec := []
      listaReady := [some 0]
      productorConsumidor := 1 }
  recarga := by
    rw [recibido_eq]
    simp [Kernel.recargarReady, Kernel.quitarExec, Kernel.escribirPcb,
      Kernel.agregarReady, comunCon, Kernel.inicial]
  cpu := cpu
  guarda := guarda
  errores := by
    rw [recibido_eq]
    simpa using herr

/-! ### A program that is cut inside a call -/

/-- A program with its stack in the segment `16`, whose first instruction is the number 18. -/
def pcbNuevo : Pcb :=
  { pcbSegfault with segmentoStack := 16#32, cursorStack := 16#32, programCounter := 18#32 }

/-- A CPU that starts with the program. -/
def cpuNueva : Maquina (Mundo Unit) := comenzar (entornoUmv nucleoContinuar) pcbNuevo maquinaInicial

/-- The CPU after some actions. -/
def cortada (as : List Accion) : Maquina (Mundo Unit) :=
  (ejecutarTodas (entornoUmv nucleoContinuar) as cpuNueva).getD cpuNueva

/-- Another CPU, which has been working for the process `2`. -/
def otraCpu (m : Maquina (Mundo Unit)) : Maquina (Mundo Unit) :=
  { maquinaInicial with
    entorno := { (enviarPcb (entornoUmv nucleoContinuar) m).entorno with procesoActivo := 2#32 } }

/-- `variables a`, then `a <- f`, and the body of `f` defines `b`. -/
def accionesDentro : List Accion :=
  [.primitiva (.definirVariable 97#8), .primitiva (.llamarConRetorno "f".toList 17#32),
    .primitiva (.definirVariable 98#8)]

/-- `variables a`, then `a = 1633771873`, whose bytes are four letters `a`, and `a <- f`; the body
of `f` ends with `end`. -/
def accionesMezcladas : List Accion :=
  [.primitiva (.definirVariable 97#8), .primitiva (.asignar 17#32 1633771873#32),
    .primitiva (.llamarConRetorno "f".toList 17#32), .primitiva .finalizar]

theorem nuevo_pcbNuevo : Nuevo (fielUmv nucleoContinuar 16#32) pcbNuevo maquinaInicial where
  segmentoStack := rfl
  cursorStack := rfl
  tamanioContexto := rfl
  tamanio := by decide
  diccionario := by decide
  errores := by decide +kernel

/-- What is to be evaluated about some actions of the program: they run without errors, and the PCB
can go to the other CPU. -/
structure Corta (as : List Accion) : Prop where
  corre : (ejecutarTodas (entornoUmv nucleoContinuar) as cpuNueva).isSome = true
  errores : (cortada as).errores = cpuNueva.errores
  rafaga : (cortada as).estado.estadoRafaga = .notificarPorFinRafaga
  activo : (cortada as).entorno.procesoActivo = (cortada as).estado.pcb.pid
  reanuda : (iniciarRafaga (entornoUmv nucleoContinuar) (cortada as).estado.pcb
    (otraCpu (cortada as))).errores = 0

theorem Corta.ejecutarTodas_eq {as : List Accion} (h : Corta as) :
    ejecutarTodas (entornoUmv nucleoContinuar) as cpuNueva = some (cortada as) := by
  obtain ⟨m, hm⟩ := Option.isSome_iff_exists.1 h.corre
  rw [cortada, hm, Option.getD_some]

/-- The trip to the other CPU. -/
def Corta.desalojo {as : List Accion} (h : Corta as) :
    Desalojo (fielUmv nucleoContinuar 16#32) (cortada as) :=
  Desalojo.hacia (otraCpu (cortada as)) h.rafaga
    { bytes := by
        have henvia : enviarPcb (entornoUmv nucleoContinuar) (cortada as) =
            (cortada as).enviarAKernel (entornoUmv nucleoContinuar)
              (.notificarPorFinRafaga (cortada as).estado.pcb) := by
          rw [enviarPcb, h.rafaga]
        rw [otraCpu, henvia]
        change (Mundo.mk (cortada as).entorno.memoria (cortada as).estado.pcb.pid _).segmento
          16#32 =
          (Mundo.mk (cortada as).entorno.memoria (cortada as).entorno.procesoActivo
            _).segmento 16#32
        rw [h.activo]
      diccionario := (by decide : 0 < maquinaInicial.estado.diccionarioVariables.maxSize) }
    h.reanuda

theorem corta_dentro : Corta accionesDentro :=
  ⟨by decide +kernel, by decide +kernel, by decide +kernel, by decide +kernel, by decide +kernel⟩

theorem corta_mezcladas : Corta accionesMezcladas :=
  ⟨by decide +kernel, by decide +kernel, by decide +kernel, by decide +kernel, by decide +kernel⟩

theorem permitenTodas_dentro : PermitenTodas 16#32 accionesDentro (.base 0) :=
  ⟨trivial, fun _ => ⟨⟨1, ⟨0, by decide, rfl⟩, rfl⟩, fun _ => ⟨trivial, fun _ => trivial⟩⟩⟩

/-! ### Preemption is transparent -/

/-- **Preemption is transparent.**  Wherever the quantum cuts a program, at any moment of its life,
the CPU that resumes it has the same PCB, and a dictionary that maps every name to the same
address. -/
theorem desalojo_transparente (F : UmvFiel E base) (hnuevo : Nuevo F pcb m₂)
    {tr : List (Option Accion)}
    (hrun : Lts.Run (Continua F) (comenzar E pcb m₂, .base 0) tr (m, p)) (d : Desalojo F m) :
    d.reanudada.estado.pcb = m.estado.pcb ∧
      ∀ nombre, dictionaryGet d.reanudada.estado.diccionarioVariables nombre =
        dictionaryGet m.estado.diccionarioVariables nombre := by
  have h : PilaBien F m p := Continua.pila hrun hnuevo.pila
  have henviada : PilaBien F (enviarPcb E m) p := by
    rw [d.envia]
    exact h.quieta ⟨rfl, rfl, rfl, rfl, F.enviar _ _⟩
  have herr := d.errores
  unfold Desalojo.reanudada
  rw [d.pcb_eq] at herr ⊢
  obtain ⟨hpila, hpcb, hbytes⟩ := iniciarRafaga_pila (d.guarda.cargable henviada) herr
  refine ⟨hpcb.trans (pcb_enviado d.envia).2, fun nombre => ?_⟩
  refine dictionaryGet_eq h hpila (fun i _ => ?_) nombre
  have hmismos : F.bytes (enviarPcb E m) = F.bytes m := by
    rw [d.envia]
    exact F.enviar _ _
  rw [hbytes, d.guarda.bytes, hmismos]

/-- In the body of a call with a result, the variables are those of the body. -/
theorem desalojo_transparente_dentro :
    corta_dentro.desalojo.reanudada.estado.pcb = (cortada accionesDentro).estado.pcb ∧
      ∀ nombre, dictionaryGet corta_dentro.desalojo.reanudada.estado.diccionarioVariables nombre =
        dictionaryGet (cortada accionesDentro).estado.diccionarioVariables nombre := by
  obtain ⟨p, hrun⟩ := continua_of_ejecutarTodas (F := fielUmv nucleoContinuar 16#32)
    permitenTodas_dentro corta_dentro.ejecutarTodas_eq corta_dentro.errores
  exact desalojo_transparente (fielUmv nucleoContinuar 16#32) nuevo_pcbNuevo hrun
    corta_dentro.desalojo

/-- The assignments of some actions go to variables that are defined; `dirs` are the addresses of
the variables defined so far. -/
def AsignanVariables (E : Entorno σ) : List TPuntero → List Accion → Maquina σ → Prop
  | _, [], _ => True
  | dirs, a :: as, m =>
      (∀ dir valor, a = .primitiva (.asignar dir valor) →
        dir ∈ dirs ∧ dir < m.estado.pcb.cursorStack) ∧
      ∀ m', a.paso E m = some m' →
        AsignanVariables E
          (match a with
          | .primitiva (.definirVariable _) => (m.estado.pcb.cursorStack + 1#32) :: dirs
          | _ => dirs) as m'

theorem asignanVariables_mezcladas :
    AsignanVariables (entornoUmv nucleoContinuar) [] accionesMezcladas cpuNueva := by
  have hcursor : cpuNueva.estado.pcb.cursorStack = 16#32 := by decide +kernel
  have hcursor' : (Accion.paso (entornoUmv nucleoContinuar) cpuNueva
      (.primitiva (.definirVariable 97#8))).map (·.estado.pcb.cursorStack) = some 21#32 := by
    decide +kernel
  refine ⟨by simp, fun m₁ h₁ =>
    ⟨?_, fun m₂ _ => ⟨by simp, fun m₃ _ => ⟨by simp, fun m₄ _ => trivial⟩⟩⟩⟩
  rintro dir valor ⟨⟩
  rw [h₁, Option.map_some, Option.some.injEq] at hcursor'
  rw [hcursor', hcursor]
  decide

/-- **A context left by the wrong primitive**: after a `finalizar` in the body of a call with a
result, the CPU that resumes the program has the variable `a` at another address. -/
theorem no_transparente_finalizar : ¬ ∀ (σ : Type) (E : Entorno σ) (base : TPuntero)
    (F : UmvFiel E base) (pcb : Pcb) (m₂ m : Maquina σ) (as : List Accion),
    Nuevo F pcb m₂ → AsignanVariables E [] as (comenzar E pcb m₂) →
    ejecutarTodas E as (comenzar E pcb m₂) = some m → m.errores = (comenzar E pcb m₂).errores →
    ∀ d : Desalojo F m, d.reanudada.estado.pcb = m.estado.pcb ∧
      ∀ nombre, dictionaryGet d.reanudada.estado.diccionarioVariables nombre =
        dictionaryGet m.estado.diccionarioVariables nombre := by
  intro hclaim
  obtain ⟨-, hdic⟩ := hclaim _ _ _ (fielUmv nucleoContinuar 16#32) pcbNuevo maquinaInicial
    (cortada accionesMezcladas) accionesMezcladas nuevo_pcbNuevo asignanVariables_mezcladas
    corta_mezcladas.ejecutarTodas_eq corta_mezcladas.errores corta_mezcladas.desalojo
  have hantes : dictionaryGet (cortada accionesMezcladas).estado.diccionarioVariables 97#8 =
      some 19#32 := by decide +kernel
  have hdespues : dictionaryGet (iniciarRafaga (entornoUmv nucleoContinuar)
      (cortada accionesMezcladas).estado.pcb
      (otraCpu (cortada accionesMezcladas))).estado.diccionarioVariables 97#8 = some 21#32 := by
    decide +kernel
  have h := hdic 97#8
  rw [Desalojo.reanudada_eq, hantes] at h
  exact absurd (hdespues.symm.trans h) (by decide)

end Ansisop.Cpu
