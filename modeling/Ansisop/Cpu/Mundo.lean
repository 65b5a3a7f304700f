/-
**A CPU in front of the UMV.**

The abstract memory that the UMV refines, together with any kernel, is an environment for a CPU.  In
it the UMV is faithful: what the CPU stores in the stack of its process is what it reads back.

Main definitions:

* `Ansisop.Cpu.Mundo`, `Ansisop.Cpu.entornoUmv` — the abstract memory, the active process and a
  kernel.

Main results:

* `Ansisop.Cpu.fielUmv` — **the abstract memory is faithful**, to the stack of the active process.
-/

import Ansisop.Cpu.Pila
import Ansisop.Umv.Abstracta

set_option relaxedAutoImplicit false
set_option autoImplicit false

namespace Ansisop.Cpu

/-- What is around a CPU: the memory of the UMV, the process that the CPU works for, and the
rest. -/
structure Mundo (κ : Type*) where
  memoria : Umv.Abstracta
  procesoActivo : TIdPrograma
  resto : κ

/-- The answers of a kernel, whose state is whatever it is. -/
structure Nucleo (κ : Type*) where
  consultar : κ → MensajeCpu → MensajeKernel × κ
  enviar : κ → MensajeCpu → κ
  basura : κ → U32 × κ

variable {κ : Type*}

/-- **The environment of a CPU with the abstract memory** and a kernel, and everything in the
log. -/
def entornoUmv (K : Nucleo κ) : Entorno (Mundo κ) where
  lvl := 0
  solicitar := fun s sol =>
    (match SegMem.load s.memoria s.procesoActivo sol.base sol.offset.toNat sol.tamanio.toNat with
    | some data => .ok data
    | none => .error "segmentation_fault".toList, s)
  almacenar := fun s st =>
    match SegMem.store s.memoria s.procesoActivo st.base st.offset.toNat st.tamanio.toNat
      st.buffer with
    | some memoria => (.ok (), { s with memoria })
    | none => (.error "segmentation_fault".toList, s)
  cambioProcesoActivo := fun s pid => { s with procesoActivo := pid }
  consultar := fun s mensaje =>
    ((K.consultar s.resto mensaje).1, { s with resto := (K.consultar s.resto mensaje).2 })
  enviar := fun s mensaje => { s with resto := K.enviar s.resto mensaje }
  basura := fun s => ((K.basura s.resto).1, { s with resto := (K.basura s.resto).2 })

/-- The bytes of a segment of the active process. -/
def Mundo.segmento (s : Mundo κ) (base : TPuntero) : List Byte :=
  (s.memoria s.procesoActivo base).getD []

/-- **The abstract memory stores and returns the bytes of the stack.** -/
def fielUmv (K : Nucleo κ) (base : TPuntero) : UmvFiel (entornoUmv K) base where
  pila := fun s => s.segmento base
  solicitar := fun _ _ => rfl
  leer := by
    rintro s sol data rfl h
    simp only [entornoUmv] at h
    split at h
    · next data' hload =>
        obtain rfl := Except.ok.inj h
        rw [SegMem.load] at hload
        split at hload
        · next bs hbs =>
            simp only [Option.ite_none_right_eq_some, Option.some.injEq] at hload
            rw [Mundo.segmento, hbs]
            exact ⟨hload.1, hload.2.symm⟩
        · exact absurd hload (by simp)
    · exact absurd h (by simp)
  escribir := by
    rintro s st rfl h
    simp only [entornoUmv] at h ⊢
    split at h
    · next memoria hstore =>
        obtain ⟨bs, hbs, hle, rfl⟩ := SegMem.store_eq_some hstore
        simp only [Mundo.segmento, hbs, SegMem.create_self, Option.getD_some]
        exact ⟨hle, trivial⟩
    · exact absurd h (by simp)
  consultar := fun _ _ => rfl
  enviar := fun _ _ => rfl
  basura := fun _ => rfl

end Ansisop.Cpu
