/-
**The messages between the kernel and the CPUs.**

`protocolo.h` names the operations and the structures that they carry, the PCB among them.  This
module gives them as data, and the layout of a PCB in a message, which is the part of the wire
format that the preemption of a program depends on.

Main definitions:

* `Ansisop.Pcb` — `t_pcb`;
* `Ansisop.MensajeCpu`, `Ansisop.MensajeKernel` — what a CPU sends to the kernel, and back;
* `Ansisop.serializarPcb`, `Ansisop.deserializarPcb` — a PCB as bytes.

Main results:

* `Ansisop.deserializarPcb_serializarPcb` — **a PCB survives the trip**, all its fields in place.
-/

import Ansisop.Lib.Words
import Ansisop.Protocolo.Tipos
import Mathlib.Data.List.GetD

set_option relaxedAutoImplicit false
set_option autoImplicit false

namespace Ansisop

/-- `t_pcb`. -/
@[ext]
structure Pcb where
  pid : U32
  segmentoCodigo : TPuntero
  segmentoStack : TPuntero
  cursorStack : TPuntero
  indiceCodigo : TPuntero
  indiceEtiqueta : TPuntero
  programCounter : U32
  tamanioContexto : U32
  tamanioEtiqueta : U32
  cantidad_de_funciones : U32
  cantidad_de_etiquetas : U32
deriving DecidableEq, Repr

/-- The operations that a CPU sends to the kernel, with their structures. -/
inductive MensajeCpu
  | obtenerValorVarCompartida (nombre : Texto)
  | asignarValorVarCompartida (nombre : Texto) (valor : U32)
  | imprimirKernel (valor : U32)
  | imprimirTextoKernel (texto : Texto)
  | entradaSalidaKernel (dispositivo : Texto) (tiempo : U32) (pcb : Pcb)
  | waitKernel (semaforo : Texto) (pcb : Pcb)
  | signalKernel (semaforo : Texto)
  | notificarPorFinRafaga (pcb : Pcb)
  | notificarPorFinPrograma (pcb : Pcb)
  | exception (texto : Texto)
  | okCpu
deriving DecidableEq

/-- The operations that the kernel sends to a CPU, with their structures. -/
inductive MensajeKernel
  | continuar
  | bloquear
  | okKernel
  | primerMsj (iEjecuciones iDelay : U32)
  | atendeProceso (pcb : Pcb)
  | valorCompartida (valor : U32)
  | terminar
deriving DecidableEq

/-! ### A PCB as bytes -/

/-- The bytes of a list of words. -/
def serializarPalabras (ws : List U32) : List Byte :=
  ws.flatMap fun w => (List.range 4).map (Words.byteAt w)

/-- The word at a position of a message. -/
def palabra (data : List Byte) (desplazamiento : ℕ) : U32 :=
  Words.ofBytes fun i => data.getD (desplazamiento + i) 0#8

/-- `serializar_pcb`. -/
def serializarPcb (pcb : Pcb) : List Byte :=
  serializarPalabras [pcb.pid, pcb.segmentoCodigo, pcb.segmentoStack, pcb.cursorStack,
    pcb.indiceCodigo, pcb.indiceEtiqueta, pcb.programCounter, pcb.tamanioContexto,
    pcb.tamanioEtiqueta, pcb.cantidad_de_funciones, pcb.cantidad_de_etiquetas]

/-- `deserializar_pcb`. -/
def deserializarPcb (data : List Byte) : Pcb where
  pid := palabra data 0
  segmentoCodigo := palabra data 4
  segmentoStack := palabra data 8
  cursorStack := palabra data 12
  indiceCodigo := palabra data 16
  indiceEtiqueta := palabra data 20
  programCounter := palabra data 24
  tamanioContexto := palabra data 28
  tamanioEtiqueta := palabra data 32
  cantidad_de_funciones := palabra data 36
  cantidad_de_etiquetas := palabra data 40

@[simp] theorem palabra_cons_zero (w : U32) (ws : List U32) :
    palabra (serializarPalabras (w :: ws)) 0 = w := by
  conv_rhs => rw [← Words.ofBytes_byteAt w]
  refine Words.ofBytes_congr fun i hi => ?_
  rw [serializarPalabras, List.flatMap_cons, List.getD_append _ _ _ _ (by simpa using hi)]
  simp [List.getD_eq_getElem?_getD, hi]

@[simp] theorem palabra_cons_add (w : U32) (ws : List U32) (d : ℕ) :
    palabra (serializarPalabras (w :: ws)) (d + 4) = palabra (serializarPalabras ws) d := by
  refine Words.ofBytes_congr fun i _ => ?_
  rw [serializarPalabras, List.flatMap_cons, List.getD_append_right _ _ _ _ (by simp; omega)]
  congr 1
  simp only [List.length_map, List.length_range]
  omega

/-- A word depends on its four bytes. -/
theorem palabra_congr {data data' : List Byte} {d d' : ℕ}
    (h : ∀ i < 4, data.getD (d + i) 0#8 = data'.getD (d' + i) 0#8) :
    palabra data d = palabra data' d' :=
  Words.ofBytes_congr h

/-- A word of a slice. -/
theorem palabra_slice (data : List Byte) {off n d : ℕ} (hd : d + 4 ≤ n) :
    palabra ((data.drop off).take n) d = palabra data (off + d) := by
  refine palabra_congr fun i hi => ?_
  rw [List.getD_eq_getElem?_getD, List.getElem?_take_of_lt (by omega), List.getElem?_drop,
    List.getD_eq_getElem?_getD, Nat.add_assoc]

/-- **A PCB survives the trip.** -/
theorem deserializarPcb_serializarPcb (pcb : Pcb) :
    deserializarPcb (serializarPcb pcb) = pcb := by
  have h (ws : List U32) (w : U32) (d k : ℕ) (hd : d = k + 4) :
      palabra (serializarPalabras (w :: ws)) d = palabra (serializarPalabras ws) k := by
    rw [hd, palabra_cons_add]
  cases pcb
  simp only [serializarPcb, deserializarPcb, Pcb.mk.injEq]
  refine ⟨?_, ?_, ?_, ?_, ?_, ?_, ?_, ?_, ?_, ?_, ?_⟩
  all_goals
    repeat rw [h _ _ _ _ rfl]
    exact palabra_cons_zero _ _

end Ansisop
