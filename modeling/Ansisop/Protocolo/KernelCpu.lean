/-
**The protocol between the kernel and the CPUs, byte by byte.**

`protocolo.c` writes and reads each message by hand.  A message is the word of its operation and the
bytes of its structure, and nothing says how long it is.  The two sides number their operations from
zero, so a number means one thing to a CPU and another one to the kernel.

The bytes of a message are a list.  A decoder that would read past the end of the message, or a
pointer that it has not set, has no result.

Main definitions:

* `Ansisop.Cadena` — a string of the C code;
* `Ansisop.EstructuraCpu` — the operations of a CPU with the structures of `protocolo.h`;
* `Ansisop.serializarCpu`, `Ansisop.deserializarKernel` — from a CPU to the kernel;
* `Ansisop.serializarKernel`, `Ansisop.deserializarCpu` — from the kernel to a CPU;
* `Ansisop.EstructuraCpu.mensaje` — the message that the threads of the kernel handle.

Main results:

* `Ansisop.deserializarKernel_append`, `Ansisop.deserializarCpu_append` — a message is read from the
  start of the bytes, whatever comes after it;
* `Ansisop.kernelCpu_ida_y_vuelta` — **every message survives the trip**, in both directions.
-/

import Ansisop.Protocolo.Mensajes

set_option relaxedAutoImplicit false
set_option autoImplicit false

namespace Ansisop

/-! ### Words and strings in a message -/

@[simp] theorem length_serializarPalabras (ws : List U32) :
    (serializarPalabras ws).length = 4 * ws.length := by
  induction ws with
  | nil => rfl
  | cons w ws ih =>
      rw [serializarPalabras, List.flatMap_cons, List.length_append, List.length_map,
        List.length_range, ← serializarPalabras, ih, List.length_cons]
      omega

/-- A word that lies after the first part of a message. -/
theorem palabra_append_right {pre : List Byte} (data : List Byte) {n : ℕ} (h : pre.length = n)
    (d : ℕ) : palabra (pre ++ data) (n + d) = palabra data d := by
  subst h
  refine palabra_congr fun i _ => ?_
  rw [List.getD_append_right _ _ _ _ (by omega)]
  congr 1
  omega

/-- A word that lies in the first part of a message. -/
theorem palabra_append_left {pre : List Byte} (data : List Byte) {d : ℕ} (h : d + 4 ≤ pre.length) :
    palabra (pre ++ data) d = palabra pre d :=
  palabra_congr fun _ _ => List.getD_append _ _ _ _ (by omega)

/-- **A word is read where it was written.** -/
theorem palabra_serializarPalabras {ws : List U32} (data : List Byte) {k : ℕ} {w : U32}
    (h : ws[k]? = some w) : palabra (serializarPalabras ws ++ data) (4 * k) = w := by
  have hk : k < ws.length := (List.getElem?_eq_some_iff.1 h).1
  rw [palabra_append_left data (by rw [length_serializarPalabras]; omega)]
  induction ws generalizing k with
  | nil => exact absurd h (by simp)
  | cons v ws ih =>
      cases k with
      | zero =>
          obtain rfl : v = w := by simpa using h
          exact palabra_cons_zero v ws
      | succ k =>
          rw [show 4 * (k + 1) = 4 * k + 4 by omega, palabra_cons_add]
          exact ih (by simpa using h) (Nat.lt_of_succ_lt_succ hk)

/-- A word of a structure that lies in the middle of a message. -/
theorem palabra_de {pre : List Byte} {ws : List U32} (data : List Byte) {n d : ℕ} (k : ℕ) {w : U32}
    (hpre : pre.length = n) (hd : d = n + 4 * k) (hw : ws[k]? = some w) :
    palabra (pre ++ (serializarPalabras ws ++ data)) d = w := by
  rw [hd, palabra_append_right _ hpre, palabra_serializarPalabras data hw]

/-- **A string of the C code**: its bytes before the NUL, which are none of them zero.  `strlen` is
a word. -/
structure Cadena where
  bytes : List Byte
  sinNul : 0#8 ∉ bytes
  strlen_lt : bytes.length + 1 < 2 ^ 32
deriving DecidableEq

/-- The bytes of a string with its NUL, which is how a string lies in a message. -/
def Cadena.conNul (cadena : Cadena) : List Byte := cadena.bytes ++ [0#8]

/-- `strlen(cadena) + 1`. -/
def Cadena.largo (cadena : Cadena) : U32 := BitVec.ofNat 32 (cadena.bytes.length + 1)

/-- `string_duplicate`: the string that starts at some bytes.  Without a NUL among them it would be
read past their end. -/
def stringDuplicate (data : List Byte) : Option Cadena :=
  if h : 0#8 ∈ data ∧ (data.takeWhile (· != 0#8)).length + 1 < 2 ^ 32 then
    some ⟨data.takeWhile (· != 0#8),
      fun hmem => by simpa using (List.all_eq_true.1 List.all_takeWhile) _ hmem, h.2⟩
  else none

@[simp] theorem Cadena.length_conNul (cadena : Cadena) :
    cadena.conNul.length = cadena.bytes.length + 1 := by
  rw [conNul, List.length_append, List.length_singleton]

@[simp] theorem Cadena.toNat_largo (cadena : Cadena) :
    cadena.largo.toNat = cadena.bytes.length + 1 := by
  rw [largo, BitVec.toNat_ofNat, Nat.mod_eq_of_lt cadena.strlen_lt]

/-- **A string is read up to its NUL**, whatever comes after it. -/
@[simp] theorem stringDuplicate_conNul (cadena : Cadena) (data : List Byte) :
    stringDuplicate (cadena.conNul ++ data) = some cadena := by
  have htake : (cadena.conNul ++ data).takeWhile (· != 0#8) = cadena.bytes := by
    have hbytes : ∀ b ∈ cadena.bytes, (b != 0#8) = true := by
      intro b hb
      rw [bne_iff_ne]
      rintro rfl
      exact cadena.sinNul hb
    rw [Cadena.conNul, List.append_assoc, List.takeWhile_append_of_pos hbytes,
      List.singleton_append, List.takeWhile_cons_of_neg (by simp), List.append_nil]
  have hmem : 0#8 ∈ cadena.conNul ++ data := by simp [Cadena.conNul]
  rw [stringDuplicate, dif_pos ⟨hmem, by rw [htake]; exact cadena.strlen_lt⟩]
  cases cadena
  simp only [Option.some.injEq, Cadena.mk.injEq]
  exact htake

/-- A string with nothing after it. -/
theorem stringDuplicate_solo (cadena : Cadena) : stringDuplicate cadena.conNul = some cadena := by
  have h := stringDuplicate_conNul cadena []
  rwa [List.append_nil] at h

/-! ### The structures of a CPU -/

/-- `t_variable_compartida`. -/
structure VariableCompartida where
  nombre : Cadena
  valor : U32
deriving DecidableEq

/-- `t_MsjWait`. -/
structure MsjWait where
  semaforo_long : U32
  semaforo : Cadena
  pcb : Pcb
deriving DecidableEq

/-- `t_entradaSalida`. -/
structure EntradaSalida where
  dispositivo_long : U32
  dispositivo : Cadena
  tiempo : U32
  pcb : Pcb
deriving DecidableEq

/-- **The operations that a CPU sends to the kernel**, each with its structure. -/
inductive EstructuraCpu
  | obtenerValorVarCompartida (nombre : Cadena)
  | asignarValorVarCompartida (varComp : VariableCompartida)
  | imprimirKernel (valor : U32)
  | imprimirTextoKernel (texto : Cadena)
  | entradaSalidaKernel (entradaSalida : EntradaSalida)
  | waitKernel (wait : MsjWait)
  | signalKernel (semaforo : Cadena)
  | notificarPorFinRafaga (pcb : Pcb)
  | notificarPorFinPrograma (pcb : Pcb)
  | exception (texto : Cadena)
  | okCpu
deriving DecidableEq

/-- The number of an operation of a CPU. -/
def EstructuraCpu.operacion : EstructuraCpu → U32
  | obtenerValorVarCompartida _ => 0#32
  | asignarValorVarCompartida _ => 1#32
  | imprimirKernel _ => 2#32
  | imprimirTextoKernel _ => 3#32
  | entradaSalidaKernel _ => 4#32
  | waitKernel _ => 5#32
  | signalKernel _ => 6#32
  | notificarPorFinRafaga _ => 7#32
  | notificarPorFinPrograma _ => 8#32
  | exception _ => 9#32
  | okCpu => 10#32

/-- The number of an operation of the kernel. -/
def MensajeKernel.operacion : MensajeKernel → U32
  | continuar => 0#32
  | bloquear => 1#32
  | okKernel => 2#32
  | primerMsj _ _ => 3#32
  | atendeProceso _ => 4#32
  | valorCompartida _ => 5#32
  | terminar => 6#32

/-! ### From a CPU to the kernel -/

/-- `serializar_operacion`. -/
def serializarOperacion (operacion : U32) (data : List Byte) : List Byte :=
  serializarPalabras [operacion] ++ data

/-- `cpu_serializar_asignarVariableCompartida`. -/
def cpuSerializarAsignarVariableCompartida (varComp : VariableCompartida) : List Byte :=
  varComp.nombre.conNul ++ serializarPalabras [varComp.valor]

/-- `cpu_serializar_wait`.  The length field is set, whatever it was. -/
def cpuSerializarWait (stWait : MsjWait) : List Byte :=
  let pcb := stWait.pcb
  serializarPalabras [stWait.semaforo.largo] ++ stWait.semaforo.conNul ++
    serializarPalabras [pcb.pid, pcb.segmentoCodigo, pcb.segmentoStack, pcb.cursorStack,
      pcb.indiceCodigo, pcb.indiceEtiqueta, pcb.programCounter, pcb.tamanioContexto,
      pcb.tamanioEtiqueta, pcb.cantidad_de_funciones, pcb.cantidad_de_etiquetas]

/-- `cpu_serializar_entradaSalida`.  The length field is set, whatever it was. -/
def cpuSerializarEntradaSalida (stDisp : EntradaSalida) : List Byte :=
  let pcb := stDisp.pcb
  serializarPalabras [stDisp.dispositivo.largo] ++ stDisp.dispositivo.conNul ++
    serializarPalabras [stDisp.tiempo, pcb.pid, pcb.segmentoCodigo, pcb.segmentoStack,
      pcb.cursorStack, pcb.indiceCodigo, pcb.indiceEtiqueta, pcb.programCounter,
      pcb.tamanioContexto, pcb.tamanioEtiqueta, pcb.cantidad_de_funciones,
      pcb.cantidad_de_etiquetas]

/-- `serializar_cpu`. -/
def serializarCpu (m : EstructuraCpu) : List Byte :=
  serializarOperacion m.operacion <|
    match m with
    | .obtenerValorVarCompartida nombre => nombre.conNul
    | .asignarValorVarCompartida varComp => cpuSerializarAsignarVariableCompartida varComp
    | .imprimirKernel valor => serializarPalabras [valor]
    | .imprimirTextoKernel texto => texto.conNul
    | .entradaSalidaKernel entradaSalida => cpuSerializarEntradaSalida entradaSalida
    | .waitKernel wait => cpuSerializarWait wait
    | .signalKernel semaforo => semaforo.conNul
    | .notificarPorFinRafaga pcb => serializarPcb pcb
    | .notificarPorFinPrograma pcb => serializarPcb pcb
    | .exception texto => texto.conNul
    | .okCpu => []

/-- `deserializar_valorVariable`. -/
def deserializarValorVariable (data : List Byte) : Option U32 :=
  if 4 ≤ data.length then some (palabra data 0) else none

/-- `deserializar_pcb` on the bytes of a message, which has to have those of a PCB. -/
def deserializarPcbDe (data : List Byte) : Option Pcb :=
  if 44 ≤ data.length then some (deserializarPcb data) else none

/-- `kernel_deserializar_asignarVarCompartida`. -/
def kernelDeserializarAsignarVarCompartida (data : List Byte) : Option VariableCompartida :=
  (stringDuplicate data).bind fun nombre =>
    if nombre.bytes.length + 1 + 4 ≤ data.length then
      some ⟨nombre, palabra data (nombre.bytes.length + 1)⟩
    else none

/-- `kernel_deserializar_wait`. -/
def kernelDeserializarWait (data : List Byte) : Option MsjWait :=
  let semaforo_long := palabra data 0
  let corrimiento := 4 + semaforo_long.toNat
  if corrimiento + 44 ≤ data.length then
    (stringDuplicate ((data.drop 4).take semaforo_long.toNat)).map fun semaforo =>
      { semaforo_long := semaforo_long
        semaforo := semaforo
        pcb :=
          { pid := palabra data corrimiento
            segmentoCodigo := palabra data (corrimiento + 4)
            segmentoStack := palabra data (corrimiento + 8)
            cursorStack := palabra data (corrimiento + 12)
            indiceCodigo := palabra data (corrimiento + 16)
            indiceEtiqueta := palabra data (corrimiento + 20)
            programCounter := palabra data (corrimiento + 24)
            tamanioContexto := palabra data (corrimiento + 28)
            tamanioEtiqueta := palabra data (corrimiento + 32)
            cantidad_de_funciones := palabra data (corrimiento + 36)
            cantidad_de_etiquetas := palabra data (corrimiento + 40) } }
  else none

/-- `kernel_deserializar_entradaSalida`. -/
def kernelDeserializarEntradaSalida (data : List Byte) : Option EntradaSalida :=
  let dispositivo_long := palabra data 0
  let desplazamiento := 4 + dispositivo_long.toNat
  if desplazamiento + 48 ≤ data.length then
    (stringDuplicate ((data.drop 4).take dispositivo_long.toNat)).map fun dispositivo =>
      { dispositivo_long := dispositivo_long
        dispositivo := dispositivo
        tiempo := palabra data desplazamiento
        pcb :=
          { pid := palabra data (desplazamiento + 4)
            segmentoCodigo := palabra data (desplazamiento + 8)
            segmentoStack := palabra data (desplazamiento + 12)
            cursorStack := palabra data (desplazamiento + 16)
            indiceCodigo := palabra data (desplazamiento + 20)
            indiceEtiqueta := palabra data (desplazamiento + 24)
            programCounter := palabra data (desplazamiento + 28)
            tamanioContexto := palabra data (desplazamiento + 32)
            tamanioEtiqueta := palabra data (desplazamiento + 36)
            cantidad_de_funciones := palabra data (desplazamiento + 40)
            cantidad_de_etiquetas := palabra data (desplazamiento + 44) } }
  else none

/-- The `switch` of `deserializar_kernel`, on the bytes after the operation.  An operation that has
no case leaves the structure unset; `okCpu` carries none. -/
def estructuraDeCpu (operacion : U32) (data : List Byte) : Option EstructuraCpu :=
  match operacion.toNat with
  | 0 => (stringDuplicate data).map .obtenerValorVarCompartida
  | 1 => (kernelDeserializarAsignarVarCompartida data).map .asignarValorVarCompartida
  | 2 => (deserializarValorVariable data).map .imprimirKernel
  | 3 => (stringDuplicate data).map .imprimirTextoKernel
  | 4 => (kernelDeserializarEntradaSalida data).map .entradaSalidaKernel
  | 5 => (kernelDeserializarWait data).map .waitKernel
  | 6 => (stringDuplicate data).map .signalKernel
  | 7 => (deserializarPcbDe data).map .notificarPorFinRafaga
  | 8 => (deserializarPcbDe data).map .notificarPorFinPrograma
  | 9 => (stringDuplicate data).map .exception
  | 10 => some .okCpu
  | _ => none

/-- `deserializar_kernel`. -/
def deserializarKernel (data : List Byte) : Option EstructuraCpu :=
  if 4 ≤ data.length then estructuraDeCpu (palabra data 0) (data.drop 4) else none

/-! ### From the kernel to a CPU -/

/-- `serializar_kernel`. -/
def serializarKernel (m : MensajeKernel) : List Byte :=
  serializarOperacion m.operacion <|
    match m with
    | .primerMsj iEjecuciones iDelay => serializarPalabras [iEjecuciones, iDelay]
    | .atendeProceso pcb => serializarPcb pcb
    | .valorCompartida valor => serializarPalabras [valor]
    | .continuar => []
    | .bloquear => []
    | .okKernel => []
    | .terminar => []

/-- `cpu_deserializar_primerMsj`. -/
def cpuDeserializarPrimerMsj (data : List Byte) : Option MensajeKernel :=
  if 8 ≤ data.length then some (.primerMsj (palabra data 0) (palabra data 4)) else none

/-- The `switch` of `deserializar_cpu`, on the bytes after the operation.  The operations without a
structure do not look at them. -/
def estructuraDeKernel (operacion : U32) (data : List Byte) : Option MensajeKernel :=
  match operacion.toNat with
  | 0 => some .continuar
  | 1 => some .bloquear
  | 2 => some .okKernel
  | 3 => cpuDeserializarPrimerMsj data
  | 4 => (deserializarPcbDe data).map .atendeProceso
  | 5 => (deserializarValorVariable data).map .valorCompartida
  | 6 => some .terminar
  | _ => none

/-- `deserializar_cpu`. -/
def deserializarCpu (data : List Byte) : Option MensajeKernel :=
  if 4 ≤ data.length then estructuraDeKernel (palabra data 0) (data.drop 4) else none

/-! ### The round trip -/

/-- What the kernel has of a message of a CPU: the length fields are those that the CPU sets. -/
def EstructuraCpu.recibida : EstructuraCpu → EstructuraCpu
  | entradaSalidaKernel entradaSalida => .entradaSalidaKernel
      { entradaSalida with dispositivo_long := entradaSalida.dispositivo.largo }
  | waitKernel wait => .waitKernel { wait with semaforo_long := wait.semaforo.largo }
  | m => m

theorem length_serializarPcb (pcb : Pcb) : (serializarPcb pcb).length = 44 :=
  length_serializarPalabras _

/-- **The PCB that is a message of its own.** -/
theorem deserializarPcbDe_append (pcb : Pcb) (data : List Byte) :
    deserializarPcbDe (serializarPcb pcb ++ data) = some pcb := by
  have hlen := length_serializarPcb pcb
  rw [deserializarPcbDe, if_pos (by rw [List.length_append]; omega)]
  have hpalabra (d : ℕ) (hd : d + 4 ≤ 44) :
      palabra (serializarPcb pcb ++ data) d = palabra (serializarPcb pcb) d :=
    palabra_append_left data (by omega)
  have hsame : deserializarPcb (serializarPcb pcb ++ data) =
      deserializarPcb (serializarPcb pcb) := by
    simp only [deserializarPcb, Pcb.mk.injEq]
    refine ⟨?_, ?_, ?_, ?_, ?_, ?_, ?_, ?_, ?_, ?_, ?_⟩
    all_goals exact hpalabra _ (by decide)
  rw [hsame, deserializarPcb_serializarPcb]

theorem deserializarValorVariable_append (valor : U32) (data : List Byte) :
    deserializarValorVariable (serializarPalabras [valor] ++ data) = some valor := by
  rw [deserializarValorVariable, if_pos (by simp)]
  exact congrArg some (palabra_serializarPalabras data (k := 0) rfl)

theorem kernelDeserializarAsignarVarCompartida_append (varComp : VariableCompartida)
    (data : List Byte) :
    kernelDeserializarAsignarVarCompartida
      (cpuSerializarAsignarVariableCompartida varComp ++ data) = some varComp := by
  rw [cpuSerializarAsignarVariableCompartida, List.append_assoc,
    kernelDeserializarAsignarVarCompartida, stringDuplicate_conNul, Option.bind_some, if_pos]
  · exact congrArg (fun valor => some (⟨varComp.nombre, valor⟩ : VariableCompartida))
      (palabra_de data 0 varComp.nombre.length_conNul (by omega) rfl)
  · simp only [List.length_append, Cadena.length_conNul, length_serializarPalabras,
      List.length_singleton]
    omega

section Nombre

/-! A message that starts with the length of a name and the name itself. -/

variable (nombre : Cadena) (ws : List U32) (data : List Byte)

theorem length_conNombre :
    (serializarPalabras [nombre.largo] ++ nombre.conNul).length = 4 + nombre.largo.toNat := by
  rw [List.length_append, length_serializarPalabras, Cadena.length_conNul, Cadena.toNat_largo,
    List.length_singleton]

theorem palabra_conNombre_zero :
    palabra (serializarPalabras [nombre.largo] ++ nombre.conNul ++ serializarPalabras
      ws ++ data) 0 =
      nombre.largo := by
  rw [List.append_assoc, List.append_assoc]
  exact palabra_serializarPalabras _ (k := 0) rfl

/-- The bytes of the name. -/
theorem nombre_conNombre :
    ((serializarPalabras [nombre.largo] ++ nombre.conNul ++ serializarPalabras ws ++ data).drop
      4).take
      nombre.largo.toNat = nombre.conNul := by
  have hlen : (serializarPalabras [nombre.largo]).length = 4 := length_serializarPalabras _
  rw [List.append_assoc, List.append_assoc, List.drop_left' hlen, Cadena.toNat_largo,
    List.take_left' nombre.length_conNul]

/-- **The words after the name.** -/
theorem palabra_conNombre (k : ℕ) {d : ℕ} {w : U32} (hd : d = 4 + nombre.largo.toNat + 4 * k)
    (hw : ws[k]? = some w) :
    palabra (serializarPalabras [nombre.largo] ++ nombre.conNul ++ serializarPalabras
      ws ++ data) d =
      w := by
  rw [List.append_assoc _ (serializarPalabras ws)]
  exact palabra_de data k (length_conNombre nombre) hd hw

theorem le_length_conNombre {n : ℕ} (hn : n ≤ 4 * ws.length) :
    4 + nombre.largo.toNat + n ≤
      (serializarPalabras [nombre.largo] ++ nombre.conNul ++ serializarPalabras ws ++
        data).length := by
  rw [List.length_append, List.length_append, length_conNombre, length_serializarPalabras]
  omega

end Nombre

/-- **The PCB after the name of a semaphore.** -/
theorem kernelDeserializarWait_append (wait : MsjWait) (data : List Byte) :
    kernelDeserializarWait (cpuSerializarWait wait ++ data) =
      some { wait with semaforo_long := wait.semaforo.largo } := by
  rw [cpuSerializarWait, kernelDeserializarWait, palabra_conNombre_zero,
    if_pos (le_length_conNombre _ _ _ (by simp)), nombre_conNombre, stringDuplicate_solo,
    Option.map_some]
  simp only [Option.some.injEq, MsjWait.mk.injEq, true_and]
  refine Pcb.ext ?_ ?_ ?_ ?_ ?_ ?_ ?_ ?_ ?_ ?_ ?_
  · exact palabra_conNombre _ _ _ 0 (by omega) rfl
  · exact palabra_conNombre _ _ _ 1 (by omega) rfl
  · exact palabra_conNombre _ _ _ 2 (by omega) rfl
  · exact palabra_conNombre _ _ _ 3 (by omega) rfl
  · exact palabra_conNombre _ _ _ 4 (by omega) rfl
  · exact palabra_conNombre _ _ _ 5 (by omega) rfl
  · exact palabra_conNombre _ _ _ 6 (by omega) rfl
  · exact palabra_conNombre _ _ _ 7 (by omega) rfl
  · exact palabra_conNombre _ _ _ 8 (by omega) rfl
  · exact palabra_conNombre _ _ _ 9 (by omega) rfl
  · exact palabra_conNombre _ _ _ 10 (by omega) rfl

/-- **The PCB after the name and the time of an input/output.** -/
theorem kernelDeserializarEntradaSalida_append (entradaSalida : EntradaSalida) (data : List Byte) :
    kernelDeserializarEntradaSalida (cpuSerializarEntradaSalida entradaSalida ++ data) =
      some { entradaSalida with dispositivo_long := entradaSalida.dispositivo.largo } := by
  rw [cpuSerializarEntradaSalida, kernelDeserializarEntradaSalida, palabra_conNombre_zero,
    if_pos (le_length_conNombre _ _ _ (by simp)), nombre_conNombre, stringDuplicate_solo,
    Option.map_some]
  simp only [Option.some.injEq, EntradaSalida.mk.injEq, true_and]
  refine ⟨palabra_conNombre _ _ _ 0 (by omega) rfl, Pcb.ext ?_ ?_ ?_ ?_ ?_ ?_ ?_ ?_ ?_ ?_ ?_⟩
  · exact palabra_conNombre _ _ _ 1 (by omega) rfl
  · exact palabra_conNombre _ _ _ 2 (by omega) rfl
  · exact palabra_conNombre _ _ _ 3 (by omega) rfl
  · exact palabra_conNombre _ _ _ 4 (by omega) rfl
  · exact palabra_conNombre _ _ _ 5 (by omega) rfl
  · exact palabra_conNombre _ _ _ 6 (by omega) rfl
  · exact palabra_conNombre _ _ _ 7 (by omega) rfl
  · exact palabra_conNombre _ _ _ 8 (by omega) rfl
  · exact palabra_conNombre _ _ _ 9 (by omega) rfl
  · exact palabra_conNombre _ _ _ 10 (by omega) rfl
  · exact palabra_conNombre _ _ _ 11 (by omega) rfl

/-- A message is its operation and the rest. -/
theorem palabra_serializarOperacion (operacion : U32) (cuerpo data : List Byte) :
    palabra (serializarOperacion operacion cuerpo ++ data) 0 = operacion := by
  rw [serializarOperacion, List.append_assoc]
  exact palabra_serializarPalabras _ (k := 0) rfl

theorem drop_serializarOperacion (operacion : U32) (cuerpo data : List Byte) :
    (serializarOperacion operacion cuerpo ++ data).drop 4 = cuerpo ++ data := by
  have hlen : (serializarPalabras [operacion]).length = 4 := length_serializarPalabras _
  rw [serializarOperacion, List.append_assoc, List.drop_left' hlen]

theorem le_length_serializarOperacion (operacion : U32) (cuerpo data : List Byte) :
    4 ≤ (serializarOperacion operacion cuerpo ++ data).length := by
  rw [serializarOperacion, List.length_append, List.length_append, length_serializarPalabras,
    List.length_singleton]
  omega

/-- **The kernel reads what a CPU wrote**, whatever bytes come after it. -/
theorem deserializarKernel_append (m : EstructuraCpu) (data : List Byte) :
    deserializarKernel (serializarCpu m ++ data) = some m.recibida := by
  unfold serializarCpu
  rw [deserializarKernel, if_pos (le_length_serializarOperacion ..),
    palabra_serializarOperacion, drop_serializarOperacion]
  cases m with
  | obtenerValorVarCompartida nombre =>
      exact congrArg (Option.map _) (stringDuplicate_conNul nombre data)
  | asignarValorVarCompartida varComp =>
      exact congrArg (Option.map _) (kernelDeserializarAsignarVarCompartida_append varComp data)
  | imprimirKernel valor =>
      exact congrArg (Option.map _) (deserializarValorVariable_append valor data)
  | imprimirTextoKernel texto => exact congrArg (Option.map _) (stringDuplicate_conNul texto data)
  | entradaSalidaKernel entradaSalida =>
      exact congrArg (Option.map _) (kernelDeserializarEntradaSalida_append entradaSalida data)
  | waitKernel wait => exact congrArg (Option.map _) (kernelDeserializarWait_append wait data)
  | signalKernel semaforo =>
      exact congrArg (Option.map _) (stringDuplicate_conNul semaforo data)
  | notificarPorFinRafaga pcb => exact congrArg (Option.map _) (deserializarPcbDe_append pcb data)
  | notificarPorFinPrograma pcb => exact congrArg (Option.map _) (deserializarPcbDe_append pcb data)
  | exception texto => exact congrArg (Option.map _) (stringDuplicate_conNul texto data)
  | okCpu => rfl

/-- **A CPU reads what the kernel wrote**, whatever bytes come after it. -/
theorem deserializarCpu_append (m : MensajeKernel) (data : List Byte) :
    deserializarCpu (serializarKernel m ++ data) = some m := by
  unfold serializarKernel
  rw [deserializarCpu, if_pos (le_length_serializarOperacion ..), palabra_serializarOperacion,
    drop_serializarOperacion]
  cases m with
  | primerMsj iEjecuciones iDelay =>
      have h₀ : palabra (serializarPalabras [iEjecuciones, iDelay] ++ data) 0 = iEjecuciones :=
        palabra_serializarPalabras data (k := 0) rfl
      have h₁ : palabra (serializarPalabras [iEjecuciones, iDelay] ++ data) 4 = iDelay :=
        palabra_serializarPalabras data (k := 1) rfl
      show cpuDeserializarPrimerMsj _ = _
      rw [cpuDeserializarPrimerMsj, if_pos (by simp), h₀, h₁]
  | atendeProceso pcb => exact congrArg (Option.map _) (deserializarPcbDe_append pcb data)
  | valorCompartida valor =>
      exact congrArg (Option.map _) (deserializarValorVariable_append valor data)
  | continuar => rfl
  | bloquear => rfl
  | okKernel => rfl
  | terminar => rfl

/-- **Every message survives the trip.**  What a CPU sends is what the kernel reads, with the length
fields of `waitKernel` and `entradaSalidaKernel` set to the length of the name and its NUL; and what
the kernel sends is what a CPU reads. -/
theorem kernelCpu_ida_y_vuelta :
    (∀ m : EstructuraCpu, deserializarKernel (serializarCpu m) = some m.recibida) ∧
      ∀ m : MensajeKernel, deserializarCpu (serializarKernel m) = some m := by
  constructor
  · intro m
    have h := deserializarKernel_append m []
    rwa [List.append_nil] at h
  · intro m
    have h := deserializarCpu_append m []
    rwa [List.append_nil] at h

/-! ### The messages that the kernel handles -/

/-- The characters of a string. -/
def Cadena.texto (cadena : Cadena) : Texto := cadena.bytes.map fun b => Char.ofNat b.toNat

/-- The message of a structure, without its length field. -/
def EstructuraCpu.mensaje : EstructuraCpu → MensajeCpu
  | obtenerValorVarCompartida nombre => .obtenerValorVarCompartida nombre.texto
  | asignarValorVarCompartida varComp =>
      .asignarValorVarCompartida varComp.nombre.texto varComp.valor
  | imprimirKernel valor => .imprimirKernel valor
  | imprimirTextoKernel texto => .imprimirTextoKernel texto.texto
  | entradaSalidaKernel entradaSalida =>
      .entradaSalidaKernel entradaSalida.dispositivo.texto entradaSalida.tiempo entradaSalida.pcb
  | waitKernel wait => .waitKernel wait.semaforo.texto wait.pcb
  | signalKernel semaforo => .signalKernel semaforo.texto
  | notificarPorFinRafaga pcb => .notificarPorFinRafaga pcb
  | notificarPorFinPrograma pcb => .notificarPorFinPrograma pcb
  | exception texto => .exception texto.texto
  | okCpu => .okCpu

/-- Setting the length fields does not change the message. -/
@[simp] theorem EstructuraCpu.mensaje_recibida (m : EstructuraCpu) :
    m.recibida.mensaje = m.mensaje := by
  cases m <;> rfl

end Ansisop
