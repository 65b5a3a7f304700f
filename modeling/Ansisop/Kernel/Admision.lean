/-
**The admission of a program.**

`guardar_programa` asks the UMV for the segments of a program that arrives: its code, its index of
instructions, its index of labels and its stack.  It creates them one by one and fills the first
three, and the program enters `newProcesos`.  If a creation is answered with an error, the segments
of the process are destroyed with another connection, and the program is rejected.

Meanwhile the other threads of the kernel go on, and so do the other connections of the UMV and its
console.  The other connections make requests for other processes.

Main definitions:

* `Ansisop.Kernel.Prog`, `Ansisop.Kernel.arrayDeTamano`, `Ansisop.Kernel.contenido` — the areas of a
  program;
* `Ansisop.Kernel.LocGuardar`, `Ansisop.Kernel.pedidoDe`, `Ansisop.Kernel.trasRespuestaUmv`,
  `Ansisop.Kernel.pasoInterno` — `guardar_programa`, with `conectarUMV`, `aceptar_programa` and
  `rechazar_programa`;
* `Ansisop.Kernel.Admision`, `Ansisop.Kernel.PasoAdmision` — an attempt, with the kernel and the
  UMV;
* `Ansisop.Kernel.TodoONada` — what is asked for.

Main results:

* `Ansisop.Kernel.admision_todo_o_nada` — **the admission is all or nothing**, when no store of
  another connection gets past the check of the UMV with a sum that wraps around;
* `Ansisop.Kernel.no_todo_o_nada` — with such a store, a program is admitted with other bytes.
-/

import Ansisop.Kernel.Entrega
import Ansisop.Umv.Conexiones

set_option relaxedAutoImplicit false
set_option autoImplicit false

namespace Ansisop.Kernel

open Umv (Bloque Seccion Conexion PedidoUmv MensajeUmv Abstracta TipoSegmento)

/-! ### The areas of a program -/

/-- What `conectarUMV` reads of a `t_prog`, other than its PCB.  The areas have their sizes in
words. -/
structure Prog where
  archivoAnsisop : List Byte
  instrucciones_serializado : List (U32 × U32)
  etiquetas : List Byte
  archivo_lt : archivoAnsisop.length + 1 < 2 ^ 32
  instrucciones_lt : 8 * instrucciones_serializado.length < 2 ^ 32
  etiquetas_lt : etiquetas.length < 2 ^ 32

/-- `tamanioEtiqueta`, as `nuevo_programa` sets it in the PCB. -/
def Prog.tamanioEtiqueta (prog : Prog) : U32 := BitVec.ofNat 32 prog.etiquetas.length

/-- `arrayDeTamano`, with the size of a stack from the configuration. -/
def arrayDeTamano (prog : Prog) (stack : U32) : ℕ → U32
  | 0 => BitVec.ofNat 32 (prog.archivoAnsisop.length + 1)
  | 1 => 8#32 * BitVec.ofNat 32 prog.instrucciones_serializado.length
  | 2 => prog.tamanioEtiqueta
  | _ => stack

/-- The bytes of the area: those of the code with its NUL, and those of the two indices.  The stack
has none. -/
def contenido (prog : Prog) : ℕ → List Byte
  | 0 => prog.archivoAnsisop ++ [0#8]
  | 1 => serializarPalabras (prog.instrucciones_serializado.flatMap fun i => [i.1, i.2])
  | 2 => prog.etiquetas
  | _ => []

/-- `almacenarEnUMV`. -/
def almacenarEnUMV (prog : Prog) (stack : U32) (i : ℕ) (dirLogica : TPuntero) : AlmacenarBytes where
  base := dirLogica
  offset := 0#32
  tamanio := arrayDeTamano prog stack i
  buffer := fun j => (contenido prog i).getD j 0#8

/-- The field of the PCB for the address of an area. -/
def asignarArea (i : ℕ) (dirLogica : TPuntero) (pcb : Pcb) : Pcb :=
  match i with
  | 0 => { pcb with segmentoCodigo := dirLogica }
  | 1 => { pcb with indiceCodigo := dirLogica }
  | 2 => { pcb with indiceEtiqueta := dirLogica }
  | _ => { pcb with segmentoStack := dirLogica, cursorStack := dirLogica }

/-- `calcular_peso`. -/
def calcularPeso (prog : Prog) (pcb : Pcb) : ℤ :=
  (5#32 * pcb.cantidad_de_etiquetas + 3#32 * pcb.cantidad_de_funciones +
    BitVec.ofNat 32 prog.instrucciones_serializado.length).toInt

/-! ### `guardar_programa` -/

/-- **The locations of `guardar_programa`**, with those of the functions that it calls. -/
inductive LocGuardar
  /-- connected, at the handshake: in `conectarUMV`, or in `rechazar_programa` -/
  | saluda (rechazo : Bool)
  | cambiaProceso (rechazo : Bool)
  /-- at the test of the loop of `conectarUMV` -/
  | area (i : ℕ)
  /-- at the answer to `crearSegmento` -/
  | crea (i : ℕ)
  /-- at the answer to `almacenar` -/
  | almacena (i : ℕ) (dirLogica : TPuntero)
  /-- `conectarUMV` has returned 0 -/
  | acepta
  /-- at the answer to `destruirSegmentos` -/
  | destruye
  /-- `destruir_segmento` has returned -/
  | rechaza
  | aceptado
  | rechazado
deriving DecidableEq

/-- The request whose answer is waited for. -/
def pedidoDe (prog : Prog) (stack : U32) (pcb : Pcb) : LocGuardar → Option PedidoUmv
  | .saluda _ => some (.handshake Umv.tipoKernel)
  | .cambiaProceso _ => some (.cambioProcesoActivo pcb.pid)
  | .crea i => some (.crearSegmento (arrayDeTamano prog stack i))
  | .almacena i dirLogica => some (.almacenar (almacenarEnUMV prog stack i dirLogica))
  | .destruye => some .destruirSegmentos
  | _ => none

/-- What follows the answer to a request.  The answers to the handshake, to the change of process,
to `almacenar` and to `destruirSegmentos` are not looked at. -/
def trasRespuestaUmv (pcb : Pcb) : LocGuardar → Umv.Respuesta → Option (LocGuardar × Pcb)
  | .saluda rechazo, _ => some (.cambiaProceso rechazo, pcb)
  | .cambiaProceso rechazo, _ => some (if rechazo then .destruye else .area 0, pcb)
  | .crea _, .memory_overload => some (.saluda true, pcb)
  | .crea _, .segmentation_fault => some (.saluda true, pcb)
  | .crea i, .segmentoCreado dirLogica =>
      -- the stack is not filled
      some (if i < 3 then (.almacena i dirLogica, pcb)
        else (.area (i + 1), asignarArea i dirLogica pcb))
  | .almacena i dirLogica, _ => some (.area (i + 1), asignarArea i dirLogica pcb)
  | .destruye, _ => some (.rechaza, pcb)
  | _, _ => none

/-- `guardar_programa` has returned. -/
def LocGuardar.termino : LocGuardar → Bool
  | aceptado => true
  | rechazado => true
  | _ => false

/-- An attempt: the kernel, the UMV with the record of the connection, and the thread that makes the
attempt, with the PCB of the program. -/
structure Admision where
  kernel : Sistema
  umv : Umv.Sistema
  stConexion : Conexion
  loc : LocGuardar
  pcb : Pcb

/-- What `guardar_programa` does between its requests.  The PCB is the attempt's own until the
program enters `newProcesos`. -/
def pasoInterno (prog : Prog) (stack : U32) (programa : Programa) (v : Admision) :
    Option Admision :=
  match v.loc with
  | .area i =>
      if i < 4 then
        if arrayDeTamano prog stack i = 0#32 then
          some { v with loc := .area (i + 1), pcb := { v.pcb with indiceEtiqueta := 1#32 } }
        else some { v with loc := .crea i }
      else some { v with loc := .acepta }
  | .acepta =>
      (paso { v.kernel with comun := escribirPcb v.kernel.comun programa v.pcb }
        (.plp (some (calcularPeso prog v.pcb)))).map fun kernel =>
          { v with kernel := kernel, loc := .aceptado }
  | .rechaza => (paso v.kernel (.plp none)).map fun kernel =>
      { v with kernel := kernel, loc := .rechazado }
  | _ => none

/-! ### An attempt -/

/-- The labels of an attempt. -/
inductive Intento
  /-- another thread of the kernel -/
  | hilo (e : Evento)
  /-- another connection of the UMV, or its console -/
  | ajeno (e : Umv.Evento)
  /-- a request that writes the record of the connection -/
  | registro
  /-- a critical section of the connection -/
  | propio (e : Umv.Evento)
  | interno

/-- **The steps of an attempt.**  The connection of `conectarUMV` is `h`, and that of
`rechazar_programa` is `h'`.  The requests of the other connections are for other processes, and
create no empty segment. -/
inductive PasoAdmision (B : Bloque) (prog : Prog) (stack : U32) (programa : Programa) (h h' : ℕ)
    (v : Admision) : Intento → Admision → Prop
  | hilo {e : Evento} {kernel : Sistema} : v.loc.termino = false → (∀ peso, e ≠ .plp peso) →
      ConPids v.kernel e → Paso v.kernel e kernel →
      PasoAdmision B prog stack programa h h' v (.hilo e) { v with kernel := kernel }
  | ajeno {e : Umv.Evento} {umv : Umv.Sistema} : v.loc.termino = false → e.hilo ≠ h → e.hilo ≠ h' →
      e.seccion.proceso ≠ some (pidDe programa) → e.seccion.TamanioPositivo →
      Umv.Paso B v.umv e umv →
      PasoAdmision B prog stack programa h h' v (.ajeno e) { v with umv := umv }
  | registro {p : PedidoUmv} {m : MensajeUmv} {stConexion : Conexion}
      {loc : LocGuardar} {pcb : Pcb} :
      pedidoDe prog stack v.pcb v.loc = some p → p.Llega v.stConexion m stConexion →
      m = .handshake ∨ m = .cambioProcesoActivo →
      trasRespuestaUmv v.pcb v.loc .OK = some (loc, pcb) →
      PasoAdmision B prog stack programa h h' v .registro
        { v with stConexion := stConexion, loc := loc, pcb := pcb }
  | propio {p : PedidoUmv} {m : MensajeUmv} {stConexion : Conexion} {e : Umv.Evento}
      {umv : Umv.Sistema} {loc : LocGuardar} {pcb : Pcb} :
      pedidoDe prog stack v.pcb v.loc = some p → p.Llega v.stConexion m stConexion →
      Umv.Atiende stConexion m e.seccion →
      e.hilo = (if v.loc = .destruye then h' else h) → Umv.Paso B v.umv e umv →
      (match e.respuesta with
        | none => some (v.loc, v.pcb)
        | some r => trasRespuestaUmv v.pcb v.loc r) = some (loc, pcb) →
      PasoAdmision B prog stack programa h h' v (.propio e)
        { v with umv := umv, stConexion := stConexion, loc := loc, pcb := pcb }
  | interno {v' : Admision} : pasoInterno prog stack programa v = some v' →
      PasoAdmision B prog stack programa h h' v .interno v'

/-- **How an attempt starts**: the scheduler has taken a program in some run of the kernel, and the
UMV is in any valid state. -/
structure Comienza (B : Bloque) (programa : Programa) (v : Admision) : Prop where
  kernel : ∃ configuracion tr,
    Lts.Run (Lts.restrict ConPids Paso) (inicial configuracion) tr v.kernel
  plp : v.kernel.plp = .guarda programa
  pcb : v.pcb = v.kernel.comun.pcb programa
  loc : v.loc = .saluda false
  umv : v.umv.Valido B

/-! ### All or nothing -/

/-- A creation was answered with an error. -/
def LocGuardar.enRechazo : LocGuardar → Bool
  | saluda rechazo => rechazo
  | cambiaProceso rechazo => rechazo
  | destruye => true
  | rechaza => true
  | rechazado => true
  | _ => false

/-- `conectarUMV` has returned 0. -/
def LocGuardar.conectado : LocGuardar → Bool
  | acepta => true
  | aceptado => true
  | _ => false

/-- The critical sections of the other connections, but for the reads. -/
def Intento.deOtro : Intento → Option Umv.Evento
  | ajeno ⟨_, .solicitarBytes _ _, _⟩ => none
  | ajeno e => some e
  | _ => none

/-- The steps of the other threads of the kernel. -/
def Intento.deOtroHilo : Intento → Option Evento
  | hilo e => some e
  | _ => none

/-- The segment of an area: of the process, of the size that was asked for and, but for the stack,
with the bytes of the area. -/
structure EsArea (prog : Prog) (stack : U32) (s : Umv.Estado) (pid : TIdPrograma) (i : ℕ)
    (x : TipoSegmento) : Prop where
  mem : x ∈ s.pSegmentos
  idPrograma : x.idPrograma = pid
  tamanio : x.tamanio = arrayDeTamano prog stack i
  bytes : i < 3 → Umv.bytes s.memoria x = contenido prog i

/-- **What is asked for**, of an attempt that starts in `v₀` and takes the steps `tr`.  When
`conectarUMV` has returned 0, each area that is not empty has a segment of its own, and the program
enters `newProcesos`.  An error in a creation leads to the rejection, and then no segment of the
process is left; the segments of the others are those of the abstract memory in which only the
others take steps; the program is in no list; and what the threads of the kernel share is what it is
when only the other threads take steps. -/
structure TodoONada (prog : Prog) (stack : U32) (programa : Programa) (v₀ : Admision)
    (tr : List Intento) (v : Admision) : Prop where
  areas : v.loc.conectado = true → ∃ segmento : ℕ → TipoSegmento,
    (∀ i < 4, arrayDeTamano prog stack i ≠ 0#32 →
      EsArea prog stack v.umv.estado (pidDe programa) i (segmento i)) ∧
    ∀ i < 4, ∀ j < 4, arrayDeTamano prog stack i ≠ 0#32 → arrayDeTamano prog stack j ≠ 0#32 →
      segmento i = segmento j → i = j
  acepta : v.loc = .acepta → ∃ v', pasoInterno prog stack programa v = some v' ∧ v'.loc = .aceptado
  entra : v.loc = .aceptado →
    (programa, calcularPeso prog v.pcb) ∈ v.kernel.comun.newProcesos
  error : ∀ e, .propio e ∈ tr → e.respuesta = some .memory_overload → v.loc.enRechazo = true
  segmentos : v.loc = .rechazado → ∀ x ∈ v.umv.estado.pSegmentos, x.idPrograma ≠ pidDe programa
  otros : v.loc = .rechazado →
    Lts.Run Umv.PasoAbstracto (SegMem.destroy v₀.umv.estado.abstracta (pidDe programa))
      (tr.filterMap Intento.deOtro) v.umv.estado.abstracta
  listas : v.loc = .rechazado → programa ∉ enListas v.kernel.comun ∧
    programa ∉ v.kernel.comun.lista_de_programas ∧
    ∀ peso, (programa, peso) ∉ v.kernel.comun.newProcesos
  kernel : v.loc = .rechazado → ∃ k, Lts.Run Paso v₀.kernel (tr.filterMap Intento.deOtroHilo) k ∧
    v.kernel = { k with plp := .pregunta }

/-- **The steps in which no store of another connection gets past the check with a sum that wraps
around.** -/
def SinDesbordes (v : Admision) : Intento → Prop
  | .ajeno ⟨_, .almacenarBytes pid st, _⟩ =>
      Umv.SinDesborde v.umv.estado pid st.base st.offset st.tamanio
  | _ => True

variable {B : Bloque} {prog : Prog} {stack : U32} {programa x : Programa} {h h' i : ℕ}
  {v v' : Admision} {e : Intento}

/-! ### The areas, one by one -/

theorem length_contenido (prog : Prog) (stack : U32) (hi : i < 3) :
    (contenido prog i).length = (arrayDeTamano prog stack i).toNat := by
  have harchivo := prog.archivo_lt
  have hinstrucciones := prog.instrucciones_lt
  have hetiquetas := prog.etiquetas_lt
  match i with
  | 0 =>
      rw [contenido, arrayDeTamano, BitVec.toNat_ofNat, Nat.mod_eq_of_lt harchivo]
      simp
  | 1 =>
      rw [contenido, arrayDeTamano, length_serializarPalabras, BitVec.toNat_mul, BitVec.toNat_ofNat,
        BitVec.toNat_ofNat,
        Nat.mod_eq_of_lt (a := prog.instrucciones_serializado.length) (by omega),
        Nat.mod_eq_of_lt (a := 8) (by omega), Nat.mod_eq_of_lt hinstrucciones, List.length_flatMap]
      simp
      omega
  | 2 =>
      rw [contenido, arrayDeTamano, Prog.tamanioEtiqueta, BitVec.toNat_ofNat,
        Nat.mod_eq_of_lt hetiquetas]
  | _ + 3 => omega

/-- The segment of an area, by its logical address. -/
def Guardada (prog : Prog) (stack : U32) (m : TPuntero → Option (List Byte)) (i : ℕ)
    (d : TPuntero) : Prop :=
  ∃ bs, m d = some bs ∧ bs.length = (arrayDeTamano prog stack i).toNat ∧
    (i < 3 → bs = contenido prog i)

/-- **The segments of the areas before a given one**, all different. -/
structure Areas (prog : Prog) (stack : U32) (m : TPuntero → Option (List Byte)) (dir : ℕ → TPuntero)
    (i : ℕ) : Prop where
  guardada : ∀ j < i, arrayDeTamano prog stack j ≠ 0#32 → Guardada prog stack m j (dir j)
  distintas : ∀ j < i, ∀ k < i, arrayDeTamano prog stack j ≠ 0#32 →
    arrayDeTamano prog stack k ≠ 0#32 → dir j = dir k → j = k

variable {m m' : TPuntero → Option (List Byte)} {dir : ℕ → TPuntero} {d : TPuntero}

theorem Areas.cero : Areas prog stack m dir 0 where
  guardada := fun _ hj => absurd hj (Nat.not_lt_zero _)
  distintas := fun _ hj => absurd hj (Nat.not_lt_zero _)

theorem Areas.le (ha : Areas prog stack m dir i) {k : ℕ} (hk : k ≤ i) :
    Areas prog stack m dir k where
  guardada := fun j hj => ha.guardada j (hj.trans_le hk)
  distintas := fun j hj l hl => ha.distintas j (hj.trans_le hk) l (hl.trans_le hk)

/-- The segments of the areas are still there. -/
theorem Areas.conserva (ha : Areas prog stack m dir i)
    (hm : ∀ j < i, arrayDeTamano prog stack j ≠ 0#32 → m' (dir j) = m (dir j)) :
    Areas prog stack m' dir i where
  guardada := by
    intro j hj hno
    rw [Guardada, hm j hj hno]
    exact ha.guardada j hj hno
  distintas := ha.distintas

/-- An empty area needs no segment. -/
theorem Areas.salta (ha : Areas prog stack m dir i) (hi : arrayDeTamano prog stack i = 0#32) :
    Areas prog stack m dir (i + 1) where
  guardada := by
    intro j hj hno
    rcases Nat.lt_succ_iff_lt_or_eq.1 hj with hj | rfl
    · exact ha.guardada j hj hno
    · exact absurd hi hno
  distintas := by
    intro j hj k hk hno hno' heq
    rcases Nat.lt_succ_iff_lt_or_eq.1 hj with hj | rfl
    · rcases Nat.lt_succ_iff_lt_or_eq.1 hk with hk | rfl
      · exact ha.distintas j hj k hk hno hno' heq
      · exact absurd hi hno'
    · exact absurd hi hno

/-- **One more area has its segment.** -/
theorem Areas.agrega (ha : Areas prog stack m dir i)
    (hd : ∀ j < i, arrayDeTamano prog stack j ≠ 0#32 → dir j ≠ d)
    (hguardada : Guardada prog stack m i d) :
    Areas prog stack m (Function.update dir i d) (i + 1) where
  guardada := by
    intro j hj hno
    rcases Nat.lt_succ_iff_lt_or_eq.1 hj with hj | rfl
    · rw [Function.update_of_ne hj.ne]
      exact ha.guardada j hj hno
    · rwa [Function.update_self]
  distintas := by
    intro j hj k hk hno hno' heq
    rcases Nat.lt_succ_iff_lt_or_eq.1 hj with hj | rfl
    · rw [Function.update_of_ne hj.ne] at heq
      rcases Nat.lt_succ_iff_lt_or_eq.1 hk with hk | rfl
      · rw [Function.update_of_ne hk.ne] at heq
        exact ha.distintas j hj k hk hno hno' heq
      · rw [Function.update_self] at heq
        exact absurd heq (hd j hj hno)
    · rw [Function.update_self] at heq
      rcases Nat.lt_succ_iff_lt_or_eq.1 hk with hk | rfl
      · rw [Function.update_of_ne hk.ne] at heq
        exact absurd heq.symm (hd k hk hno')
      · rfl

/-! ### The segments of the attempt -/

/-- The requests are for the process of the attempt. -/
def LocGuardar.Registrado (pid : TIdPrograma) (stConexion : Conexion) : LocGuardar → Prop
  | saluda _ => True
  | cambiaProceso _ => True
  | _ => stConexion.idPrograma = pid

/-- **What the attempt has done**, in terms of the segments of its process. -/
def LocGuardar.Hecho (prog : Prog) (stack : U32) (m : TPuntero → Option (List Byte)) :
    LocGuardar → Prop
  | area i => ∃ dir, Areas prog stack m dir i
  | crea i => i < 4 ∧ arrayDeTamano prog stack i ≠ 0#32 ∧ ∃ dir, Areas prog stack m dir i
  | almacena i d => i < 3 ∧ ∃ dir, Areas prog stack m dir i ∧
      (∀ j < i, arrayDeTamano prog stack j ≠ 0#32 → dir j ≠ d) ∧
      ∃ bs, m d = some bs ∧ bs.length = (arrayDeTamano prog stack i).toNat
  | acepta => ∃ dir, Areas prog stack m dir 4
  | aceptado => ∃ dir, Areas prog stack m dir 4
  | rechaza => ∀ d, m d = none
  | rechazado => ∀ d, m d = none
  | _ => True

/-- **The invariant of the attempt in the UMV.** -/
structure EnCurso (B : Bloque) (prog : Prog) (stack : U32) (programa : Programa) (v : Admision) :
    Prop where
  umv : v.umv.Valido B
  pid : v.pcb.pid = pidDe programa
  registro : v.loc.Registrado (pidDe programa) v.stConexion
  hecho : v.loc.Hecho prog stack (v.umv.estado.abstracta (pidDe programa))

@[simp] theorem asignarArea_pid (i : ℕ) (d : TPuntero) (pcb : Pcb) :
    (asignarArea i d pcb).pid = pcb.pid := by
  match i with
  | 0 | 1 | 2 | _ + 3 => rfl

/-- **The critical sections of the attempt**, at a location: it creates the segment of an area, it
fills it, or it destroys the segments of the process. -/
def SeccionPropia (prog : Prog) (stack : U32) (loc : LocGuardar) (c : Conexion) (sec : Seccion) :
    Prop :=
  (∃ i, loc = .crea i ∧
    (sec = .compactacion c.idPrograma (arrayDeTamano prog stack i) ∨
      sec.Crea c.idPrograma (arrayDeTamano prog stack i))) ∨
  (∃ i st, loc = .almacena i st.base ∧ sec = .almacenarBytes c.idPrograma st ∧
    st.offset = 0#32 ∧ st.tamanio = arrayDeTamano prog stack i ∧
    ∀ j < st.tamanio.toNat, st.buffer j = (contenido prog i).getD j 0#8) ∨
  loc = .destruye ∧ sec = .eliminarSegmentos c.idPrograma

/-- The UMV runs no other ones for the requests of the attempt. -/
theorem seccion_propia {pcb : Pcb} {loc : LocGuardar} {c c' : Conexion} {p : PedidoUmv}
    {m : MensajeUmv} {sec : Seccion} (hp : pedidoDe prog stack pcb loc = some p)
    (hl : p.Llega c m c') (ha : Umv.Atiende c' m sec) :
    c' = c ∧ SeccionPropia prog stack loc c sec := by
  cases loc with
  | saluda rechazo =>
      cases hp
      obtain ⟨rfl, -⟩ := hl
      cases ha
  | cambiaProceso rechazo =>
      cases hp
      obtain ⟨rfl, -⟩ := hl
      cases ha
  | crea i =>
      cases hp
      obtain ⟨rfl, rfl⟩ := hl
      refine ⟨rfl, Or.inl ⟨i, rfl, ?_⟩⟩
      cases ha with
      | primeraBusqueda => exact Or.inr (Or.inl rfl)
      | compactacion => exact Or.inl rfl
      | segundaBusqueda => exact Or.inr (Or.inr rfl)
  | almacena i d =>
      cases hp
      obtain ⟨rfl, st, rfl, rfl, hoffset, htamanio, hbuffer⟩ := hl
      cases ha
      refine ⟨rfl, Or.inr (Or.inl ⟨i, st, rfl, rfl, hoffset, htamanio, ?_⟩)⟩
      rw [htamanio]
      exact hbuffer
  | destruye =>
      cases hp
      obtain ⟨rfl, rfl⟩ := hl
      cases ha
      exact ⟨rfl, Or.inr (Or.inr ⟨rfl, rfl⟩)⟩
  | _ => cases hp

/-- **The segment of an area was created.** -/
theorem Areas.creada (ha : Areas prog stack m dir i) {bs : List Byte} (hnuevo : m d = none)
    (hm : ∀ d', d' ≠ d → m' d' = m d') (hd : m' d = some bs)
    (hlen : bs.length = (arrayDeTamano prog stack i).toNat) {loc : LocGuardar}
    (hloc : loc = if i < 3 then .almacena i d else .area (i + 1)) : loc.Hecho prog stack m' := by
  have hotras : ∀ j < i, arrayDeTamano prog stack j ≠ 0#32 → dir j ≠ d := by
    intro j hj hno heq
    obtain ⟨bs', hbs, -⟩ := ha.guardada j hj hno
    exact absurd (hnuevo.symm.trans (heq ▸ hbs)) (by simp)
  have hquedan : Areas prog stack m' dir i := ha.conserva fun j hj hno => hm _ (hotras j hj hno)
  by_cases hi3 : i < 3
  · rw [if_pos hi3] at hloc
    subst hloc
    exact ⟨hi3, dir, hquedan, hotras, bs, hd, hlen⟩
  · rw [if_neg hi3] at hloc
    subst hloc
    exact ⟨_, hquedan.agrega hotras ⟨bs, hd, hlen, fun h => absurd h hi3⟩⟩

/-- The critical sections of the attempt are for its process. -/
theorem EnCurso.idPrograma (hv : EnCurso B prog stack programa v) {sec : Seccion}
    (hcasos : SeccionPropia prog stack v.loc v.stConexion sec) :
    v.stConexion.idPrograma = pidDe programa := by
  have hregistro := hv.registro
  rcases hcasos with ⟨i, hloc, -⟩ | ⟨i, st, hloc, -⟩ | ⟨hloc, -⟩
  all_goals
    rw [hloc] at hregistro
    exact hregistro

/-- The critical sections of the attempt get past no check. -/
theorem EnCurso.cabe (hv : EnCurso B prog stack programa v) {sec : Seccion}
    (hcasos : SeccionPropia prog stack v.loc v.stConexion sec) : sec.Cabe v.umv.estado := by
  rcases hcasos with ⟨i, hloc, hsec⟩ | ⟨i, st, -, rfl, hoffset, -⟩ | ⟨-, rfl⟩
  · have hhecho := hv.hecho
    rw [hloc] at hhecho
    rcases hsec with rfl | rfl | rfl
    · trivial
    · have hno := hhecho.2.1
      show 0 < (arrayDeTamano prog stack i).toNat
      bv_omega
    · trivial
  · intro x _ _ _
    rw [hoffset]
    simpa using st.tamanio.isLt
  · trivial

/-- **What a critical section of the attempt does**, with its answer: to the location, to the PCB
and to the segments. -/
inductive Efecto (prog : Prog) (stack : U32) (pid : TIdPrograma) (loc : LocGuardar) (pcb : Pcb)
    (a : Abstracta) : LocGuardar → Pcb → Abstracta → Prop
  /-- no answer yet -/
  | espera : Efecto prog stack pid loc pcb a loc pcb a
  | error {i : ℕ} {b : Abstracta} : loc = .crea i →
      Efecto prog stack pid loc pcb a (.saluda true) pcb b
  | creada {i : ℕ} {d : TPuntero} {bs : List Byte} : loc = .crea i → a pid d = none →
      bs.length = (arrayDeTamano prog stack i).toNat →
      Efecto prog stack pid loc pcb a (if i < 3 then .almacena i d else .area (i + 1))
        (if i < 3 then pcb else asignarArea i d pcb) (SegMem.create a pid d bs)
  | llenada {i : ℕ} {d : TPuntero} : loc = .almacena i d →
      Efecto prog stack pid loc pcb a (.area (i + 1)) (asignarArea i d pcb)
        (SegMem.create a pid d (contenido prog i))
  | destruida : loc = .destruye →
      Efecto prog stack pid loc pcb a .rechaza pcb (SegMem.destroy a pid)

/-- **There is nothing else that it can do.** -/
theorem EnCurso.efecto (hv : EnCurso B prog stack programa v) {p : PedidoUmv} {m : MensajeUmv}
    {stConexion : Conexion} {e : Umv.Evento} {umv : Umv.Sistema} {loc : LocGuardar} {pcb : Pcb}
    (hp : pedidoDe prog stack v.pcb v.loc = some p) (hl : p.Llega v.stConexion m stConexion)
    (ha : Umv.Atiende stConexion m e.seccion) (hpaso : Umv.Paso B v.umv e umv)
    (htras : (match e.respuesta with
      | none => some (v.loc, v.pcb)
      | some r => trasRespuestaUmv v.pcb v.loc r) = some (loc, pcb)) :
    stConexion = v.stConexion ∧ v.stConexion.idPrograma = pidDe programa ∧ umv.Valido B ∧
      Efecto prog stack (pidDe programa) v.loc v.pcb v.umv.estado.abstracta loc pcb
        umv.estado.abstracta := by
  obtain ⟨rfl, hcasos⟩ := seccion_propia hp hl ha
  have hpid := hv.idPrograma hcasos
  have hcabe := hv.cabe hcasos
  have habs := hpaso.abstracto hcabe hv.umv
  refine ⟨rfl, hpid, hpaso.valido hv.umv hcabe.tamanioPositivo, ?_⟩
  cases hr : e.respuesta with
  | none =>
      rw [hr] at htras
      cases htras
      rw [habs.eq_of_none hr]
      exact .espera
  | some r =>
      rw [hr] at htras
      rcases hcasos with ⟨i, hloc, hsec⟩ | ⟨i, st, hloc, hsec, hoffset, htamanio, hbuffer⟩ |
          ⟨hloc, hsec⟩
      · rw [hloc] at htras
        cases r with
        | memory_overload =>
            cases htras
            exact .error hloc
        | segmentation_fault =>
            cases htras
            exact .error hloc
        | segmentoCreado d =>
            have hcrea : e.seccion.Crea v.stConexion.idPrograma (arrayDeTamano prog stack i) := by
              rcases hsec with hsec | hsec
              · exact absurd (hr.symm.trans (habs.compactacion_none hsec)) (by simp)
              · exact hsec
            obtain ⟨bs, hnuevo, hlen, hcreado⟩ := habs.creado hcrea hr
            rw [hcreado, hpid]
            have hcreada : Efecto prog stack (pidDe programa) v.loc v.pcb v.umv.estado.abstracta
                (if i < 3 then .almacena i d else .area (i + 1))
                (if i < 3 then v.pcb else asignarArea i d v.pcb)
                (SegMem.create v.umv.estado.abstracta (pidDe programa) d bs) :=
              .creada hloc (hnuevo (pidDe programa)) hlen
            have hloc' := Option.some_inj.1 htras
            by_cases hi3 : i < 3
            · rw [if_pos hi3] at hloc'
              rw [if_pos hi3, if_pos hi3] at hcreada
              cases hloc'
              exact hcreada
            · rw [if_neg hi3] at hloc'
              rw [if_neg hi3, if_neg hi3] at hcreada
              cases hloc'
              exact hcreada
        | OK => cases htras
        | bytesSolicitados data => cases htras
      · have hhecho := hv.hecho
        rw [hloc] at htras hhecho
        obtain ⟨hi, -, -, -, bs, hbs, hlen⟩ := hhecho
        cases htras
        rw [hpid] at hsec
        have hcontenido := length_contenido prog stack hi
        have hllena := habs.llena hsec hbs hoffset (hlen.trans (by rw [htamanio]))
          (hcontenido.trans hlen.symm) (by
            rw [hcontenido, ← htamanio]
            exact hbuffer)
        rw [hllena]
        exact .llenada hloc
      · rw [hloc] at htras
        cases htras
        rw [hpid] at hsec
        rw [habs.eliminado hsec]
        exact .destruida hloc

/-- **A critical section of the attempt keeps the invariant.** -/
theorem EnCurso.propio (hv : EnCurso B prog stack programa v) {p : PedidoUmv} {m : MensajeUmv}
    {stConexion : Conexion} {e : Umv.Evento} {umv : Umv.Sistema} {loc : LocGuardar} {pcb : Pcb}
    (hp : pedidoDe prog stack v.pcb v.loc = some p) (hl : p.Llega v.stConexion m stConexion)
    (ha : Umv.Atiende stConexion m e.seccion) (hpaso : Umv.Paso B v.umv e umv)
    (htras : (match e.respuesta with
      | none => some (v.loc, v.pcb)
      | some r => trasRespuestaUmv v.pcb v.loc r) = some (loc, pcb)) :
    EnCurso B prog stack programa
      { v with umv := umv, stConexion := stConexion, loc := loc, pcb := pcb } := by
  obtain ⟨rfl, hidPrograma, hvalido, hefecto⟩ := hv.efecto hp hl ha hpaso htras
  have hhecho := hv.hecho
  have hpid := hv.pid
  generalize habs : umv.estado.abstracta = b at hefecto
  cases hefecto with
  | espera => exact ⟨hvalido, hpid, hv.registro, habs ▸ hhecho⟩
  | error _ => exact ⟨hvalido, hpid, trivial, trivial⟩
  | @creada i d bs hloc hnuevo hlen =>
      rw [hloc] at hhecho
      obtain ⟨-, -, dir, hareas⟩ := hhecho
      have hotras (d' : TPuntero) (hd' : d' ≠ d) :
          SegMem.create v.umv.estado.abstracta (pidDe programa) d bs (pidDe programa) d' =
            v.umv.estado.abstracta (pidDe programa) d' :=
        SegMem.create_of_ne fun h => hd' h.2
      have hecho := hareas.creada hnuevo hotras SegMem.create_self hlen rfl
      rw [← habs] at hecho
      by_cases hi3 : i < 3
      · rw [if_pos hi3] at hecho
        rw [if_pos hi3, if_pos hi3]
        exact ⟨hvalido, hpid, hidPrograma, hecho⟩
      · rw [if_neg hi3] at hecho
        rw [if_neg hi3, if_neg hi3]
        exact ⟨hvalido, (asignarArea_pid i d v.pcb).trans hpid, hidPrograma, hecho⟩
  | @llenada i d hloc =>
      rw [hloc] at hhecho
      obtain ⟨hi, dir, hareas, hotras, -⟩ := hhecho
      have hquedan : Areas prog stack (umv.estado.abstracta (pidDe programa)) dir i := by
        refine hareas.conserva fun j hj hno => ?_
        rw [habs]
        exact SegMem.create_of_ne fun h => hotras j hj hno h.2
      have hguardada : Guardada prog stack (umv.estado.abstracta (pidDe programa)) i d := by
        refine ⟨contenido prog i, ?_, length_contenido prog stack hi, fun _ => rfl⟩
        rw [habs]
        exact SegMem.create_self
      exact ⟨hvalido, (asignarArea_pid i d v.pcb).trans hpid, hidPrograma, _,
        hquedan.agrega hotras hguardada⟩
  | destruida _ =>
      refine ⟨hvalido, hpid, hidPrograma, fun d => ?_⟩
      rw [habs]
      exact SegMem.destroy_self

/-- A read changes nothing. -/
theorem lee_estado {s t : Umv.Sistema} {k : ℕ} {pid : TIdPrograma} {sol : SolicitudBytes}
    {r : Option Umv.Respuesta} (hpaso : Umv.Paso B s ⟨k, .solicitarBytes pid sol, r⟩ t) :
    t.estado = s.estado := by
  cases hpaso
  rfl

/-- **What another connection does**: it reads, or it takes a step of the abstract memory. -/
theorem ajeno_abstracto {e : Umv.Evento} {umv : Umv.Sistema} (hv : v.umv.Valido B)
    (hsin : SinDesbordes v (.ajeno e)) (hpos : e.seccion.TamanioPositivo)
    (hpaso : Umv.Paso B v.umv e umv) :
    Intento.deOtro (.ajeno e) = none ∧ umv.estado = v.umv.estado ∨
      Intento.deOtro (.ajeno e) = some e ∧
        Umv.PasoAbstracto v.umv.estado.abstracta e umv.estado.abstracta := by
  obtain ⟨k, sec, r⟩ := e
  cases sec with
  | solicitarBytes pid sol => exact Or.inl ⟨rfl, lee_estado hpaso⟩
  | almacenarBytes pid st => exact Or.inr ⟨rfl, hpaso.abstracto hsin hv⟩
  | primeraBusqueda pid n => exact Or.inr ⟨rfl, hpaso.abstracto hpos hv⟩
  | _ => exact Or.inr ⟨rfl, hpaso.abstracto trivial hv⟩

/-- **Another connection keeps the invariant.** -/
theorem EnCurso.ajeno (hv : EnCurso B prog stack programa v) {e : Umv.Evento} {umv : Umv.Sistema}
    (hsin : SinDesbordes v (.ajeno e)) (hproceso : e.seccion.proceso ≠ some (pidDe programa))
    (hpos : e.seccion.TamanioPositivo) (hpaso : Umv.Paso B v.umv e umv) :
    EnCurso B prog stack programa { v with umv := umv } where
  umv := hpaso.valido hv.umv hpos
  pid := hv.pid
  registro := hv.registro
  hecho := by
    have hmismos : umv.estado.abstracta (pidDe programa) =
        v.umv.estado.abstracta (pidDe programa) := by
      rcases ajeno_abstracto hv.umv hsin hpos hpaso with ⟨-, hestado⟩ | ⟨-, habs⟩
      · rw [hestado]
      · exact funext (habs.ajena hproceso)
    rw [hmismos]
    exact hv.hecho

/-- **A request that writes the record of the connection keeps the invariant.** -/
theorem EnCurso.registra (hv : EnCurso B prog stack programa v) {p : PedidoUmv} {m : MensajeUmv}
    {stConexion : Conexion} {loc : LocGuardar} {pcb : Pcb}
    (hp : pedidoDe prog stack v.pcb v.loc = some p) (hl : p.Llega v.stConexion m stConexion)
    (hm : m = .handshake ∨ m = .cambioProcesoActivo)
    (htras : trasRespuestaUmv v.pcb v.loc .OK = some (loc, pcb)) :
    EnCurso B prog stack programa { v with stConexion := stConexion, loc := loc, pcb := pcb } := by
  cases hloc : v.loc with
  | saluda rechazo =>
      rw [hloc] at htras
      cases htras
      exact ⟨hv.umv, hv.pid, trivial, trivial⟩
  | cambiaProceso rechazo =>
      rw [hloc] at htras hp
      cases hp
      obtain ⟨-, rfl⟩ := hl
      cases htras
      cases rechazo with
      | false => exact ⟨hv.umv, hv.pid, hv.pid, fun _ => 0#32, Areas.cero⟩
      | true => exact ⟨hv.umv, hv.pid, hv.pid, trivial⟩
  | crea i =>
      rw [hloc] at htras
      cases htras
  | almacena i d =>
      rw [hloc] at hp
      cases hp
      obtain ⟨-, st, rfl, -⟩ := hl
      exact absurd hm (by simp)
  | destruye =>
      rw [hloc] at hp
      cases hp
      obtain ⟨rfl, -⟩ := hl
      exact absurd hm (by simp)
  | _ =>
      rw [hloc] at hp
      cases hp

/-- What the attempt does between its requests keeps the invariant, and leaves the UMV alone. -/
theorem EnCurso.interno (hv : EnCurso B prog stack programa v)
    (hpaso : pasoInterno prog stack programa v = some v') :
    EnCurso B prog stack programa v' ∧ v'.umv = v.umv := by
  have hhecho := hv.hecho
  have hregistro := hv.registro
  rw [pasoInterno] at hpaso
  cases hloc : v.loc with
  | area i =>
      rw [hloc] at hhecho hregistro
      obtain ⟨dir, hareas⟩ := hhecho
      simp only [hloc] at hpaso
      split at hpaso
      · rename_i hi
        split at hpaso
        · rename_i hcero
          cases hpaso
          exact ⟨⟨hv.umv, hv.pid, hregistro, dir, hareas.salta hcero⟩, rfl⟩
        · rename_i hno
          cases hpaso
          exact ⟨⟨hv.umv, hv.pid, hregistro, hi, hno, dir, hareas⟩, rfl⟩
      · rename_i hi
        cases hpaso
        exact ⟨⟨hv.umv, hv.pid, hregistro, dir, hareas.le (Nat.not_lt.1 hi)⟩, rfl⟩
  | acepta =>
      rw [hloc] at hhecho hregistro
      simp only [hloc] at hpaso
      obtain ⟨kernel, -, rfl⟩ := Option.map_eq_some_iff.1 hpaso
      exact ⟨⟨hv.umv, hv.pid, hregistro, hhecho⟩, rfl⟩
  | rechaza =>
      rw [hloc] at hhecho hregistro
      simp only [hloc] at hpaso
      obtain ⟨kernel, -, rfl⟩ := Option.map_eq_some_iff.1 hpaso
      exact ⟨⟨hv.umv, hv.pid, hregistro, hhecho⟩, rfl⟩
  | _ => exact absurd hpaso (by simp [hloc])

/-- **Every step keeps the invariant**, and without the segments of the process it is a step of
another connection or none. -/
theorem EnCurso.paso (hv : EnCurso B prog stack programa v) (hsin : SinDesbordes v e)
    (hpaso : PasoAdmision B prog stack programa h h' v e v') :
    EnCurso B prog stack programa v' ∧
      match e.deOtro with
      | none => SegMem.destroy v'.umv.estado.abstracta (pidDe programa) =
          SegMem.destroy v.umv.estado.abstracta (pidDe programa)
      | some e' => Umv.PasoAbstracto (SegMem.destroy v.umv.estado.abstracta (pidDe programa)) e'
          (SegMem.destroy v'.umv.estado.abstracta (pidDe programa)) := by
  cases hpaso with
  | hilo _ _ _ _ => exact ⟨⟨hv.umv, hv.pid, hv.registro, hv.hecho⟩, rfl⟩
  | ajeno _ _ _ hproceso hpos hpaso =>
      refine ⟨hv.ajeno hsin hproceso hpos hpaso, ?_⟩
      rcases ajeno_abstracto hv.umv hsin hpos hpaso with ⟨hnada, hestado⟩ | ⟨halgo, habs⟩
      · simp only [hnada, hestado]
      · simp only [halgo]
        exact habs.sin_ajena hproceso
  | registro hp hl hm htras => exact ⟨hv.registra hp hl hm htras, rfl⟩
  | propio hp hl ha _ hpaso htras =>
      refine ⟨hv.propio hp hl ha hpaso htras, ?_⟩
      obtain ⟨rfl, hcasos⟩ := seccion_propia hp hl ha
      have hproceso := ha.proceso
      rw [hv.idPrograma hcasos] at hproceso
      exact (hpaso.abstracto (hv.cabe hcasos) hv.umv).sin_propia hproceso
  | interno hpaso =>
      obtain ⟨hv', humv⟩ := hv.interno hpaso
      exact ⟨hv', by simp only [Intento.deOtro, humv]⟩

/-! ### The lists of the kernel -/

/-- The programs in `listaExec` were put in Ready, and those in `exitProcesos` were handed over. -/
structure SoloAdmitidos (s : Sistema) : Prop where
  exec : ∀ y ∈ s.comun.listaExec, y ∈ s.comun.admitidos
  exit : ∀ y ∈ s.comun.exitProcesos, y ∈ s.comun.entregados

variable {c c' : Comun} {s s' : Sistema} {loc loc' : Loc}

/-- The thread of a CPU puts in `listaExec` the program that it has. -/
theorem listaExec_pasoHilo (hpaso : pasoHilo c loc = some (loc', c')) :
    ∀ y ∈ c'.listaExec, y ∈ c.listaExec ∨ y ∈ loc.duenio := by
  intro y hy
  cases pasoHilo_avanza hpaso with
  | agregaExec =>
      rcases List.mem_append.1 hy with hy | hy
      · exact Or.inl hy
      · exact Or.inr (Multiset.mem_singleton.2 (List.mem_singleton.1 hy))
  | moverAExit | recargaQuita | lockQuitaExec | quitaExecDispositivo =>
      exact Or.inl (List.mem_of_mem_eraseP hy)
  | _ => exact Or.inl hy

/-- The scheduler leaves `listaExec` and `exitProcesos` alone. -/
theorem pasoPlp_listas {peso : Option ℤ} {l l' : LocPlp}
    (hpaso : pasoPlp c peso l = some (l', c')) :
    c'.listaExec = c.listaExec ∧ c'.exitProcesos = c.exitProcesos ∧ c'.entregados = c.entregados ∧
      ∀ y ∈ c.admitidos, y ∈ c'.admitidos := by
  cases pasoPlp_avanza hpaso with
  | mueve => exact ⟨rfl, rfl, rfl, fun y hy => List.mem_append_left _ hy⟩
  | _ => exact ⟨rfl, rfl, rfl, fun y hy => hy⟩

/-- **Every step keeps it.** -/
theorem SoloAdmitidos.paso {e : Evento} (hs : SoloAdmitidos s) (hpropio : Propio s)
    (hpaso : Paso s e s') : SoloAdmitidos s' := by
  cases hpaso.transicion with
  | conexion =>
      exact ⟨hs.exec, hs.exit⟩
  | @hilo i loc loc' c' hi hloc =>
      obtain ⟨nuevos, hentregados, hexit⟩ := entregados_pasoHilo hloc
      constructor
      · intro y hy
        rw [show ({ s with hilos := s.hilos.set i loc', comun := c' } : Sistema).comun.admitidos =
          s.comun.admitidos from (pasoHilo_marco hloc).admitidos]
        rcases listaExec_pasoHilo hloc y hy with hy | hy
        · exact hs.exec y hy
        · refine Multiset.mem_coe.1 (Multiset.mem_of_le hpropio.duenios_le ?_)
          rw [duenios, Multiset.mem_add]
          exact Or.inr (Totals.mem_total.2 ⟨loc, List.mem_of_getElem? hi, hy⟩)
      · intro y hy
        simp only [hentregados, hexit] at hy ⊢
        rcases List.mem_append.1 hy with hy | hy
        · exact List.mem_append_left _ (hs.exit y hy)
        · exact List.mem_append_right _ hy
  | @mensaje i _ mensaje _ =>
      exact ⟨hs.exec, hs.exit⟩
  | @dispositivo j c' hc =>
      obtain ⟨ready, dispositivos, n, rfl⟩ := pasoDispositivo_marco hc
      exact ⟨hs.exec, hs.exit⟩
  | @plp peso plp c' hc =>
      obtain ⟨hexec, hexit, hentregados, hadmitidos⟩ := pasoPlp_listas hc
      constructor
      · intro y hy
        simp only [hexec] at hy
        exact hadmitidos y (hs.exec y hy)
      · intro y hy
        simp only [hexit, hentregados] at hy ⊢
        exact hs.exit y hy
  | @principal pcb principal c' hc =>
      generalize s.principal = l at hc
      cases pasoPrincipal_avanza hc with
      | _ => exact ⟨hs.exec, hs.exit⟩
  | @salida salida c' hc =>
      generalize s.salida = l at hc
      cases pasoSalida_avanza hc with
      | espera => exact ⟨hs.exec, hs.exit⟩
      | saca hexit =>
          refine ⟨hs.exec, fun y hy => hs.exit y ?_⟩
          rw [hexit]
          exact List.mem_cons_of_mem _ hy

/-- **A program that was not put in Ready is in none of the lists.** -/
theorem Propio.notMem_enListas (hpropio : Propio s) (hs : SoloAdmitidos s)
    (hx : x ∉ s.comun.admitidos) : x ∉ enListas s.comun := by
  have hduenio : x ∉ dueniosComun s.comun := by
    intro hmem
    refine hx (Multiset.mem_coe.1 (Multiset.mem_of_le hpropio.duenios_le ?_))
    rw [duenios, Multiset.mem_add]
    exact Or.inl hmem
  have hexec : x ∉ s.comun.listaExec := fun hmem => hx (hs.exec x hmem)
  have hexit : x ∉ s.comun.exitProcesos := fun hmem => hx <| Multiset.mem_coe.1 <|
    Multiset.mem_of_le hpropio.entregados_le (Multiset.mem_coe.2 (hs.exit x hmem))
  have hcolas : x ∉ Totals.total (fun d : Dispositivo =>
      ((d.progEncolados.map Prod.fst : List Programa) : Multiset Programa)) s.comun.dispositivos :=
    fun hmem => by
      refine hduenio ?_
      obtain ⟨d, hd, hmem⟩ := Totals.mem_total.1 hmem
      rw [dueniosComun, Multiset.mem_add, Multiset.mem_add]
      exact Or.inl (Or.inr (Totals.mem_total.2 ⟨d, hd, Multiset.mem_add.2 (Or.inl hmem)⟩))
  rw [dueniosComun, Multiset.mem_add, Multiset.mem_add, Multiset.mem_add, not_or, not_or, not_or]
    at hduenio
  obtain ⟨⟨⟨hready, hsemaforos⟩, -⟩, -⟩ := hduenio
  rw [enListas, Multiset.mem_add, Multiset.mem_add, Multiset.mem_add, Multiset.mem_add,
    not_or, not_or, not_or, not_or]
  exact ⟨⟨⟨⟨hready, hexec⟩, hexit⟩, hsemaforos⟩, hcolas⟩

/-- The program that the scheduler is preparing is nowhere else on its way. -/
theorem Propio.preparado (hpropio : Propio s) (hplp : s.plp = .guarda x) :
    x ∉ s.comun.admitidos ∧ x ∉ s.comun.lista_de_programas ∧
      ∀ peso, (x, peso) ∉ s.comun.newProcesos := by
  have hunicas := hpropio.unicas
  rw [Kernel.llegadas, hplp, Multiset.nodup_add, Multiset.nodup_add] at hunicas
  have hfuera : x ∉ (s.comun.admitidos : Multiset Programa) +
      (s.comun.newProcesos.map Prod.fst : Multiset Programa) +
      (s.comun.lista_de_programas : Multiset Programa) :=
    fun hmem => Multiset.disjoint_left.1 hunicas.1.2.2 hmem (Multiset.mem_singleton_self x)
  rw [Multiset.mem_add, Multiset.mem_add, not_or, not_or] at hfuera
  obtain ⟨⟨hadmitidos, hnew⟩, hlista⟩ := hfuera
  exact ⟨hadmitidos, hlista, fun peso hmem => hnew (List.mem_map_of_mem (f := Prod.fst) hmem)⟩

/-! ### The attempt in the kernel -/

/-- **The invariant of the attempt in the kernel**: until `guardar_programa` returns, the kernel is
what the other threads make of it. -/
structure EnKernel (prog : Prog) (programa : Programa) (v : Admision) (k : Sistema) : Prop where
  propio : Propio k
  admitidos : SoloAdmitidos k
  plp : k.plp = .guarda programa
  sigue : v.loc.termino = false → v.kernel = k
  aceptado : v.loc = .aceptado →
    (programa, calcularPeso prog v.pcb) ∈ v.kernel.comun.newProcesos
  rechazado : v.loc = .rechazado → v.kernel = { k with plp := .pregunta }

/-- The attempt goes on. -/
theorem EnKernel.continua {k : Sistema} (hv : EnKernel prog programa v k)
    (htermino : v.loc.termino = false) (hkernel : v'.kernel = v.kernel)
    (htermino' : v'.loc.termino = false) : EnKernel prog programa v' k where
  propio := hv.propio
  admitidos := hv.admitidos
  plp := hv.plp
  sigue := fun _ => hkernel.trans (hv.sigue htermino)
  aceptado := fun hloc => absurd (hloc ▸ htermino') (by simp [LocGuardar.termino])
  rechazado := fun hloc => absurd (hloc ▸ htermino') (by simp [LocGuardar.termino])

/-- Only the scheduler moves its location. -/
theorem plp_paso {e : Evento} (he : ∀ peso, e ≠ .plp peso) (hpaso : Paso s e s') :
    s'.plp = s.plp := by
  cases hpaso.transicion with
  | @plp peso _ _ _ => exact absurd rfl (he peso)
  | _ => rfl

theorem pedidoDe_termino {pcb : Pcb} {loc : LocGuardar} {p : PedidoUmv}
    (hp : pedidoDe prog stack pcb loc = some p) : loc.termino = false := by
  cases loc with
  | aceptado => cases hp
  | rechazado => cases hp
  | _ => rfl

theorem trasRespuestaUmv_termino {pcb pcb' : Pcb} {l l' : LocGuardar} {r : Umv.Respuesta}
    (htras : trasRespuestaUmv pcb l r = some (l', pcb')) : l'.termino = false := by
  cases l with
  | saluda rechazo =>
      cases htras
      rfl
  | cambiaProceso rechazo =>
      cases htras
      cases rechazo <;> rfl
  | crea i =>
      cases r with
      | segmentoCreado d =>
          rw [trasRespuestaUmv] at htras
          split at htras <;> cases htras <;> rfl
      | _ => cases htras <;> rfl
  | almacena i d =>
      cases htras
      rfl
  | destruye =>
      cases htras
      rfl
  | _ => cases htras

/-- **What `guardar_programa` does between its requests, in the kernel**: it goes on, or it puts the
program in `newProcesos`, or it drops it. -/
theorem EnKernel.interno {k : Sistema} (hv : EnKernel prog programa v k)
    (hpaso : pasoInterno prog stack programa v = some v') : EnKernel prog programa v' k := by
  rw [pasoInterno] at hpaso
  cases hloc : v.loc with
  | area i =>
      have htermino : v.loc.termino = false := by rw [hloc]; rfl
      simp only [hloc] at hpaso
      split at hpaso
      · split at hpaso
        · cases hpaso
          exact hv.continua htermino rfl rfl
        · cases hpaso
          exact hv.continua htermino rfl rfl
      · cases hpaso
        exact hv.continua htermino rfl rfl
  | acepta =>
      have hkernel := hv.sigue (by rw [hloc]; rfl)
      simp only [hloc, hkernel, paso, hv.plp, pasoPlp, Option.map_some, Option.some.injEq] at hpaso
      subst hpaso
      refine ⟨hv.propio, hv.admitidos, hv.plp, fun h => ?_, fun _ => ?_, fun h => ?_⟩
      · exact absurd h (by simp [LocGuardar.termino])
      · exact List.mem_mergeSort.2 (List.mem_append_right _ (List.mem_singleton_self _))
      · exact absurd h (by simp)
  | rechaza =>
      have hkernel := hv.sigue (by rw [hloc]; rfl)
      simp only [hloc, hkernel, paso, hv.plp, pasoPlp, Option.map_some, Option.some.injEq] at hpaso
      subst hpaso
      refine ⟨hv.propio, hv.admitidos, hv.plp, fun h => ?_, fun h => ?_, fun _ => rfl⟩
      · exact absurd h (by simp [LocGuardar.termino])
      · exact absurd h (by simp)
  | _ => exact absurd hpaso (by simp [hloc])

/-- **Every step keeps the invariant**, and in the kernel it is a step of another thread or none. -/
theorem EnKernel.paso {k : Sistema} (hv : EnKernel prog programa v k)
    (hpaso : PasoAdmision B prog stack programa h h' v e v') :
    match e.deOtroHilo with
    | none => EnKernel prog programa v' k
    | some e' => ∃ k', Paso k e' k' ∧ EnKernel prog programa v' k' := by
  cases hpaso with
  | @hilo e kernel htermino he hpids hpaso =>
      have hkernel := hv.sigue htermino
      rw [hkernel] at hpids hpaso
      refine ⟨kernel, hpaso, hv.propio.paso hpids hpaso, hv.admitidos.paso hv.propio hpaso,
        (plp_paso he hpaso).trans hv.plp, fun _ => rfl, fun hloc => ?_, fun hloc => ?_⟩
      · exact absurd htermino (by simp [show v.loc = .aceptado from hloc, LocGuardar.termino])
      · exact absurd htermino (by simp [show v.loc = .rechazado from hloc, LocGuardar.termino])
  | ajeno htermino _ _ _ _ _ => exact hv.continua htermino rfl htermino
  | registro hp _ _ htras =>
      exact hv.continua (pedidoDe_termino hp) rfl (trasRespuestaUmv_termino htras)
  | @propio p m stConexion e umv loc pcb hp _ _ _ _ htras =>
      refine hv.continua (pedidoDe_termino hp) rfl ?_
      split at htras
      · cases htras
        exact pedidoDe_termino hp
      · exact trasRespuestaUmv_termino htras
  | interno hpaso => exact hv.interno hpaso

/-! ### An error in a creation -/

/-- The rejection is not given up. -/
theorem enRechazo_tras {pcb pcb' : Pcb} {l l' : LocGuardar} {r : Umv.Respuesta}
    (hl : l.enRechazo = true) (htras : trasRespuestaUmv pcb l r = some (l', pcb')) :
    l'.enRechazo = true := by
  cases l with
  | saluda rechazo =>
      cases htras
      exact hl
  | cambiaProceso rechazo =>
      obtain rfl : rechazo = true := hl
      cases htras
      rfl
  | destruye =>
      cases htras
      rfl
  | rechaza => cases htras
  | rechazado => cases htras
  | _ => exact absurd hl (by simp [LocGuardar.enRechazo])

theorem enRechazo_paso (hv : v.loc.enRechazo = true)
    (hpaso : PasoAdmision B prog stack programa h h' v e v') : v'.loc.enRechazo = true := by
  cases hpaso with
  | hilo _ _ _ _ => exact hv
  | ajeno _ _ _ _ _ _ => exact hv
  | registro _ _ _ htras => exact enRechazo_tras hv htras
  | propio _ _ _ _ _ htras =>
      split at htras
      · cases htras
        exact hv
      · exact enRechazo_tras hv htras
  | interno hpaso =>
      rw [pasoInterno] at hpaso
      cases hloc : v.loc with
      | area i => exact absurd hv (by simp [hloc, LocGuardar.enRechazo])
      | acepta => exact absurd hv (by simp [hloc, LocGuardar.enRechazo])
      | rechaza =>
          simp only [hloc] at hpaso
          obtain ⟨kernel, -, rfl⟩ := Option.map_eq_some_iff.1 hpaso
          rfl
      | _ => exact absurd hpaso (by simp [hloc])

/-- A store is not answered `memory_overload`. -/
theorem almacenarBytes_ne_overload (s : Umv.Estado) (pid : TIdPrograma) (st : AlmacenarBytes) :
    (Umv.almacenarBytes s pid st).1 ≠ .memory_overload := by
  rw [Umv.almacenarBytes]
  split
  · simp
  · split <;> simp

/-- **A creation that is answered `memory_overload` leads to the rejection.** -/
theorem enRechazo_of_error {e : Umv.Evento}
    (hpaso : PasoAdmision B prog stack programa h h' v (.propio e) v')
    (he : e.respuesta = some .memory_overload) : v'.loc.enRechazo = true := by
  cases hpaso with
  | propio hp hl ha _ hpaso htras =>
      obtain ⟨rfl, hcasos⟩ := seccion_propia hp hl ha
      rw [he] at htras
      rcases hcasos with ⟨i, hloc, -⟩ | ⟨i, st, -, hsec, -⟩ | ⟨hloc, -⟩
      · rw [hloc] at htras
        cases htras
        rfl
      · obtain ⟨k, sec, r⟩ := e
        obtain rfl : sec = _ := hsec
        cases hpaso
        exact absurd (Option.some_inj.1 he) (almacenarBytes_ne_overload _ _ _)
      · rw [hloc] at htras
        cases htras
        rfl

theorem enRechazo_run {v₀ : Admision} {tr : List Intento}
    (hrun : Lts.Run (PasoAdmision B prog stack programa h h') v₀ tr v) {e : Umv.Evento}
    (he : .propio e ∈ tr) (hr : e.respuesta = some .memory_overload) : v.loc.enRechazo = true := by
  induction hrun with
  | nil => exact absurd he (by simp)
  | snoc _ hpaso ih =>
      rcases List.mem_append.1 he with he | he
      · exact enRechazo_paso (ih he) hpaso
      · obtain rfl := List.mem_singleton.1 he
        exact enRechazo_of_error hpaso hr

/-! ### The admission -/

theorem Comienza.enCurso {v₀ : Admision} (hv₀ : Comienza B programa v₀)
    (hkernel : Propio v₀.kernel) : EnCurso B prog stack programa v₀ where
  umv := hv₀.umv
  pid := by
    rw [hv₀.pcb]
    refine hkernel.pids.pid programa (hkernel.llegadas programa ?_)
    simp [llegadas, hv₀.plp, LocPlp.llegada]
  registro := by
    rw [hv₀.loc]
    trivial
  hecho := by
    rw [hv₀.loc]
    trivial

theorem Comienza.enKernel {v₀ : Admision} (hv₀ : Comienza B programa v₀) :
    EnKernel prog programa v₀ v₀.kernel := by
  obtain ⟨configuracion, tr, hrun⟩ := hv₀.kernel
  have hpropio : Propio v₀.kernel ∧ SoloAdmitidos v₀.kernel := by
    refine hrun.invariant (I := fun s => Propio s ∧ SoloAdmitidos s)
      (fun _ _ _ hs he => ⟨hs.1.paso he.1 he.2, hs.2.paso hs.1 he.2⟩)
        ⟨propio_inicial configuracion, ?_⟩
    exact ⟨fun y hy => absurd hy (by simp [inicial]), fun y hy => absurd hy (by simp [inicial])⟩
  refine ⟨hpropio.1, hpropio.2, hv₀.plp, fun _ => rfl, fun hloc => ?_, fun hloc => ?_⟩
  · exact absurd (hv₀.loc.symm.trans hloc) (by simp)
  · exact absurd (hv₀.loc.symm.trans hloc) (by simp)

/-- **The areas, in the table of the UMV.** -/
theorem Areas.segmentos (hs : v.umv.Valido B)
    (ha : Areas prog stack (v.umv.estado.abstracta (pidDe programa)) dir 4) :
    ∃ segmento : ℕ → TipoSegmento,
      (∀ i < 4, arrayDeTamano prog stack i ≠ 0#32 →
        EsArea prog stack v.umv.estado (pidDe programa) i (segmento i)) ∧
      ∀ i < 4, ∀ j < 4, arrayDeTamano prog stack i ≠ 0#32 → arrayDeTamano prog stack j ≠ 0#32 →
        segmento i = segmento j → i = j := by
  have hmuestra := Umv.muestra_abstracta hs.tabla.toTablaBienFormada
  have hexiste (i : ℕ) : ∃ x, i < 4 → arrayDeTamano prog stack i ≠ 0#32 →
      EsArea prog stack v.umv.estado (pidDe programa) i x ∧ x.dirLogica = dir i := by
    by_cases hi : i < 4 ∧ arrayDeTamano prog stack i ≠ 0#32
    · obtain ⟨bs, hbs, hlen, hcontenido⟩ := ha.guardada i hi.1 hi.2
      obtain ⟨x, hx, hd, rfl⟩ := hmuestra.exists_mem hbs
      rw [Umv.length_bytes] at hlen
      exact ⟨x, fun _ _ => ⟨⟨hx, hd.1, BitVec.eq_of_toNat_eq hlen, hcontenido⟩, hd.2⟩⟩
    · exact ⟨⟨0#32, 0#32, 0#32, 0#32⟩, fun hlt hno => absurd ⟨hlt, hno⟩ hi⟩
  choose segmento hsegmento using hexiste
  refine ⟨segmento, fun i hi hno => (hsegmento i hi hno).1, ?_⟩
  intro i hi j hj hno hno' heq
  refine ha.distintas i hi j hj hno hno' ?_
  rw [← (hsegmento i hi hno).2, ← (hsegmento j hj hno').2, heq]

/-- **In a whole attempt the UMV, without the process, takes the steps of the other
connections.** -/
theorem EnCurso.run {v₀ : Admision} {tr : List Intento} (hv₀ : EnCurso B prog stack programa v₀)
    (hrun : Lts.Run (Lts.restrict SinDesbordes (PasoAdmision B prog stack programa h h')) v₀ tr v) :
    EnCurso B prog stack programa v ∧
    Lts.Run Umv.PasoAbstracto (SegMem.destroy v₀.umv.estado.abstracta (pidDe programa))
      (tr.filterMap Intento.deOtro) (SegMem.destroy v.umv.estado.abstracta (pidDe programa)) := by
  obtain ⟨a, ha, hv, rfl⟩ := hrun.simulation_filterMap (f := Intento.deOtro)
    (R := fun v a => EnCurso B prog stack programa v ∧
      a = SegMem.destroy v.umv.estado.abstracta (pidDe programa))
    (fun v e v' a hf hR he => by
      have hpaso := hR.1.paso he.1 he.2
      rw [hf] at hpaso
      exact ⟨hpaso.1, hR.2.trans hpaso.2.symm⟩)
    (fun v e e' v' a hf hR he => by
      have hpaso := hR.1.paso he.1 he.2
      rw [hf] at hpaso
      exact ⟨_, hR.2 ▸ hpaso.2, hpaso.1, rfl⟩)
    ⟨hv₀, rfl⟩
  exact ⟨hv, ha⟩

/-- **In a whole attempt the kernel takes the steps of the other threads.** -/
theorem EnKernel.run {v₀ : Admision} {k₀ : Sistema} {tr : List Intento}
    (hv₀ : EnKernel prog programa v₀ k₀)
    (hrun : Lts.Run (PasoAdmision B prog stack programa h h') v₀ tr v) :
    ∃ k, Lts.Run Paso k₀ (tr.filterMap Intento.deOtroHilo) k ∧ EnKernel prog programa v k := by
  refine hrun.simulation_filterMap ?_ ?_ hv₀
  · intro v e v' k hf hR he
    have hpaso := hR.paso he
    rwa [hf] at hpaso
  · intro v e e' v' k hf hR he
    have hpaso := hR.paso he
    rwa [hf] at hpaso

/-- Once `conectarUMV` has returned 0, the areas are stored. -/
theorem EnCurso.segmentos (hv : EnCurso B prog stack programa v) (hloc : v.loc.conectado = true) :
    ∃ segmento : ℕ → TipoSegmento,
      (∀ i < 4, arrayDeTamano prog stack i ≠ 0#32 →
        EsArea prog stack v.umv.estado (pidDe programa) i (segmento i)) ∧
      ∀ i < 4, ∀ j < 4, arrayDeTamano prog stack i ≠ 0#32 → arrayDeTamano prog stack j ≠ 0#32 →
        segmento i = segmento j → i = j := by
  have hhecho := hv.hecho
  cases hl : v.loc with
  | acepta =>
      rw [hl] at hhecho
      obtain ⟨dir, hareas⟩ := hhecho
      exact hareas.segmentos hv.umv
  | aceptado =>
      rw [hl] at hhecho
      obtain ⟨dir, hareas⟩ := hhecho
      exact hareas.segmentos hv.umv
  | _ => exact absurd hloc (by simp [hl, LocGuardar.conectado])

/-- **The admission of a program is all or nothing**, in every run of an attempt in which no store
of another connection gets past the check of the UMV with a sum that wraps around. -/
theorem admision_todo_o_nada (B : Bloque) (prog : Prog) (stack : U32)
    (programa : Programa) (h h' : ℕ) {v₀ v : Admision} {tr : List Intento}
    (hv₀ : Comienza B programa v₀)
    (hrun : Lts.Run (Lts.restrict SinDesbordes (PasoAdmision B prog stack programa h h')) v₀ tr v) :
    TodoONada prog stack programa v₀ tr v := by
  have hkernel₀ : EnKernel prog programa v₀ v₀.kernel := hv₀.enKernel
  have humv₀ : EnCurso B prog stack programa v₀ := hv₀.enCurso hkernel₀.propio
  obtain ⟨hv, ha⟩ := humv₀.run hrun
  obtain ⟨k, hk, hkernel⟩ := hkernel₀.run hrun.of_restrict
  have hmuestra := Umv.muestra_abstracta hv.umv.tabla.toTablaBienFormada
  have hhecho := hv.hecho
  have hpreparado := hkernel.propio.preparado hkernel.plp
  constructor
  case areas => exact hv.segmentos
  case acepta =>
    intro hloc
    have hk := hkernel.sigue (by rw [hloc]; rfl)
    simp [pasoInterno, hloc, hk, paso, hkernel.plp, pasoPlp]
  case entra => exact hkernel.aceptado
  case error => exact fun e he hr => enRechazo_run hrun.of_restrict he hr
  case segmentos =>
    intro hloc x hx hpid
    rw [hloc] at hhecho
    have hsegmento := hmuestra.of_mem hx ⟨hpid, rfl⟩
    exact absurd ((hhecho x.dirLogica).symm.trans hsegmento) (by simp)
  case otros =>
    intro hloc
    rw [hloc] at hhecho
    have hnada : SegMem.destroy v.umv.estado.abstracta (pidDe programa) =
        v.umv.estado.abstracta := by
      funext pid d
      rcases eq_or_ne pid (pidDe programa) with rfl | hne
      · rw [SegMem.destroy_self, hhecho d]
      · exact SegMem.destroy_of_ne hne
    rwa [hnada] at ha
  case listas =>
    intro hloc
    rw [hkernel.rechazado hloc]
    exact ⟨hkernel.propio.notMem_enListas hkernel.admitidos hpreparado.1, hpreparado.2⟩
  case kernel => exact fun hloc => ⟨k, hk, hkernel.rechazado hloc⟩

/-! ### A program that is admitted with other bytes -/

open Umv (bloque16)

theorem sinEtiquetas_lt : ([] : List Byte).length < 2 ^ 32 := by decide

/-- A program with a comment of three characters. -/
def progComentario : Prog :=
  ⟨[35#8, 97#8, 98#8], [], [], by decide, by decide, sinEtiquetas_lt⟩

/-- The UMV when the first program has a segment of four bytes, after a free gap of four. -/
def umvVecino : Umv.Sistema :=
  ⟨⟨.FF, fun _ => 0#8, [⟨1001#32, 4#32, 100#32, 0x1004#32⟩]⟩, fun _ => .libre⟩

/-- The PCB of the second program. -/
def pcbSegundo : Pcb := { pcbNulo with pid := 1002#32 }

/-- The UMV when the code of the second program has its segment. -/
def umvCodigo : Umv.Sistema :=
  umvVecino.con { umvVecino.estado with
    pSegmentos :=
      [⟨1002#32, 4#32, 500#32, 0x1000#32⟩, ⟨1001#32, 4#32, 100#32, 0x1004#32⟩] } 0 .libre

/-- The code is stored. -/
def umvGuardado (stack : U32) : Umv.Sistema :=
  umvCodigo.con (Umv.almacenarBytes umvCodigo.estado 1002#32
    (almacenarEnUMV progComentario stack 0 500#32)).2 0 .libre

/-- The attempt, once the record of the connection is written. -/
def intento (k : Sistema) (umv : Umv.Sistema) (loc : LocGuardar) (pcb : Pcb) : Admision :=
  ⟨k, umv, ⟨Umv.tipoKernel, 1002#32⟩, loc, pcb⟩

/-- The PCB when the code has its segment and the indices are empty. -/
def pcbCodigo : Pcb := { pcbSegundo with segmentoCodigo := 500#32, indiceEtiqueta := 1#32 }

/-- The steps up to the test for the stack, with what another connection does once the code is
stored. -/
def trazaCodigo (stack : U32) (ajenos : List Intento) : List Intento :=
  [.registro, .registro, .interno,
    .propio ⟨0, .primeraBusqueda 1002#32 4#32, some (.segmentoCreado 500#32)⟩,
    .propio ⟨0, .almacenarBytes 1002#32 (almacenarEnUMV progComentario stack 0 500#32),
    some .OK⟩] ++
  ajenos ++ [.interno, .interno]

theorem run_codigo (k : Sistema) (stack : U32) {ajenos : List Intento} {umv : Umv.Sistema}
    (hajenos : Lts.Run (PasoAdmision bloque16 progComentario stack 1 0 1)
      (intento k (umvGuardado stack) (.area 1) { pcbSegundo with segmentoCodigo := 500#32 }) ajenos
      (intento k umv (.area 1) { pcbSegundo with segmentoCodigo := 500#32 })) :
    Lts.Run (PasoAdmision bloque16 progComentario stack 1 0 1)
      ⟨k, umvVecino, ⟨0#32, 0#32⟩, .saluda false, pcbSegundo⟩ (trazaCodigo stack ajenos)
      (intento k umv (.area 3) pcbCodigo) := by
  have h₁ : PasoAdmision bloque16 progComentario stack 1 0 1
      ⟨k, umvVecino, ⟨0#32, 0#32⟩, .saluda false, pcbSegundo⟩ .registro
      ⟨k, umvVecino, ⟨Umv.tipoKernel, 0#32⟩, .cambiaProceso false, pcbSegundo⟩ :=
    .registro (p := .handshake Umv.tipoKernel) rfl ⟨rfl, rfl⟩ (Or.inl rfl) rfl
  have h₂ : PasoAdmision bloque16 progComentario stack 1 0 1
      ⟨k, umvVecino, ⟨Umv.tipoKernel, 0#32⟩, .cambiaProceso false, pcbSegundo⟩ .registro
      (intento k umvVecino (.area 0) pcbSegundo) :=
    .registro (p := .cambioProcesoActivo 1002#32) rfl ⟨rfl, rfl⟩ (Or.inr rfl) rfl
  have h₃ : PasoAdmision bloque16 progComentario stack 1 0 1
      (intento k umvVecino (.area 0) pcbSegundo) .interno
        (intento k umvVecino (.crea 0) pcbSegundo) :=
    .interno rfl
  have h₄ : PasoAdmision bloque16 progComentario stack 1 0 1
      (intento k umvVecino (.crea 0) pcbSegundo)
      (.propio ⟨0, .primeraBusqueda 1002#32 4#32, some (.segmentoCreado 500#32)⟩)
      (intento k umvCodigo (.almacena 0 500#32) pcbSegundo) :=
    .propio (p := .crearSegmento 4#32) rfl ⟨rfl, rfl⟩ (.primeraBusqueda rfl) rfl
      (.crear [500#32] rfl (show Umv.buscarEspacio bloque16 umvVecino.estado 4#32 ≠
        null by decide) rfl)
      rfl
  have h₅ : PasoAdmision bloque16 progComentario stack 1 0 1
      (intento k umvCodigo (.almacena 0 500#32) pcbSegundo)
      (.propio ⟨0, .almacenarBytes 1002#32 (almacenarEnUMV progComentario stack 0 500#32),
        some .OK⟩)
      (intento k (umvGuardado stack) (.area 1) { pcbSegundo with segmentoCodigo := 500#32 }) :=
    .propio (p := .almacenar (almacenarEnUMV progComentario stack 0 500#32)) rfl
      ⟨rfl, _, rfl, rfl, rfl, rfl, fun _ _ => rfl⟩ .almacenar rfl (.almacenar rfl) rfl
  have h₆ : PasoAdmision bloque16 progComentario stack 1 0 1
      (intento k umv (.area 1) { pcbSegundo with segmentoCodigo := 500#32 }) .interno
      (intento k umv (.area 2) pcbCodigo) := .interno rfl
  have h₇ : PasoAdmision bloque16 progComentario stack 1 0 1
      (intento k umv (.area 2) pcbCodigo) .interno (intento k umv (.area 3) pcbCodigo) :=
        .interno rfl
  have hcodigo := ((((Lts.Run.single h₁).snoc h₂).snoc h₃).snoc h₄).snoc h₅
  exact (hcodigo.trans hajenos).trans ((Lts.Run.single h₆).snoc h₇)

/-- The kernel when the scheduler has taken the second program. -/
theorem prepara_segundo : ∃ k, Lts.Run (Lts.restrict ConPids Paso) (inicial configuracionSola)
    (llegaPrograma ++ (llegaPrograma.take 5)) k ∧ k.plp = .guarda 1 ∧
    k.comun.pcb 1 = pcbSegundo := by
  have hfin : (correr conPids (llegaPrograma ++ (llegaPrograma.take 5))
      (inicial configuracionSola)).any (fun k => decide
        (k.plp = .guarda 1 ∧ k.comun.pcb 1 = pcbSegundo)) = true := by
    decide +kernel
  obtain ⟨k, hk, hfin⟩ := Option.any_eq_true _ _ |>.1 hfin
  exact ⟨k, (run_of_correr hk).restrict_mono fun _ _ => conPids_of_test, of_decide_eq_true hfin⟩

/-- The UMV with a segment that is to be destroyed. -/
def umvPrimero : Umv.Sistema :=
  Umv.vacio.con { Umv.vacio.estado with pSegmentos := [⟨7#32, 4#32, 99#32, 0x1000#32⟩] } 2 .libre

/-- The UMV with its neighbour is one that is reached: the segment before it was destroyed. -/
theorem valido_umvVecino : umvVecino.Valido bloque16 := by
  have h₁ : Umv.Paso bloque16 Umv.vacio
      ⟨2, .primeraBusqueda 7#32 4#32, some (.segmentoCreado 99#32)⟩ umvPrimero :=
    .crear [99#32] rfl (show Umv.buscarEspacio bloque16 Umv.vacio.estado 4#32 ≠ null by decide) rfl
  have h₂ : Umv.Paso bloque16 umvPrimero
      ⟨2, .primeraBusqueda 1001#32 4#32, some (.segmentoCreado 100#32)⟩
      (umvPrimero.con { umvPrimero.estado with pSegmentos :=
        [⟨7#32, 4#32, 99#32, 0x1000#32⟩, ⟨1001#32, 4#32, 100#32, 0x1004#32⟩] } 2 .libre) :=
    .crear [100#32] rfl (show Umv.buscarEspacio bloque16 umvPrimero.estado 4#32 ≠
      null by decide) rfl
  have hpos : 0 < (4#32 : U32).toNat := by decide
  have hvalido := h₂.valido (h₁.valido (Umv.Sistema.Inicial.valido ⟨rfl, fun _ => rfl⟩) hpos) hpos
  exact ⟨hvalido.tabla.filter fun x => x.idPrograma != 7#32, fun _ => trivial⟩

/-- The attempt starts. -/
theorem comienza_segundo : ∃ k, k.plp = .guarda 1 ∧
    Comienza bloque16 1 ⟨k, umvVecino, ⟨0#32, 0#32⟩, .saluda false, pcbSegundo⟩ := by
  obtain ⟨k, hk, hplp, hpcb⟩ := prepara_segundo
  exact ⟨k, hplp, ⟨⟨_, _, hk⟩, hplp, hpcb.symm, rfl, valido_umvVecino⟩⟩

/-- The UMV when there is no room for a stack of sixteen bytes, before the compaction and after
it. -/
def umvSinLugar : Umv.Sistema :=
  (umvGuardado 16#32).con (umvGuardado 16#32).estado 0 (.porCompactar 1002#32 16#32)

def umvCompactado : Umv.Sistema :=
  umvSinLugar.con (Umv.fnCompactar bloque16 umvSinLugar.estado) 0 (.porBuscar 1002#32 16#32)

/-- The UMV when the segments of the second program are destroyed. -/
def umvBorrado : Umv.Sistema :=
  (umvCompactado.con umvCompactado.estado 0 .libre).con
    (Umv.eliminarSegmentos umvCompactado.estado 1002#32).2 1 .libre

/-- There is no room for the stack, and the program is rejected. -/
def trazaRechaza : List Intento :=
  trazaCodigo 16#32 [] ++
    [.interno, .propio ⟨0, .primeraBusqueda 1002#32 16#32, none⟩,
      .propio ⟨0, .compactacion 1002#32 16#32, none⟩,
      .propio ⟨0, .segundaBusqueda 1002#32 16#32, some .memory_overload⟩, .registro, .registro,
      .propio ⟨1, .eliminarSegmentos 1002#32, some .OK⟩, .interno]

theorem run_rechaza {k : Sistema} (hplp : k.plp = .guarda 1) :
    Lts.Run (PasoAdmision bloque16 progComentario 16#32 1 0 1)
      ⟨k, umvVecino, ⟨0#32, 0#32⟩, .saluda false, pcbSegundo⟩ trazaRechaza
      (intento { k with plp := .pregunta } umvBorrado .rechazado pcbCodigo) := by
  have h₁ : PasoAdmision bloque16 progComentario 16#32 1 0 1
      (intento k (umvGuardado 16#32) (.area 3) pcbCodigo) .interno
      (intento k (umvGuardado 16#32) (.crea 3) pcbCodigo) := .interno rfl
  have h₂ : PasoAdmision bloque16 progComentario 16#32 1 0 1
      (intento k (umvGuardado 16#32) (.crea 3) pcbCodigo)
      (.propio ⟨0, .primeraBusqueda 1002#32 16#32, none⟩)
      (intento k umvSinLugar (.crea 3) pcbCodigo) :=
    .propio (p := .crearSegmento 16#32) rfl ⟨rfl, rfl⟩ (.primeraBusqueda rfl) rfl
      (.sinLugar rfl
        (show Umv.buscarEspacio bloque16 (umvGuardado 16#32).estado 16#32 = null by decide)) rfl
  have h₃ : PasoAdmision bloque16 progComentario 16#32 1 0 1
      (intento k umvSinLugar (.crea 3) pcbCodigo) (.propio ⟨0, .compactacion 1002#32 16#32, none⟩)
      (intento k umvCompactado (.crea 3) pcbCodigo) :=
    .propio (p := .crearSegmento 16#32) rfl ⟨rfl, rfl⟩ (.compactacion rfl) rfl (.compactar rfl) rfl
  have hsegunda : Umv.segundaBusqueda bloque16 umvCompactado.estado 1002#32 16#32 [] =
      some (.memory_overload, umvCompactado.estado) := by
    rw [Umv.segundaBusqueda, if_pos]
    decide
  have h₄ : PasoAdmision bloque16 progComentario 16#32 1 0 1
      (intento k umvCompactado (.crea 3) pcbCodigo)
      (.propio ⟨0, .segundaBusqueda 1002#32 16#32, some .memory_overload⟩)
      (intento k (umvCompactado.con umvCompactado.estado 0 .libre) (.saluda true) pcbCodigo) :=
    .propio (p := .crearSegmento 16#32) rfl ⟨rfl, rfl⟩ (.segundaBusqueda rfl) rfl
      (.buscar [] rfl hsegunda) rfl
  have h₅ : PasoAdmision bloque16 progComentario 16#32 1 0 1
      (intento k (umvCompactado.con umvCompactado.estado 0 .libre) (.saluda true) pcbCodigo)
        .registro
      (intento k (umvCompactado.con umvCompactado.estado 0 .libre)
        (.cambiaProceso true) pcbCodigo) :=
    .registro (p := .handshake Umv.tipoKernel) rfl ⟨rfl, rfl⟩ (Or.inl rfl) rfl
  have h₆ : PasoAdmision bloque16 progComentario 16#32 1 0 1
      (intento k (umvCompactado.con umvCompactado.estado 0 .libre) (.cambiaProceso true) pcbCodigo)
      .registro (intento k (umvCompactado.con umvCompactado.estado 0 .libre) .destruye pcbCodigo) :=
    .registro (p := .cambioProcesoActivo 1002#32) rfl ⟨rfl, rfl⟩ (Or.inr rfl) rfl
  have h₇ : PasoAdmision bloque16 progComentario 16#32 1 0 1
      (intento k (umvCompactado.con umvCompactado.estado 0 .libre) .destruye pcbCodigo)
      (.propio ⟨1, .eliminarSegmentos 1002#32, some .OK⟩)
        (intento k umvBorrado .rechaza pcbCodigo) :=
    .propio (p := .destruirSegmentos) rfl ⟨rfl, rfl⟩ (.destruirSegmentos rfl) rfl
      (.eliminar rfl) rfl
  have h₈ : PasoAdmision bloque16 progComentario 16#32 1 0 1
      (intento k umvBorrado .rechaza pcbCodigo) .interno
      (intento { k with plp := .pregunta } umvBorrado .rechazado pcbCodigo) := by
    refine .interno ?_
    simp [pasoInterno, intento, paso, hplp, pasoPlp]
  have hrechazo :=
    (((((((Lts.Run.single h₁).snoc h₂).snoc h₃).snoc h₄).snoc h₅).snoc h₆).snoc h₇).snoc h₈
  exact (run_codigo k 16#32 Lts.Run.nil).trans hrechazo

/-- The program is rejected, and nothing is left of it. -/
theorem admision_todo_o_nada_rechaza : ∃ v₀ v, v.loc = .rechazado ∧
    TodoONada progComentario 16#32 1 v₀ trazaRechaza v := by
  obtain ⟨k, hplp, hcomienza⟩ := comienza_segundo
  refine ⟨_, _, rfl, admision_todo_o_nada bloque16 progComentario 16#32 1 0 1 hcomienza
    ((run_rechaza hplp).restrict ?_)⟩
  intro e he v
  cases e with
  | ajeno e => exact absurd he (by simp [trazaRechaza, trazaCodigo])
  | _ => trivial

/-- Four bytes before the start of the segment of the first program. -/
def almacenaAntes : AlmacenarBytes := ⟨100#32, 0xfffffffc#32, 4#32, fun _ => 0xff#8⟩

/-- The UMV when the first program has stored them. -/
def umvDesbordado : Umv.Sistema :=
  (umvGuardado 4#32).con (Umv.almacenarBytes (umvGuardado 4#32).estado 1001#32 almacenaAntes).2 2
    .libre

/-- The UMV when the stack of the second program has its segment. -/
def umvStack : Umv.Sistema :=
  umvDesbordado.con { umvDesbordado.estado with
    pSegmentos := [⟨1002#32, 4#32, 500#32, 0x1000#32⟩, ⟨1001#32, 4#32, 100#32, 0x1004#32⟩,
      ⟨1002#32, 4#32, 501#32, 0x1008#32⟩] } 0 .libre

/-- The first program stores before the start of its segment, once the code of the second one is
stored; the second one is admitted. -/
def trazaDesborda : List Intento :=
  trazaCodigo 4#32 [.ajeno ⟨2, .almacenarBytes 1001#32 almacenaAntes, some .OK⟩] ++
    [.interno, .propio ⟨0, .primeraBusqueda 1002#32 4#32, some (.segmentoCreado 501#32)⟩, .interno]

theorem run_desborda (k : Sistema) :
    Lts.Run (PasoAdmision bloque16 progComentario 4#32 1 0 1)
      ⟨k, umvVecino, ⟨0#32, 0#32⟩, .saluda false, pcbSegundo⟩ trazaDesborda
      (intento k umvStack .acepta (asignarArea 3 501#32 pcbCodigo)) := by
  have h₁ : PasoAdmision bloque16 progComentario 4#32 1 0 1
      (intento k (umvGuardado 4#32) (.area 1) { pcbSegundo with segmentoCodigo := 500#32 })
      (.ajeno ⟨2, .almacenarBytes 1001#32 almacenaAntes, some .OK⟩)
      (intento k umvDesbordado (.area 1) { pcbSegundo with segmentoCodigo := 500#32 }) :=
    .ajeno rfl (by decide) (by decide) (by decide) trivial (.almacenar rfl)
  have h₂ : PasoAdmision bloque16 progComentario 4#32 1 0 1
      (intento k umvDesbordado (.area 3) pcbCodigo) .interno
      (intento k umvDesbordado (.crea 3) pcbCodigo) := .interno rfl
  have h₃ : PasoAdmision bloque16 progComentario 4#32 1 0 1
      (intento k umvDesbordado (.crea 3) pcbCodigo)
      (.propio ⟨0, .primeraBusqueda 1002#32 4#32, some (.segmentoCreado 501#32)⟩)
      (intento k umvStack (.area 4) (asignarArea 3 501#32 pcbCodigo)) :=
    .propio (p := .crearSegmento 4#32) rfl ⟨rfl, rfl⟩ (.primeraBusqueda rfl) rfl
      (.crear [501#32] rfl
        (show Umv.buscarEspacio bloque16 umvDesbordado.estado 4#32 ≠ null by decide) rfl) rfl
  have h₄ : PasoAdmision bloque16 progComentario 4#32 1 0 1
      (intento k umvStack (.area 4) (asignarArea 3 501#32 pcbCodigo)) .interno
      (intento k umvStack .acepta (asignarArea 3 501#32 pcbCodigo)) := .interno rfl
  have hfin := ((Lts.Run.single h₂).snoc h₃).snoc h₄
  exact (run_codigo k 4#32 (Lts.Run.single h₁)).trans hfin

/-- **A program is admitted with other bytes**: another connection stored over its code, with a sum
that wraps around. -/
theorem no_todo_o_nada :
    ¬∀ (B : Bloque) (prog : Prog) (stack : U32) (programa : Programa) (h h' : ℕ)
    (v₀ v : Admision) (tr : List Intento), Comienza B programa v₀ →
    Lts.Run (PasoAdmision B prog stack programa h h') v₀ tr v →
    TodoONada prog stack programa v₀ tr v := by
  intro hsiempre
  obtain ⟨k, -, hcomienza⟩ := comienza_segundo
  have htodo := hsiempre bloque16 progComentario 4#32 1 0 1 _ _ _ hcomienza (run_desborda k)
  obtain ⟨segmento, hareas, -⟩ := htodo.areas rfl
  obtain ⟨hmem, hpid, -, hbytes⟩ := hareas 0 (by decide) (by decide)
  have hotros : ∀ x ∈ umvStack.estado.pSegmentos, x.idPrograma = 1002#32 →
      Umv.bytes umvStack.estado.memoria x ≠ contenido progComentario 0 := by
    decide +kernel
  exact hotros _ hmem hpid (hbytes (by decide))

end Ansisop.Kernel
