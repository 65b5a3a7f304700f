/-
**What the primitives do to the stack.**

Each primitive takes a CPU that agrees with a stack to one that agrees with the stack after the
primitive, when no request is answered with an error and the primitive is used as it is meant to be:
an assignment goes to the value of a variable, a call with a result gives the address of a variable,
and a context is left by the primitive that goes with its call.

Main definitions:

* `Ansisop.Cpu.Pila.Permite`, `Ansisop.Cpu.Pila.tras`, `Ansisop.Cpu.Pila.escribe` — the primitives
  that may be called, the stack after one, and the values that it writes;
* `Ansisop.Cpu.Conserva` — the bytes that stay as they were.

Main results:

* `Ansisop.Cpu.definirVariable_pila`, `Ansisop.Cpu.asignar_pila`, `Ansisop.Cpu.llamar_pila`,
  `Ansisop.Cpu.finalizar_pila`, `Ansisop.Cpu.retornar_pila` — the primitives on the stack;
* `Ansisop.Cpu.ejecutar_pila` — **every permitted primitive keeps the agreement**.
-/

import Ansisop.Cpu.Pila

set_option relaxedAutoImplicit false
set_option autoImplicit false

namespace Ansisop.Cpu

variable {σ : Type*} {E : Entorno σ} {base : TPuntero} {F : UmvFiel E base} {m m' m'' : Maquina σ}
  {p : Pila}

/-! ### Bytes that stay -/

/-- A byte outside the values at some addresses. -/
def Fuera (base : TPuntero) (dirs : List TPuntero) (i : ℕ) : Prop :=
  ∀ dir ∈ dirs, ¬ ((dir - base).toNat ≤ i ∧ i < (dir - base).toNat + 4)

/-- The first `n` bytes of the stack stay, but for the values at some addresses. -/
def Conserva (F : UmvFiel E base) (n : ℕ) (dirs : List TPuntero) (m m' : Maquina σ) : Prop :=
  ∀ i < n, Fuera base dirs i → (F.bytes m').getD i 0#8 = (F.bytes m).getD i 0#8

theorem Conserva.trans {n n' : ℕ} {dirs dirs' : List TPuntero} (h : Conserva F n dirs m m')
    (h' : Conserva F n' dirs' m' m'') (hn : n ≤ n') : Conserva F n (dirs ++ dirs') m m'' := by
  intro i hi hfuera
  rw [h' i (by omega) fun dir hdir => hfuera dir (List.mem_append_right _ hdir)]
  exact h i hi fun dir hdir => hfuera dir (List.mem_append_left _ hdir)

theorem Conserva.of_bytes {n : ℕ} {dirs : List TPuntero} (h : F.bytes m' = F.bytes m) :
    Conserva F n dirs m m' := fun i _ _ => by rw [h]

/-- The value of a variable of the stack is no header and no name. -/
theorem Pila.Fijo.fuera {i : ℕ} {dirs : List TPuntero} (h : p.Fijo i) (htope : p.tope < 2 ^ 31)
    (hdirs : ∀ dir ∈ dirs, p.Apunta base dir) : Fuera base dirs i := by
  intro dir hdir
  obtain ⟨j, hj, rfl⟩ := hdirs dir hdir
  have hjlt := hj.lt
  have hnat : (base + BitVec.ofNat 32 j - base).toNat = j := by bv_omega
  rw [hnat]
  exact h.2 j hj

/-! ### The agreement -/

/-- A step that leaves the stack alone: it may change the program counter, the state of the burst
and the start of the context. -/
structure Quieta (F : UmvFiel E base) (m m' : Maquina σ) : Prop where
  segmentoStack : m'.estado.pcb.segmentoStack = m.estado.pcb.segmentoStack
  cursorStack : m'.estado.pcb.cursorStack = m.estado.pcb.cursorStack
  tamanioContexto : m'.estado.pcb.tamanioContexto = m.estado.pcb.tamanioContexto
  diccionario : m'.estado.diccionarioVariables = m.estado.diccionarioVariables
  bytes : F.bytes m' = F.bytes m

theorem PilaBien.quieta (h : PilaBien F m p) (hq : Quieta F m m') : PilaBien F m' p where
  segmentoStack := hq.segmentoStack.trans h.segmentoStack
  cursorStack := hq.cursorStack.trans h.cursorStack
  tamanioContexto := hq.tamanioContexto.trans h.tamanioContexto
  tope := by rw [hq.bytes]; exact h.tope
  tamanio := by rw [hq.bytes]; exact h.tamanio
  cabeceras := by rw [hq.bytes]; exact h.cabeceras
  diccionario := by rw [hq.bytes, hq.diccionario]; exact h.diccionario

theorem Quieta.of_estado (h : m'.estado = m.estado) (hb : F.bytes m' = F.bytes m) :
    Quieta F m m' :=
  ⟨by rw [h], by rw [h], by rw [h], by rw [h], hb⟩

theorem PilaBien.tope_lt (h : PilaBien F m p) : p.tope < 2 ^ 31 :=
  Nat.lt_of_le_of_lt h.tope h.tamanio

/-- The offset of the cursor in the segment of the stack. -/
theorem PilaBien.offset (h : PilaBien F m p) :
    (m.estado.pcb.cursorStack - m.estado.pcb.segmentoStack).toNat = p.tope := by
  have := h.tope_lt
  rw [h.cursorStack, h.segmentoStack]
  bv_omega

/-- The bytes below the part that is written stay. -/
theorem getD_overwrite_of_lt {bs : List Byte} {off n i : ℕ} {src : ℕ → Byte} (h : i < off) :
    (SegMem.overwrite bs off n src).getD i 0#8 = bs.getD i 0#8 := by
  rw [SegMem.getD_overwrite, if_neg (by omega)]

/-- **Storing at the cursor**: the bytes go over the stack, and those of the stack stay. -/
theorem PilaBien.empuja (h : PilaBien F m p) {m₀ m₁ : Maquina σ} {tamanio : U32} {src : ℕ → Byte}
    (hst : m₀.almacenar E ⟨m.estado.pcb.segmentoStack,
      m.estado.pcb.cursorStack - m.estado.pcb.segmentoStack, tamanio, src⟩ = (.ok (), m₁))
    (hbytes₀ : F.bytes m₀ = F.bytes m) :
    m₁.estado = m₀.estado ∧ p.tope + tamanio.toNat ≤ (F.bytes m).length ∧
      F.bytes m₁ = SegMem.overwrite (F.bytes m) p.tope tamanio.toNat src ∧
      (F.bytes m₁).length = (F.bytes m).length ∧ Conserva F p.tope [] m m₁ := by
  obtain ⟨hest, hlen, hbytes⟩ := F.almacenar_ok h.segmentoStack hst
  change (m.estado.pcb.cursorStack - m.estado.pcb.segmentoStack).toNat + tamanio.toNat ≤ _ at hlen
  change F.bytes m₁ = SegMem.overwrite (F.bytes m₀)
    (m.estado.pcb.cursorStack - m.estado.pcb.segmentoStack).toNat tamanio.toNat src at hbytes
  rw [h.offset, hbytes₀] at hlen hbytes
  refine ⟨hest, hlen, hbytes, by rw [hbytes, SegMem.length_overwrite], ?_⟩
  intro i hi _
  rw [hbytes, getD_overwrite_of_lt hi]

/-! ### Definitions and assignments -/

theorem enMemoria_conCelda {bs : List Byte} :
    p.conCelda.EnMemoria base bs ↔ p.EnMemoria base bs := by
  cases p <;> exact Iff.rfl

/-- **A definition pushes a variable.** -/
theorem definirVariable_pila (h : PilaBien F m p) {id : Byte} {v : U32}
    (hdefinir : definirVariable E id m = some (v, m')) (herr : m'.errores = m.errores) :
    PilaBien F m' p.conCelda ∧ Conserva F p.tope [] m m' := by
  obtain ⟨-, hdefinir⟩ := E.registrar_map.1 hdefinir
  obtain rfl := congrArg Prod.snd hdefinir
  dsimp only at herr ⊢
  clear hdefinir
  revert herr
  split
  · next m₁ hst =>
      intro _
      obtain ⟨hest, hlen, hbytes, hlargo, hcons⟩ := h.empuja hst (F.basura m.entorno)
      change p.tope + 5 ≤ _ at hlen
      have hbajo : ∀ i < p.tope, (F.bytes m₁).getD i 0#8 = (F.bytes m).getD i 0#8 := by
        intro i hi
        exact hcons i hi (by simp [Fuera])
      -- the first of the five bytes is the name, which is what the context is loaded from
      have hnombre : (F.bytes m₁).getD p.tope 0#8 = id := by
        rw [hbytes, SegMem.getD_overwrite, if_pos ⟨le_rfl, by simp, by omega⟩]
        exact if_pos (Nat.sub_self _)
      have hcursor : (m.basura E).2.estado.pcb.cursorStack = base + BitVec.ofNat 32 p.tope :=
        h.cursorStack
      refine ⟨⟨?_, ?_, ?_, ?_, ?_, ?_, ?_⟩, ?_⟩
      · exact h.segmentoStack
      · change (m.basura E).2.estado.pcb.cursorStack + 5#32 = _
        rw [hcursor, Pila.tope_conCelda, BitVec.add_assoc]
        congr 1
        bv_omega
      · change m.estado.pcb.tamanioContexto + 1#32 = _
        rw [h.tamanioContexto, Pila.celdas_conCelda]
        bv_omega
      · change p.conCelda.tope ≤ (F.bytes m₁).length
        rw [Pila.tope_conCelda, hlargo]
        omega
      · change (F.bytes m₁).length < 2 ^ 31
        rw [hlargo]
        exact h.tamanio
      · exact enMemoria_conCelda.2 (h.cabeceras.congr fun i hi => hbajo i hi.1)
      · change HashTable.Represents (dictionaryPut m₁.estado.diccionarioVariables id
          ((m.basura E).2.estado.pcb.cursorStack + 1#32)) (p.conCelda.nombres base (F.bytes m₁))
        rw [hest, hcursor, Pila.nombres_conCelda, hnombre,
          Pila.nombres_congr fun i hi => hbajo i hi.1, BitVec.add_assoc, ← BitVec.ofNat_add]
        exact h.diccionario.put _
      · exact hcons
  · next texto m₁ hst =>
      intro herr
      exact (errores_almacenar_ne hst herr).elim

/-- A step that writes only the values of some variables, and leaves the rest of the stack alone. -/
theorem PilaBien.escribe {dirs : List TPuntero} (h : PilaBien F m p)
    (hdirs : ∀ dir ∈ dirs, p.Apunta base dir)
    (hseg : m'.estado.pcb.segmentoStack = m.estado.pcb.segmentoStack)
    (hcursor : m'.estado.pcb.cursorStack = m.estado.pcb.cursorStack)
    (htam : m'.estado.pcb.tamanioContexto = m.estado.pcb.tamanioContexto)
    (hdic : m'.estado.diccionarioVariables = m.estado.diccionarioVariables)
    (hlargo : (F.bytes m').length = (F.bytes m).length) (hbs : Conserva F p.tope dirs m m') :
    PilaBien F m' p where
  segmentoStack := hseg.trans h.segmentoStack
  cursorStack := hcursor.trans h.cursorStack
  tamanioContexto := htam.trans h.tamanioContexto
  tope := by rw [hlargo]; exact h.tope
  tamanio := by rw [hlargo]; exact h.tamanio
  cabeceras := h.cabeceras.congr fun i hi => hbs i hi.1 (hi.fuera h.tope_lt hdirs)
  diccionario := by
    rw [hdic, Pila.nombres_congr fun i hi => hbs i hi.1 (hi.fuera h.tope_lt hdirs)]
    exact h.diccionario

/-- The bytes after an assignment: the value is there, and nothing else changes. -/
theorem bytes_asignar (hseg : m.estado.pcb.segmentoStack = base) (dir : TPuntero) (valor : U32)
    (herr : (asignar E dir valor m).errores = m.errores) :
    (asignar E dir valor m).estado = m.estado ∧
      F.bytes (asignar E dir valor m) =
        SegMem.overwrite (F.bytes m) (dir - base).toNat 4 (Words.byteAt valor) ∧
      (dir - base).toNat + 4 ≤ (F.bytes m).length := by
  rw [asignar] at herr ⊢
  revert herr
  split
  · next m₁ hst =>
      intro _
      obtain ⟨hest, hlen, hbytes⟩ := F.almacenar_ok hseg hst
      subst hseg
      exact ⟨hest, hbytes, hlen⟩
  · next texto m₁ hst =>
      intro herr
      exact (errores_almacenar_ne hst herr).elim

theorem conserva_asignar (hseg : m.estado.pcb.segmentoStack = base) (dir : TPuntero) (valor : U32)
    (herr : (asignar E dir valor m).errores = m.errores) (n : ℕ) :
    Conserva F n [dir] m (asignar E dir valor m) := by
  obtain ⟨-, hbytes, -⟩ := bytes_asignar (F := F) hseg dir valor herr
  intro i _ hfuera
  have := hfuera dir (List.mem_singleton_self dir)
  rw [hbytes, SegMem.getD_overwrite, if_neg (by omega)]

/-- **An assignment to a variable keeps the stack.** -/
theorem asignar_pila (h : PilaBien F m p) {dir : TPuntero} (hdir : p.Apunta base dir) (valor : U32)
    (herr : (asignar E dir valor m).errores = m.errores) :
    PilaBien F (asignar E dir valor m) p ∧ Conserva F p.tope [dir] m (asignar E dir valor m) := by
  obtain ⟨hest, hbytes, -⟩ := bytes_asignar (F := F) h.segmentoStack dir valor herr
  have hcons := conserva_asignar (F := F) h.segmentoStack dir valor herr p.tope
  have hdirs : ∀ d ∈ [dir], p.Apunta base d := by
    intro d hd
    rw [List.mem_singleton.1 hd]
    exact hdir
  exact ⟨h.escribe hdirs (by rw [hest]) (by rw [hest]) (by rw [hest]) (by rw [hest])
    (by rw [hbytes, SegMem.length_overwrite]) hcons, hcons⟩

/-! ### Calls -/

/-- The words of the header of a context. -/
def cabecera (donde : Option TPuntero) (pcb : Pcb) : List U32 :=
  iniContexto pcb :: pcb.programCounter :: donde.toList

theorem tamanio_cabecera (donde : Option TPuntero) (pcb : Pcb) :
    (BitVec.ofNat 32 (4 * (cabecera donde pcb).length)).toNat = tamanioCabecera donde := by
  cases donde <;> rfl

/-- The words of a header that has just been stored. -/
theorem palabra_bufferPalabras {bs : List Byte} {off n k : ℕ} (ws : List U32) (hk : k + 4 ≤ n)
    (hlen : off + n ≤ bs.length) :
    palabra (SegMem.overwrite bs off n (bufferPalabras ws)) (off + k) =
      palabra (serializarPalabras ws) k := by
  refine palabra_congr fun i hi => ?_
  rw [SegMem.getD_overwrite, if_pos ⟨by omega, by omega, by omega⟩, bufferPalabras]
  congr 1
  omega

/-- **A call pushes a context**, with the header that a return will need. -/
theorem llamar_pila (h : PilaBien F m p) {etiqueta : Texto} {donde : Option TPuntero}
    (hdonde : ∀ dir ∈ donde, p.Apunta base dir)
    (hllamar : llamar E etiqueta (cabecera donde) m = some m') (herr : m'.errores = m.errores) :
    PilaBien F m' (.marco p m.estado.pcb.programCounter donde 0) ∧ Conserva F p.tope [] m m' := by
  simp only [llamar] at hllamar
  split at hllamar
  · next m₁ hst =>
      obtain ⟨_, hsalto, rfl⟩ := Option.map_eq_some_iff.1 hllamar
      obtain ⟨-, rfl⟩ := E.registrar_map.1 hsalto
      obtain ⟨hest, hlen, hbytes, hlargo, hcons⟩ := h.empuja hst rfl
      change p.tope + (BitVec.ofNat 32 (4 * (cabecera donde m.estado.pcb).length)).toNat ≤ _ at hlen
      change F.bytes m₁ = SegMem.overwrite (F.bytes m) p.tope
        (BitVec.ofNat 32 (4 * (cabecera donde m.estado.pcb).length)).toNat
        (bufferPalabras (cabecera donde m.estado.pcb)) at hbytes
      rw [tamanio_cabecera] at hlen hbytes
      have hbajo : ∀ i < p.tope, (F.bytes m₁).getD i 0#8 = (F.bytes m).getD i 0#8 := by
        intro i hi
        exact hcons i hi (by simp [Fuera])
      -- the words of the header, as a return will read them
      have hpalabra (k : ℕ) (hk : k + 4 ≤ tamanioCabecera donde) :
          palabra (F.bytes m₁) (p.tope + k) =
            palabra (serializarPalabras (cabecera donde m.estado.pcb)) k := by
        rw [hbytes, palabra_bufferPalabras _ hk hlen]
      have htope := h.tope_lt
      have heq := p.tope_eq
      have h8 : 8 ≤ tamanioCabecera donde := by cases donde <;> simp [tamanioCabecera]
      have hdic₁ : m₁.estado.diccionarioVariables =
          HashTable.clean m.estado.diccionarioVariables :=
        congrArg (·.diccionarioVariables) hest
      have htam := h.tamanio
      refine ⟨⟨?_, ?_, ?_, ?_, ?_, ?_, ?_⟩, ?_⟩
      · exact (congrArg (·.pcb.segmentoStack) hest).trans h.segmentoStack
      · change m₁.estado.pcb.cursorStack +
          BitVec.ofNat 32 (4 * (cabecera donde m.estado.pcb).length) = _
        have hcursor : m₁.estado.pcb.cursorStack = m.estado.pcb.cursorStack :=
          congrArg (·.pcb.cursorStack) hest
        have hcab := tamanio_cabecera donde m.estado.pcb
        rw [hcursor, h.cursorStack]
        simp only [Pila.tope]
        bv_omega
      · exact congrArg (·.pcb.tamanioContexto) hest
      · change p.tope + tamanioCabecera donde + 5 * 0 ≤ (F.bytes m₁).length
        omega
      · change (F.bytes m₁).length < 2 ^ 31
        rw [hlargo]
        exact h.tamanio
      · refine ⟨h.cabeceras.congr fun i hi => hbajo i hi.1, ?_, ?_, ?_⟩
        · have := hpalabra 0 (by omega)
          rw [Nat.add_zero, cabecera, palabra_cons_zero] at this
          change palabra (F.bytes m₁) p.tope = _
          rw [this, iniContexto, h.cursorStack, h.tamanioContexto, heq]
          bv_omega
        · have := hpalabra 4 (by omega)
          exact this.trans ((palabra_cons_add _ _ 0).trans (palabra_cons_zero _ _))
        · intro dir hdir
          refine ⟨?_, hdonde dir hdir⟩
          obtain rfl := Option.mem_def.1 hdir
          exact (hpalabra 8 (by simp [tamanioCabecera])).trans ((palabra_cons_add _ _ 4).trans
            ((palabra_cons_add _ _ 0).trans (palabra_cons_zero _ _)))
      · change HashTable.Represents m₁.estado.diccionarioVariables []
        rw [hdic₁]
        exact HashTable.represents_clean h.diccionario
      · exact hcons
  · next texto m₁ hst =>
      obtain rfl := Option.some_inj.1 hllamar
      exact (errores_almacenar_ne hst herr).elim

/-! ### Returns -/

/-- **The end of the outermost context ends the program.** -/
theorem finalizar_base {c : ℕ} (h : PilaBien F m (.base c)) :
    finalizar E m = m.conRafaga .notificarPorFinPrograma := by
  have htope := h.tope_lt
  have hcero : m.estado.pcb.cursorStack -
      (m.estado.pcb.segmentoStack + 5#32 * m.estado.pcb.tamanioContexto) = 0#32 := by
    rw [h.cursorStack, h.segmentoStack, h.tamanioContexto]
    simp only [Pila.tope, Pila.celdas] at htope ⊢
    bv_omega
  rw [finalizar, if_pos hcero]

/-- The header of the current context, as it is read. -/
theorem cabecera_leida {pc : U32} {donde : Option TPuntero} {c : ℕ}
    (h : PilaBien F m (.marco p pc donde c)) {sol : SolicitudBytes} {data : List Byte}
    (hbase : sol.base = base) (hoff : sol.offset.toNat = p.tope)
    (htam : sol.tamanio.toNat = tamanioCabecera donde)
    (hsol : m.solicitar E sol = (.ok data, m')) :
    palabra data 0 = base + BitVec.ofNat 32 p.inicio ∧ palabra data 4 = pc ∧
      ∀ dir ∈ donde, palabra data 8 = dir := by
  obtain ⟨-, -, -, hdata⟩ := F.solicitar_ok hbase hsol
  rw [hoff, htam] at hdata
  obtain ⟨-, hinicio, hpc, hdonde⟩ := h.cabeceras
  have h8 : 8 ≤ tamanioCabecera donde := by cases donde <;> simp [tamanioCabecera]
  rw [hdata]
  refine ⟨?_, ?_, ?_⟩
  · rw [palabra_slice _ (by omega), Nat.add_zero, hinicio]
  · rw [palabra_slice _ (by omega), hpc]
  · intro dir hdir
    rw [palabra_slice _ (by rw [Option.mem_def.1 hdir]; simp [tamanioCabecera]),
      (hdonde dir hdir).1]

/-- **Going back to the caller**: the header gives the start of its context and the instruction, the
cursor goes down to it, and its variables are loaded. -/
theorem regresar_pila (m₂ : Maquina σ) (cabecera : U32) {pc : U32} {donde : Option TPuntero} {c : ℕ}
    (h : PilaBien F m (.marco p pc donde c)) (hcab : cabecera.toNat = tamanioCabecera donde)
    (hpcb : m₂.estado.pcb = { m.estado.pcb with
      programCounter := pc
      cursorStack := m.estado.pcb.cursorStack -
        (5#32 * m.estado.pcb.tamanioContexto + cabecera) })
    (hinicio : m₂.estado.inicioContexto = base + BitVec.ofNat 32 p.inicio)
    (hdic : m₂.estado.diccionarioVariables = m.estado.diccionarioVariables)
    (hlargo : (F.bytes m₂).length = (F.bytes m).length) (hmem : p.EnMemoria base (F.bytes m₂))
    (herr : (actualizarContexto E m₂).errores = m₂.errores) :
    PilaBien F (actualizarContexto E m₂) p ∧ F.bytes (actualizarContexto E m₂) = F.bytes m₂ ∧
      (actualizarContexto E m₂).estado.pcb.programCounter = pc ∧
      (actualizarContexto E m₂).estado.estadoRafaga = m₂.estado.estadoRafaga := by
  have htope := h.tope_lt
  have hlen := h.tope
  simp only [Pila.tope] at htope hlen
  have hcursor : m₂.estado.pcb.cursorStack = base + BitVec.ofNat 32 p.tope := by
    rw [hpcb]
    change m.estado.pcb.cursorStack - (5#32 * m.estado.pcb.tamanioContexto + cabecera) = _
    rw [h.cursorStack, h.tamanioContexto]
    simp only [Pila.tope, Pila.celdas]
    bv_omega
  obtain ⟨hpila, hbytes, hpcb', hraf⟩ := actualizarContexto_pila (F := F) (p := p)
    (by rw [hpcb]; exact h.segmentoStack) hcursor hinicio (by omega)
    (by rw [hlargo]; exact h.tamanio) hmem (by rw [hdic]; exact h.diccionario.pos) herr
  exact ⟨hpila, hbytes, by rw [hpcb', hpcb], hraf⟩

/-- **The end of a context without a result goes back to the caller.** -/
theorem finalizar_pila {pc : U32} {c : ℕ} (h : PilaBien F m (.marco p pc none c))
    (herr : (finalizar E m).errores = m.errores) :
    PilaBien F (finalizar E m) p ∧ F.bytes (finalizar E m) = F.bytes m ∧
      (finalizar E m).estado.pcb.programCounter = pc ∧
      (finalizar E m).estado.estadoRafaga = m.estado.estadoRafaga := by
  have htope := h.tope_lt
  simp only [Pila.tope, tamanioCabecera] at htope
  -- under the variables there is a header, so this is not the outermost context
  have hne : ¬ m.estado.pcb.cursorStack -
      (m.estado.pcb.segmentoStack + 5#32 * m.estado.pcb.tamanioContexto) = 0#32 := by
    rw [h.cursorStack, h.segmentoStack, h.tamanioContexto]
    simp only [Pila.tope, Pila.celdas, tamanioCabecera]
    bv_omega
  have hoff : (m.estado.pcb.cursorStack -
      (m.estado.pcb.segmentoStack + 5#32 * m.estado.pcb.tamanioContexto + 8#32)).toNat =
        p.tope := by
    rw [h.cursorStack, h.segmentoStack, h.tamanioContexto]
    simp only [Pila.tope, Pila.celdas, tamanioCabecera]
    bv_omega
  simp only [finalizar, if_neg hne] at herr ⊢
  revert herr
  split
  · next data m₁ hsol =>
      obtain ⟨hinicio, hpc, -⟩ := cabecera_leida h h.segmentoStack hoff rfl hsol
      obtain ⟨hest, hbytes, -, -⟩ := F.solicitar_ok h.segmentoStack hsol
      have herr₁ := (fallas_solicitar_ok hsol).errores
      generalize hm₂ : (m₁.conInicio (palabra data 0)).conPcb _ = m₂
      intro herr
      have hbytes₂ : F.bytes m₂ = F.bytes m := by rw [← hm₂]; exact hbytes
      have hraf₂ : m₂.estado.estadoRafaga = m.estado.estadoRafaga := by
        rw [← hm₂]
        exact congrArg (·.estadoRafaga) hest
      obtain ⟨hpila, hb, hpc', hraf⟩ := regresar_pila m₂ 8#32 h rfl
        (by rw [← hm₂, ← hpc]; rfl) (by rw [← hm₂]; exact hinicio)
        (by rw [← hm₂]; exact congrArg (·.diccionarioVariables) hest) (by rw [hbytes₂])
        (by rw [hbytes₂]; exact h.cabeceras.1) (by rw [herr, ← hm₂]; exact herr₁.symm)
      exact ⟨hpila, hb.trans hbytes₂, hpc', hraf.trans hraf₂⟩
  · next texto m₁ hsol =>
      intro herr
      exact (errores_solicitar_ne hsol herr).elim

/-- **The end of a context with a result goes back to the caller**, and the result goes to the value
that the call named. -/
theorem retornar_pila {pc : U32} {dir : TPuntero} {c : ℕ}
    (h : PilaBien F m (.marco p pc (some dir) c)) (valor : U32)
    (herr : (retornar E valor m).errores = m.errores) :
    PilaBien F (retornar E valor m) p ∧
      F.bytes (retornar E valor m) =
        SegMem.overwrite (F.bytes m) (dir - base).toNat 4 (Words.byteAt valor) ∧
      (retornar E valor m).estado.pcb.programCounter = pc ∧
      (retornar E valor m).estado.estadoRafaga = m.estado.estadoRafaga := by
  have htope := h.tope_lt
  simp only [Pila.tope, tamanioCabecera] at htope
  have hoff : (pedidoRetornar m.estado.pcb).offset.toNat = p.tope := by
    simp only [pedidoRetornar]
    rw [h.cursorStack, h.segmentoStack, h.tamanioContexto]
    simp only [Pila.tope, Pila.celdas, tamanioCabecera]
    bv_omega
  simp only [retornar] at herr ⊢
  revert herr
  split
  · next data m₁ hsol =>
      obtain ⟨hinicio, hpc, hdonde⟩ := cabecera_leida h h.segmentoStack hoff rfl hsol
      obtain ⟨hest, hbytes, -, -⟩ := F.solicitar_ok h.segmentoStack hsol
      have herr₁ := (fallas_solicitar_ok hsol).errores
      have hdir := hdonde dir rfl
      rw [hdir]
      generalize hm₂ : (m₁.conInicio (palabra data 0)).conPcb _ = m₂
      intro herr
      have hbytes₂ : F.bytes m₂ = F.bytes m := by rw [← hm₂]; exact hbytes
      have hseg₂ : m₂.estado.pcb.segmentoStack = base := by rw [← hm₂]; exact h.segmentoStack
      have herr₂ : m₂.errores = m.errores := by rw [← hm₂]; exact herr₁
      have hraf₂ : m₂.estado.estadoRafaga = m.estado.estadoRafaga := by
        rw [← hm₂]
        exact congrArg (·.estadoRafaga) hest
      have hdic₂ : m₂.estado.diccionarioVariables = m.estado.diccionarioVariables := by
        rw [← hm₂]
        exact congrArg (·.diccionarioVariables) hest
      -- neither the assignment nor the context is answered with an error
      have herr' : (actualizarContexto E (asignar E dir valor m₂)).errores = m.errores := by
        rw [← herr]
        split <;> rfl
      obtain ⟨k, -, hk⟩ := fallas_asignar E dir valor m₂
      obtain ⟨k', -, hk'⟩ := fallas_actualizarContexto E (asignar E dir valor m₂)
      have hk0 := hk.errores
      have hk0' := hk'.errores
      have hasignar : (asignar E dir valor m₂).errores = m₂.errores := by omega
      have hapunta : p.Apunta base dir := (h.cabeceras.2.2.2 dir rfl).2
      obtain ⟨hest₃, hbytes₃, -⟩ := bytes_asignar (F := F) hseg₂ dir valor hasignar
      have hcons := conserva_asignar (F := F) hseg₂ dir valor hasignar p.tope
      have hmem : p.EnMemoria base (F.bytes (asignar E dir valor m₂)) := by
        refine h.cabeceras.1.congr fun i hi => ?_
        rw [hcons i hi.1 (hi.fuera (by omega) fun d hd => List.mem_singleton.1 hd ▸ hapunta),
          hbytes₂]
      obtain ⟨hpila, hb, hpc', hraf⟩ := regresar_pila (asignar E dir valor m₂) 12#32 h rfl
        (by rw [hest₃, ← hm₂, ← hpc]; rfl) (by rw [hest₃, ← hm₂]; exact hinicio)
        (by rw [hest₃, hdic₂]) (by rw [hbytes₃, SegMem.length_overwrite, hbytes₂]) hmem
        (by omega)
      -- the caller has the variable of the result, so its stack is not empty
      have hne : ¬ (actualizarContexto E (asignar E dir valor m₂)).estado.pcb.cursorStack =
          (actualizarContexto E (asignar E dir valor m₂)).estado.pcb.segmentoStack := by
        obtain ⟨i, hi, -⟩ := hapunta
        have := hi.lt
        rw [hpila.cursorStack, hpila.segmentoStack]
        bv_omega
      rw [if_neg hne]
      refine ⟨hpila, ?_, hpc', ?_⟩
      · rw [hb, hbytes₃, hbytes₂]
      · rw [hraf, hest₃, hraf₂]
  · next texto m₁ hsol =>
      intro herr
      exact (errores_solicitar_ne hsol herr).elim

/-! ### The rest of the primitives -/

/-- The primitives that neither define, nor assign, nor call, nor return. -/
def Primitiva.esQuieta : Primitiva → Bool
  | .definirVariable _ => false
  | .asignar _ _ => false
  | .llamarSinRetorno _ => false
  | .llamarConRetorno _ _ => false
  | .finalizar => false
  | .retornar _ => false
  | _ => true

/-- A question to the kernel. -/
theorem quieta_consultar {mensaje : MensajeCpu} {respuesta : MensajeKernel}
    (h : m.consultar E mensaje = (respuesta, m')) : Quieta F m m' := by
  rw [Maquina.consultar, Prod.mk.injEq] at h
  obtain ⟨-, rfl⟩ := h
  exact Quieta.of_estado rfl (F.consultar _ _)

/-- A question to the kernel, and then a change of the state of the burst. -/
theorem quieta_conRafaga {mensaje : MensajeCpu} {respuesta : MensajeKernel} {r : EstadoRafaga}
    (h : m.consultar E mensaje = (respuesta, m')) : Quieta F m (m'.conRafaga r) := by
  have hq : Quieta F m m' := quieta_consultar h
  exact ⟨hq.segmentoStack, hq.cursorStack, hq.tamanioContexto, hq.diccionario, hq.bytes⟩

theorem quieta_dereferenciar (hseg : m.estado.pcb.segmentoStack = base) (dir : TPuntero)
    (herr : (dereferenciar E dir m).2.errores = m.errores) :
    Quieta F m (dereferenciar E dir m).2 := by
  simp only [dereferenciar] at herr ⊢
  revert herr
  split
  · next data m₁ h =>
      intro _
      obtain ⟨hest, hbytes, -⟩ := F.solicitar_ok hseg h
      exact Quieta.of_estado hest hbytes
  · next texto m₁ h =>
      intro herr
      exact (errores_solicitar_ne h herr).elim

theorem quieta_obtenerValorCompartida {nombre : Texto} {v : U32}
    (h : obtenerValorCompartida E nombre m = some (v, m')) : Quieta F m m' := by
  obtain ⟨-, h⟩ := E.registrar_map.1 h
  obtain rfl := congrArg Prod.snd h
  split
  · next h => exact quieta_consultar h
  · next h =>
      have hq := quieta_conRafaga (F := F) (r := .notificarPorFinPrograma) h
      exact ⟨hq.segmentoStack, hq.cursorStack, hq.tamanioContexto, hq.diccionario,
        (F.basura _).trans hq.bytes⟩

theorem quieta_asignarValorCompartida {nombre : Texto} {valor v : U32}
    (h : asignarValorCompartida E nombre valor m = some (v, m')) : Quieta F m m' := by
  obtain ⟨-, h⟩ := E.registrar_map.1 h
  obtain rfl := congrArg Prod.snd h
  split
  · next h => exact quieta_consultar h
  · next h => exact quieta_conRafaga h

theorem quieta_imprimir (valor : U32) (m : Maquina σ) : Quieta F m (imprimir E valor m) := by
  simp only [imprimir]
  split
  · exact Quieta.of_estado rfl rfl
  · split
    · next h => exact quieta_consultar h
    · next h => exact quieta_conRafaga h

theorem quieta_imprimirTexto {texto : Texto} (h : imprimirTexto E texto m = some m') :
    Quieta F m m' := by
  obtain ⟨-, rfl⟩ := E.registrar_map.1 h
  split
  · next h => exact quieta_consultar h
  · next h => exact quieta_conRafaga h

theorem quieta_entrarSalida {dispositivo : Texto} {tiempo : U32}
    (h : entrarSalida E dispositivo tiempo m = some m') : Quieta F m m' := by
  obtain ⟨-, rfl⟩ := E.registrar_map.1 h
  exact ⟨rfl, rfl, rfl, rfl, F.enviar _ _⟩

theorem quieta_waitAnsisop {semaforo : Texto} (h : waitAnsisop E semaforo m = some m') :
    Quieta F m m' := by
  obtain ⟨-, rfl⟩ := E.registrar_map.1 h
  split
  · next h => exact quieta_consultar h
  · next h => exact quieta_conRafaga h

theorem quieta_signalAnsisop {semaforo : Texto} (h : signalAnsisop E semaforo m = some m') :
    Quieta F m m' := by
  obtain ⟨-, rfl⟩ := E.registrar_map.1 h
  split
  · next h => exact quieta_conRafaga h
  · next h => exact quieta_consultar h

/-- The other primitives leave the stack alone. -/
theorem quieta_ejecutar {a : Primitiva} {v : U32} (hseg : m.estado.pcb.segmentoStack = base)
    (ha : a.esQuieta = true) (h : ejecutar E m a = some (v, m')) (herr : m'.errores = m.errores) :
    Quieta F m m' := by
  cases a with
  | obtenerPosicionVariable id =>
      obtain ⟨-, h⟩ := E.registrar_bind.1 h
      obtain ⟨_, -, h⟩ := Option.map_eq_some_iff.1 h
      obtain rfl := congrArg Prod.snd h
      exact Quieta.of_estado rfl rfl
  | dereferenciar dir =>
      obtain rfl := congrArg Prod.snd (Option.some_inj.1 h)
      exact quieta_dereferenciar hseg dir herr
  | irAlLabel etiqueta =>
      obtain ⟨-, rfl⟩ := E.registrar_map.1 (ejecutar_sinResultado h)
      exact ⟨rfl, rfl, rfl, rfl, rfl⟩
  | obtenerValorCompartida nombre => exact quieta_obtenerValorCompartida h
  | asignarValorCompartida nombre valor => exact quieta_asignarValorCompartida h
  | imprimir valor =>
      obtain rfl := congrArg Prod.snd (Option.some_inj.1 h)
      exact quieta_imprimir valor m
  | imprimirTexto texto => exact quieta_imprimirTexto (ejecutar_sinResultado h)
  | entrarSalida dispositivo tiempo => exact quieta_entrarSalida (ejecutar_sinResultado h)
  | waitAnsisop semaforo => exact quieta_waitAnsisop (ejecutar_sinResultado h)
  | signalAnsisop semaforo => exact quieta_signalAnsisop (ejecutar_sinResultado h)
  | _ => exact (Bool.false_ne_true ha).elim

/-! ### Every primitive -/

namespace Pila

/-- The stack of the caller. -/
def llamador : Pila → Pila
  | .base celdas => .base celdas
  | .marco p _ _ _ => p

/-- Where the current context is to return its result. -/
def donde : Pila → Option TPuntero
  | .base _ => none
  | .marco _ _ donde _ => donde

/-- **The primitives used as they are meant to be.**  An assignment goes to the value of a variable,
a call with a result names one, and a context is left by the primitive that goes with its call. -/
def Permite (base : TPuntero) (p : Pila) : Primitiva → Prop
  | .asignar dir _ => p.Apunta base dir
  | .llamarConRetorno _ donde => p.Apunta base donde
  | .finalizar => p.donde = none
  | .retornar _ => p.donde.isSome = true
  | _ => True

/-- The stack after a primitive. -/
def tras (p : Pila) (pc : U32) : Primitiva → Pila
  | .definirVariable _ => p.conCelda
  | .llamarSinRetorno _ => marco p pc none 0
  | .llamarConRetorno _ donde => marco p pc (some donde) 0
  | .finalizar => p.llamador
  | .retornar _ => p.llamador
  | _ => p

/-- The values that a primitive writes. -/
def escribe (p : Pila) : Primitiva → List TPuntero
  | .asignar dir _ => [dir]
  | .retornar _ => p.donde.toList
  | _ => []

end Pila

/-- **Every permitted primitive keeps the agreement** with the stack, and writes only the values
that it is to write. -/
theorem ejecutar_pila {a : Primitiva} {v : U32} (h : PilaBien F m p) (ha : p.Permite base a)
    (he : ejecutar E m a = some (v, m')) (herr : m'.errores = m.errores) :
    PilaBien F m' (p.tras m.estado.pcb.programCounter a) ∧
      Conserva F p.tope (p.escribe a) m m' := by
  have hquieta (hq : a.esQuieta = true) : PilaBien F m' p ∧ Conserva F p.tope [] m m' := by
    have hq := quieta_ejecutar (F := F) h.segmentoStack hq he herr
    exact ⟨h.quieta hq, Conserva.of_bytes hq.bytes⟩
  cases a with
  | definirVariable id => exact definirVariable_pila h he herr
  | asignar dir valor =>
      obtain rfl := congrArg Prod.snd (Option.some_inj.1 he)
      exact asignar_pila h ha valor herr
  | llamarSinRetorno etiqueta =>
      have hno : ∀ dir ∈ (none : Option TPuntero), p.Apunta base dir := by simp
      exact llamar_pila h hno (E.registrar_bind.1 (ejecutar_sinResultado he)).2 herr
  | llamarConRetorno etiqueta donde =>
      have hdonde : ∀ dir ∈ some donde, p.Apunta base dir := by
        rintro dir ⟨⟩
        exact ha
      exact llamar_pila h hdonde (E.registrar_bind.1 (ejecutar_sinResultado he)).2 herr
  | finalizar =>
      obtain rfl := congrArg Prod.snd (Option.some_inj.1 he)
      cases p with
      | base c =>
          have heq := finalizar_base h
          change PilaBien F (finalizar E m) _ ∧ Conserva F _ [] m (finalizar E m)
          rw [heq]
          exact ⟨h.quieta ⟨rfl, rfl, rfl, rfl, rfl⟩, Conserva.of_bytes rfl⟩
      | marco p pc d c =>
          obtain rfl : d = none := ha
          obtain ⟨hpila, hbytes, -⟩ := finalizar_pila h herr
          exact ⟨hpila, Conserva.of_bytes hbytes⟩
  | retornar valor =>
      obtain rfl := congrArg Prod.snd (Option.some_inj.1 he)
      cases p with
      | base c => exact Bool.noConfusion ha
      | marco p pc d c =>
          obtain ⟨dir, rfl⟩ := Option.isSome_iff_exists.1 ha
          obtain ⟨hpila, hbytes, -⟩ := retornar_pila h valor herr
          refine ⟨hpila, fun i _ hfuera => ?_⟩
          have := hfuera dir (by simp [Pila.escribe, Pila.donde])
          change (F.bytes (retornar E valor m)).getD i 0#8 = _
          rw [hbytes, SegMem.getD_overwrite, if_neg (by omega)]
  | _ => exact hquieta rfl

end Ansisop.Cpu
