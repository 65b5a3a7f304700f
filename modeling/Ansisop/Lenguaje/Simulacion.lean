/-
**The CPU gives each primitive its meaning.**

A CPU in front of a UMV that answers every request inside the stack, and of the kernel of the
program, represents the state of the program: the bytes of the stack hold its contexts, the
dictionary has the names of the current one, and the PCB says where the stack ends and which
instruction comes next.  Then a primitive that means something does in the CPU what it means.

Main definitions:

* `Ansisop.Lenguaje.Servicio` — a UMV that is faithful and does not refuse, and a kernel behind it;
* `Ansisop.Lenguaje.Representa` — **a CPU represents the state of a program**.

Main results:

* `Ansisop.Lenguaje.representa_ejecutar` — **the primitives do what they mean**;
* `Ansisop.Lenguaje.representa_interpretar` — so do the lines.
-/

import Ansisop.Cpu.Registro
import Ansisop.Lenguaje.Ejecucion

set_option relaxedAutoImplicit false
set_option autoImplicit false

namespace Ansisop.Lenguaje

open Cpu (Entorno Nucleo UmvFiel Maquina PilaBien Pila tamanioCabecera cabecera Primitiva Linea
  dictionaryGet metadataBuscarEtiqueta Todas)

/-- **A UMV that is faithful to the stack and does not refuse**: while nobody destroys the segment,
a request inside it is served.  What is behind the UMV is the kernel, with its own state. -/
structure Servicio {σ κ : Type*} (E : Entorno σ) (K : Nucleo κ) (base : TPuntero) extends
    UmvFiel E base where
  resto : σ → κ
  vale : σ → Prop
  sirve_solicitar : ∀ s sol, vale s → sol.base = base →
    sol.offset.toNat + sol.tamanio.toNat ≤ (pila s).length →
      ∃ data, (E.solicitar s sol).1 = .ok data
  sirve_almacenar : ∀ s st, vale s → st.base = base →
    st.offset.toNat + st.tamanio.toNat ≤ (pila s).length → (E.almacenar s st).1 = .ok ()
  resto_solicitar : ∀ s sol, resto (E.solicitar s sol).2 = resto s
  resto_almacenar : ∀ s st, resto (E.almacenar s st).2 = resto s
  resto_consultar : ∀ s mensaje, (E.consultar s mensaje).1 = (K.consultar (resto s) mensaje).1 ∧
    resto (E.consultar s mensaje).2 = (K.consultar (resto s) mensaje).2
  resto_enviar : ∀ s mensaje, resto (E.enviar s mensaje) = K.enviar (resto s) mensaje
  resto_basura : ∀ s, (E.basura s).1 = (K.basura (resto s)).1 ∧
    resto (E.basura s).2 = (K.basura (resto s)).2
  vale_solicitar : ∀ s sol, vale s → vale (E.solicitar s sol).2
  vale_almacenar : ∀ s st, vale s → st.base = base → vale (E.almacenar s st).2
  vale_consultar : ∀ s mensaje, vale s → vale (E.consultar s mensaje).2
  vale_enviar : ∀ s mensaje, vale s → vale (E.enviar s mensaje)
  vale_basura : ∀ s, vale s → vale (E.basura s).2

variable {σ κ : Type*} {E : Entorno σ} {P : Guion κ} {S : Servicio E P.nucleo P.pcb.segmentoStack}
  {m m' m'' : Maquina σ} {e e' : Ejecucion κ}

/-- **A CPU represents the state of a program.** -/
structure Representa (S : Servicio E P.nucleo P.pcb.segmentoStack) (m : Maquina σ)
    (e : Ejecucion κ) : Prop where
  vale : S.vale m.entorno
  pila : PilaBien S.toUmvFiel m e.contextos.pila
  valores : e.contextos.EnBytes (S.bytes m)
  largo : (S.bytes m).length = P.tamanioStack
  pcb : m.estado.pcb = P.pcbDe e
  etiquetas : m.estado.bloqueEtiquetas.take P.pcb.tamanioEtiqueta.toNat =
    P.bloqueEtiquetas.take P.pcb.tamanioEtiqueta.toNat
  rafaga : m.estado.estadoRafaga = e.rafaga
  enviados : m.enviados = e.enviados
  resto : S.resto m.entorno = e.resto

/-! ### Between the CPU and the UMV -/

/-- **What is between the CPU and the UMV only**, without errors: the kernel is not told, and of the
PCB only the program counter, the cursor and the size of the context change. -/
structure Interna (S : Servicio E P.nucleo P.pcb.segmentoStack) (m m' : Maquina σ) : Prop where
  vale : S.vale m'.entorno
  resto : S.resto m'.entorno = S.resto m.entorno
  enviados : m'.enviados = m.enviados
  errores : m'.errores = m.errores
  etiquetas : m'.estado.bloqueEtiquetas = m.estado.bloqueEtiquetas
  rafaga : m'.estado.estadoRafaga = m.estado.estadoRafaga
  pcb : m'.estado.pcb = { m.estado.pcb with
    programCounter := m'.estado.pcb.programCounter
    cursorStack := m'.estado.pcb.cursorStack
    tamanioContexto := m'.estado.pcb.tamanioContexto }

theorem Interna.trans (h : Interna S m m') (h' : Interna S m' m'') : Interna S m m'' where
  vale := h'.vale
  resto := h'.resto.trans h.resto
  enviados := h'.enviados.trans h.enviados
  errores := h'.errores.trans h.errores
  etiquetas := h'.etiquetas.trans h.etiquetas
  rafaga := h'.rafaga.trans h.rafaga
  pcb := by
    rw [h'.pcb, h.pcb]

/-- A request that is served. -/
theorem interna_solicitar (hv : S.vale m.entorno) {sol : SolicitudBytes} {data : List Byte}
    (h : m.solicitar E sol = (.ok data, m')) :
    m'.estado = m.estado ∧ S.bytes m' = S.bytes m ∧ Interna S m m' := by
  rw [Maquina.solicitar, Prod.mk.injEq] at h
  obtain ⟨hok, rfl⟩ := h
  refine ⟨rfl, S.toUmvFiel.solicitar _ _, ?_⟩
  exact {
    vale := S.vale_solicitar _ _ hv
    resto := S.resto_solicitar _ _
    enviados := rfl
    errores := by
      change m.errores + Cpu.contarError (E.solicitar m.entorno sol).1 = m.errores
      rw [hok]
      rfl
    etiquetas := rfl
    rafaga := rfl
    pcb := rfl }

/-- A request inside the stack. -/
theorem Servicio.lectura (S : Servicio E P.nucleo P.pcb.segmentoStack) (hv : S.vale m.entorno)
    (sol : SolicitudBytes) (hbase : sol.base = P.pcb.segmentoStack)
    (hle : sol.offset.toNat + sol.tamanio.toNat ≤ (S.bytes m).length) :
    ∃ m', m.solicitar E sol =
        (.ok (((S.bytes m).drop sol.offset.toNat).take sol.tamanio.toNat), m') ∧
      m'.estado = m.estado ∧ S.bytes m' = S.bytes m ∧ Interna S m m' := by
  obtain ⟨data, hok⟩ := S.sirve_solicitar m.entorno sol hv hbase hle
  obtain ⟨-, rfl⟩ := S.leer m.entorno sol data hbase hok
  have hsol : m.solicitar E sol = (.ok (((S.bytes m).drop sol.offset.toNat).take sol.tamanio.toNat),
      (m.solicitar E sol).2) := Prod.ext hok rfl
  exact ⟨(m.solicitar E sol).2, hsol, interna_solicitar hv hsol⟩

/-- A store inside the stack. -/
theorem Servicio.guardado (S : Servicio E P.nucleo P.pcb.segmentoStack) (hv : S.vale m.entorno)
    (st : AlmacenarBytes) (hbase : st.base = P.pcb.segmentoStack)
    (hle : st.offset.toNat + st.tamanio.toNat ≤ (S.bytes m).length) :
    ∃ m', m.almacenar E st = (.ok (), m') ∧ m'.estado = m.estado ∧
      S.bytes m' = SegMem.overwrite (S.bytes m) st.offset.toNat st.tamanio.toNat st.buffer ∧
      Interna S m m' := by
  have hok := S.sirve_almacenar m.entorno st hv hbase hle
  refine ⟨(m.almacenar E st).2, Prod.ext hok rfl, rfl, (S.escribir _ _ hbase hok).2, ?_⟩
  exact {
    vale := S.vale_almacenar _ _ hv hbase
    resto := S.resto_almacenar _ _
    enviados := rfl
    errores := by
      change m.errores + Cpu.contarError (E.almacenar m.entorno st).1 = m.errores
      rw [hok]
      rfl
    etiquetas := rfl
    rafaga := rfl
    pcb := rfl }

/-- What is between the CPU and the UMV only, and leaves some contexts in the bytes. -/
theorem Representa.interna (h : Representa S m e) (hi : Interna S m m') {c : Contextos} {pc : U32}
    (hpila : PilaBien S.toUmvFiel m' c.pila) (hval : c.EnBytes (S.bytes m'))
    (hlargo : (S.bytes m').length = (S.bytes m).length) (hpc : m'.estado.pcb.programCounter = pc) :
    Representa S m' ((e.conContextos c).conContador pc) where
  vale := hi.vale
  pila := hpila
  valores := hval
  largo := hlargo.trans h.largo
  pcb := by
    refine hi.pcb.trans ?_
    rw [h.pcb, hpila.cursorStack, hpila.tamanioContexto, hpc]
    rfl
  etiquetas := by rw [hi.etiquetas, h.etiquetas]
  rafaga := hi.rafaga.trans h.rafaga
  enviados := hi.enviados.trans h.enviados
  resto := hi.resto.trans h.resto

/-- A label is where the program has it. -/
theorem Representa.etiqueta_eq (h : Representa S m e) (nombre : Texto) :
    metadataBuscarEtiqueta nombre m.estado.bloqueEtiquetas m.estado.pcb.tamanioEtiqueta =
      P.etiqueta nombre := by
  have htam : m.estado.pcb.tamanioEtiqueta = P.pcb.tamanioEtiqueta := by
    rw [h.pcb]
    rfl
  rw [htam, Guion.etiqueta, metadataBuscarEtiqueta, metadataBuscarEtiqueta, h.etiquetas]

theorem Representa.tope_le (h : Representa S m e) : e.contextos.pila.tope ≤ P.tamanioStack := by
  rw [← h.largo]
  exact h.pila.tope

theorem Representa.programCounter (h : Representa S m e) :
    m.estado.pcb.programCounter = e.programCounter := by
  rw [h.pcb]
  rfl

/-- The values are inside the stack. -/
theorem Representa.lugar_le (h : Representa S m e) {dir : TPuntero} {v : U32}
    (hv : e.contextos.leer (P.lugar dir) = some v) :
    e.contextos.pila.EsCelda (P.lugar dir) ∧ P.lugar dir + 4 ≤ (S.bytes m).length := by
  have hcelda := Contextos.leer_isSome_iff.1 (Option.isSome_iff_exists.2 ⟨v, hv⟩)
  have := hcelda.lt
  have := h.tope_le
  exact ⟨hcelda, by rw [h.largo]; omega⟩

theorem lugar_apunta {c : Contextos} {dir : TPuntero} (h : c.pila.EsCelda (P.lugar dir)) :
    c.pila.Apunta P.pcb.segmentoStack dir := by
  refine ⟨P.lugar dir, h, ?_⟩
  rw [Guion.lugar]
  bv_omega

/-! ### The primitives of the memory -/

/-- A value that nobody has chosen. -/
theorem Representa.basura (h : Representa S m e) :
    (m.basura E).1 = (e.basura P.nucleo).1 ∧ Representa S (m.basura E).2 (e.basura P.nucleo).2 := by
  obtain ⟨hvalor, hresto⟩ := S.resto_basura m.entorno
  rw [h.resto] at hvalor hresto
  have hbytes : S.bytes (m.basura E).2 = S.bytes m := S.toUmvFiel.basura _
  refine ⟨hvalor, ?_⟩
  exact {
    vale := S.vale_basura _ h.vale
    pila := h.pila.quieta (Cpu.Quieta.of_estado rfl hbytes)
    valores := by rw [hbytes]; exact h.valores
    largo := by rw [hbytes]; exact h.largo
    pcb := h.pcb
    etiquetas := h.etiquetas
    rafaga := h.rafaga
    enviados := h.enviados
    resto := hresto }

/-- The store of a definition, and what follows when it is served. -/
theorem definirVariable_ok {m₁ : Maquina σ} {nombre : Byte}
    (hregistra : E.Registra (.definirVariable nombre))
    (h : (m.basura E).2.almacenar E ⟨m.estado.pcb.segmentoStack,
      m.estado.pcb.cursorStack - m.estado.pcb.segmentoStack, 5#32, fun i =>
        if i = 0 then nombre else Words.byteAt (m.basura E).1 (i - 1)⟩ = (.ok (), m₁)) :
    Cpu.definirVariable E nombre m = some (m.estado.pcb.cursorStack + 1#32,
      (m₁.conDiccionario (Cpu.dictionaryPut m₁.estado.diccionarioVariables nombre
        (m.estado.pcb.cursorStack + 1#32))).conPcb { m.estado.pcb with
          tamanioContexto := m.estado.pcb.tamanioContexto + 1#32
          cursorStack := m.estado.pcb.cursorStack + 5#32 }) := by
  have hestado : (m.basura E).2.estado = m.estado := rfl
  simp only [Cpu.definirVariable, E.registrar_eq_some_iff.2 hregistra, Option.map_some, hestado, h]

theorem representa_definirVariable (h : Representa S m e) {nombre : Byte}
    (hregistra : E.Registra (.definirVariable nombre))
    (htope : e.contextos.pila.tope + 5 ≤ P.tamanioStack) :
    ∃ m', Cpu.definirVariable E nombre m = some (P.dir (e.contextos.pila.tope + 1), m') ∧
      Representa S m'
        ((e.basura P.nucleo).2.conContextos (e.contextos.definir nombre (e.basura P.nucleo).1)) ∧
      m'.errores = m.errores := by
  obtain ⟨hvalor, hb⟩ := h.basura
  obtain ⟨st, hst⟩ : ∃ st : AlmacenarBytes, st = ⟨m.estado.pcb.segmentoStack,
      m.estado.pcb.cursorStack - m.estado.pcb.segmentoStack, 5#32, fun i =>
        if i = 0 then nombre else Words.byteAt (m.basura E).1 (i - 1)⟩ := ⟨_, rfl⟩
  have hoffset : st.offset.toNat = e.contextos.pila.tope := by rw [hst]; exact h.pila.offset
  have htamanio : st.tamanio.toNat = 5 := by rw [hst]; rfl
  have hbuffer : ∀ i, st.buffer i =
      if i = 0 then nombre else Words.byteAt (m.basura E).1 (i - 1) := by
    rw [hst]
    exact fun _ => rfl
  obtain ⟨m₁, halm, -, hbytes, hint⟩ :=
    S.guardado hb.vale st (by rw [hst]; exact h.pila.segmentoStack)
    (by rw [hoffset, htamanio, hb.largo]; exact htope)
  rw [hst] at halm
  have hdef := definirVariable_ok hregistra halm
  obtain ⟨hpila, -⟩ := Cpu.definirVariable_pila h.pila hdef hint.errores
  have hbytesM : S.bytes (m.basura E).2 = S.bytes m := S.toUmvFiel.basura _
  rw [hoffset, htamanio, hbytesM] at hbytes
  refine ⟨_, hdef.trans (congrArg some (Prod.ext ?_ rfl)), ?_, hint.errores⟩
  · have hcursor := h.pila.cursorStack
    change m.estado.pcb.cursorStack + 1#32 = _
    rw [hcursor, Guion.dir, BitVec.add_assoc, ← BitVec.ofNat_add]
  · -- the five bytes are the name and the value that was there
    have hval : (e.contextos.definir nombre (e.basura P.nucleo).1).EnBytes (S.bytes m₁) := by
      refine h.valores.definir (fun i hi => ?_) ?_ ?_
      · rw [hbytes, Cpu.getD_overwrite_of_lt hi]
      · rw [hbytes, SegMem.getD_overwrite, if_pos ⟨Nat.le_refl _, by omega, by rw [h.largo]; omega⟩,
          hbuffer, if_pos (Nat.sub_self _)]
      · rw [← hvalor]
        conv_rhs => rw [← Words.ofBytes_byteAt (m.basura E).1]
        refine Words.ofBytes_congr fun i hi => ?_
        rw [hbytes, SegMem.getD_overwrite, if_pos ⟨by omega, by omega, by rw [h.largo]; omega⟩,
          hbuffer, if_neg (by omega)]
        congr 1
        omega
    have hint' : Interna S (m.basura E).2 ((m₁.conDiccionario (Cpu.dictionaryPut
        m₁.estado.diccionarioVariables nombre (m.estado.pcb.cursorStack + 1#32))).conPcb
          { m.estado.pcb with
          tamanioContexto := m.estado.pcb.tamanioContexto + 1#32
          cursorStack := m.estado.pcb.cursorStack + 5#32 }) :=
      { hint with pcb := rfl }
    rw [← Contextos.pila_definir _ nombre (e.basura P.nucleo).1] at hpila
    refine hb.interna hint' hpila hval ?_ h.programCounter
    change (S.bytes m₁).length = _
    rw [hbytes, SegMem.length_overwrite, hbytesM]

/-- The place of an address, as the CPU computes it. -/
theorem Representa.lugar_eq (h : Representa S m e) (dir : TPuntero) :
    (dir - m.estado.pcb.segmentoStack).toNat = P.lugar dir := by
  rw [h.pila.segmentoStack, Guion.lugar]

theorem representa_dereferenciar (h : Representa S m e) {dir : TPuntero} {v : U32}
    (hv : e.contextos.leer (P.lugar dir) = some v) :
    (Cpu.dereferenciar E dir m).1 = v ∧ Representa S (Cpu.dereferenciar E dir m).2 e ∧
      (Cpu.dereferenciar E dir m).2.errores = m.errores := by
  obtain ⟨hcelda, hle⟩ := h.lugar_le hv
  obtain ⟨m₁, hsol, hest, hbytes, hint⟩ := S.lectura h.vale
    ⟨m.estado.pcb.segmentoStack, dir - m.estado.pcb.segmentoStack, 4#32⟩ h.pila.segmentoStack
    (by rw [h.lugar_eq]; exact hle)
  have hdef : Cpu.dereferenciar E dir m =
      (palabra (((S.bytes m).drop (P.lugar dir)).take 4) 0, m₁) := by
    simp only [Cpu.dereferenciar, hsol, h.lugar_eq]
    rfl
  rw [hdef]
  refine ⟨?_, ?_, hint.errores⟩
  · rw [palabra_slice _ (Nat.le_refl _), Nat.add_zero]
    exact h.valores.leer hv
  · exact h.interna hint (h.pila.quieta (Cpu.Quieta.of_estado hest hbytes))
      (by rw [hbytes]; exact h.valores)
      (by rw [hbytes]) (by rw [hest]; exact h.programCounter)

/-- An assignment inside the stack, and the bytes after it. -/
theorem asignar_ok (hseg : m.estado.pcb.segmentoStack = P.pcb.segmentoStack)
    (hvale : S.vale m.entorno) (dir : TPuntero) (hle : P.lugar dir + 4 ≤ (S.bytes m).length)
    (valor : U32) :
    (Cpu.asignar E dir valor m).estado = m.estado ∧
      S.bytes (Cpu.asignar E dir valor m) =
        SegMem.overwrite (S.bytes m) (P.lugar dir) 4 (Words.byteAt valor) ∧
      Interna S m (Cpu.asignar E dir valor m) := by
  have hlugar : (dir - m.estado.pcb.segmentoStack).toNat = P.lugar dir := by rw [hseg, Guion.lugar]
  obtain ⟨m₁, halm, hest, hbytes, hint⟩ := S.guardado hvale
    ⟨m.estado.pcb.segmentoStack, dir - m.estado.pcb.segmentoStack, 4#32, Words.byteAt valor⟩ hseg
    (by rw [hlugar]; exact hle)
  have hdef : Cpu.asignar E dir valor m = m₁ := by simp only [Cpu.asignar, halm]
  rw [hdef]
  simp only [hlugar] at hbytes
  exact ⟨hest, hbytes, hint⟩

theorem representa_asignar (h : Representa S m e) {dir : TPuntero} {v : U32}
    (hv : e.contextos.leer (P.lugar dir) = some v) (valor : U32) :
    Representa S (Cpu.asignar E dir valor m)
        (e.conContextos (e.contextos.escribir valor (P.lugar dir))) ∧
      (Cpu.asignar E dir valor m).errores = m.errores := by
  obtain ⟨hcelda, hle⟩ := h.lugar_le hv
  obtain ⟨hest, hbytes, hint⟩ := asignar_ok (S := S) h.pila.segmentoStack h.vale dir hle valor
  obtain ⟨hpila, -⟩ := Cpu.asignar_pila h.pila (lugar_apunta hcelda) valor hint.errores
  refine ⟨h.interna hint ?_ ?_ ?_ ?_, hint.errores⟩
  · rw [Contextos.pila_escribir]
    exact hpila
  · rw [hbytes]
    exact h.valores.escribir hcelda h.pila.tope valor
  · rw [hbytes, SegMem.length_overwrite]
  · rw [hest]
    exact h.programCounter

/-! ### Calls and returns -/

/-- The store of a call, and what follows when it is served. -/
theorem llamar_ok {m₁ : Maquina σ} {funcion : Texto} {ws : Pcb → List U32}
    (hregistra : E.Registra (.irAlLabel funcion))
    (h : ((m.conDiccionario (HashTable.clean m.estado.diccionarioVariables)).conPcb
        { m.estado.pcb with tamanioContexto := 0#32 }).almacenar E ⟨m.estado.pcb.segmentoStack,
          m.estado.pcb.cursorStack - m.estado.pcb.segmentoStack,
          BitVec.ofNat 32 (4 * (ws m.estado.pcb).length), Cpu.bufferPalabras (ws m.estado.pcb)⟩ =
      (.ok (), m₁)) :
    Cpu.llamar E funcion ws m = some (m₁.conPcb { m₁.estado.pcb with
      programCounter :=
        metadataBuscarEtiqueta funcion m₁.estado.bloqueEtiquetas m₁.estado.pcb.tamanioEtiqueta
      cursorStack :=
        m₁.estado.pcb.cursorStack + BitVec.ofNat 32 (4 * (ws m.estado.pcb).length) }) := by
  have hpcb : (m.conDiccionario (HashTable.clean m.estado.diccionarioVariables)).estado.pcb =
      m.estado.pcb := rfl
  simp only [Cpu.llamar, hpcb, h, Cpu.irAlLabel_of_registra hregistra, Option.map_some]
  rfl

theorem representa_llamar (h : Representa S m e) {funcion : Texto} {donde : Option TPuntero}
    (hregistra : E.Registra (.irAlLabel funcion))
    (hdonde : ∀ dir ∈ donde, ∃ v, e.contextos.leer (P.lugar dir) = some v)
    (he : P.llamada e funcion donde = some e') :
    ∃ m', Cpu.llamar E funcion (cabecera donde) m = some m' ∧ Representa S m' e' ∧
      m'.errores = m.errores := by
  rw [Guion.llamada] at he
  split at he
  · next hle =>
      obtain rfl := Option.some_inj.1 he
      obtain ⟨m₀, hm₀⟩ : ∃ m₀, m₀ = (m.conDiccionario (HashTable.clean
          m.estado.diccionarioVariables)).conPcb { m.estado.pcb with
            tamanioContexto := 0#32 } := ⟨_, rfl⟩
      obtain ⟨st, hst⟩ : ∃ st : AlmacenarBytes, st = ⟨m.estado.pcb.segmentoStack,
          m.estado.pcb.cursorStack - m.estado.pcb.segmentoStack,
          BitVec.ofNat 32 (4 * (cabecera donde m.estado.pcb).length),
          Cpu.bufferPalabras (cabecera donde m.estado.pcb)⟩ := ⟨_, rfl⟩
      have hoffset : st.offset.toNat = e.contextos.pila.tope := by rw [hst]; exact h.pila.offset
      have htamanio : st.tamanio.toNat = tamanioCabecera donde := by
        rw [hst]
        exact Cpu.tamanio_cabecera donde m.estado.pcb
      have hvale : S.vale m₀.entorno := by rw [hm₀]; exact h.vale
      have hbytes₀ : S.bytes m₀ = S.bytes m := by rw [hm₀]; rfl
      obtain ⟨m₁, halm, hest, hbytes, hint⟩ := S.guardado hvale st
        (by rw [hst]; exact h.pila.segmentoStack)
          (by rw [hoffset, htamanio, hbytes₀, h.largo]; exact hle)
      have hdef : Cpu.llamar E funcion (cabecera donde) m = _ :=
        llamar_ok hregistra (by rw [← hm₀, ← hst]; exact halm)
      obtain ⟨m₂, hm₂⟩ : ∃ m₂, m₂ = m₁.conPcb { m₁.estado.pcb with
          programCounter :=
            metadataBuscarEtiqueta funcion m₁.estado.bloqueEtiquetas m₁.estado.pcb.tamanioEtiqueta
          cursorStack := m₁.estado.pcb.cursorStack +
            BitVec.ofNat 32 (4 * (cabecera donde m.estado.pcb).length) } := ⟨_, rfl⟩
      rw [← hm₂] at hdef
      have herr : m₂.errores = m.errores := by
        rw [hm₂]
        refine hint.errores.trans ?_
        rw [hm₀]
        rfl
      obtain ⟨hpila, -⟩ := Cpu.llamar_pila h.pila
        (fun dir hdir => lugar_apunta (h.lugar_le (hdonde dir hdir).choose_spec).1) hdef herr
      refine ⟨m₂, hdef, ?_, herr⟩
      rw [hm₂] at hpila ⊢
      rw [hm₀] at hest hint
      have hint' : Interna S m (m₁.conPcb { m₁.estado.pcb with
          programCounter :=
            metadataBuscarEtiqueta funcion m₁.estado.bloqueEtiquetas m₁.estado.pcb.tamanioEtiqueta
          cursorStack := m₁.estado.pcb.cursorStack +
            BitVec.ofNat 32 (4 * (cabecera donde m.estado.pcb).length) }) :=
        { hint with
          pcb := by
            simp only [Maquina.conPcb, hest] }
      refine h.interna hint' ?_ ?_ ?_ ?_
      · rw [h.programCounter] at hpila
        exact hpila
      · refine ⟨h.valores.congr fun i hi => ?_, ?_⟩
        · change (S.bytes m₁).getD i 0#8 = _
          rw [hbytes, hoffset, Cpu.getD_overwrite_of_lt hi, hbytes₀]
        · intro k x hx
          cases hx
      · change (S.bytes m₁).length = _
        rw [hbytes, SegMem.length_overwrite, hbytes₀]
      · change metadataBuscarEtiqueta funcion m₁.estado.bloqueEtiquetas
          m₁.estado.pcb.tamanioEtiqueta = _
        rw [hest]
        exact h.etiqueta_eq funcion
  · cases he

/-- The variables of a context inside the stack are loaded. -/
theorem actualizarContexto_ok (hvale : S.vale m.entorno) {p : Pila}
    (hseg : m.estado.pcb.segmentoStack = P.pcb.segmentoStack)
    (hcursor : m.estado.pcb.cursorStack = P.pcb.segmentoStack + BitVec.ofNat 32 p.tope)
    (hinicio : m.estado.inicioContexto = P.pcb.segmentoStack + BitVec.ofNat 32 p.inicio)
    (htope : p.tope ≤ (S.bytes m).length) (htam : (S.bytes m).length < 2 ^ 31) :
    Interna S m (Cpu.actualizarContexto E m) := by
  have heq := p.tope_eq
  have hdes : m.estado.pcb.cursorStack - m.estado.inicioContexto =
      BitVec.ofNat 32 (5 * p.celdas) := by
    rw [hcursor, hinicio, heq]
    bv_omega
  have hsdiv := Cpu.sdiv_cinco (n := p.celdas) (by omega)
  have hoffset : (m.estado.inicioContexto - m.estado.pcb.segmentoStack).toNat = p.inicio := by
    rw [hinicio, hseg]
    bv_omega
  have htamanio : (BitVec.ofNat 32 p.celdas * 5#32).toNat = 5 * p.celdas := by
    rw [BitVec.toNat_mul, BitVec.toNat_ofNat, BitVec.toNat_ofNat]
    omega
  obtain ⟨m₀, hm₀⟩ :
    ∃ m₀, m₀ = (m.conDiccionario (HashTable.clean m.estado.diccionarioVariables)).conPcb
      { m.estado.pcb with tamanioContexto := BitVec.ofNat 32 p.celdas } := ⟨_, rfl⟩
  have hvale₀ : S.vale m₀.entorno := by rw [hm₀]; exact hvale
  have hbytes₀ : S.bytes m₀ = S.bytes m := by rw [hm₀]; rfl
  obtain ⟨m₁, hsol, hest, -, hint⟩ := S.lectura hvale₀ ⟨m.estado.pcb.segmentoStack,
    m.estado.inicioContexto - m.estado.pcb.segmentoStack, BitVec.ofNat 32 p.celdas * 5#32⟩ hseg
    (by rw [hoffset, htamanio, hbytes₀]; omega)
  rw [hm₀] at hest hint hsol
  simp only [Cpu.actualizarContexto, hdes, hsdiv, hsol]
  exact { hint with pcb := by simp only [Maquina.conDiccionario, Maquina.conPcb, hest] }

/-- **Going back to the caller is served**, when the header gave the start of its context. -/
theorem regresar_ok {c : Contextos} {pc : U32} {donde : Option TPuntero} {vars : List (Byte × U32)}
    {m₂ : Maquina σ} (tamanio : U32) (h : Representa S m e)
    (hc : e.contextos = .marco c pc donde vars) (htam : tamanio.toNat = tamanioCabecera donde)
    (hvale : S.vale m₂.entorno) (hseg : m₂.estado.pcb.segmentoStack = P.pcb.segmentoStack)
    (hcursor : m₂.estado.pcb.cursorStack = m.estado.pcb.cursorStack -
      (5#32 * m.estado.pcb.tamanioContexto + tamanio))
    (hinicio : m₂.estado.inicioContexto = P.pcb.segmentoStack + BitVec.ofNat 32 c.pila.inicio)
    (hlargo : (S.bytes m₂).length = (S.bytes m).length) :
    Interna S m₂ (Cpu.actualizarContexto E m₂) := by
  have hlt := h.pila.tope_lt
  have hle := h.pila.tope
  have hcur := h.pila.cursorStack
  have htamC := h.pila.tamanioContexto
  rw [hc] at hlt hle hcur htamC
  simp only [Contextos.pila, Pila.tope, Pila.celdas] at hlt hle hcur htamC
  refine actualizarContexto_ok (p := c.pila) hvale hseg ?_ hinicio (by rw [hlargo]; omega)
    (by rw [hlargo]; exact h.pila.tamanio)
  rw [hcursor, hcur, htamC]
  bv_omega

/-- The header of the current context is served, and says where the caller is. -/
theorem cabecera_ok {c : Contextos} {pc : U32} {donde : Option TPuntero} {vars : List (Byte × U32)}
    (h : Representa S m e) (hc : e.contextos = .marco c pc donde vars) (tamanio : U32)
    (htam : tamanio.toNat = tamanioCabecera donde) :
    ∃ data m₁, m.solicitar E ⟨m.estado.pcb.segmentoStack, m.estado.pcb.cursorStack -
        (m.estado.pcb.segmentoStack + 5#32 * m.estado.pcb.tamanioContexto + tamanio), tamanio⟩ =
          (.ok data, m₁) ∧
      palabra data 0 = P.pcb.segmentoStack + BitVec.ofNat 32 c.pila.inicio ∧ palabra data 4 = pc ∧
      (∀ dir ∈ donde, palabra data 8 = dir) ∧ m₁.estado = m.estado ∧ S.bytes m₁ = S.bytes m ∧
      Interna S m m₁ := by
  have hpila := h.pila
  rw [hc] at hpila
  have hlt := hpila.tope_lt
  have hle := hpila.tope
  simp only [Contextos.pila, Pila.tope] at hlt hle
  have hoff : (m.estado.pcb.cursorStack -
      (m.estado.pcb.segmentoStack + 5#32 * m.estado.pcb.tamanioContexto + tamanio)).toNat =
        c.pila.tope := by
    rw [hpila.cursorStack, hpila.segmentoStack, hpila.tamanioContexto]
    simp only [Contextos.pila, Pila.tope, Pila.celdas]
    bv_omega
  obtain ⟨m₁, hsol, hest, hbytes, hint⟩ := S.lectura h.vale ⟨m.estado.pcb.segmentoStack,
    m.estado.pcb.cursorStack -
      (m.estado.pcb.segmentoStack + 5#32 * m.estado.pcb.tamanioContexto + tamanio), tamanio⟩
    h.pila.segmentoStack (by rw [hoff, htam]; omega)
  obtain ⟨hinicio, hpc, hdonde⟩ := Cpu.cabecera_leida hpila h.pila.segmentoStack hoff htam hsol
  exact ⟨_, m₁, hsol, hinicio, hpc, hdonde, hest, hbytes, hint⟩

theorem Representa.conRafaga (h : Representa S m e) (r : Cpu.EstadoRafaga) :
    Representa S (m.conRafaga r) (e.conRafaga r) where
  vale := h.vale
  pila := h.pila.quieta ⟨rfl, rfl, rfl, rfl, rfl⟩
  valores := h.valores
  largo := h.largo
  pcb := h.pcb
  etiquetas := h.etiquetas
  rafaga := rfl
  enviados := h.enviados
  resto := h.resto

theorem representa_finalizar (h : Representa S m e) (he : Guion.fin e = some e') :
    Representa S (Cpu.finalizar E m) e' ∧ (Cpu.finalizar E m).errores = m.errores := by
  rw [Guion.fin] at he
  split at he
  · next vars hc =>
      obtain rfl := Option.some_inj.1 he
      have hpila := h.pila
      rw [hc] at hpila
      rw [Cpu.finalizar_base hpila]
      exact ⟨h.conRafaga _, rfl⟩
  · next c pc vars hc =>
      obtain rfl := Option.some_inj.1 he
      have hpila := h.pila
      rw [hc] at hpila
      have hlt := hpila.tope_lt
      simp only [Contextos.pila, Pila.tope, tamanioCabecera] at hlt
      -- under the variables there is a header, so this is not the outermost context
      have hne : ¬ m.estado.pcb.cursorStack -
          (m.estado.pcb.segmentoStack + 5#32 * m.estado.pcb.tamanioContexto) = 0#32 := by
        rw [hpila.cursorStack, hpila.segmentoStack, hpila.tamanioContexto]
        simp only [Contextos.pila, Pila.tope, Pila.celdas, tamanioCabecera]
        bv_omega
      obtain ⟨data, m₁, hsol, hinicio, hpc, -, hest, hbytes, hint⟩ := cabecera_ok h hc 8#32 rfl
      obtain ⟨m₂, hm₂⟩ : ∃ m₂, m₂ = (m₁.conInicio (palabra data 0)).conPcb { m.estado.pcb with
          programCounter := palabra data 4
          cursorStack :=
            m.estado.pcb.cursorStack - (5#32 * m.estado.pcb.tamanioContexto + 8#32) } :=
        ⟨_, rfl⟩
      have hdef : Cpu.finalizar E m = Cpu.actualizarContexto E m₂ := by
        simp only [Cpu.finalizar, if_neg hne, hsol, hm₂]
      have hint₂ : Interna S m m₂ := by
        rw [hm₂]
        exact { hint with pcb := rfl }
      have hint₃ : Interna S m₂ (Cpu.actualizarContexto E m₂) := by
        refine regresar_ok 8#32 h hc rfl hint₂.vale ?_ ?_ ?_ ?_
        · rw [hm₂]
          exact h.pila.segmentoStack
        · rw [hm₂]
          rfl
        · rw [hm₂]
          exact hinicio
        · rw [hm₂]
          exact congrArg List.length hbytes
      have hint' : Interna S m (Cpu.finalizar E m) := by
        rw [hdef]
        exact hint₂.trans hint₃
      obtain ⟨hpila', hbytes', hpc', -⟩ := Cpu.finalizar_pila hpila hint'.errores
      refine ⟨h.interna hint' hpila' ?_ (by rw [hbytes']) hpc', hint'.errores⟩
      have hval := h.valores
      rw [hc] at hval
      rw [hbytes']
      exact hval.1
  · cases he

theorem representa_retornar (h : Representa S m e) (valor : U32)
    (he : P.retorno valor e = some e') :
    Representa S (Cpu.retornar E valor m) e' ∧ (Cpu.retornar E valor m).errores = m.errores := by
  rw [Guion.retorno] at he
  split at he
  · next c pc dir vars hc =>
      obtain rfl := Option.some_inj.1 he
      have hpila := h.pila
      rw [hc] at hpila
      have hlt := hpila.tope_lt
      have hle := hpila.tope
      simp only [Contextos.pila, Pila.tope] at hlt hle
      -- the value goes to a variable of the caller
      obtain ⟨i, hi, hdir⟩ := (hpila.cabeceras.2.2.2 dir rfl).2
      have hilt := hi.lt
      have hlugar : P.lugar dir = i := by
        rw [Guion.lugar, hdir]
        bv_omega
      obtain ⟨data, m₁, hsol, hinicio, hpc, hdonde, hest, hbytes, hint⟩ :=
        cabecera_ok h hc 12#32 rfl
      obtain ⟨m₂, hm₂⟩ : ∃ m₂, m₂ = (m₁.conInicio (palabra data 0)).conPcb { m.estado.pcb with
          programCounter := palabra data 4
          cursorStack :=
            m.estado.pcb.cursorStack - (5#32 * m.estado.pcb.tamanioContexto + 12#32) } :=
        ⟨_, rfl⟩
      obtain ⟨m₃, hm₃⟩ : ∃ m₃, m₃ = Cpu.actualizarContexto E (Cpu.asignar E dir valor m₂) :=
        ⟨_, rfl⟩
      have hdef : Cpu.retornar E valor m =
          if m₃.estado.pcb.cursorStack = m₃.estado.pcb.segmentoStack then
          m₃.conRafaga .notificarPorFinPrograma else m₃ := by
        simp only [Cpu.retornar, Cpu.pedidoRetornar, hsol, hdonde dir rfl]
        rw [hm₃, hm₂]
      have hint₂ : Interna S m m₂ := by
        rw [hm₂]
        exact { hint with pcb := rfl }
      have hseg₂ : m₂.estado.pcb.segmentoStack = P.pcb.segmentoStack := by
        rw [hm₂]
        exact h.pila.segmentoStack
      have hlargo₂ : (S.bytes m₂).length = (S.bytes m).length := by
        rw [hm₂]
        exact congrArg List.length hbytes
      obtain ⟨hest₂, hbytes₂, hasignar⟩ := asignar_ok (S := S) hseg₂ hint₂.vale dir
        (by rw [hlugar, hlargo₂]; omega) valor
      have hint₃ : Interna S (Cpu.asignar E dir valor m₂) m₃ := by
        rw [hm₃]
        refine regresar_ok 12#32 h hc rfl hasignar.vale ?_ ?_ ?_ ?_
        · rw [hest₂]
          exact hseg₂
        · rw [hest₂, hm₂]
          rfl
        · rw [hest₂, hm₂]
          exact hinicio
        · rw [hbytes₂, SegMem.length_overwrite, hlargo₂]
      have hint₄ := (hint₂.trans hasignar).trans hint₃
      have herr : (Cpu.retornar E valor m).errores = m.errores := by
        rw [hdef]
        split <;> exact hint₄.errores
      obtain ⟨hpila', hbytes', hpc', -⟩ := Cpu.retornar_pila hpila valor herr
      -- the stack of the caller is not empty, so the program does not end
      have hretorno : Cpu.retornar E valor m = m₃ := by
        have hpila'' := hpila'
        rw [hdef] at hpila'' ⊢
        split at hpila''
        · next hcero =>
            have hcursor := hpila''.cursorStack
            have hseg := hpila''.segmentoStack
            change m₃.estado.pcb.cursorStack = _ at hcursor
            change m₃.estado.pcb.segmentoStack = _ at hseg
            rw [hcero, hseg] at hcursor
            bv_omega
        · next hne => rw [if_neg hne]
      have hint' : Interna S m (Cpu.retornar E valor m) := by
        rw [hretorno]
        exact hint₄
      have hval := h.valores
      rw [hc] at hval
      change S.bytes (Cpu.retornar E valor m) =
        SegMem.overwrite (S.bytes m) (P.lugar dir) 4 (Words.byteAt valor) at hbytes'
      refine ⟨h.interna hint' ?_ ?_ ?_ hpc', herr⟩
      · rw [Contextos.pila_escribir]
        exact hpila'
      · rw [hbytes']
        exact hval.1.escribir (hlugar ▸ hi) (by omega) valor
      · rw [hbytes', SegMem.length_overwrite]
  · cases he

/-! ### The primitives of the kernel -/

/-- **The kernel answers the CPU what it answers the program.** -/
theorem Representa.consultar (h : Representa S m e) (mensaje : MensajeCpu) :
    ∃ r m₁ e₁, m.consultar E mensaje = (r, m₁) ∧ e.consultar P.nucleo mensaje = (r, e₁) ∧
      Representa S m₁ e₁ ∧ m₁.errores = m.errores := by
  obtain ⟨hr, hresto⟩ := S.resto_consultar m.entorno mensaje
  rw [h.resto] at hr hresto
  have hbytes : S.bytes (m.consultar E mensaje).2 = S.bytes m := S.toUmvFiel.consultar _ _
  refine ⟨(e.consultar P.nucleo mensaje).1, (m.consultar E mensaje).2,
    (e.consultar P.nucleo mensaje).2, Prod.ext hr rfl, rfl, ?_, rfl⟩
  exact {
    vale := S.vale_consultar _ _ h.vale
    pila := h.pila.quieta (Cpu.Quieta.of_estado rfl hbytes)
    valores := by rw [hbytes]; exact h.valores
    largo := by rw [hbytes]; exact h.largo
    pcb := h.pcb
    etiquetas := h.etiquetas
    rafaga := h.rafaga
    enviados := by
      change m.enviados ++ [(mensaje, some (E.consultar m.entorno mensaje).1)] =
        e.enviados ++ [(mensaje, some (P.nucleo.consultar e.resto mensaje).1)]
      rw [h.enviados, hr]
    resto := hresto }

theorem Representa.enviar (h : Representa S m e) (mensaje : MensajeCpu) :
    Representa S (m.enviarAKernel E mensaje) (e.enviar P.nucleo mensaje) := by
  have hbytes : S.bytes (m.enviarAKernel E mensaje) = S.bytes m := S.toUmvFiel.enviar _ _
  exact {
    vale := S.vale_enviar _ _ h.vale
    pila := h.pila.quieta (Cpu.Quieta.of_estado rfl hbytes)
    valores := by rw [hbytes]; exact h.valores
    largo := by rw [hbytes]; exact h.largo
    pcb := h.pcb
    etiquetas := h.etiquetas
    rafaga := h.rafaga
    enviados := by
      change m.enviados ++ [(mensaje, none)] = e.enviados ++ [(mensaje, none)]
      rw [h.enviados]
    resto := by
      change S.resto (E.enviar m.entorno mensaje) = P.nucleo.enviar e.resto mensaje
      rw [S.resto_enviar, h.resto] }

/-- The step of a primitive: the same result, and a CPU that represents what follows. -/
def Hace (S : Servicio E P.nucleo P.pcb.segmentoStack) (m : Maquina σ) (a : Primitiva) (v : U32)
    (e' : Ejecucion κ) : Prop :=
  ∃ m', Cpu.ejecutar E m a = some (v, m') ∧ Representa S m' e' ∧ m'.errores = m.errores

/-- **The primitives that talk to the kernel do what they mean.** -/
theorem hace_delKernel (h : Representa S m e) {a : Primitiva} {v : U32} (ha : a.delKernel = true)
    (hregistra : E.Registra a) (he : P.primitiva e a = some (v, e')) : Hace S m a v e' := by
  have hlinea := E.registrar_eq_some_iff.2 hregistra
  cases a with
  | obtenerValorCompartida nombre =>
      obtain ⟨r, m₁, e₁, hm, hce, hrep, herr⟩ := h.consultar (.obtenerValorVarCompartida nombre)
      rw [Hace, Cpu.ejecutar, Cpu.obtenerValorCompartida, hlinea, Option.map_some, hm]
      rw [Guion.primitiva, hce] at he
      have hotro := (hrep.conRafaga .notificarPorFinPrograma).basura
      cases r with
      | valorCompartida valor =>
          obtain ⟨rfl, rfl⟩ := Prod.mk.inj (Option.some_inj.1 he)
          exact ⟨m₁, rfl, hrep, herr⟩
      | _ =>
          obtain rfl := congrArg Prod.fst (Option.some_inj.1 he)
          obtain rfl := congrArg Prod.snd (Option.some_inj.1 he)
          exact ⟨_, by rw [← hotro.1], hotro.2, herr⟩
  | asignarValorCompartida nombre valor =>
      obtain ⟨r, m₁, e₁, hm, hce, hrep, herr⟩ :=
        h.consultar (.asignarValorVarCompartida nombre valor)
      rw [Hace, Cpu.ejecutar, Cpu.asignarValorCompartida, hlinea, Option.map_some, hm]
      rw [Guion.primitiva, hce] at he
      cases r with
      | continuar =>
          obtain ⟨rfl, rfl⟩ := Prod.mk.inj (Option.some_inj.1 he)
          exact ⟨m₁, rfl, hrep, herr⟩
      | _ =>
          obtain ⟨rfl, rfl⟩ := Prod.mk.inj (Option.some_inj.1 he)
          exact ⟨_, rfl, hrep.conRafaga _, herr⟩
  | imprimir valor =>
      rw [Hace, Cpu.ejecutar, Cpu.imprimir]
      rw [Guion.primitiva] at he
      rw [h.rafaga]
      split at he
      · next hfin =>
          obtain ⟨rfl, rfl⟩ := Prod.mk.inj (Option.some_inj.1 he)
          rw [if_pos hfin]
          exact ⟨m, rfl, h, rfl⟩
      · next hno =>
          obtain ⟨r, m₁, e₁, hm, hce, hrep, herr⟩ := h.consultar (.imprimirKernel valor)
          rw [if_neg hno, hm]
          rw [hce] at he
          cases r with
          | continuar =>
              obtain ⟨rfl, rfl⟩ := Prod.mk.inj (Option.some_inj.1 he)
              exact ⟨m₁, rfl, hrep, herr⟩
          | _ =>
              obtain ⟨rfl, rfl⟩ := Prod.mk.inj (Option.some_inj.1 he)
              exact ⟨_, rfl, hrep.conRafaga _, herr⟩
  | imprimirTexto texto =>
      obtain ⟨r, m₁, e₁, hm, hce, hrep, herr⟩ := h.consultar (.imprimirTextoKernel texto)
      rw [Hace, Cpu.ejecutar, Cpu.imprimirTexto, hlinea, Option.map_some, Option.map_some, hm]
      rw [Guion.primitiva, hce] at he
      cases r with
      | continuar =>
          obtain ⟨rfl, rfl⟩ := Prod.mk.inj (Option.some_inj.1 he)
          exact ⟨m₁, rfl, hrep, herr⟩
      | _ =>
          obtain ⟨rfl, rfl⟩ := Prod.mk.inj (Option.some_inj.1 he)
          exact ⟨_, rfl, hrep.conRafaga _, herr⟩
  | entrarSalida dispositivo tiempo =>
      rw [Guion.primitiva, ← h.pcb] at he
      obtain ⟨rfl, rfl⟩ := Prod.mk.inj (Option.some_inj.1 he)
      rw [Hace, Cpu.ejecutar, Cpu.entrarSalida, hlinea, Option.map_some, Option.map_some]
      exact ⟨_, rfl, (h.conRafaga _).enviar _, rfl⟩
  | waitAnsisop semaforo =>
      obtain ⟨r, m₁, e₁, hm, hce, hrep, herr⟩ := h.consultar (.waitKernel semaforo m.estado.pcb)
      rw [Hace, Cpu.ejecutar, Cpu.waitAnsisop, hlinea, Option.map_some, Option.map_some, hm]
      rw [Guion.primitiva, ← h.pcb, hce] at he
      cases r with
      | continuar =>
          obtain ⟨rfl, rfl⟩ := Prod.mk.inj (Option.some_inj.1 he)
          exact ⟨m₁, rfl, hrep, herr⟩
      | _ =>
          obtain ⟨rfl, rfl⟩ := Prod.mk.inj (Option.some_inj.1 he)
          exact ⟨_, rfl, hrep.conRafaga _, herr⟩
  | signalAnsisop semaforo =>
      obtain ⟨r, m₁, e₁, hm, hce, hrep, herr⟩ := h.consultar (.signalKernel semaforo)
      rw [Hace, Cpu.ejecutar, Cpu.signalAnsisop, hlinea, Option.map_some, Option.map_some, hm]
      rw [Guion.primitiva, hce] at he
      cases r with
      | terminar =>
          obtain ⟨rfl, rfl⟩ := Prod.mk.inj (Option.some_inj.1 he)
          exact ⟨_, rfl, hrep.conRafaga _, herr⟩
      | _ =>
          obtain ⟨rfl, rfl⟩ := Prod.mk.inj (Option.some_inj.1 he)
          exact ⟨m₁, rfl, hrep, herr⟩
  | _ => exact (Bool.false_ne_true ha).elim

/-! ### Primitives and lines -/

/-- **The primitives do what they mean**, if their lines can be logged. -/
theorem representa_ejecutar (h : Representa S m e) {a : Primitiva} {v : U32}
    (hregistra : E.Registra a) (he : P.primitiva e a = some (v, e')) : Hace S m a v e' := by
  cases a with
  | definirVariable nombre =>
      rw [Guion.primitiva] at he
      split at he
      · next hle =>
          obtain ⟨rfl, rfl⟩ := Prod.mk.inj (Option.some_inj.1 he)
          exact representa_definirVariable h hregistra hle
      · cases he
  | obtenerPosicionVariable nombre =>
      rw [Guion.primitiva, Option.map_eq_some_iff] at he
      obtain ⟨i, hi, heq⟩ := he
      obtain ⟨rfl, rfl⟩ := Prod.mk.inj heq
      refine ⟨m, ?_, h, rfl⟩
      have hget := Contextos.get_nombres h.pila.diccionario h.valores nombre
      rw [hi, Option.map_some] at hget
      rw [Cpu.ejecutar, Cpu.obtenerPosicionVariable, E.registrar_eq_some_iff.2 hregistra,
        Option.bind_some, hget, Option.map_some, Guion.dir]
  | dereferenciar dir =>
      rw [Guion.primitiva, Option.map_eq_some_iff] at he
      obtain ⟨valor, hvalor, heq⟩ := he
      obtain ⟨rfl, rfl⟩ := Prod.mk.inj heq
      obtain ⟨hv, hrep, herr⟩ := representa_dereferenciar h hvalor
      exact ⟨_, congrArg some (Prod.ext hv rfl), hrep, herr⟩
  | asignar dir valor =>
      rw [Guion.primitiva, Option.map_eq_some_iff] at he
      obtain ⟨_, hvalor, heq⟩ := he
      obtain ⟨rfl, rfl⟩ := Prod.mk.inj heq
      obtain ⟨hrep, herr⟩ := representa_asignar h hvalor valor
      exact ⟨_, rfl, hrep, herr⟩
  | irAlLabel nombre =>
      obtain ⟨rfl, rfl⟩ := Prod.mk.inj (Option.some_inj.1 he)
      have hsalto := Cpu.irAlLabel_of_registra hregistra m
      refine ⟨_, congrArg (Option.map Cpu.sinResultado) hsalto, ?_, rfl⟩
      have hint : Interna S m (m.conPcb { m.estado.pcb with
          programCounter :=
            metadataBuscarEtiqueta nombre m.estado.bloqueEtiquetas
              m.estado.pcb.tamanioEtiqueta }) :=
        ⟨h.vale, rfl, rfl, rfl, rfl, rfl, rfl⟩
      exact h.interna hint (h.pila.quieta ⟨rfl, rfl, rfl, rfl, rfl⟩) h.valores rfl
        (h.etiqueta_eq nombre)
  | llamarSinRetorno funcion =>
      rw [Guion.primitiva, Option.map_eq_some_iff] at he
      obtain ⟨_, hllamada, heq⟩ := he
      obtain ⟨rfl, rfl⟩ := Prod.mk.inj heq
      obtain ⟨m', hllamar, hrep, herr⟩ :=
        representa_llamar h (E.registra_irAlLabel (Or.inl hregistra))
        (fun dir hdir => by cases hdir) hllamada
      refine ⟨m', ?_, hrep, herr⟩
      rw [Cpu.ejecutar, Cpu.llamarSinRetorno, E.registrar_eq_some_iff.2 hregistra, Option.bind_some]
      exact congrArg (Option.map Cpu.sinResultado) hllamar
  | llamarConRetorno funcion donde =>
      rw [Guion.primitiva, Option.bind_eq_some_iff] at he
      obtain ⟨valor, hvalor, he⟩ := he
      obtain ⟨_, hllamada, heq⟩ := Option.map_eq_some_iff.1 he
      obtain ⟨rfl, rfl⟩ := Prod.mk.inj heq
      have hdonde : ∀ dir ∈ some donde, ∃ v, e.contextos.leer (P.lugar dir) = some v := by
        intro dir hdir
        obtain rfl := Option.some_inj.1 hdir
        exact ⟨valor, hvalor⟩
      obtain ⟨m', hllamar, hrep, herr⟩ := representa_llamar h
        (E.registra_irAlLabel (Or.inr ⟨_, hregistra⟩)) hdonde hllamada
      refine ⟨m', ?_, hrep, herr⟩
      rw [Cpu.ejecutar, Cpu.llamarConRetorno, E.registrar_eq_some_iff.2 hregistra, Option.bind_some]
      exact congrArg (Option.map Cpu.sinResultado) hllamar
  | finalizar =>
      rw [Guion.primitiva, Option.map_eq_some_iff] at he
      obtain ⟨_, hfin, heq⟩ := he
      obtain ⟨rfl, rfl⟩ := Prod.mk.inj heq
      obtain ⟨hrep, herr⟩ := representa_finalizar h hfin
      exact ⟨_, rfl, hrep, herr⟩
  | retornar valor =>
      rw [Guion.primitiva, Option.map_eq_some_iff] at he
      obtain ⟨_, hretorno, heq⟩ := he
      obtain ⟨rfl, rfl⟩ := Prod.mk.inj heq
      obtain ⟨hrep, herr⟩ := representa_retornar h valor hretorno
      exact ⟨_, rfl, hrep, herr⟩
  | _ => exact hace_delKernel h rfl hregistra he

/-- **The lines do what they mean**, if those of their calls can be logged. -/
theorem representa_interpretar (h : Representa S m e) {linea : Linea}
    (hregistra : Todas E.Registra linea) (he : P.interpretar linea e = some e') :
    ∃ m', Cpu.interpretar E linea m = some m' ∧ Representa S m' e' ∧ m'.errores = m.errores := by
  induction linea generalizing m e with
  | fin =>
      obtain rfl := Option.some_inj.1 he
      exact ⟨m, rfl, h, rfl⟩
  | indefinida => cases he
  | llamar a resto ih =>
      rw [Guion.interpretar, Option.bind_eq_some_iff] at he
      obtain ⟨⟨v, e₁⟩, hprim, hresto⟩ := he
      obtain ⟨m₁, hejec, hrep, herr⟩ := representa_ejecutar h hregistra.1 hprim
      obtain ⟨m', hint, hrep', herr'⟩ := ih v hrep (hregistra.2 v) hresto
      refine ⟨m', ?_, hrep', herr'.trans herr⟩
      rw [Cpu.interpretar, hejec]
      exact hint

end Ansisop.Lenguaje
