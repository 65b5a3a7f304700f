/-
**The stack of a program.**

The stack of a program is a segment of the UMV.  Each context has a header, with the start of the
context of its caller, the instruction to go back to and, for a call with a result, where to return
it; then come its variables, five bytes each, the name and the value.  The outermost context has no
header.

This module describes the stack as a value of a type of its own, `Pila`, and says when a CPU and the
bytes of the UMV agree with one.  Only the bytes of the values may change without breaking the
agreement.

Main definitions:

* `Ansisop.Cpu.Pila` — the contexts, with `tope`, `inicio`, `celdas` and `EsCelda`;
* `Ansisop.Cpu.Pila.EnMemoria`, `Ansisop.Cpu.Pila.nombres` — the headers, and the variables of the
  current context, as the bytes give them;
* `Ansisop.Cpu.UmvFiel` — a UMV that stores and returns the bytes of the stack;
* `Ansisop.Cpu.PilaBien` — **the CPU and the bytes agree with the stack**.

Main results:

* `Ansisop.Cpu.Pila.EnMemoria.congr`, `Ansisop.Cpu.Pila.nombres_congr` — what the values of the
  variables cannot change;
* `Ansisop.Cpu.represents_cargarVariables` — the dictionary loaded from the bytes.
-/

import Ansisop.Lib.SegMem
import Ansisop.Cpu.FinDeRafaga

set_option relaxedAutoImplicit false
set_option autoImplicit false

namespace Ansisop.Cpu

/-! ### Stacks -/

/-- **A stack**: the outermost context, with its variables, or a context over another one, with the
instruction to go back to, where to return the result, if there is one, and its variables. -/
inductive Pila
  | base (celdas : ℕ)
  | marco (llamador : Pila) (programCounter : U32) (donde : Option TPuntero) (celdas : ℕ)

/-- The bytes of the header of a context. -/
def tamanioCabecera : Option TPuntero → ℕ
  | none => 8
  | some _ => 12

namespace Pila

/-- The first byte over the stack. -/
def tope : Pila → ℕ
  | base celdas => 5 * celdas
  | marco p _ donde celdas => p.tope + tamanioCabecera donde + 5 * celdas

/-- The first byte of the current context, over its header. -/
def inicio : Pila → ℕ
  | base _ => 0
  | marco p _ donde _ => p.tope + tamanioCabecera donde

/-- The variables of the current context. -/
def celdas : Pila → ℕ
  | base celdas => celdas
  | marco _ _ _ celdas => celdas

/-- One variable more in the current context. -/
def conCelda : Pila → Pila
  | base celdas => base (celdas + 1)
  | marco p pc donde celdas => marco p pc donde (celdas + 1)

/-- The four bytes from `i` on are the value of a variable of some context. -/
def EsCelda (i : ℕ) : Pila → Prop
  | base celdas => ∃ k < celdas, i = 5 * k + 1
  | marco p _ donde celdas =>
      p.EsCelda i ∨ ∃ k < celdas, i = p.tope + tamanioCabecera donde + 5 * k + 1

/-- A byte that belongs to no value: a header or a name. -/
def Fijo (p : Pila) (i : ℕ) : Prop := i < p.tope ∧ ∀ j, p.EsCelda j → ¬ (j ≤ i ∧ i < j + 4)

variable {p : Pila} {i j : ℕ}

theorem tope_eq (p : Pila) : p.tope = p.inicio + 5 * p.celdas := by
  cases p with
  | base c => simp [tope, inicio, celdas]
  | marco p pc d c => rfl

@[simp] theorem tope_conCelda (p : Pila) : p.conCelda.tope = p.tope + 5 := by
  cases p with
  | base c => simp only [conCelda, tope]; omega
  | marco p pc d c => simp only [conCelda, tope]; omega

@[simp] theorem inicio_conCelda (p : Pila) : p.conCelda.inicio = p.inicio := by
  cases p <;> rfl

@[simp] theorem celdas_conCelda (p : Pila) : p.conCelda.celdas = p.celdas + 1 := by
  cases p <;> rfl

/-- The values are inside the stack. -/
theorem EsCelda.lt (h : p.EsCelda i) : i + 4 ≤ p.tope := by
  induction p with
  | base c =>
      obtain ⟨k, hk, rfl⟩ := h
      simp only [tope]
      omega
  | marco p pc d c ih =>
      simp only [tope]
      rcases h with h | ⟨k, hk, rfl⟩
      · have := ih h
        omega
      · omega

theorem EsCelda.of_conCelda (h : p.conCelda.EsCelda i) : p.EsCelda i ∨ i = p.tope + 1 := by
  cases p with
  | base c =>
      obtain ⟨k, hk, rfl⟩ := h
      rcases Nat.lt_succ_iff_lt_or_eq.1 hk with hlt | rfl
      · exact Or.inl ⟨k, hlt, rfl⟩
      · exact Or.inr rfl
  | marco p pc d c =>
      rcases h with h | ⟨k, hk, rfl⟩
      · exact Or.inl (Or.inl h)
      · rcases Nat.lt_succ_iff_lt_or_eq.1 hk with hlt | rfl
        · exact Or.inl (Or.inr ⟨k, hlt, rfl⟩)
        · exact Or.inr rfl

/-- What belongs to no value does not belong to the next one either. -/
theorem Fijo.conCelda (h : p.Fijo i) : p.conCelda.Fijo i := by
  have hi := h.1
  refine ⟨by rw [tope_conCelda]; omega, ?_⟩
  intro j hj
  rcases hj.of_conCelda with hj | rfl
  · exact h.2 j hj
  · omega

/-- What belongs to no value of the caller belongs to no value at all. -/
theorem Fijo.marco {pc : U32} {d : Option TPuntero} {c : ℕ} (h : p.Fijo i) :
    (Pila.marco p pc d c).Fijo i := by
  refine ⟨by have := h.1; simp only [tope]; omega, ?_⟩
  rintro j (hj | ⟨k, hk, rfl⟩)
  · exact h.2 j hj
  · have := h.1
    omega

/-- The header of a context belongs to no value. -/
theorem fijo_cabecera {pc : U32} {d : Option TPuntero} {c : ℕ} (hi : p.tope ≤ i)
    (hlt : i < p.tope + tamanioCabecera d) : (Pila.marco p pc d c).Fijo i := by
  refine ⟨by simp only [tope]; omega, ?_⟩
  rintro j (hj | ⟨k, hk, rfl⟩)
  · have := hj.lt
    omega
  · omega

/-- The names of the variables belong to no value. -/
theorem fijo_nombre {k : ℕ} (hk : k < p.celdas) : p.Fijo (p.inicio + 5 * k) := by
  have htope := p.tope_eq
  refine ⟨by omega, ?_⟩
  intro j hj
  cases p with
  | base c =>
      obtain ⟨k', -, rfl⟩ := hj
      simp only [inicio]
      omega
  | marco p pc d c =>
      simp only [inicio]
      rcases hj with hj | ⟨k', -, rfl⟩
      · have := hj.lt
        omega
      · omega

/-! ### The bytes of a stack -/

/-- The address of a variable of the stack. -/
def Apunta (base : TPuntero) (p : Pila) (dir : TPuntero) : Prop :=
  ∃ i, p.EsCelda i ∧ dir = base + BitVec.ofNat 32 i

/-- The headers of the contexts, in the bytes of the stack. -/
def EnMemoria (base : TPuntero) (bs : List Byte) : Pila → Prop
  | .base _ => True
  | .marco p pc donde _ => p.EnMemoria base bs ∧
      palabra bs p.tope = base + BitVec.ofNat 32 p.inicio ∧ palabra bs (p.tope + 4) = pc ∧
      ∀ dir ∈ donde, palabra bs (p.tope + 8) = dir ∧ p.Apunta base dir

/-- The variables of the current context: the hash code of the name and the address. -/
def nombres (base : TPuntero) (bs : List Byte) (p : Pila) : List (ℕ × TPuntero) :=
  (List.range p.celdas).map fun k =>
    (codigo (bs.getD (p.inicio + 5 * k) 0#8), base + BitVec.ofNat 32 (p.inicio + 5 * k + 1))

variable {base : TPuntero} {bs bs' : List Byte}

/-- **The headers depend only on the bytes that belong to no value.** -/
theorem EnMemoria.congr (h : p.EnMemoria base bs)
    (hbs : ∀ i, p.Fijo i → bs'.getD i 0#8 = bs.getD i 0#8) : p.EnMemoria base bs' := by
  induction p with
  | base c => trivial
  | marco p pc d c ih =>
      obtain ⟨hp, hinicio, hpc, hdonde⟩ := h
      have hcab (k : ℕ) (hk : k + 4 ≤ tamanioCabecera d) :
          palabra bs' (p.tope + k) = palabra bs (p.tope + k) :=
        palabra_congr fun i hi => hbs _ (fijo_cabecera (by omega) (by omega))
      have h8 : 8 ≤ tamanioCabecera d := by cases d <;> simp [tamanioCabecera]
      refine ⟨ih hp fun i hi => hbs i hi.marco, ?_, ?_, ?_⟩
      · have := hcab 0 (by omega)
        rw [Nat.add_zero] at this
        rw [this, hinicio]
      · rw [hcab 4 (by omega), hpc]
      · intro dir hdir
        obtain ⟨hdir', hapunta⟩ := hdonde dir hdir
        rw [Option.mem_def.1 hdir] at hcab
        exact ⟨by rw [hcab 8 (by simp [tamanioCabecera]), hdir'], hapunta⟩

/-- **So do the variables of the current context.** -/
theorem nombres_congr (hbs : ∀ i, p.Fijo i → bs'.getD i 0#8 = bs.getD i 0#8) :
    p.nombres base bs' = p.nombres base bs := by
  refine List.map_congr_left fun k hk => ?_
  rw [hbs _ (fijo_nombre (List.mem_range.1 hk))]

theorem nombres_conCelda (base : TPuntero) (bs : List Byte) (p : Pila) :
    p.conCelda.nombres base bs = p.nombres base bs ++
      [(codigo (bs.getD p.tope 0#8), base + BitVec.ofNat 32 (p.tope + 1))] := by
  simp only [nombres, celdas_conCelda, inicio_conCelda, List.range_succ, List.map_append,
    List.map_singleton, ← tope_eq]

end Pila

/-! ### The CPU and the stack -/

variable {σ : Type*} {E : Entorno σ} {base : TPuntero}

/-- **A UMV that stores and returns the bytes of the stack**: a request that is not answered with an
error is inside the stack and has the effect that it should have, and nothing else changes the
bytes. -/
structure UmvFiel (E : Entorno σ) (base : TPuntero) where
  pila : σ → List Byte
  solicitar : ∀ s sol, pila (E.solicitar s sol).2 = pila s
  leer : ∀ s sol data, sol.base = base → (E.solicitar s sol).1 = .ok data →
    sol.offset.toNat + sol.tamanio.toNat ≤ (pila s).length ∧
      data = ((pila s).drop sol.offset.toNat).take sol.tamanio.toNat
  escribir : ∀ s st, st.base = base → (E.almacenar s st).1 = .ok () →
    st.offset.toNat + st.tamanio.toNat ≤ (pila s).length ∧
      pila (E.almacenar s st).2 =
        SegMem.overwrite (pila s) st.offset.toNat st.tamanio.toNat st.buffer
  consultar : ∀ s mensaje, pila (E.consultar s mensaje).2 = pila s
  enviar : ∀ s mensaje, pila (E.enviar s mensaje) = pila s
  basura : ∀ s, pila (E.basura s).2 = pila s

/-- The bytes of the stack. -/
def UmvFiel.bytes (F : UmvFiel E base) (m : Maquina σ) : List Byte := F.pila m.entorno

/-- **The CPU and the bytes agree with a stack.**  The size of the segment is an `int` of the
configuration of the kernel. -/
structure PilaBien (F : UmvFiel E base) (m : Maquina σ) (p : Pila) : Prop where
  segmentoStack : m.estado.pcb.segmentoStack = base
  cursorStack : m.estado.pcb.cursorStack = base + BitVec.ofNat 32 p.tope
  tamanioContexto : m.estado.pcb.tamanioContexto = BitVec.ofNat 32 p.celdas
  tope : p.tope ≤ (F.bytes m).length
  tamanio : (F.bytes m).length < 2 ^ 31
  cabeceras : p.EnMemoria base (F.bytes m)
  diccionario : HashTable.Represents m.estado.diccionarioVariables (p.nombres base (F.bytes m))

variable {F : UmvFiel E base} {m m' : Maquina σ} {p : Pila}

theorem UmvFiel.solicitar_ok {sol : SolicitudBytes} {data : List Byte} (hbase : sol.base = base)
    (h : m.solicitar E sol = (.ok data, m')) :
    m'.estado = m.estado ∧ F.bytes m' = F.bytes m ∧
      sol.offset.toNat + sol.tamanio.toNat ≤ (F.bytes m).length ∧
      data = ((F.bytes m).drop sol.offset.toNat).take sol.tamanio.toNat := by
  rw [Maquina.solicitar, Prod.mk.injEq] at h
  obtain ⟨hok, rfl⟩ := h
  exact ⟨rfl, F.solicitar _ _, F.leer _ _ _ hbase hok⟩

theorem UmvFiel.almacenar_ok {st : AlmacenarBytes} (hbase : st.base = base)
    (h : m.almacenar E st = (.ok (), m')) :
    m'.estado = m.estado ∧ st.offset.toNat + st.tamanio.toNat ≤ (F.bytes m).length ∧
      F.bytes m' = SegMem.overwrite (F.bytes m) st.offset.toNat st.tamanio.toNat st.buffer := by
  rw [Maquina.almacenar, Prod.mk.injEq] at h
  obtain ⟨hok, rfl⟩ := h
  exact ⟨rfl, F.escribir _ _ hbase hok⟩

/-! ### The dictionary loaded from the bytes -/

/-- The loop of `actualizarContexto` puts the variables in order. -/
theorem represents_cargarVariables {diccionario : HashTable.Table TPuntero}
    {log : List (ℕ × TPuntero)} (h : HashTable.Represents diccionario log) (inicio : TPuntero)
    (data : List Byte) (n : ℕ) :
    HashTable.Represents (cargarVariables diccionario inicio data (5 * n))
      (log ++ (List.range n).map fun k =>
        (codigo (data.getD (5 * k) 0#8), inicio + BitVec.ofNat 32 (5 * k + 1))) := by
  have hn : (5 * n + 4) / 5 = n := by omega
  rw [cargarVariables, hn]
  clear hn
  induction n with
  | zero => simpa using h
  | succ n ih =>
      rw [List.range_succ, List.foldl_append, List.map_append, ← List.append_assoc]
      exact ih.put _

/-- The variables of a context, from a slice of the stack. -/
theorem nombres_eq_slice (p : Pila) (bs : List Byte) :
    p.nombres base bs = (List.range p.celdas).map fun k =>
      (codigo (((bs.drop p.inicio).take (5 * p.celdas)).getD (5 * k) 0#8),
        base + BitVec.ofNat 32 p.inicio + BitVec.ofNat 32 (5 * k + 1)) := by
  refine List.map_congr_left fun k hk => ?_
  have hk := List.mem_range.1 hk
  rw [List.getD_eq_getElem?_getD, List.getD_eq_getElem?_getD,
    List.getElem?_take_of_lt (by omega), List.getElem?_drop, BitVec.add_assoc, ← BitVec.ofNat_add,
    Nat.add_assoc]

/-- `int` division by five of the bytes of the variables. -/
theorem sdiv_cinco {n : ℕ} (h : 5 * n < 2 ^ 31) :
    (BitVec.ofNat 32 (5 * n)).sdiv 5#32 = BitVec.ofNat 32 n := by
  have hn : (BitVec.ofNat 32 (5 * n)).toNat = 5 * n := by
    rw [BitVec.toNat_ofNat, Nat.mod_eq_of_lt (by omega)]
  have hmsb : (BitVec.ofNat 32 (5 * n)).msb = false := by
    rw [BitVec.msb_eq_false_iff_two_mul_lt, hn]
    omega
  have h5 : (5#32).msb = false := by decide
  rw [BitVec.sdiv_eq, hmsb, h5]
  refine BitVec.eq_of_toNat_eq ?_
  change ((BitVec.ofNat 32 (5 * n)) / 5#32).toNat = _
  have hcinco : (5#32).toNat = 5 := rfl
  rw [BitVec.toNat_udiv, hn, hcinco, BitVec.toNat_ofNat]
  omega

/-- **Loading the context leaves the CPU and the bytes in agreement with the stack**, when the
cursor and the start of the context are right. -/
theorem actualizarContexto_pila (hseg : m.estado.pcb.segmentoStack = base)
    (hcursor : m.estado.pcb.cursorStack = base + BitVec.ofNat 32 p.tope)
    (hinicio : m.estado.inicioContexto = base + BitVec.ofNat 32 p.inicio)
    (htope : p.tope ≤ (F.bytes m).length) (htam : (F.bytes m).length < 2 ^ 31)
    (hcab : p.EnMemoria base (F.bytes m))
    (hdic : 0 < m.estado.diccionarioVariables.maxSize)
    (herr : (actualizarContexto E m).errores = m.errores) :
    PilaBien F (actualizarContexto E m) p ∧ F.bytes (actualizarContexto E m) = F.bytes m ∧
      (actualizarContexto E m).estado.pcb =
        { m.estado.pcb with tamanioContexto := BitVec.ofNat 32 p.celdas } ∧
      (actualizarContexto E m).estado.estadoRafaga = m.estado.estadoRafaga := by
  have heq := p.tope_eq
  have hdes : m.estado.pcb.cursorStack - m.estado.inicioContexto =
      BitVec.ofNat 32 (5 * p.celdas) := by
    rw [hcursor, hinicio, heq]
    bv_omega
  have hoffset : m.estado.inicioContexto - base = BitVec.ofNat 32 p.inicio := by
    rw [hinicio]
    bv_omega
  have hsdiv := sdiv_cinco (n := p.celdas) (by omega)
  have hcinco : BitVec.ofNat 32 p.celdas * 5#32 = BitVec.ofNat 32 (5 * p.celdas) := by
    refine BitVec.eq_of_toNat_eq ?_
    rw [BitVec.toNat_mul, BitVec.toNat_ofNat, BitVec.toNat_ofNat, BitVec.toNat_ofNat]
    omega
  have hinicioNat : (BitVec.ofNat 32 p.inicio).toNat = p.inicio := by
    rw [BitVec.toNat_ofNat, Nat.mod_eq_of_lt (by omega)]
  have hcincoNat : (BitVec.ofNat 32 (5 * p.celdas)).toNat = 5 * p.celdas := by
    rw [BitVec.toNat_ofNat, Nat.mod_eq_of_lt (by omega)]
  -- the code computes the number of variables, and asks for their bytes at the start of the context
  simp only [actualizarContexto, hdes, hsdiv, hseg, hoffset, hcinco] at herr ⊢
  revert herr
  split
  · next data m₁ h =>
      intro _
      obtain ⟨hest, hbytes, -, hdata⟩ := F.solicitar_ok rfl h
      change F.bytes m₁ = F.bytes m at hbytes
      change data = ((F.bytes m).drop _).take _ at hdata
      have hdic₁ : HashTable.Represents m₁.estado.diccionarioVariables [] := by
        rw [hest]
        exact HashTable.represents_empty hdic
      have hcarga :=
        represents_cargarVariables hdic₁ (base + BitVec.ofNat 32 p.inicio) data p.celdas
      rw [List.nil_append] at hcarga
      rw [hinicioNat, hcincoNat] at hdata
      refine ⟨⟨?_, ?_, ?_, ?_, ?_, ?_, ?_⟩, hbytes, ?_, ?_⟩
      · exact congrArg (·.pcb.segmentoStack) hest
      · exact (congrArg (·.pcb.cursorStack) hest).trans hcursor
      · exact congrArg (·.pcb.tamanioContexto) hest
      · change p.tope ≤ (F.bytes m₁).length
        rw [hbytes]
        exact htope
      · change (F.bytes m₁).length < 2 ^ 31
        rw [hbytes]
        exact htam
      · change p.EnMemoria base (F.bytes m₁)
        rw [hbytes]
        exact hcab
      · change HashTable.Represents (cargarVariables m₁.estado.diccionarioVariables _ data _)
          (p.nombres base (F.bytes m₁))
        rw [hbytes, nombres_eq_slice, ← hdata, hcincoNat]
        exact hcarga
      · exact congrArg (·.pcb) hest
      · exact congrArg (·.estadoRafaga) hest
  · next texto m₁ h =>
      intro herr
      exact (errores_solicitar_ne h herr).elim

end Ansisop.Cpu
