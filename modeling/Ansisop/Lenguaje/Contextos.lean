/-
**Contexts with names and values.**

To a program its stack is not bytes: it is a context in which each variable has a name and a value,
over the context of the caller, and so on.  A pointer is the place of a value, in any of the
contexts.  This module says what it is to define, read and write there, and when the bytes of the
stack hold such contexts.

Main definitions:

* `Ansisop.Lenguaje.Contextos` — contexts, with `posicion`, `leer`, `escribir` and `definir`;
* `Ansisop.Lenguaje.Contextos.EnBytes` — **the names and the values are in the bytes of the stack**.

Main results:

* `Ansisop.Lenguaje.Contextos.leer_isSome_iff` — the places that can be read are those of the
  values;
* `Ansisop.Lenguaje.Contextos.EnBytes.leer`, `Ansisop.Lenguaje.Contextos.EnBytes.escribir`,
  `Ansisop.Lenguaje.Contextos.EnBytes.definir` — reading and writing bytes is reading and writing
  values;
* `Ansisop.Lenguaje.Contextos.get_nombres` — a name is found in the dictionary where the context has
  it.
-/

import Ansisop.Cpu.Contextos

set_option relaxedAutoImplicit false
set_option autoImplicit false

namespace Ansisop.Lenguaje

open Cpu (Pila tamanioCabecera codigo)

/-- **Contexts**: the outermost one, or one over another, with the instruction to go back to, where
to return the result, if there is one, and its variables in order, each with its name and its
value. -/
inductive Contextos
  | base (vars : List (Byte × U32))
  | marco (llamador : Contextos) (programCounter : U32) (donde : Option TPuntero)
      (vars : List (Byte × U32))

/-- The variable of a context that has its value at a distance from the start of the context. -/
def celdaEn (distancia : ℕ) : Option ℕ :=
  if distancia % 5 = 1 then some (distancia / 5) else none

/-- The value at a distance from the start of a context. -/
def valorEn (vars : List (Byte × U32)) (distancia : ℕ) : Option U32 :=
  (celdaEn distancia).bind fun k => vars[k]?.map Prod.snd

/-- Another value at a distance from the start of a context. -/
def asignadaEn (vars : List (Byte × U32)) (valor : U32) (distancia : ℕ) : List (Byte × U32) :=
  match celdaEn distancia with
  | some k => vars.modify k fun x => (x.1, valor)
  | none => vars

theorem celdaEn_valor (k : ℕ) : celdaEn (5 * k + 1) = some k := by
  rw [celdaEn, if_pos (by omega)]
  congr 1
  omega

theorem celdaEn_eq_some {n k : ℕ} : celdaEn n = some k ↔ n = 5 * k + 1 := by
  rw [celdaEn]
  split
  · rw [Option.some_inj]
    omega
  · constructor
    · intro h
      cases h
    · omega

theorem valorEn_eq_some {vars : List (Byte × U32)} {n : ℕ} {v : U32} :
    valorEn vars n = some v ↔ ∃ k x, n = 5 * k + 1 ∧ vars[k]? = some x ∧ x.2 = v := by
  rw [valorEn, Option.bind_eq_some_iff]
  constructor
  · intro ⟨k, hk, hv⟩
    obtain ⟨x, hx, hxv⟩ := Option.map_eq_some_iff.1 hv
    exact ⟨k, x, celdaEn_eq_some.1 hk, hx, hxv⟩
  · intro ⟨k, x, hk, hx, hxv⟩
    exact ⟨k, celdaEn_eq_some.2 hk, Option.map_eq_some_iff.2 ⟨x, hx, hxv⟩⟩

theorem valorEn_isSome_iff {vars : List (Byte × U32)} {n : ℕ} :
    (valorEn vars n).isSome = true ↔ ∃ k < vars.length, n = 5 * k + 1 := by
  rw [Option.isSome_iff_exists]
  constructor
  · intro ⟨v, hv⟩
    obtain ⟨k, x, hk, hx, -⟩ := valorEn_eq_some.1 hv
    exact ⟨k, (List.getElem?_eq_some_iff.1 hx).1, hk⟩
  · intro ⟨k, hlt, hk⟩
    exact ⟨_, valorEn_eq_some.2 ⟨k, vars[k], hk, List.getElem?_eq_getElem hlt, rfl⟩⟩

@[simp] theorem length_asignadaEn (vars : List (Byte × U32)) (valor : U32) (n : ℕ) :
    (asignadaEn vars valor n).length = vars.length := by
  rw [asignadaEn]
  split
  · rw [List.length_modify]
  · rfl

namespace Contextos

/-- The shape of the stack. -/
def pila : Contextos → Pila
  | base vars => .base vars.length
  | marco c pc donde vars => .marco c.pila pc donde vars.length

/-- The variables of the current context. -/
def vars : Contextos → List (Byte × U32)
  | base vars => vars
  | marco _ _ _ vars => vars

/-- The same contexts, with other variables in the current one. -/
def conVars (vars : List (Byte × U32)) : Contextos → Contextos
  | base _ => base vars
  | marco c pc donde _ => marco c pc donde vars

/-- A new variable. -/
def definir (c : Contextos) (nombre : Byte) (valor : U32) : Contextos :=
  c.conVars (c.vars ++ [(nombre, valor)])

/-- Where the value of a variable of the current context is: that of the first one with the name. -/
def posicion (c : Contextos) (nombre : Byte) : Option ℕ :=
  (c.vars.findIdx? fun x => x.1 == nombre).map fun k => c.pila.inicio + 5 * k + 1

/-- The value at a place of the stack, of a variable of any context. -/
def leer : Contextos → ℕ → Option U32
  | base vars, i => valorEn vars i
  | marco c _ donde vars, i =>
      if i < c.pila.tope then c.leer i else valorEn vars (i - (c.pila.tope + tamanioCabecera donde))

/-- The value at a place of the stack is another one. -/
def escribir (valor : U32) : Contextos → ℕ → Contextos
  | base vars, i => base (asignadaEn vars valor i)
  | marco c pc donde vars, i =>
      if i < c.pila.tope then marco (c.escribir valor i) pc donde vars
      else marco c pc donde (asignadaEn vars valor (i - (c.pila.tope + tamanioCabecera donde)))

/-! ### The shape -/

variable {c : Contextos} {i : ℕ} {v : U32}

@[simp] theorem celdas_pila (c : Contextos) : c.pila.celdas = c.vars.length := by
  cases c <;> rfl

@[simp] theorem pila_definir (c : Contextos) (nombre : Byte) (valor : U32) :
    (c.definir nombre valor).pila = c.pila.conCelda := by
  cases c with
  | base vars => simp [definir, conVars, Contextos.vars, pila, Pila.conCelda]
  | marco c pc d vars => simp [definir, conVars, Contextos.vars, pila, Pila.conCelda]

@[simp] theorem pila_escribir (c : Contextos) (valor : U32) (i : ℕ) :
    (c.escribir valor i).pila = c.pila := by
  induction c with
  | base vars => simp [escribir, pila]
  | marco c pc d vars ih =>
      rw [escribir]
      split
      · rw [pila, ih, pila]
      · simp [pila]

/-- **The places that can be read are those of the values.** -/
theorem leer_isSome_iff : (c.leer i).isSome = true ↔ c.pila.EsCelda i := by
  induction c with
  | base vars => exact valorEn_isSome_iff
  | marco c pc d vars ih =>
      rw [leer, pila, Pila.EsCelda]
      split
      · next hlt =>
          rw [ih]
          constructor
          · exact Or.inl
          · rintro (h | ⟨k, -, hk⟩)
            · exact h
            · omega
      · next hge =>
          rw [valorEn_isSome_iff]
          constructor
          · intro ⟨k, hlt, hk⟩
            exact Or.inr ⟨k, hlt, by omega⟩
          · rintro (h | ⟨k, hlt, hk⟩)
            · have := h.lt
              omega
            · exact ⟨k, hlt, by omega⟩

/-! ### The bytes -/

/-- The variables of a context are in the bytes from a place on. -/
def VarsEn (bs : List Byte) (inicio : ℕ) (vars : List (Byte × U32)) : Prop :=
  ∀ k x, vars[k]? = some x →
    bs.getD (inicio + 5 * k) 0#8 = x.1 ∧ palabra bs (inicio + 5 * k + 1) = x.2

/-- **The names and the values are in the bytes of the stack.** -/
def EnBytes (bs : List Byte) : Contextos → Prop
  | base vars => VarsEn bs 0 vars
  | marco c _ donde vars => c.EnBytes bs ∧ VarsEn bs (c.pila.tope + tamanioCabecera donde) vars

variable {bs bs' : List Byte} {vars : List (Byte × U32)} {inicio : ℕ}

theorem EnBytes.current (h : c.EnBytes bs) : VarsEn bs c.pila.inicio c.vars := by
  cases c with
  | base vars => exact h
  | marco c pc d vars => exact h.2

theorem VarsEn.congr (h : VarsEn bs inicio vars)
    (hbs : ∀ i, inicio ≤ i → i < inicio + 5 * vars.length → bs'.getD i 0#8 = bs.getD i 0#8) :
    VarsEn bs' inicio vars := by
  intro k x hx
  have hlt := (List.getElem?_eq_some_iff.1 hx).1
  obtain ⟨hnombre, hvalor⟩ := h k x hx
  refine ⟨by rw [hbs _ (by omega) (by omega), hnombre], ?_⟩
  rw [← hvalor]
  exact palabra_congr fun i hi => hbs _ (by omega) (by omega)

/-- **The contexts depend on the bytes of the stack only.** -/
theorem EnBytes.congr (h : c.EnBytes bs) (hbs : ∀ i < c.pila.tope, bs'.getD i 0#8 = bs.getD i 0#8) :
    c.EnBytes bs' := by
  induction c with
  | base vars => exact VarsEn.congr h fun i _ hi => hbs i (by simp only [pila, Pila.tope]; omega)
  | marco c pc d vars ih =>
      refine ⟨ih h.1 fun i hi => hbs i ?_, h.2.congr fun i _ hi => hbs i ?_⟩
      · simp only [pila, Pila.tope]
        omega
      · simp only [pila, Pila.tope]
        omega

theorem VarsEn.valorEn {n : ℕ} (h : VarsEn bs inicio vars) (hv : valorEn vars n = some v) :
    palabra bs (inicio + n) = v := by
  obtain ⟨k, x, rfl, hx, rfl⟩ := valorEn_eq_some.1 hv
  rw [← (h k x hx).2]
  congr 1

/-- **A value is read in the bytes.** -/
theorem EnBytes.leer (h : c.EnBytes bs) (hv : c.leer i = some v) : palabra bs i = v := by
  induction c with
  | base vars =>
      have := VarsEn.valorEn h hv
      rwa [Nat.zero_add] at this
  | marco c pc d vars ih =>
      rw [Contextos.leer] at hv
      split at hv
      · exact ih h.1 hv
      · obtain ⟨k, x, hk, -, -⟩ := valorEn_eq_some.1 hv
        have := h.2.valorEn hv
        rwa [show c.pila.tope + tamanioCabecera d + (i - (c.pila.tope + tamanioCabecera d)) =
          i by omega]
          at this

/-- The word that was written. -/
theorem palabra_overwrite {off n : ℕ} (hle : off + 4 ≤ bs.length) (hn : 4 ≤ n) (valor : U32) :
    palabra (SegMem.overwrite bs off n (Words.byteAt valor)) off = valor := by
  conv_rhs => rw [← Words.ofBytes_byteAt valor]
  refine Words.ofBytes_congr fun i hi => ?_
  rw [SegMem.getD_overwrite, if_pos ⟨by omega, by omega, by omega⟩, Nat.add_sub_cancel_left]

/-- Writing one of the values of a context. -/
theorem VarsEn.asignadaEn {n : ℕ} (h : VarsEn bs inicio vars)
    (hn : (Lenguaje.valorEn vars n).isSome = true) (hle : inicio + n + 4 ≤ bs.length)
    (valor : U32) :
    VarsEn (SegMem.overwrite bs (inicio + n) 4 (Words.byteAt valor)) inicio
    (asignadaEn vars valor n) := by
  obtain ⟨j, hj, rfl⟩ := valorEn_isSome_iff.1 hn
  intro k x hx
  rw [Lenguaje.asignadaEn, celdaEn_valor] at hx
  simp only [List.getElem?_modify] at hx
  obtain ⟨y, hy, hxy⟩ := Option.map_eq_some_iff.1 hx
  obtain ⟨hnombre, hvalor⟩ := h k y hy
  have hfijo : (SegMem.overwrite bs (inicio + (5 * j + 1)) 4 (Words.byteAt valor)).getD
      (inicio + 5 * k) 0#8 =
      y.1 := by
    rw [SegMem.getD_overwrite, if_neg (by omega), hnombre]
  by_cases hkj : j = k
  · subst hkj
    rw [if_pos rfl] at hxy
    subst hxy
    refine ⟨hfijo, ?_⟩
    rw [Nat.add_assoc]
    exact palabra_overwrite (by omega) (Nat.le_refl _) valor
  · rw [if_neg hkj] at hxy
    subst hxy
    refine ⟨hfijo, ?_⟩
    rw [← hvalor]
    refine palabra_congr fun i hi => ?_
    rw [SegMem.getD_overwrite, if_neg (by omega)]

/-- **A value is written in the bytes**, and the other values and the names stay. -/
theorem EnBytes.escribir (h : c.EnBytes bs) (hi : c.pila.EsCelda i) (hle : c.pila.tope ≤ bs.length)
    (valor : U32) :
    (c.escribir valor i).EnBytes (SegMem.overwrite bs i 4 (Words.byteAt valor)) := by
  rw [← leer_isSome_iff] at hi
  induction c with
  | base vars =>
      have hlt := (leer_isSome_iff.1 hi).lt
      have := VarsEn.asignadaEn h hi (by omega) valor
      rwa [Nat.zero_add] at this
  | marco c pc d vars ih =>
      have hlt := (leer_isSome_iff.1 hi).lt
      rw [Contextos.leer] at hi
      simp only [pila, Pila.tope] at hle hlt
      rw [Contextos.escribir]
      split
      · next htope =>
          rw [if_pos htope] at hi
          have hcelda := (leer_isSome_iff.1 hi).lt
          refine ⟨ih h.1 hi (by omega), ?_⟩
          rw [pila_escribir]
          refine h.2.congr fun j hj _ => ?_
          rw [SegMem.getD_overwrite, if_neg (by omega)]
      · next htope =>
          rw [if_neg htope] at hi
          obtain ⟨k, hk, hik⟩ := valorEn_isSome_iff.1 hi
          have heq : c.pila.tope + tamanioCabecera d + (i - (c.pila.tope + tamanioCabecera d)) =
            i := by omega
          have := h.2.asignadaEn hi (by omega) valor
          rw [heq] at this
          refine ⟨h.1.congr fun j hj => ?_, this⟩
          rw [SegMem.getD_overwrite, if_neg (by omega)]

/-- **A variable is defined in the bytes over the stack.** -/
theorem EnBytes.definir (h : c.EnBytes bs) (hbs : ∀ i < c.pila.tope, bs'.getD i 0#8 = bs.getD i 0#8)
    {nombre : Byte} {valor : U32} (hnombre : bs'.getD c.pila.tope 0#8 = nombre)
    (hvalor : palabra bs' (c.pila.tope + 1) = valor) : (c.definir nombre valor).EnBytes bs' := by
  have h' := h.congr hbs
  have hvars : VarsEn bs' c.pila.inicio (c.vars ++ [(nombre, valor)]) := by
    intro k x hx
    rcases Nat.lt_or_ge k c.vars.length with hlt | hge
    · rw [List.getElem?_append_left hlt] at hx
      exact h'.current k x hx
    · rw [List.getElem?_append_right hge] at hx
      obtain ⟨hk, rfl⟩ := List.getElem?_eq_some_iff.1 hx
      rw [List.length_singleton] at hk
      obtain rfl : k = c.vars.length := by omega
      have htope := c.pila.tope_eq
      rw [celdas_pila] at htope
      rw [← htope]
      simpa using ⟨hnombre, hvalor⟩
  cases c with
  | base vars => exact hvars
  | marco c pc d vars => exact ⟨h'.1, hvars⟩

/-! ### The dictionary -/

/-- No two names have the same hash code. -/
theorem codigo_inj {a b : Byte} (h : codigo a = codigo b) : a = b := by
  have hnodup : ((List.range 256).map fun n => codigo (BitVec.ofNat 8 n)).Nodup := by decide +kernel
  have hbyte (x : Byte) : BitVec.ofNat 8 x.toNat = x := by simp
  have hmem (x : Byte) : x.toNat ∈ List.range 256 := List.mem_range.2 x.isLt
  have heq := List.inj_on_of_nodup_map hnodup (hmem a) (hmem b) (by rw [hbyte, hbyte, h])
  exact BitVec.eq_of_toNat_eq heq

/-- The place of a name in a list. -/
theorem findIdx?_eq_find?_range {α : Type*} (p : α → Bool) (xs : List α) (q : ℕ → Bool)
    (hq : ∀ k x, xs[k]? = some x → q k = p x) :
    xs.findIdx? p = (List.range xs.length).find? q := by
  have hq' (k : ℕ) (hk : k < xs.length) : q k = p xs[k] := hq k _ (List.getElem?_eq_getElem hk)
  cases hfind : xs.findIdx? p with
  | none =>
      symm
      rw [List.findIdx?_eq_none_iff] at hfind
      rw [List.find?_range_eq_none]
      intro k hk
      rw [hq' k hk, hfind _ (List.getElem_mem hk)]
      rfl
  | some i =>
      symm
      obtain ⟨hi, hpi, hlt⟩ := List.findIdx?_eq_some_iff_getElem.1 hfind
      rw [List.find?_range_eq_some]
      refine ⟨by rw [hq' i hi, hpi], List.mem_range.2 hi, fun j hj => ?_⟩
      rw [hq' j (by omega)]
      simpa using hlt j hj

/-- **A name is found in the dictionary where the context has it.** -/
theorem get_nombres {base : TPuntero} {diccionario : HashTable.Table TPuntero}
    (h : HashTable.Represents diccionario (c.pila.nombres base bs)) (hc : c.EnBytes bs)
    (nombre : Byte) :
    Cpu.dictionaryGet diccionario nombre =
      (c.posicion nombre).map fun i => base + BitVec.ofNat 32 i := by
  have hbyte (k : ℕ) (x : Byte × U32) (hx : c.vars[k]? = some x) :
      (codigo (bs.getD (c.pila.inicio + 5 * k) 0#8) == codigo nombre) = (x.1 == nombre) := by
    rw [(hc.current k x hx).1, Bool.eq_iff_iff, beq_iff_eq, beq_iff_eq]
    constructor
    · exact codigo_inj
    · intro hxn
      rw [hxn]
  rw [Cpu.dictionaryGet, h.get, Pila.nombres, List.find?_map, Option.map_map, posicion,
    Option.map_map, findIdx?_eq_find?_range (fun x => x.1 == nombre) c.vars _ hbyte, celdas_pila]
  rfl

end Contextos

end Ansisop.Lenguaje
