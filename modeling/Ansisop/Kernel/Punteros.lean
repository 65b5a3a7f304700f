/-
**The addresses of the areas in a PCB.**

`conectarUMV` writes into the PCB of a program the logical address of the segment of each area.  An
area of size zero has no segment, and the mark 1 is written instead, always into the field of the
index of labels.  The fields of the PCB are not set before.

Main definitions:

* `Ansisop.Kernel.creada` — the segments that are created for the areas, with their logical
  addresses;
* `Ansisop.Kernel.Punteros` — what is asked for;
* `Ansisop.Kernel.trasAreas` — the PCB after some turns of the loop.

Main results:

* `Ansisop.Kernel.punteros_iff` — **each field has what is of its area exactly if** there are
  instructions and a stack, but for what the fields happened to have before.
-/

import Ansisop.Lib.Historia
import Ansisop.Kernel.Alojado

set_option relaxedAutoImplicit false
set_option autoImplicit false

namespace Ansisop.Kernel

open Umv (Bloque)

/-! ### The fields and the segments -/

/-- The field of the PCB for an area. -/
def puntero (pcb : Pcb) : ℕ → TPuntero
  | 0 => pcb.segmentoCodigo
  | 1 => pcb.indiceCodigo
  | 2 => pcb.indiceEtiqueta
  | _ => pcb.segmentoStack

/-- The area for which a segment is created, and its logical address. -/
def creadaCon : LocGuardar → Option Umv.Respuesta → List (ℕ × TPuntero)
  | .crea i, some (.segmentoCreado dirLogica) => [(i, dirLogica)]
  | _, _ => []

/-- **The segment that a step creates** for an area of the attempt. -/
def creada (v : Admision) : Intento → List (ℕ × TPuntero)
  | .propio e => creadaCon v.loc e.respuesta
  | _ => []

/-- An attempt, with the segments that were created for its areas. -/
abbrev PasoCreado (B : Bloque) (prog : Prog) (stack : U32) (programa : Programa) (h h' : ℕ) :
    Admision × List (ℕ × TPuntero) → Intento → Admision × List (ℕ × TPuntero) → Prop :=
  Lts.anotado (fun v e creadas => creadas ++ creada v e) (PasoAdmision B prog stack programa h h')

/-- **What is asked for** of the PCB of a program: the field of an area that is not empty has the
address of the one segment that was created for the area, and that of an empty area has the mark. -/
structure Punteros (prog : Prog) (stack : U32) (creadas : List (ℕ × TPuntero)) (pcb : Pcb) :
    Prop where
  segmento : ∀ i < 4, arrayDeTamano prog stack i ≠ 0#32 →
    ∀ dirLogica, (i, dirLogica) ∈ creadas ↔ dirLogica = puntero pcb i
  cursor : arrayDeTamano prog stack 3 ≠ 0#32 → pcb.cursorStack = pcb.segmentoStack
  vacia : ∀ i < 4, arrayDeTamano prog stack i = 0#32 → puntero pcb i = 1#32

/-! ### The loop -/

/-- The segments of the areas before a given one. -/
def creadasHasta (prog : Prog) (stack : U32) (dir : ℕ → TPuntero) (i : ℕ) : List (ℕ × TPuntero) :=
  ((List.range i).filter fun j => decide (arrayDeTamano prog stack j ≠ 0#32)).map fun j =>
    (j, dir j)

/-- **The PCB after the turns of the loop** for the areas before a given one. -/
def trasAreas (prog : Prog) (stack : U32) (dir : ℕ → TPuntero) (pcb : Pcb) : ℕ → Pcb
  | 0 => pcb
  | i + 1 =>
      if arrayDeTamano prog stack i = 0#32 then
        { trasAreas prog stack dir pcb i with indiceEtiqueta := 1#32 }
      else asignarArea i (dir i) (trasAreas prog stack dir pcb i)

/-- What the attempt has created and written. -/
def LocGuardar.Escrito (prog : Prog) (stack : U32) (pcb₀ : Pcb) (creadas : List (ℕ × TPuntero))
    (pcb : Pcb) : LocGuardar → Prop
  | saluda rechazo => rechazo = true ∨ creadas = [] ∧ pcb = pcb₀
  | cambiaProceso rechazo => rechazo = true ∨ creadas = [] ∧ pcb = pcb₀
  | area i => i ≤ 4 ∧
      ∃ dir, creadas = creadasHasta prog stack dir i ∧ pcb = trasAreas prog stack dir pcb₀ i
  | crea i => i < 4 ∧ arrayDeTamano prog stack i ≠ 0#32 ∧
      ∃ dir, creadas = creadasHasta prog stack dir i ∧ pcb = trasAreas prog stack dir pcb₀ i
  | almacena i d => i < 4 ∧ arrayDeTamano prog stack i ≠ 0#32 ∧
      ∃ dir, dir i = d ∧ creadas = creadasHasta prog stack dir (i + 1) ∧
        pcb = trasAreas prog stack dir pcb₀ i
  | acepta => ∃ dir, creadas = creadasHasta prog stack dir 4 ∧ pcb = trasAreas prog stack dir pcb₀ 4
  | aceptado => ∃ dir, creadas = creadasHasta prog stack dir 4 ∧
      pcb = trasAreas prog stack dir pcb₀ 4
  | _ => True

variable {B : Bloque} {prog : Prog} {stack : U32} {programa : Programa} {h h' i : ℕ}
  {v v' : Admision} {e : Intento} {pcb pcb₀ : Pcb} {d : TPuntero} {dir : ℕ → TPuntero}
  {creadas : List (ℕ × TPuntero)}

theorem creadasHasta_vacia (hcero : arrayDeTamano prog stack i = 0#32) (dir : ℕ → TPuntero) :
    creadasHasta prog stack dir (i + 1) = creadasHasta prog stack dir i := by
  simp [creadasHasta, List.range_succ, List.filter_append, hcero]

theorem creadasHasta_succ (hno : arrayDeTamano prog stack i ≠ 0#32) (dir : ℕ → TPuntero) :
    creadasHasta prog stack dir (i + 1) = creadasHasta prog stack dir i ++ [(i, dir i)] := by
  simp [creadasHasta, List.range_succ, List.filter_append, hno]

@[simp] theorem mem_creadasHasta :
    (i, d) ∈ creadasHasta prog stack dir 4 ↔ i < 4 ∧ arrayDeTamano prog stack i ≠ 0#32 ∧
    d = dir i := by
  simp only [creadasHasta, List.mem_map, List.mem_filter, List.mem_range, decide_eq_true_iff,
    Prod.mk.injEq]
  constructor
  · rintro ⟨j, ⟨hj, hno⟩, rfl, rfl⟩
    exact ⟨hj, hno, rfl⟩
  · rintro ⟨hi, hno, rfl⟩
    exact ⟨i, ⟨hi, hno⟩, rfl, rfl⟩

/-- The segments of the areas before a given one do not depend on its address. -/
theorem creadasHasta_update (dir : ℕ → TPuntero) (d : TPuntero) :
    creadasHasta prog stack (Function.update dir i d) i = creadasHasta prog stack dir i := by
  refine List.map_congr_left fun j hj => ?_
  have hlt := List.mem_range.1 (List.mem_filter.1 hj).1
  rw [Function.update_of_ne hlt.ne]

theorem trasAreas_update {k : ℕ} (hk : k ≤ i) (dir : ℕ → TPuntero) (d : TPuntero) (pcb : Pcb) :
    trasAreas prog stack (Function.update dir i d) pcb k = trasAreas prog stack dir pcb k := by
  induction k with
  | zero => rfl
  | succ k ih => rw [trasAreas, trasAreas, ih (by omega), Function.update_of_ne (by omega)]

/-- **An answer of the UMV** keeps what the attempt has written. -/
theorem Escrito.respuesta {loc loc' : LocGuardar} {pcb' : Pcb} {r : Umv.Respuesta}
    (hloc : loc.Escrito prog stack pcb₀ creadas pcb)
    (htras : trasRespuestaUmv pcb loc r = some (loc', pcb')) :
    loc'.Escrito prog stack pcb₀ (creadas ++ creadaCon loc (some r)) pcb' := by
  cases loc with
  | saluda rechazo =>
      cases htras
      rw [creadaCon, List.append_nil]
      · exact hloc
      · intro i d h
        cases h
  | cambiaProceso rechazo =>
      cases htras
      cases rechazo with
      | true => trivial
      | false =>
          obtain ⟨rfl, rfl⟩ := hloc.resolve_left Bool.false_ne_true
          exact ⟨Nat.zero_le _, fun _ => 0#32, rfl, rfl⟩
  | crea i =>
      obtain ⟨hi, hno, dir, rfl, rfl⟩ := hloc
      cases r with
      | segmentoCreado d =>
          have hcreadas :
              creadasHasta prog stack dir i ++ creadaCon (.crea i) (some (.segmentoCreado d)) =
              creadasHasta prog stack (Function.update dir i d) (i + 1) := by
            rw [creadasHasta_succ hno, creadasHasta_update, Function.update_self]
            rfl
          have hpcb : trasAreas prog stack (Function.update dir i d) pcb₀ i =
              trasAreas prog stack dir pcb₀ i := trasAreas_update le_rfl dir d pcb₀
          rw [hcreadas]
          simp only [trasRespuestaUmv, Option.some.injEq] at htras
          split_ifs at htras with hi3
          · cases htras
            exact ⟨hi, hno, Function.update dir i d, Function.update_self _ _ _, rfl, hpcb.symm⟩
          · cases htras
            refine ⟨hi, Function.update dir i d, rfl, ?_⟩
            rw [trasAreas, if_neg hno, Function.update_self, hpcb]
      | memory_overload | segmentation_fault =>
          cases htras
          exact Or.inl rfl
      | _ => cases htras
  | almacena i d =>
      cases htras
      obtain ⟨hi, hno, dir, rfl, rfl, rfl⟩ := hloc
      refine ⟨hi, dir, by simp [creadaCon], ?_⟩
      rw [trasAreas, if_neg hno]
  | destruye =>
      cases htras
      trivial
  | _ => cases htras

/-- **A step of the attempt itself** keeps what it has written. -/
theorem Escrito.interno (hv : v.loc.Escrito prog stack pcb₀ creadas v.pcb)
    (hpaso : pasoInterno prog stack programa v = some v') :
    v'.loc.Escrito prog stack pcb₀ creadas v'.pcb := by
  rw [pasoInterno] at hpaso
  cases hloc : v.loc with
  | area i =>
      rw [hloc] at hpaso hv
      obtain ⟨hi, dir, rfl, hpcb⟩ := hv
      simp only at hpaso
      split_ifs at hpaso with hlt hcero
      · cases hpaso
        refine ⟨hlt, dir, (creadasHasta_vacia hcero dir).symm, ?_⟩
        rw [trasAreas, if_pos hcero, hpcb]
      · cases hpaso
        exact ⟨hlt, hcero, dir, rfl, hpcb⟩
      · cases hpaso
        obtain rfl : i = 4 := by omega
        exact ⟨dir, rfl, hpcb⟩
  | acepta =>
      rw [hloc] at hpaso hv
      obtain ⟨kernel, -, rfl⟩ := Option.map_eq_some_iff.1 hpaso
      exact hv
  | rechaza =>
      rw [hloc] at hpaso
      obtain ⟨kernel, -, rfl⟩ := Option.map_eq_some_iff.1 hpaso
      trivial
  | _ =>
      rw [hloc] at hpaso
      cases hpaso

/-- **A step** keeps what the attempt has written. -/
theorem Escrito.paso (hv : v.loc.Escrito prog stack pcb₀ creadas v.pcb)
    (hpaso : PasoAdmision B prog stack programa h h' v e v') :
    v'.loc.Escrito prog stack pcb₀ (creadas ++ creada v e) v'.pcb := by
  cases hpaso with
  | hilo | ajeno => simpa [creada] using hv
  | registro _ _ _ htras =>
      have hescrito := Escrito.respuesta hv htras
      have hnada : creadaCon v.loc (some .OK) = [] := by cases v.loc <;> rfl
      rwa [hnada] at hescrito
  | @propio _ _ _ e _ _ _ _ _ _ _ _ htras =>
      rw [creada]
      cases hr : e.respuesta with
      | none =>
          rw [hr] at htras
          cases htras
          have hnada : creadaCon v.loc none = [] := by cases v.loc <;> rfl
          rwa [hnada, List.append_nil]
      | some r =>
          rw [hr] at htras
          exact Escrito.respuesta hv htras
  | interno hinterno => simpa [creada] using Escrito.interno hv hinterno

/-! ### The PCB at the end -/

theorem arrayDeTamano_codigo (prog : Prog) (stack : U32) : arrayDeTamano prog stack 0 ≠ 0#32 := by
  intro hcero
  have h := congrArg BitVec.toNat hcero
  rw [arrayDeTamano, BitVec.toNat_ofNat, Nat.mod_eq_of_lt prog.archivo_lt] at h
  exact absurd h (Nat.succ_ne_zero _)

theorem arrayDeTamano_instrucciones (prog : Prog) (stack : U32) :
    arrayDeTamano prog stack 1 = 0#32 ↔ prog.instrucciones_serializado = [] := by
  have hlt := prog.instrucciones_lt
  have hnat : (arrayDeTamano prog stack 1).toNat = 8 * prog.instrucciones_serializado.length := by
    rw [arrayDeTamano, BitVec.toNat_mul, BitVec.toNat_ofNat, BitVec.toNat_ofNat,
      Nat.mod_eq_of_lt (a := prog.instrucciones_serializado.length) (by omega),
      Nat.mod_eq_of_lt (a := 8) (by omega), Nat.mod_eq_of_lt hlt]
  rw [← List.length_eq_zero_iff, ← BitVec.toNat_inj, hnat]
  exact ⟨fun h => by simpa using h, fun h => by simp [h]⟩

theorem arrayDeTamano_etiquetas (prog : Prog) (stack : U32) :
    arrayDeTamano prog stack 2 = 0#32 ↔ prog.etiquetas = [] := by
  rw [← List.length_eq_zero_iff, ← BitVec.toNat_inj, arrayDeTamano, Prog.tamanioEtiqueta,
    BitVec.toNat_ofNat, Nat.mod_eq_of_lt prog.etiquetas_lt]
  rfl

/-- **The fields at the end of the loop.**  An empty area leaves its own field as it was, but for
the index of labels; and an empty stack writes over the address of that index. -/
theorem puntero_trasAreas (prog : Prog) (stack : U32) (dir : ℕ → TPuntero) (pcb : Pcb) :
    puntero (trasAreas prog stack dir pcb 4) 0 = dir 0 ∧
    puntero (trasAreas prog stack dir pcb 4) 1 =
      (if arrayDeTamano prog stack 1 = 0#32 then pcb.indiceCodigo else dir 1) ∧
    puntero (trasAreas prog stack dir pcb 4) 2 =
      (if arrayDeTamano prog stack 2 = 0#32 ∨ stack = 0#32 then 1#32 else dir 2) ∧
    puntero (trasAreas prog stack dir pcb 4) 3 =
      (if stack = 0#32 then pcb.segmentoStack else dir 3) ∧
    (stack ≠ 0#32 → (trasAreas prog stack dir pcb 4).cursorStack =
      (trasAreas prog stack dir pcb 4).segmentoStack) := by
  have hcodigo := arrayDeTamano_codigo prog stack
  have hstack : arrayDeTamano prog stack 3 = stack := rfl
  rw [trasAreas, trasAreas, trasAreas, trasAreas, trasAreas, if_neg hcodigo, hstack]
  by_cases hpila : stack = 0#32
  · simp only [hpila, or_true, if_true]
    split_ifs <;> exact ⟨rfl, rfl, rfl, rfl, fun h => absurd rfl h⟩
  · simp only [if_neg hpila, or_iff_left hpila]
    split_ifs <;> exact ⟨rfl, rfl, rfl, rfl, fun _ => rfl⟩

/-- What the fields are, for the marks that they happened to have. -/
theorem punteros_trasAreas (prog : Prog) (stack : U32) (dir : ℕ → TPuntero) (pcb : Pcb) :
    Punteros prog stack (creadasHasta prog stack dir 4) (trasAreas prog stack dir pcb 4) ↔
      (prog.instrucciones_serializado ≠ [] ∨ pcb.indiceCodigo = 1#32) ∧
        (stack ≠ 0#32 ∨ pcb.segmentoStack = 1#32 ∧
          (prog.etiquetas = [] ∨ (2, 1#32) ∈ creadasHasta prog stack dir 4)) := by
  obtain ⟨hcero, huno, hdos, htres, hcursor⟩ := puntero_trasAreas prog stack dir pcb
  have hcodigo := arrayDeTamano_codigo prog stack
  have hstack : arrayDeTamano prog stack 3 = stack := rfl
  rw [Ne, ← arrayDeTamano_instrucciones prog stack, ← arrayDeTamano_etiquetas prog stack,
    mem_creadasHasta]
  constructor
  · rintro ⟨hsegmento, -, hvacia⟩
    refine ⟨?_, ?_⟩
    · by_cases h₁ : arrayDeTamano prog stack 1 = 0#32
      · have h := hvacia 1 (by omega) h₁
        rw [huno, if_pos h₁] at h
        exact Or.inr h
      · exact Or.inl h₁
    · by_cases h₃ : stack = 0#32
      · have h := hvacia 3 (by omega) h₃
        rw [htres, if_pos h₃] at h
        refine Or.inr ⟨h, ?_⟩
        by_cases h₂ : arrayDeTamano prog stack 2 = 0#32
        · exact Or.inl h₂
        · have hdir :=
            (hsegmento 2 (by omega) h₂ (dir 2)).1 (mem_creadasHasta.2 ⟨by omega, h₂, rfl⟩)
          rw [hdos, if_pos (Or.inr h₃)] at hdir
          exact Or.inr ⟨by omega, h₂, hdir.symm⟩
      · exact Or.inl h₃
  · rintro ⟨hinstrucciones, hpila⟩
    have hdireccion : ∀ i < 4, arrayDeTamano prog stack i ≠ 0#32 →
        puntero (trasAreas prog stack dir pcb 4) i = dir i := by
      intro i hi hno
      match i with
      | 0 => exact hcero
      | 1 => rw [huno, if_neg hno]
      | 2 =>
          rw [hdos]
          split_ifs with hvacia
          · obtain ⟨-, hlabels⟩ := hpila.resolve_left (not_not.2 (hvacia.resolve_left hno))
            exact (hlabels.resolve_left hno).2.2
          · rfl
      | 3 => rw [htres, if_neg (hstack ▸ hno)]
    refine ⟨fun i hi hno d => ?_, fun hno => hcursor hno, fun i hi hvacia => ?_⟩
    · rw [mem_creadasHasta, hdireccion i hi hno]
      exact ⟨fun h => h.2.2, fun h => ⟨hi, hno, h⟩⟩
    · match i with
      | 0 => exact absurd hvacia hcodigo
      | 1 => rw [huno, if_pos hvacia]; exact hinstrucciones.resolve_left (not_not.2 hvacia)
      | 2 => rw [hdos, if_pos (Or.inl hvacia)]
      | 3 => rw [htres, if_pos (hstack ▸ hvacia)]; exact (hpila.resolve_left (not_not.2 hvacia)).1

/-! ### Whole attempts -/

/-- The scheduler does not write a PCB. -/
theorem pcb_pasoPlp {c c' : Comun} {peso : Option ℤ} {l l' : LocPlp}
    (hpaso : pasoPlp c peso l = some (l', c')) : c'.pcb = c.pcb := by
  cases pasoPlp_avanza hpaso <;> rfl

/-- **The PCB of a program that was accepted** is the one that the attempt has written. -/
theorem pcb_aceptado (hpaso : PasoAdmision B prog stack programa h h' v e v')
    (hloc : v'.loc = .aceptado) : v'.kernel.comun.pcb programa = v'.pcb := by
  have hsigue {l : LocGuardar} (hl : l.termino = false) : l ≠ .aceptado := by
    rintro rfl
    cases hl
  cases hpaso with
  | hilo htermino | ajeno htermino => exact absurd hloc (hsigue htermino)
  | registro _ _ _ htras => exact absurd hloc (hsigue (trasRespuestaUmv_termino htras))
  | propio hp _ _ _ _ htras =>
      split at htras
      · cases htras
        exact absurd hloc (hsigue (pedidoDe_termino hp))
      · exact absurd hloc (hsigue (trasRespuestaUmv_termino htras))
  | interno hinterno =>
      rw [pasoInterno] at hinterno
      cases hv : v.loc with
      | acepta =>
          rw [hv] at hinterno
          obtain ⟨kernel, hkernel, rfl⟩ := Option.map_eq_some_iff.1 hinterno
          obtain ⟨r, hr, rfl⟩ := Option.map_eq_some_iff.1 hkernel
          show r.2.pcb programa = v.pcb
          rw [pcb_pasoPlp hr]
          exact Function.update_self _ _ _
      | area i =>
          simp only [hv] at hinterno
          split_ifs at hinterno <;> cases hinterno <;> cases hloc
      | rechaza =>
          rw [hv] at hinterno
          obtain ⟨kernel, -, rfl⟩ := Option.map_eq_some_iff.1 hinterno
          cases hloc
      | _ =>
          rw [hv] at hinterno
          cases hinterno

/-- **Each field has what is of its area exactly if** there are instructions and a stack, but for
what the fields happened to have before: when `conectarUMV` has returned 0 the field of an area that
is not empty has the address of its segment and that of an empty area the mark.  An accepted program
has this PCB. -/
theorem punteros_iff (B : Bloque) (prog : Prog) (stack : U32) (programa : Programa) (h h' : ℕ)
    {v₀ v : Admision} {tr : List Intento} {creadas : List (ℕ × TPuntero)}
    (hv₀ : Comienza B programa v₀)
    (hrun : Lts.Run (PasoCreado B prog stack programa h h') (v₀, []) tr (v, creadas))
    (hloc : v.loc.conectado = true) :
    (Punteros prog stack creadas v.pcb ↔
      (prog.instrucciones_serializado ≠ [] ∨ v₀.pcb.indiceCodigo = 1#32) ∧
        (stack ≠ 0#32 ∨ v₀.pcb.segmentoStack = 1#32 ∧
          (prog.etiquetas = [] ∨ (2, 1#32) ∈ creadas))) ∧
      (v.loc = .aceptado → v.kernel.comun.pcb programa = v.pcb) := by
  have hinv : v.loc.Escrito prog stack v₀.pcb creadas v.pcb ∧
      (v.loc = .aceptado → v.kernel.comun.pcb programa = v.pcb) := by
    refine hrun.invariant (I := fun p => p.1.loc.Escrito prog stack v₀.pcb p.2 p.1.pcb ∧
      (p.1.loc = .aceptado → p.1.kernel.comun.pcb programa = p.1.pcb)) ?_ ⟨?_, fun hloc => ?_⟩
    · rintro ⟨v, creadas⟩ e ⟨v', _⟩ hv ⟨hpaso, rfl⟩
      exact ⟨Escrito.paso hv.1 hpaso, pcb_aceptado hpaso⟩
    · rw [hv₀.loc]
      exact Or.inr ⟨rfl, rfl⟩
    · cases hv₀.loc.symm.trans hloc
  obtain ⟨hescrito, haceptado⟩ := hinv
  refine ⟨?_, haceptado⟩
  cases hl : v.loc with
  | acepta | aceptado =>
      rw [hl] at hescrito
      obtain ⟨dir, rfl, hpcb⟩ := hescrito
      rw [hpcb]
      exact punteros_trasAreas prog stack dir v₀.pcb
  | _ => exact absurd hloc (by simp [hl, LocGuardar.conectado])

open Umv (bloque16)

/-- The segment of the first program. -/
def segmentoVecino : Umv.TipoSegmento := ⟨1001#32, 4#32, 100#32, 0x1004#32⟩

/-- A program with one instruction. -/
def progUna : Prog := ⟨[97#8, 10#8], [(0#32, 2#32)], [], by decide, by decide, sinEtiquetas_lt⟩

/-- The tables when the code, the index of instructions and the stack of the program with one
instruction have their segments. -/
def tablaUna (i : ℕ) : List Umv.TipoSegmento :=
  if i < 3 then [⟨1002#32, 3#32, 500#32, 0x1000#32⟩, segmentoVecino,
    ⟨1002#32, 8#32, 501#32, 0x1008#32⟩].take (i + 1)
  else [⟨1002#32, 3#32, 500#32, 0x1000#32⟩, ⟨1002#32, 1#32, 502#32, 0x1003#32⟩, segmentoVecino,
    ⟨1002#32, 8#32, 501#32, 0x1008#32⟩]

/-- A program with one instruction and a stack of one byte is accepted, and its PCB has the three
addresses. -/
theorem punteros_progUna : ∃ (v : Admision) (creadas : List (ℕ × TPuntero)),
    v.loc = .aceptado ∧ Punteros progUna 1#32 creadas v.pcb := by
  obtain ⟨k, hplp, hcomienza⟩ := comienza_segundo
  have hcodigo : Entra bloque16 .FF [segmentoVecino] (pidDe 1) 3#32 500#32 (tablaUna 1) :=
    .de_ceros [500#32] (by decide) (by decide) rfl
  have hindice : Entra bloque16 .FF (tablaUna 1) (pidDe 1) 8#32 501#32 (tablaUna 2) :=
    .de_ceros [501#32] (by decide) (by decide) rfl
  have hstack : Entra bloque16 .FF (tablaUna 2) (pidDe 1) 1#32 502#32 (tablaUna 3) :=
    .de_ceros [502#32] (by decide) (by decide) rfl
  have hinicio := sinOtros_inicio bloque16 progUna 1#32 k ⟨.FF, fun _ => 0#8, [segmentoVecino]⟩
    (show pcbSegundo.pid = pidDe 1 from rfl)
  obtain ⟨_, h₀⟩ := sinOtros_area k (fun _ => 0#8) pcbSegundo (show 0 < 3 by decide)
    (show arrayDeTamano progUna 1#32 0 = 3#32 from rfl) hcodigo
  obtain ⟨_, h₁⟩ := sinOtros_area k _ _ (show 1 < 3 by decide)
    (show arrayDeTamano progUna 1#32 1 = 8#32 from rfl) hindice
  have h₂ := ((hinicio.trans h₀).trans h₁).trans
    (sinOtros_vacia bloque16 k 1 _ _ (show 2 < 4 by decide)
    (show arrayDeTamano progUna 1#32 2 = 0#32 from rfl))
  obtain ⟨_, h₃⟩ := sinOtros_stack progUna k _ _ hstack
  obtain ⟨_, _, h₄⟩ := sinOtros_fin bloque16 progUna 1#32 _ _ hplp
  obtain ⟨creadas, hrun⟩ :
    ∃ creadas, Lts.Run (PasoCreado bloque16 progUna 1#32 1 0 1) _ _ (_, creadas) :=
    ((h₂.trans h₃).trans h₄).of_restrict.anotar []
  exact ⟨_, creadas, rfl, (punteros_iff bloque16 progUna 1#32 1 0 1 hcomienza hrun rfl).1.2
    ⟨Or.inl (by decide), Or.inl (by decide)⟩⟩

/-- The tables when the code and the stack of a program without instructions have their segments. -/
def tablaComentario (i : ℕ) : List Umv.TipoSegmento :=
  [⟨1002#32, 4#32, 500#32, 0x1000#32⟩, segmentoVecino, ⟨1002#32, 4#32, 501#32, 0x1008#32⟩].take
    (i + 1)

/-- **A field is never set**: in the PCB of a program without instructions that was accepted, the
address of the index of instructions is what it was before. -/
theorem no_punteros : ∃ (v₀ v : Admision) (tr : List Intento) (creadas : List (ℕ × TPuntero)),
    Comienza bloque16 1 v₀ ∧
    Lts.Run (PasoCreado bloque16 progComentario 4#32 1 0 1) (v₀, []) tr (v, creadas) ∧
    v.loc = .aceptado ∧
    v.pcb.indiceCodigo = v₀.pcb.indiceCodigo ∧ ¬Punteros progComentario 4#32 creadas v.pcb := by
  obtain ⟨k, hplp, hcomienza⟩ := comienza_segundo
  have hcodigo : Entra bloque16 .FF [segmentoVecino] (pidDe 1) 4#32 500#32 (tablaComentario 1) :=
    .de_ceros [500#32] (by decide) (by decide) rfl
  have hstack : Entra bloque16 .FF (tablaComentario 1) (pidDe 1) 4#32 501#32 (tablaComentario 2) :=
    .de_ceros [501#32] (by decide) (by decide) rfl
  have hinicio :=
    sinOtros_inicio bloque16 progComentario 4#32 k ⟨.FF, fun _ => 0#8, [segmentoVecino]⟩
    (show pcbSegundo.pid = pidDe 1 from rfl)
  obtain ⟨_, h₀⟩ := sinOtros_area k (fun _ => 0#8) pcbSegundo (show 0 < 3 by decide)
    (show arrayDeTamano progComentario 4#32 0 = 4#32 from rfl) hcodigo
  have h₁ := (hinicio.trans h₀).trans (sinOtros_vacia bloque16 k 1 _ _ (show 1 < 4 by decide)
    (show arrayDeTamano progComentario 4#32 1 = 0#32 from rfl))
  have h₂ := h₁.trans (sinOtros_vacia bloque16 k 1 _ _ (show 2 < 4 by decide)
    (show arrayDeTamano progComentario 4#32 2 = 0#32 from rfl))
  obtain ⟨_, h₃⟩ := sinOtros_stack progComentario k _ _ hstack
  obtain ⟨_, _, h₄⟩ := sinOtros_fin bloque16 progComentario 4#32 _ _ hplp
  obtain ⟨creadas, hrun⟩ : ∃ creadas,
      Lts.Run (PasoCreado bloque16 progComentario 4#32 1 0 1) _ _ (_, creadas) :=
    ((h₂.trans h₃).trans h₄).of_restrict.anotar []
  refine ⟨_, _, _, creadas, hcomienza, hrun, rfl, rfl, fun h => ?_⟩
  exact absurd (show 0#32 = 1#32 from h.vacia 1 (by decide) rfl) (by decide)

end Ansisop.Kernel
