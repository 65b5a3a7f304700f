/-
**The greatest common divisor.**

One of the scripts computes a greatest common divisor, with a multiplication by additions, a
comparison by counting to five hundred, and a remainder by multiples.  Each of its functions returns
what it should, for numbers up to five hundred, with any kernel and however the others have their
turns.

Main definitions:

* `Ansisop.Lenguaje.literalMcd` — the script;
* `Ansisop.Lenguaje.EsMcd` — a program with the functions of the script.

Main results:

* `Ansisop.Lenguaje.funcion_mult`, `Ansisop.Lenguaje.funcion_geq`, `Ansisop.Lenguaje.funcion_mod`,
  `Ansisop.Lenguaje.funcion_mcd` — **what each function returns**;
* `Ansisop.Lenguaje.mcd_vuelve` — **in any life the function returns the greatest common divisor**,
  and is never stuck before it does.
-/

import Ansisop.Lenguaje.Puesto
import Ansisop.Lenguaje.Reglas

set_option relaxedAutoImplicit false
set_option autoImplicit false

namespace Ansisop.Lenguaje

open Cpu (Nucleo Orden bytesDeTexto metadataBuscarEtiqueta)
open Kernel (Prog nuevoPrograma)
open LeadsTo (Leads)
open Relation (ReflTransGen)

/-! ### The script -/

/-- `mcd.ansisop`. -/
def literalMcd : Cadena where
  bytes := bytesDeTexto (['\n'].intercalate [
    ['#', '!', '/', 'u', 's', 'r', '/', 'b', 'i', 'n', '/', 'a', 'n', 's', 'i', 's', 'o', 'p', '/',
      'P', 'r', 'o', 'g', 'r', 'a', 'm', 'a'],
    [],
    ['f', 'u', 'n', 'c', 't', 'i', 'o', 'n', ' ', 'm', 'u', 'l', 't'],
    ['v', 'a', 'r', 'i', 'a', 'b', 'l', 'e', 's', ' ', 'i'],
    ['\t', 'i', '=', ' ', '0'],
    ['#', 'F', 'o', 'r', 'm', 'a', ' ', 'a', 's', 'q', 'u', 'e', 'r', 'o', 's', 'a', ' ', 'd', 'e',
      ' ', 's', 'i', ' ', 'e', 'l', ' ', 's', 'e', 'g', 'u', 'n', 'd', 'o', ' ', 'p', 'a', 'r',
      'a', 'm', 'e', 't', 'r', 'o', ' ', 'e', 's', ' ', '0', ' ', ':', 'D'],
    ['j', 'z', ' ', '$', '1', ' ', 'm', 'u', 'l', 't', '-', 'r', 'e', 't'],
    [':', 'm', 'u', 'l', 't', '-', 'l', 'o', 'o', 'p'],
    ['\t', '$', '1', ' ', '=', ' ', '$', '1', '-', '1'],
    ['\t', 'i', ' ', '=', ' ', '$', '0', ' ', '+', ' ', 'i'],
    ['\t', 'j', 'n', 'z', ' ', '$', '1', ' ', 'm', 'u', 'l', 't', '-', 'l', 'o', 'o', 'p'],
    [':', 'm', 'u', 'l', 't', '-', 'r', 'e', 't'],
    ['\t', 'r', 'e', 't', 'u', 'r', 'n', ' ', 'i'],
    ['e', 'n', 'd'],
    [],
    ['f', 'u', 'n', 'c', 't', 'i', 'o', 'n', ' ', 'g', 'e', 'q'],
    ['v', 'a', 'r', 'i', 'a', 'b', 'l', 'e', 's', ' ', 't'],
    ['#', 'L', 'i', 'm', 'i', 't', 'e', ' ', 'i', 'n', 'f', 'e', 'r', 'i', 'o', 'r'],
    ['\t', 't', '=', '0'],
    [':', 'g', 'e', 'q', '-', 'l', 'o', 'o', 'p'],
    ['\t', 't', '=', 't', '+', '1'],
    ['\t', 'j', 'z', ' ', 't', '+', '$', '0', '-', '$', '1', ' ', 'f', 'a', 'l', 's', 'e'],
    ['#', 'L', 'i', 'm', 'i', 't', 'e', ' ', 's', 'u', 'p', 'e', 'r', 'i', 'o', 'r'],
    ['\t', 'j', 'z', ' ', 't', '-', '5', '0', '0', ' ', 't', 'r', 'u', 'e'],
    ['\t', 'g', 'o', 't', 'o', ' ', 'g', 'e', 'q', '-', 'l', 'o', 'o', 'p'],
    ['e', 'n', 'd'],
    [],
    [],
    ['f', 'u', 'n', 'c', 't', 'i', 'o', 'n', ' ', 's', 'w', 'a', 'p'],
    ['v', 'a', 'r', 'i', 'a', 'b', 'l', 'e', 's', ' ', 'x'],
    ['\t', 'x', ' ', '=', ' ', '*', '$', '0'],
    ['\t', '*', '$', '0', ' ', '=', ' ', '*', '$', '1'],
    ['\t', '*', '$', '1', ' ', '=', ' ', 'x'],
    ['e', 'n', 'd'],
    [],
    ['f', 'u', 'n', 'c', 't', 'i', 'o', 'n', ' ', 'm', 'o', 'd'],
    ['v', 'a', 'r', 'i', 'a', 'b', 'l', 'e', 's', ' ', 'i', ',', ' ', 'a', ',', ' ', 't'],
    ['\t', 'a', '=', '1'],
    ['#', 'E', 'x', 'c', 'e', 'p', 'c', 'i', 'o', 'n', 'e', 's', ' ', 'e', 'n', ' ', 'A', 'n', 'S',
      'I', 'S', 'O', 'P'],
    ['\t', 'j', 'z', ' ', '$', '1', ' ', 'z', 'e', 'r', 'o', 'd', 'i', 'v'],
    [':', 'm', 'o', 'd', '-', 'l', 'o', 'o', 'p'],
    ['\t', 'i', ' ', '<', '-', ' ', 'm', 'u', 'l', 't', ' ', '$', '1', ',', 'a'],
    ['\t', 'a', '=', '1', '+', 'a'],
    ['\t', 't', '<', '-', 'g', 'e', 'q', ' ', 'i', ',', '$', '0'],
    ['\t', 'j', 'n', 'z', ' ', 't', ' ', 'r', 'e', 't', '-', 'm', 'o', 'd'],
    ['\t', 'g', 'o', 't', 'o', ' ', 'm', 'o', 'd', '-', 'l', 'o', 'o', 'p'],
    [':', 'r', 'e', 't', '-', 'm', 'o', 'd'],
    ['#', 'S', 'i', ' ', 's', 'o', 'n', ' ', 'i', 'g', 'u', 'a', 'l', 'e', 's', ',', ' ', 'e', 's',
      ' ', 'd', 'i', 'v', 'i', 's', 'i', 'b', 'l', 'e', ' ', '(', 'r', 'e', 't', 'u', 'r', 'n',
      ' ', '0', ')'],
    ['\t', 'j', 'z', ' ', 'i', '-', '$', '0', ' ', 'f', 'a', 'l', 's', 'e'],
    ['\t', 'r', 'e', 't', 'u', 'r', 'n', ' ', '$', '0', '-', 'i', '-', '$', '1'],
    ['e', 'n', 'd'],
    [],
    ['f', 'u', 'n', 'c', 't', 'i', 'o', 'n', ' ', 'm', 'c', 'd'],
    ['v', 'a', 'r', 'i', 'a', 'b', 'l', 'e', 's', ' ', 'r'],
    [],
    ['\t', '#', 'S', 'i', 'n', 'o', ' ', 'd', 'i', 'v', 'i', 'd', 'e', ' ', 'p', 'o', 'r', ' ', '0',
      ',', ' ', 'y', ' ', 'e', 's', 'o', ' ', 'e', 's', ' ', 'm', 'a', 'l', 'o'],
    ['\t', 'j', 'n', 'z', ' ', '$', '1', ' ', 'm', 'c', 'd', '-', 'l', 'o', 'o', 'p'],
    ['\t', 's', 'w', 'a', 'p', ' ', '&', '$', '0', ',', '&', '$', '1'],
    [],
    [':', 'm', 'c', 'd', '-', 'l', 'o', 'o', 'p'],
    ['\t', 'r', ' ', '<', '-', ' ', 'm', 'o', 'd', ' ', '$', '0', ',', '$', '1'],
    ['\t', '$', '0', ' ', '=', ' ', '$', '1'],
    ['\t', '$', '1', ' ', '=', ' ', 'r'],
    ['\t', 'j', 'n', 'z', ' ', 'r', ' ', 'm', 'c', 'd', '-', 'l', 'o', 'o', 'p'],
    ['\t', 'r', 'e', 't', 'u', 'r', 'n', ' ', '$', '0'],
    ['e', 'n', 'd'],
    [],
    [':', 'z', 'e', 'r', 'o', 'd', 'i', 'v'],
    ['\t', 'p', 'r', 'i', 'n', 't', 'T', 'e', 'x', 't', ' ', 'N', 'o', ' ', 's', 'e', ' ', 'p',
      'u', 'e', 'd', 'e', ' ', 'd', 'i', 'v', 'i', 'd', 'i', 'r', ' ', 'p', 'o', 'r', ' ', '0',
      '!', '!'],
    [':', 't', 'r', 'u', 'e'],
    ['\t', 'r', 'e', 't', 'u', 'r', 'n', ' ', '1'],
    [':', 'f', 'a', 'l', 's', 'e'],
    ['\t', 'r', 'e', 't', 'u', 'r', 'n', ' ', '0'],
    [],
    ['b', 'e', 'g', 'i', 'n'],
    ['v', 'a', 'r', 'i', 'a', 'b', 'l', 'e', 's', ' ', 'x', ',', 'y', ',', 'A'],
    ['\t', 'y', '=', '3', '2', '5'],
    ['\t', 'x', '=', '2', '6'],
    ['\t', 't', 'e', 'x', 't', 'P', 'r', 'i', 'n', 't', ' ', 'M', 'C', 'D', ' ', 'e', 'n', 't', 'r',
      'e'],
    ['\t', 'p', 'r', 'i', 'n', 't', ' ', 'x'],
    ['\t', 'p', 'r', 'i', 'n', 't', ' ', 'y'],
    ['\t', 't', 'e', 'x', 't', 'P', 'r', 'i', 'n', 't', ' ', 'e', 's'],
    ['\t', 'A', ' ', '<', '-', ' ', 'm', 'c', 'd', ' ', 'x', ',', 'y'],
    ['\t', 'p', 'r', 'i', 'n', 't', ' ', 'A'],
    ['e', 'n', 'd'],
    [],
    []])
  sinNul := by decide +kernel
  strlen_lt := by decide +kernel

@[irreducible] def progMcd : Prog := (nuevoPrograma literalMcd).get (by decide +kernel)

/-- The labels and the functions. -/
def palabraMult : Palabra := ⟨['m', 'u', 'l', 't'], by simp, List.all_eq_true.1 (by decide)⟩
def palabraGeq : Palabra := ⟨['g', 'e', 'q'], by simp, List.all_eq_true.1 (by decide)⟩
def palabraSwap : Palabra := ⟨['s', 'w', 'a', 'p'], by simp, List.all_eq_true.1 (by decide)⟩
def palabraMod : Palabra := ⟨['m', 'o', 'd'], by simp, List.all_eq_true.1 (by decide)⟩
def palabraMcd : Palabra := ⟨['m', 'c', 'd'], by simp, List.all_eq_true.1 (by decide)⟩
def palabraMultLoop : Palabra :=
  ⟨['m', 'u', 'l', 't', '-', 'l', 'o', 'o', 'p'], by simp, List.all_eq_true.1 (by decide)⟩
def palabraMultRet : Palabra :=
  ⟨['m', 'u', 'l', 't', '-', 'r', 'e', 't'], by simp, List.all_eq_true.1 (by decide)⟩
def palabraGeqLoop : Palabra :=
  ⟨['g', 'e', 'q', '-', 'l', 'o', 'o', 'p'], by simp, List.all_eq_true.1 (by decide)⟩
def palabraModLoop : Palabra :=
  ⟨['m', 'o', 'd', '-', 'l', 'o', 'o', 'p'], by simp, List.all_eq_true.1 (by decide)⟩
def palabraRetMod : Palabra :=
  ⟨['r', 'e', 't', '-', 'm', 'o', 'd'], by simp, List.all_eq_true.1 (by decide)⟩
def palabraMcdLoop : Palabra :=
  ⟨['m', 'c', 'd', '-', 'l', 'o', 'o', 'p'], by simp, List.all_eq_true.1 (by decide)⟩
def palabraZerodiv : Palabra :=
  ⟨['z', 'e', 'r', 'o', 'd', 'i', 'v'], by simp, List.all_eq_true.1 (by decide)⟩
def palabraTrue : Palabra := ⟨['t', 'r', 'u', 'e'], by simp, List.all_eq_true.1 (by decide)⟩
def palabraFalse : Palabra := ⟨['f', 'a', 'l', 's', 'e'], by simp, List.all_eq_true.1 (by decide)⟩

/-- The instructions that the labels and the functions are at. -/
def etiquetasMcd : List (Palabra × U32) :=
  [(palabraMult, 0#32), (palabraMultLoop, 3#32), (palabraMultRet, 6#32), (palabraGeq, 8#32),
    (palabraGeqLoop, 10#32), (palabraSwap, 15#32), (palabraMod, 20#32), (palabraModLoop, 23#32),
    (palabraRetMod, 28#32), (palabraMcd, 31#32), (palabraMcdLoop, 34#32), (palabraZerodiv, 40#32),
    (palabraTrue, 41#32), (palabraFalse, 42#32)]

/-- The operands. -/
def cero : Numero := cifra '0' rfl
def unidad : Numero := cifra '1' rfl
def quinientos : Numero := ⟨['5', '0', '0'], by simp, List.all_eq_true.1 (by decide)⟩
def letraA : Nombre := .letra ⟨'a', by decide⟩
def letraI : Nombre := .letra ⟨'i', by decide⟩
def letraR : Nombre := .letra ⟨'r', by decide⟩
def letraT : Nombre := .letra ⟨'t', by decide⟩
def letraX : Nombre := .letra ⟨'x', by decide⟩

/-- A variable and a number, as expressions. -/
def var (x : Nombre) : Expr := .atomo (.variable_ x)
def num (n : Numero) : Expr := .atomo (.numero n)

/-- The first two parameters. -/
def primero : Nombre := .parametro ⟨0, Nat.zero_lt_succ 9⟩
def segundo : Nombre := .parametro ⟨1, Nat.one_lt_succ_succ 8⟩

/-- The statements of the functions, but for the message of a division by zero. -/
def sentenciasMcd : List Sentencia :=
  [.definir [⟨'i', by decide⟩],
    .asignar letraI (num cero),
    .jz (var segundo) palabraMultRet,
    .asignar segundo (.menos (var segundo) (num unidad)),
    .asignar letraI (.mas (var primero) (var letraI)),
    .jnz (var segundo) palabraMultLoop,
    .retornar (var letraI),
    .fin,
    .definir [⟨'t', by decide⟩],
    .asignar letraT (num cero),
    .asignar letraT (.mas (var letraT) (num unidad)),
    .jz (.mas (var letraT) (.menos (var primero) (var segundo))) palabraFalse,
    .jz (.menos (var letraT) (num quinientos)) palabraTrue,
    .goto palabraGeqLoop,
    .fin,
    .definir [⟨'x', by decide⟩],
    .asignar letraX (.deref (var primero)),
    .asignarEn (var primero) (.deref (var segundo)),
    .asignarEn (var segundo) (var letraX),
    .fin,
    .definir [⟨'i', by decide⟩, ⟨'a', by decide⟩, ⟨'t', by decide⟩],
    .asignar letraA (num unidad),
    .jz (var segundo) palabraZerodiv,
    .llamarCon letraI palabraMult [var segundo, var letraA],
    .asignar letraA (.mas (num unidad) (var letraA)),
    .llamarCon letraT palabraGeq [var letraI, var primero],
    .jnz (var letraT) palabraRetMod,
    .goto palabraModLoop,
    .jz (.menos (var letraI) (var primero)) palabraFalse,
    .retornar (.menos (var primero) (.menos (var letraI) (var segundo))),
    .fin,
    .definir [⟨'r', by decide⟩],
    .jnz (var segundo) palabraMcdLoop,
    .llamar palabraSwap [.atomo (.direccion primero), .atomo (.direccion segundo)],
    .llamarCon letraR palabraMod [var primero, var segundo],
    .asignar primero (var segundo),
    .asignar segundo (var letraR),
    .jnz (var letraR) palabraMcdLoop,
    .retornar (var primero),
    .fin]

/-- The statements at the labels `true` and `false`, which every function jumps to. -/
def retornosMcd : List Sentencia := [.retornar (num unidad), .retornar (num cero)]

theorem sentencias_mcd :
    ∀ i < 40, sentenciaDe literalMcd (BitVec.ofNat 32 i) = sentenciasMcd[i]? := by
  decide +kernel

theorem retornos_mcd :
    ∀ i < 2, sentenciaDe literalMcd (BitVec.ofNat 32 (41 + i)) = retornosMcd[i]? := by
  decide +kernel

theorem etiquetas_mcd : ∀ x ∈ etiquetasMcd,
    metadataBuscarEtiqueta x.1.texto progMcd.etiquetas progMcd.tamanioEtiqueta = x.2 := by
  decide +kernel

/-- **A program with the functions of the script.** -/
structure EsMcd {κ : Type*} (P : Guion κ) : Prop where
  sentencia : ∀ i < 40, P.sentencia (BitVec.ofNat 32 i) = sentenciasMcd[i]?
  retorno : ∀ i < 2, P.sentencia (BitVec.ofNat 32 (41 + i)) = retornosMcd[i]?
  etiqueta : ∀ x ∈ etiquetasMcd, P.etiqueta x.1.texto = x.2
  stack : P.tamanioStack < 2 ^ 32

variable {κ : Type*} {P : Guion κ} {orden : Orden}

/-- The end of a function that says yes or no. -/
theorem EsMcd.lleva_retorno (hP : EsMcd P) {c : Contextos} {pc d : U32}
    {vars : List (Byte × U32)} (b : Bool) :
    Leads (P.programa orden) Calla (· = (c.escribir (if b then 1#32 else 0#32) (P.lugar d), pc))
      (.marco c pc (some d) vars, P.etiqueta (if b then palabraTrue else palabraFalse).texto) := by
  cases b with
  | true =>
      change Leads _ _ _ (_, P.etiqueta palabraTrue.texto)
      rw [hP.etiqueta (palabraTrue, 41#32) (by simp [etiquetasMcd])]
      exact lleva_retornar (fun _ _ h => h) ((hP.retorno 0 (by decide)).trans rfl) trivial
        rfl (.here rfl)
  | false =>
      change Leads _ _ _ (_, P.etiqueta palabraFalse.texto)
      rw [hP.etiqueta (palabraFalse, 42#32) (by simp [etiquetasMcd])]
      exact lleva_retornar (fun _ _ h => h) ((hP.retorno 1 (by decide)).trans rfl) trivial
        rfl (.here rfl)

/-! ### The multiplication -/

/-- The context of the multiplication. -/
def marcoMult (c : Contextos) (pc d a b i : U32) : Contextos :=
  .marco c pc (some d) [(primero.byte, a), (segundo.byte, b), (letraI.byte, i)]

/-- **The multiplication.**  In its loop, the sum and what is left to add are the product. -/
theorem funcion_mult (hP : EsMcd P) (a b : U32) :
    Funcion P orden Calla palabraMult [a, b] 27 (a * b) := by
  intro c pc d w _ hlugar
  have htope (a b i : U32) : (marcoMult c pc d a b i).pila.tope < 2 ^ 32 :=
    Nat.lt_of_le_of_lt hlugar hP.stack
  have hcalla (e e' : Ejecucion κ) (h : Calla e e') : Calla e e' := h
  have hret : Leads (P.programa orden) Calla (· = (c.escribir (a * b) (P.lugar d), pc))
      (marcoMult c pc d a 0#32 (a * b), 6#32) :=
    lleva_retornar hcalla ((hP.sentencia 6 (by decide)).trans rfl) trivial
      (valor_variable rfl (htope a 0#32 (a * b))) (.here rfl)
  rw [hP.etiqueta (palabraMult, 0#32) (by simp [etiquetasMcd])]
  refine lleva_definir hcalla ((hP.sentencia 0 (by decide)).trans rfl) hlugar
    fun nuevas hnuevas => ?_
  obtain ⟨v, resto, rfl, hresto⟩ := exists_of_map_fst hnuevas
  obtain rfl := List.map_eq_nil_iff.1 hresto
  change Leads _ _ _ (marcoMult c pc d a b v, 1#32)
  refine lleva_asignar hcalla ((hP.sentencia 1 (by decide)).trans rfl) trivial rfl rfl
    (htope a b v) ?_
  change Leads _ _ _ (marcoMult c pc d a b 0#32, 2#32)
  refine lleva_jz hcalla ((hP.sentencia 2 (by decide)).trans rfl) trivial
    (valor_variable rfl (htope a b 0#32))
    (fun hb => ?_) fun hb => ?_
  · change b = 0#32 at hb
    rw [hP.etiqueta (palabraMultRet, 6#32) (by simp [etiquetasMcd])]
    rwa [hb, BitVec.mul_zero] at hret ⊢
  · refine Leads.loop (I := fun y => ∃ b' i, y = (marcoMult c pc d a b' i, 3#32) ∧ b' ≠ 0#32 ∧
      i + a * b' = a * b) (fun y => ((y.1.valorDe segundo.byte).getD 0#32).toNat) ?_
      ⟨b, 0#32, rfl, hb, BitVec.zero_add _⟩
    rintro y ⟨b', i, rfl, hb', hi⟩
    refine lleva_asignar hcalla ((hP.sentencia 3 (by decide)).trans rfl) ⟨trivial, trivial⟩
      (valor_menos (valor_variable rfl (htope a b' i)) rfl) rfl (htope a b' i) ?_
    change Leads _ _ _ (marcoMult c pc d a (b' - 1#32) i, 4#32)
    have htope' := htope a (b' - 1#32) i
    refine lleva_asignar hcalla ((hP.sentencia 4 (by decide)).trans rfl) ⟨trivial, trivial⟩
      (valor_mas (valor_variable rfl htope') (valor_variable rfl htope')) rfl htope' ?_
    change Leads _ _ _ (marcoMult c pc d a (b' - 1#32) (a + i), 5#32)
    have hsuma : a + i + a * (b' - 1#32) = a * b := by
      rw [← hi, show b' - 1#32 = b' - 1 from rfl]
      ring
    refine lleva_jnz hcalla ((hP.sentencia 5 (by decide)).trans rfl) trivial
      (valor_variable rfl (htope a (b' - 1#32) (a + i))) (fun hno => ?_) fun hcero => ?_
    · rw [hP.etiqueta (palabraMultLoop, 3#32) (by simp [etiquetasMcd])]
      refine .here (Or.inr ⟨⟨_, _, rfl, hno, hsuma⟩, ?_⟩)
      change (b' - 1#32).toNat < b'.toNat
      bv_omega
    · change b' - 1#32 = 0#32 at hcero
      rw [hcero, BitVec.mul_zero, BitVec.add_zero] at hsuma
      rw [hcero, hsuma]
      exact hret.mono fun _ hy => Or.inl hy

/-! ### The comparison -/

/-- The context of the comparison. -/
def marcoGeq (c : Contextos) (pc d a b t : U32) : Contextos :=
  .marco c pc (some d) [(primero.byte, a), (segundo.byte, b), (letraT.byte, t)]

/-- `geq` says no when the second number is greater, by five hundred at most. -/
def esGeq (a b : U32) : Bool := !decide (1 ≤ (b - a).toNat ∧ (b - a).toNat ≤ 500)

/-- Numbers that are not too far apart are compared. -/
theorem esGeq_ofNat {m x : ℕ} (hx : x ≤ 500) (hm : m ≤ 1000) :
    esGeq (BitVec.ofNat 32 m) (BitVec.ofNat 32 x) = decide (x ≤ m) := by
  have hdif : (BitVec.ofNat 32 x - BitVec.ofNat 32 m).toNat =
      if m ≤ x then x - m else 2 ^ 32 - (m - x) := by
    rw [BitVec.toNat_sub, BitVec.toNat_ofNat, BitVec.toNat_ofNat]
    split <;> omega
  rw [esGeq, hdif, ← decide_not, decide_eq_decide]
  split <;> omega

/-- **The comparison.**  Its loop counts, and has not yet counted the difference. -/
theorem funcion_geq (hP : EsMcd P) (a b : U32) :
    Funcion P orden Calla palabraGeq [a, b] 27 (if esGeq a b then 1#32 else 0#32) := by
  intro c pc d w _ hlugar
  have htope (t : U32) : (marcoGeq c pc d a b t).pila.tope < 2 ^ 32 :=
    Nat.lt_of_le_of_lt hlugar hP.stack
  have hcalla (e e' : Ejecucion κ) (h : Calla e e') : Calla e e' := h
  rw [hP.etiqueta (palabraGeq, 8#32) (by simp [etiquetasMcd])]
  refine lleva_definir hcalla ((hP.sentencia 8 (by decide)).trans rfl) hlugar
    fun nuevas hnuevas => ?_
  obtain ⟨v, resto, rfl, hresto⟩ := exists_of_map_fst hnuevas
  obtain rfl := List.map_eq_nil_iff.1 hresto
  change Leads _ _ _ (marcoGeq c pc d a b v, 9#32)
  refine lleva_asignar hcalla ((hP.sentencia 9 (by decide)).trans rfl) trivial rfl rfl (htope v) ?_
  change Leads _ _ _ (marcoGeq c pc d a b 0#32, 10#32)
  refine Leads.loop (I := fun y => ∃ t, y = (marcoGeq c pc d a b t, 10#32) ∧ t.toNat < 500 ∧
    ¬(1 ≤ (b - a).toNat ∧ (b - a).toNat ≤ t.toNat))
    (fun y => 500 - ((y.1.valorDe letraT.byte).getD 0#32).toNat) ?_
    ⟨0#32, rfl, by decide, fun h => absurd (Nat.le_trans h.1 h.2) (by decide)⟩
  rintro y ⟨t, rfl, ht, hno⟩
  have hsuma : (t + 1#32).toNat = t.toNat + 1 := by bv_omega
  refine lleva_asignar hcalla ((hP.sentencia 10 (by decide)).trans rfl) ⟨trivial, trivial⟩
    (valor_mas (valor_variable rfl (htope t)) rfl) rfl (htope t) ?_
  change Leads _ _ _ (marcoGeq c pc d a b (t + 1#32), 11#32)
  have hvalor {x : Nombre} {u : U32}
      (h : (marcoGeq c pc d a b (t + 1#32)).valorDe x.byte = some u) :
      P.valor (marcoGeq c pc d a b (t + 1#32)) (var x) = some u :=
    valor_variable h (htope _)
  refine lleva_jz hcalla ((hP.sentencia 11 (by decide)).trans rfl) ⟨trivial, trivial, trivial⟩
    (valor_mas (hvalor rfl) (valor_menos (hvalor rfl) (hvalor rfl))) (fun hcero => ?_)
      fun hcero => ?_
  · change t + 1#32 + (a - b) = 0#32 at hcero
    have hgeq : esGeq a b = false := by
      rw [esGeq, decide_eq_true (by bv_omega), Bool.not_true]
    refine (hP.lleva_retorno false).mono fun y hy => Or.inl ?_
    rw [hy, hgeq]
  · change t + 1#32 + (a - b) ≠ 0#32 at hcero
    have hdif : (b - a).toNat ≠ t.toNat + 1 := by bv_omega
    refine lleva_jz hcalla ((hP.sentencia 12 (by decide)).trans rfl) ⟨trivial, trivial⟩
      (valor_menos (hvalor rfl) rfl) (fun hlimite => ?_) fun hlimite => ?_
    · change t + 1#32 - 500#32 = 0#32 at hlimite
      have hgeq : esGeq a b = true := by
        rw [esGeq, decide_eq_false (by bv_omega), Bool.not_false]
      refine (hP.lleva_retorno true).mono fun y hy => Or.inl ?_
      rw [hy, hgeq]
    · change t + 1#32 - 500#32 ≠ 0#32 at hlimite
      refine lleva_goto hcalla ((hP.sentencia 13 (by decide)).trans rfl) ?_
      rw [hP.etiqueta (palabraGeqLoop, 10#32) (by simp [etiquetasMcd])]
      refine .here (Or.inr ⟨⟨_, rfl, by bv_omega, by omega⟩, ?_⟩)
      change 500 - (t + 1#32).toNat < 500 - t.toNat
      omega

/-! ### The exchange -/

/-- A place of the callers is read and written under the current context. -/
theorem leer_marco {c : Contextos} {pc : U32} {donde : Option TPuntero}
    {vars : List (Byte × U32)} {i : ℕ} {v : U32} (h : c.leer i = some v) :
    (Contextos.marco c pc donde vars).leer i = some v := by
  have hlt := (Contextos.leer_isSome_iff.1 (Option.isSome_iff_exists.2 ⟨_, h⟩)).lt
  rw [Contextos.leer, if_pos (by omega), h]

theorem escribir_marco {c : Contextos} {pc : U32} {donde : Option TPuntero}
    {vars : List (Byte × U32)} {i : ℕ} {v : U32} (h : c.leer i = some v) (w : U32) :
    (Contextos.marco c pc donde vars).escribir w i = .marco (c.escribir w i) pc donde vars := by
  have hlt := (Contextos.leer_isSome_iff.1 (Option.isSome_iff_exists.2 ⟨_, h⟩)).lt
  rw [Contextos.escribir, if_pos (by omega)]

/-- The context of the exchange. -/
def marcoSwap (c : Contextos) (pc p q x : U32) : Contextos :=
  .marco c pc none [(primero.byte, p), (segundo.byte, q), (letraX.byte, x)]

/-- **The exchange** writes through both pointers. -/
theorem lleva_swap (hP : EsMcd P) {c : Contextos} {pc p q v w : U32}
    (hp : c.leer (P.lugar p) = some v) (hq : c.leer (P.lugar q) = some w)
    (hlugar : c.pila.tope + 23 ≤ P.tamanioStack) :
    Leads (P.programa orden) Calla (· = ((c.escribir w (P.lugar p)).escribir v (P.lugar q), pc))
      (.marco c pc none (parametros 0 [p, q]), P.etiqueta palabraSwap.texto) := by
  have htope (x : U32) : (marcoSwap c pc p q x).pila.tope < 2 ^ 32 :=
    Nat.lt_of_le_of_lt hlugar hP.stack
  have hcalla (e e' : Ejecucion κ) (h : Calla e e') : Calla e e' := h
  rw [hP.etiqueta (palabraSwap, 15#32) (by simp [etiquetasMcd])]
  refine lleva_definir hcalla ((hP.sentencia 15 (by decide)).trans rfl) hlugar
    fun nuevas hnuevas => ?_
  obtain ⟨u, resto, rfl, hresto⟩ := exists_of_map_fst hnuevas
  obtain rfl := List.map_eq_nil_iff.1 hresto
  change Leads _ _ _ (marcoSwap c pc p q u, 16#32)
  refine lleva_asignar hcalla ((hP.sentencia 16 (by decide)).trans rfl) trivial
    (valor_deref (valor_variable rfl (htope u)) (leer_marco hp)) rfl (htope u) ?_
  change Leads _ _ _ (marcoSwap c pc p q v, 17#32)
  refine lleva_asignarEn hcalla ((hP.sentencia 17 (by decide)).trans rfl) trivial trivial
    (valor_variable rfl (htope v)) (valor_deref (valor_variable rfl (htope v)) (leer_marco hq))
      (leer_marco hp) ?_
  rw [marcoSwap, escribir_marco hp]
  change Leads _ _ _ (marcoSwap (c.escribir w (P.lugar p)) pc p q v, 18#32)
  -- the second pointer may be the first one
  obtain ⟨w', hq'⟩ : ∃ w', (c.escribir w (P.lugar p)).leer (P.lugar q) = some w' := by
    rw [← Option.isSome_iff_exists, Contextos.leer_isSome_iff, Contextos.pila_escribir,
      ← Contextos.leer_isSome_iff, hq]
    rfl
  have htope' : (marcoSwap (c.escribir w (P.lugar p)) pc p q v).pila.tope < 2 ^ 32 := by
    rw [marcoSwap, Contextos.pila, Contextos.pila_escribir]
    exact htope v
  refine lleva_asignarEn hcalla ((hP.sentencia 18 (by decide)).trans rfl) trivial trivial
    (valor_variable rfl htope') (valor_variable rfl htope') (leer_marco hq') ?_
  rw [marcoSwap, escribir_marco hq']
  exact lleva_fin hcalla ((hP.sentencia 19 (by decide)).trans rfl) (.here rfl)

/-! ### The remainder -/

/-- The context of the remainder. -/
def marcoMod (c : Contextos) (pc d x y i a t : U32) : Contextos :=
  .marco c pc (some d)
    [(primero.byte, x), (segundo.byte, y), (letraI.byte, i), (letraA.byte, a), (letraT.byte, t)]

/-- **The remainder**, of numbers up to five hundred.  Its loop looks for the first multiple that is
not less, and all the multiples before the next one are. -/
theorem funcion_mod (hP : EsMcd P) {x y : ℕ} (hx : x ≤ 500) (hy : 0 < y) (hy' : y ≤ 500) :
    Funcion P orden Calla palabraMod [BitVec.ofNat 32 x, BitVec.ofNat 32 y] 64
    (BitVec.ofNat 32 (x % y)) := by
  intro c pc d w _ hlugar
  have htope (i a t : U32) :
      (marcoMod c pc d (BitVec.ofNat 32 x) (BitVec.ofNat 32 y) i a t).pila.tope + 27 ≤
      P.tamanioStack := hlugar
  have hlt (i a t : U32) :
      (marcoMod c pc d (BitVec.ofNat 32 x) (BitVec.ofNat 32 y) i a t).pila.tope < 2 ^ 32 :=
    Nat.lt_of_le_of_lt (Nat.le_of_add_right_le (htope i a t)) hP.stack
  have hcalla (e e' : Ejecucion κ) (h : Calla e e') : Calla e e' := h
  rw [hP.etiqueta (palabraMod, 20#32) (by simp [etiquetasMcd])]
  refine lleva_definir hcalla ((hP.sentencia 20 (by decide)).trans rfl) (by
    change c.pila.tope + 37 ≤ _
    omega) fun nuevas hnuevas => ?_
  obtain ⟨i, resto₁, rfl, hresto₁⟩ := exists_of_map_fst hnuevas
  obtain ⟨a, resto₂, rfl, hresto₂⟩ := exists_of_map_fst hresto₁
  obtain ⟨t, resto₃, rfl, hresto₃⟩ := exists_of_map_fst hresto₂
  obtain rfl := List.map_eq_nil_iff.1 hresto₃
  change Leads _ _ _ (marcoMod c pc d (BitVec.ofNat 32 x) (BitVec.ofNat 32 y) i a t, 21#32)
  refine lleva_asignar hcalla ((hP.sentencia 21 (by decide)).trans rfl) trivial rfl rfl
    (hlt i a t) ?_
  change Leads _ _ _ (marcoMod c pc d (BitVec.ofNat 32 x) (BitVec.ofNat 32 y) i 1#32 t, 22#32)
  refine lleva_jz hcalla ((hP.sentencia 22 (by decide)).trans rfl) trivial
    (valor_variable rfl (hlt i 1#32 t))
    (fun hcero => ?_) fun _ => ?_
  · change BitVec.ofNat 32 y = 0#32 at hcero
    bv_omega
  refine Leads.loop (I := fun z =>
    ∃ k i t, z = (marcoMod c pc d (BitVec.ofNat 32 x) (BitVec.ofNat 32 y) i
    (BitVec.ofNat 32 (k + 1)) t, 23#32) ∧ (k = 0 ∨ y * k < x))
    (fun z => x - ((z.1.valorDe letraA.byte).getD 0#32).toNat) ?_ ⟨0, i, t, rfl, Or.inl rfl⟩
  rintro z ⟨k, i, t, rfl, hk⟩
  have hmult : y * (k + 1) = y * k + y := Nat.mul_succ y k
  have hle' : y * k ≤ x := by
    rcases hk with rfl | hk
    · exact Nat.zero_le _
    · exact Nat.le_of_lt hk
  have hmil : y * (k + 1) ≤ 1000 := by omega
  -- the next multiple
  refine (funcion_mult hP _ _).lleva hcalla ((hP.sentencia 23 (by decide)).trans rfl)
    (.cons ⟨trivial, valor_variable rfl (hlt i _ t)⟩
      (.cons ⟨trivial, valor_variable rfl (hlt i _ t)⟩ .nil)) rfl
    hP.stack (show 12 + 5 * 2 ≤ 27 by decide) (htope i _ t) ?_
  rw [← BitVec.ofNat_mul]
  change Leads _ _ _
    (marcoMod c pc d (BitVec.ofNat 32 x) (BitVec.ofNat 32 y) (BitVec.ofNat 32 (y * (k + 1)))
    (BitVec.ofNat 32 (k + 1)) t, 24#32)
  refine lleva_asignar hcalla ((hP.sentencia 24 (by decide)).trans rfl) ⟨trivial, trivial⟩
    (valor_mas rfl (valor_variable rfl (hlt _ _ t))) rfl (hlt _ _ t) ?_
  have hsuma : 1#32 + BitVec.ofNat 32 (k + 1) = BitVec.ofNat 32 (k + 1 + 1) := by
    rw [BitVec.add_comm, ← BitVec.ofNat_add]
  change Leads _ _ _
    (marcoMod c pc d (BitVec.ofNat 32 x) (BitVec.ofNat 32 y) (BitVec.ofNat 32 (y * (k + 1)))
    (1#32 + BitVec.ofNat 32 (k + 1)) t, 25#32)
  rw [hsuma]
  -- is it the one that is looked for?
  refine (funcion_geq hP _ _).lleva hcalla ((hP.sentencia 25 (by decide)).trans rfl)
    (.cons ⟨trivial, valor_variable rfl (hlt _ _ t)⟩
      (.cons ⟨trivial, valor_variable rfl (hlt _ _ t)⟩ .nil)) rfl
    hP.stack (show 12 + 5 * 2 ≤ 27 by decide) (htope _ _ t) ?_
  rw [esGeq_ofNat hx hmil]
  change Leads _ _ _
    (marcoMod c pc d (BitVec.ofNat 32 x) (BitVec.ofNat 32 y) (BitVec.ofNat 32 (y * (k + 1)))
    (BitVec.ofNat 32 (k + 1 + 1)) (if decide (x ≤ y * (k + 1)) then 1#32 else 0#32), 26#32)
  refine lleva_jnz hcalla ((hP.sentencia 26 (by decide)).trans rfl) trivial
    (valor_variable rfl (hlt _ _ _))
    (fun hsale => ?_) fun hsigue => ?_
  · have hle : x ≤ y * (k + 1) := by
      by_contra hno
      exact hsale (if_neg (by simpa using hno))
    rw [hP.etiqueta (palabraRetMod, 28#32) (by simp [etiquetasMcd])]
    refine lleva_jz hcalla ((hP.sentencia 28 (by decide)).trans rfl) ⟨trivial, trivial⟩
      (valor_menos (valor_variable rfl (hlt _ _ _)) (valor_variable rfl (hlt _ _ _)))
        (fun hcero => ?_)
      fun hno => ?_
    · change BitVec.ofNat 32 (y * (k + 1)) - BitVec.ofNat 32 x = 0#32 at hcero
      have hmod : x % y = 0 := by
        rw [show x = y * (k + 1) by bv_omega, Nat.mul_mod_right]
      rw [hmod]
      exact (hP.lleva_retorno false).mono fun z hz => Or.inl hz
    · change BitVec.ofNat 32 (y * (k + 1)) - BitVec.ofNat 32 x ≠ 0#32 at hno
      have hne : x ≠ y * (k + 1) := fun heq => hno (by rw [← heq, BitVec.sub_self])
      have hmod : x % y = x - y * k := by
        rw [Nat.mod_eq_sub_mul_div, Nat.div_eq_of_lt_le (k := k) (by rw [Nat.mul_comm]; omega)
          (by rw [Nat.mul_comm]; omega)]
      refine lleva_retornar hcalla ((hP.sentencia 29 (by decide)).trans rfl)
        ⟨trivial, trivial, trivial⟩
        (valor_menos (valor_variable rfl (hlt _ _ _))
          (valor_menos (valor_variable rfl (hlt _ _ _)) (valor_variable rfl (hlt _ _ _))))
            (.here (Or.inl ?_))
      have hresto : BitVec.ofNat 32 x - (BitVec.ofNat 32 (y * (k + 1)) - BitVec.ofNat 32 y) =
          BitVec.ofNat 32 (x % y) := by
        rw [hmod, hmult, BitVec.ofNat_add, BitVec.add_sub_cancel,
          BitVec.ofNat_sub_ofNat_of_le _ _ (by omega) hle']
      rw [← hresto]
  · have hlt' : y * (k + 1) < x := by
      by_contra hno
      exact absurd hsigue (by simp [Nat.not_lt.1 hno])
    refine lleva_goto hcalla ((hP.sentencia 27 (by decide)).trans rfl) ?_
    rw [hP.etiqueta (palabraModLoop, 23#32) (by simp [etiquetasMcd])]
    refine .here (Or.inr ⟨⟨k + 1, _, _, rfl, Or.inr hlt'⟩, ?_⟩)
    change x - (BitVec.ofNat 32 (k + 1 + 1)).toNat < x - (BitVec.ofNat 32 (k + 1)).toNat
    have hk' : k + 1 ≤ y * (k + 1) := Nat.le_mul_of_pos_left _ hy
    rw [BitVec.toNat_ofNat, BitVec.toNat_ofNat]
    omega

/-! ### The greatest common divisor -/

/-- The context of the greatest common divisor. -/
def marcoMcd (c : Contextos) (pc d x y r : U32) : Contextos :=
  .marco c pc (some d) [(primero.byte, x), (segundo.byte, y), (letraR.byte, r)]

/-- **The loop of Euclid**: the divisor is that of both parameters, of which the second one is not
null. -/
theorem lleva_euclides (hP : EsMcd P) {c : Contextos} {pc d r : U32} {x y : ℕ}
    (hlugar : c.pila.tope + 91 ≤ P.tamanioStack) (hx : x ≤ 500) (hy : 0 < y) (hy' : y ≤ 500) :
    Leads (P.programa orden) Calla
    (· = (c.escribir (BitVec.ofNat 32 (Nat.gcd x y)) (P.lugar d), pc))
      (marcoMcd c pc d (BitVec.ofNat 32 x) (BitVec.ofNat 32 y) r, 34#32) := by
  have htope (x y r : U32) : (marcoMcd c pc d x y r).pila.tope + 64 ≤ P.tamanioStack := hlugar
  have hlt (x y r : U32) : (marcoMcd c pc d x y r).pila.tope < 2 ^ 32 :=
    Nat.lt_of_le_of_lt (Nat.le_of_add_right_le (htope x y r)) hP.stack
  have hcalla (e e' : Ejecucion κ) (h : Calla e e') : Calla e e' := h
  refine Leads.loop (I := fun z =>
    ∃ x' y' r, z = (marcoMcd c pc d (BitVec.ofNat 32 x') (BitVec.ofNat 32 y') r, 34#32) ∧ x' ≤ 500 ∧
      0 < y' ∧ y' ≤ 500 ∧ Nat.gcd x' y' = Nat.gcd x y)
    (fun z => ((z.1.valorDe segundo.byte).getD 0#32).toNat) ?_ ⟨x, y, r, rfl, hx, hy, hy', rfl⟩
  rintro z ⟨x', y', r, rfl, hx, hy, hy', hgcd⟩
  have hmenor : x' % y' < y' := Nat.mod_lt _ hy
  have hresto : Nat.gcd y' (x' % y') = Nat.gcd x y := by
    rw [← hgcd, Nat.gcd_comm y', ← Nat.gcd_rec, Nat.gcd_comm]
  refine (funcion_mod hP hx hy hy').lleva hcalla ((hP.sentencia 34 (by decide)).trans rfl)
    (.cons ⟨trivial, valor_variable rfl (hlt _ _ r)⟩
      (.cons ⟨trivial, valor_variable rfl (hlt _ _ r)⟩ .nil)) rfl
    hP.stack (show 12 + 5 * 2 ≤ 64 by decide) (htope _ _ r) ?_
  change Leads _ _ _
    (marcoMcd c pc d (BitVec.ofNat 32 x') (BitVec.ofNat 32 y') (BitVec.ofNat 32 (x' % y')), 35#32)
  refine lleva_asignar hcalla ((hP.sentencia 35 (by decide)).trans rfl) trivial
    (valor_variable rfl (hlt _ _ _))
    rfl (hlt _ _ _) ?_
  change Leads _ _ _
    (marcoMcd c pc d (BitVec.ofNat 32 y') (BitVec.ofNat 32 y') (BitVec.ofNat 32 (x' % y')), 36#32)
  refine lleva_asignar hcalla ((hP.sentencia 36 (by decide)).trans rfl) trivial
    (valor_variable rfl (hlt _ _ _))
    rfl (hlt _ _ _) ?_
  change Leads _ _ _
    (marcoMcd c pc d (BitVec.ofNat 32 y') (BitVec.ofNat 32 (x' % y')) (BitVec.ofNat 32 (x' % y')),
      37#32)
  refine lleva_jnz hcalla ((hP.sentencia 37 (by decide)).trans rfl) trivial
    (valor_variable rfl (hlt _ _ _))
    (fun hno => ?_) fun hcero => ?_
  · change BitVec.ofNat 32 (x' % y') ≠ 0#32 at hno
    have hpos : 0 < x' % y' := by
      rw [Nat.pos_iff_ne_zero]
      exact fun hcero => hno (by rw [hcero])
    rw [hP.etiqueta (palabraMcdLoop, 34#32) (by simp [etiquetasMcd])]
    refine .here (Or.inr ⟨⟨y', x' % y', _, rfl, hy', hpos, by omega, hresto⟩, ?_⟩)
    change (BitVec.ofNat 32 (x' % y')).toNat < (BitVec.ofNat 32 y').toNat
    rw [BitVec.toNat_ofNat, BitVec.toNat_ofNat]
    omega
  · change BitVec.ofNat 32 (x' % y') = 0#32 at hcero
    have hcero : x' % y' = 0 := by bv_omega
    rw [hcero, Nat.gcd_zero_right] at hresto
    refine lleva_retornar hcalla ((hP.sentencia 38 (by decide)).trans rfl) trivial
      (valor_variable rfl (hlt _ _ _)) (.here (Or.inl ?_))
    rw [← hresto]

/-- **The greatest common divisor**, of numbers up to five hundred that are not both null. -/
theorem funcion_mcd (hP : EsMcd P) {x y : ℕ} (hx : x ≤ 500) (hy : y ≤ 500) (hno : 0 < x + y) :
    Funcion P orden Calla palabraMcd [BitVec.ofNat 32 x, BitVec.ofNat 32 y] 91
      (BitVec.ofNat 32 (Nat.gcd x y)) := by
  intro c pc d w _ hlugar
  have htope (x y r : U32) : (marcoMcd c pc d x y r).pila.tope + 64 ≤ P.tamanioStack := hlugar
  have hlt (x y r : U32) : (marcoMcd c pc d x y r).pila.tope < 2 ^ 32 :=
    Nat.lt_of_le_of_lt (Nat.le_of_add_right_le (htope x y r)) hP.stack
  have hcalla (e e' : Ejecucion κ) (h : Calla e e') : Calla e e' := h
  rw [hP.etiqueta (palabraMcd, 31#32) (by simp [etiquetasMcd])]
  refine lleva_definir hcalla ((hP.sentencia 31 (by decide)).trans rfl) (by
    change c.pila.tope + 27 ≤ _
    omega) fun nuevas hnuevas => ?_
  obtain ⟨r, resto, rfl, hresto⟩ := exists_of_map_fst hnuevas
  obtain rfl := List.map_eq_nil_iff.1 hresto
  change Leads _ _ _ (marcoMcd c pc d (BitVec.ofNat 32 x) (BitVec.ofNat 32 y) r, 32#32)
  refine lleva_jnz hcalla ((hP.sentencia 32 (by decide)).trans rfl) trivial
    (valor_variable rfl (hlt _ _ r))
    (fun hsegundo => ?_) fun hcero => ?_
  · change BitVec.ofNat 32 y ≠ 0#32 at hsegundo
    have hpos : 0 < y := by
      rw [Nat.pos_iff_ne_zero]
      exact fun hcero => hsegundo (by rw [hcero])
    rw [hP.etiqueta (palabraMcdLoop, 34#32) (by simp [etiquetasMcd])]
    exact lleva_euclides hP hlugar hx hpos hy
  · change BitVec.ofNat 32 y = 0#32 at hcero
    obtain rfl : y = 0 := by bv_omega
    -- both parameters are exchanged, through their addresses
    obtain ⟨i, hi, hilt, hleer, hescribir⟩ := posicion_of_valorDe
      (c := marcoMcd c pc d (BitVec.ofNat 32 x) 0#32 r) (x := primero.byte) rfl 0#32
    obtain ⟨j, hj, hjlt, hleer', -⟩ := posicion_of_valorDe
      (c := marcoMcd c pc d (BitVec.ofNat 32 x) 0#32 r) (x := segundo.byte) rfl 0#32
    obtain ⟨j', hj', -, -, hescribir'⟩ := posicion_of_valorDe
      (c := marcoMcd c pc d 0#32 0#32 r) (x := segundo.byte) rfl (BitVec.ofNat 32 x)
    obtain rfl : j = j' := Option.some_inj.1 (hj.symm.trans hj')
    have hdir (n : ℕ) (hn : n + 4 ≤ (marcoMcd c pc d (BitVec.ofNat 32 x) 0#32 r).pila.tope) :
        P.lugar (P.dir n) = n :=
      lugar_dir (by have := hlt (BitVec.ofNat 32 x) 0#32 r; omega)
    refine lleva_llamar hcalla ((hP.sentencia 33 (by decide)).trans rfl)
      (.cons ⟨trivial, congrArg (Option.map P.dir) hi⟩
        (.cons ⟨trivial, congrArg (Option.map P.dir) hj⟩ .nil))
      hP.stack (by
        change c.pila.tope + 45 ≤ _
        omega) ?_
    refine (lleva_swap hP ((hdir i hilt).symm ▸ hleer) ((hdir j hjlt).symm ▸ hleer') (by
      change c.pila.tope + 50 ≤ _
      omega)).trans fun z hz => ?_
    rw [hz, hdir i hilt, hdir j hjlt, hescribir]
    change Leads _ _ _ ((marcoMcd c pc d 0#32 0#32 r).escribir (BitVec.ofNat 32 x) j, 34#32)
    rw [hescribir', Nat.gcd_comm]
    exact lleva_euclides hP hlugar (Nat.zero_le _) (by omega) hx

/-! ### In the script -/

/-- The program of the script has its functions. -/
theorem esMcd_deScript (K : Nucleo κ) {pcb : Pcb} (stack : U32)
    (htam : pcb.tamanioEtiqueta = progMcd.tamanioEtiqueta) :
    EsMcd (Guion.deScript K pcb stack literalMcd progMcd) where
  sentencia := fun i hi => by
    rw [Guion.deScript]
    exact sentencias_mcd i hi
  retorno := fun i hi => by
    rw [Guion.deScript]
    exact retornos_mcd i hi
  etiqueta := fun x hx => by
    rw [Guion.deScript, Guion.etiqueta, htam]
    exact etiquetas_mcd x hx
  stack := stack.isLt

/-- **The function `mcd` of the script returns the greatest common divisor** of two numbers up to
five hundred that are not both null, with any kernel, and wherever it is called from. -/
theorem mcd_vuelve (K : Nucleo κ) {pcb : Pcb} (stack : U32) (orden : Orden)
    (htam : pcb.tamanioEtiqueta = progMcd.tamanioEtiqueta) {x y : ℕ} (hx : x ≤ 500) (hy : y ≤ 500)
    (hno : 0 < x + y) {c : Contextos} {pc d w : U32} {e₀ : Ejecucion κ}
    (hleer : c.leer ((Guion.deScript K pcb stack literalMcd progMcd).lugar d) = some w)
    (hlugar : c.pila.tope + 91 ≤ stack.toNat)
    (hcontextos : e₀.contextos =
      .marco c pc (some d) (parametros 0 [BitVec.ofNat 32 x, BitVec.ofNat 32 y]))
    (hpc : e₀.programCounter = (Guion.deScript K pcb stack literalMcd progMcd).etiqueta
      palabraMcd.texto) :
    (Guion.deScript K pcb stack literalMcd progMcd).Vuelve orden e₀
      (c.escribir (BitVec.ofNat 32 (Nat.gcd x y))
        ((Guion.deScript K pcb stack literalMcd progMcd).lugar d))
      pc := by
  refine vuelve_of_leads ?_
  rw [hcontextos, hpc]
  exact funcion_mcd (esMcd_deScript K stack htam) hx hy hno c pc d w hleer hlugar

/-- The call of the script: of 26 and 325 it is 13. -/
theorem mcd_vuelve_trece :
    (Guion.deScript Cpu.nucleoContinuar { Kernel.pcbNulo with
      tamanioEtiqueta := progMcd.tamanioEtiqueta } 500#32
      literalMcd progMcd).Vuelve ⟨true, true⟩
      ⟨.marco (.base [(65#8, 0#32)]) 51#32 (some 1#32) (parametros 0 [26#32, 325#32]), 31#32,
        .notificarPorFinRafaga, [], ()⟩ (.base [(65#8, 13#32)]) 51#32 :=
  mcd_vuelve Cpu.nucleoContinuar 500#32 ⟨true, true⟩ rfl (show 26 ≤ 500 by decide)
    (show 325 ≤ 500 by decide)
    (by decide) (c := .base [(65#8, 0#32)]) (d := 1#32) (w := 0#32) rfl (by decide) rfl
    (etiquetas_mcd (palabraMcd, 31#32) (by simp [etiquetasMcd])).symm

end Ansisop.Lenguaje
