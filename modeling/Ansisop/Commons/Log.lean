/-
**The log.**

The processes put a text into a buffer of a fixed size with `sprintf`, and hand the buffer to the
log, which takes it for a format.  A text that does not fit is written over what comes after the
buffer, and a conversion in it looks for an argument that is not there: C leaves both undefined.

Main definitions:

* `Ansisop.Commons.sprintf`, `Ansisop.Commons.logWriteInLevel` — the two calls, when they are
  defined;
* `Ansisop.Commons.registrar` — a text that goes to the buffer and from there to the log;
* `Ansisop.Commons.Registrable` — it fits, and it has no conversion if it is printed.

Main results:

* `Ansisop.Commons.registrar_eq_some_iff` — **exactly when a text can be logged**.
-/

import Ansisop.Protocolo.Tipos

set_option relaxedAutoImplicit false
set_option autoImplicit false

namespace Ansisop.Commons

/-! ### The code -/

/-- `LOG_LEVEL_DEBUG`. -/
def logLevelDebug : ℕ := 1

/-- `LOG_LEVEL_INFO`. -/
def logLevelInfo : ℕ := 2

/-- `_isEnableLevelInLogger`, of a logger with some detail. -/
def isEnableLevelInLogger (detail level : ℕ) : Bool := detail ≤ level

/-- `sprintf` into a buffer of so many bytes.  There is no result when the text and its NUL do not
fit. -/
def sprintf (capacidad : ℕ) (texto : Texto) : Option Texto :=
  if texto.length < capacidad then some texto else none

/-- The rest of a format asks for no argument; `abierto` says that a `%` has just been read, which
another one is to complete. -/
def sinConversionesDesde : Bool → Texto → Bool
  | abierto, [] => !abierto
  | true, c :: texto => c = '%' && sinConversionesDesde false texto
  | false, c :: texto => sinConversionesDesde (c = '%') texto

/-- As a format the text asks for no argument: every `%` comes with another one. -/
def sinConversiones (texto : Texto) : Bool := sinConversionesDesde false texto

/-- `_log_write_in_level` without arguments.  The format is only looked at when the level is
enabled. -/
def logWriteInLevel (detail level : ℕ) (message_template : Texto) : Option Unit :=
  if isEnableLevelInLogger detail level then
    if sinConversiones message_template then some () else none
  else some ()

/-- `sprintf` into a buffer, and the buffer to the log. -/
def registrar (capacidad detail level : ℕ) (texto : Texto) : Option Unit :=
  (sprintf capacidad texto).bind (logWriteInLevel detail level)

/-- What `%d` prints. -/
def decimal (valor : U32) : Texto := (toString valor.toInt).toList

/-! ### What can be logged -/

/-- **The text can be logged**: it fits in the buffer with its NUL, and if it is printed it has no
conversion. -/
def Registrable (capacidad detail level : ℕ) (texto : Texto) : Prop :=
  texto.length < capacidad ∧ (detail ≤ level → sinConversiones texto = true)

instance (capacidad detail level : ℕ) (texto : Texto) :
    Decidable (Registrable capacidad detail level texto) :=
  inferInstanceAs (Decidable (_ ∧ _))

variable {capacidad detail level : ℕ} {texto texto' : Texto}

/-- **Exactly when a text can be logged.** -/
theorem registrar_eq_some_iff :
    registrar capacidad detail level texto = some () ↔
    Registrable capacidad detail level texto := by
  rw [registrar, sprintf, Registrable]
  by_cases hcabe : texto.length < capacidad
  · rw [if_pos hcabe, Option.bind_some, logWriteInLevel, isEnableLevelInLogger]
    by_cases hnivel : detail ≤ level
    · simp [hcabe, hnivel]
    · simp [hcabe, hnivel]
  · simp [hcabe]

/-! ### Formats -/

/-- What comes before any `%` does not matter. -/
theorem sinConversiones_append (h : '%' ∉ texto) :
    sinConversiones (texto ++ texto') = sinConversiones texto' := by
  induction texto with
  | nil => rfl
  | cons c texto ih =>
      rw [List.mem_cons, not_or] at h
      rw [sinConversiones, List.cons_append, sinConversionesDesde, decide_eq_false (Ne.symm h.1)]
      exact ih h.2

theorem sinConversiones_of_not_mem (h : '%' ∉ texto) : sinConversiones texto = true := by
  have heq : sinConversiones (texto ++ []) = sinConversiones [] := sinConversiones_append h
  rwa [List.append_nil] at heq

theorem sinConversionesDesde_of_append {abierto : Bool} (htexto' : texto'.head? ≠ some '%')
    (h : sinConversionesDesde abierto (texto ++ texto') = true) :
    sinConversionesDesde abierto texto = true := by
  induction texto generalizing abierto with
  | nil =>
      cases abierto with
      | false => rfl
      | true =>
          -- nothing completes the `%`
          cases texto' with
          | nil => exact h
          | cons d texto' =>
              rw [List.nil_append, sinConversionesDesde, Bool.and_eq_true, decide_eq_true_eq] at h
              exact absurd (congrArg some h.1) htexto'
  | cons c texto ih =>
      cases abierto with
      | false => exact ih h
      | true =>
          rw [List.cons_append, sinConversionesDesde, Bool.and_eq_true] at h
          rw [sinConversionesDesde, Bool.and_eq_true]
          exact ⟨h.1, ih h.2⟩

/-- Nor does what comes after it, unless it starts with a `%`. -/
theorem sinConversiones_of_append (htexto' : texto'.head? ≠ some '%')
    (h : sinConversiones (texto ++ texto') = true) : sinConversiones texto = true :=
  sinConversionesDesde_of_append htexto' h

/-- A text that fits and has no `%` can be logged at any level. -/
theorem registrable_of_not_mem (hcabe : texto.length < capacidad) (h : '%' ∉ texto) :
    Registrable capacidad detail level texto :=
  ⟨hcabe, fun _ => sinConversiones_of_not_mem h⟩

/-! ### Numbers -/

theorem not_mem_toString (n : ℕ) : '%' ∉ (toString n).toList := by
  intro h
  have hc : '%' ∈ Nat.toDigits 10 n := by rwa [← Nat.toList_repr]
  exact absurd (Nat.isDigit_of_mem_toDigits (by omega) le_rfl hc) (by decide)

/-- A number has no `%`. -/
theorem not_mem_decimal (valor : U32) : '%' ∉ decimal valor := by
  rw [decimal]
  cases valor.toInt with
  | ofNat n => exact not_mem_toString n
  | negSucc n =>
      change '%' ∉ ("-" ++ toString (n + 1)).toList
      rw [String.toList_append, List.mem_append, not_or]
      exact ⟨by decide, not_mem_toString (n + 1)⟩

theorem length_toString_le {n : ℕ} (hn : n < 10 ^ 10) : (toString n).toList.length ≤ 10 := by
  change n.repr.toList.length ≤ 10
  rw [Nat.toList_repr]
  exact (Nat.length_toDigits_le_iff (by omega) (by omega)).2 hn

/-- A number takes eleven characters at most. -/
theorem length_decimal_le (valor : U32) : (decimal valor).length ≤ 11 := by
  have hvalor : valor.toInt.natAbs ≤ 2 ^ 31 := by
    have := valor.isLt
    rw [BitVec.toInt]
    split <;> omega
  rw [decimal]
  cases heq : valor.toInt with
  | ofNat n =>
      rw [heq, Int.natAbs_ofNat'] at hvalor
      have hn : (toString n).toList.length ≤ 10 := length_toString_le (by omega)
      exact Nat.le_succ_of_le hn
  | negSucc n =>
      rw [heq, Int.natAbs_negSucc] at hvalor
      have hn : (toString (n + 1)).toList.length ≤ 10 := length_toString_le (by omega)
      change ("-" ++ toString (n + 1)).toList.length ≤ 11
      rw [String.toList_append, List.length_append]
      exact Nat.add_le_add (Nat.le_refl 1) hn

end Ansisop.Commons
