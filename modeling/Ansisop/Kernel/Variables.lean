/-
**The shared variables.**

`obtenerVariable` and `asignarVariable` look a variable up in `variables_compartidas` and answer
with its value as a text, for which they have allocated `sizeof(int)` bytes; the thread of the CPU
turns the text into a number again, unless it is `exit`.  The dictionary compares hash codes and not
names.

The shared variables are meant to be registers: what is asked for is that each call is answered with
the last value that was assigned to the name, or its value in the configuration.

Main definitions:

* `Ansisop.Kernel.Compartidas`, `Ansisop.Kernel.crearVariables`,
  `Ansisop.Kernel.Compartidas.atender` — the code;
* `Ansisop.Kernel.PasoCompartido` — a call of the thread of a CPU, as one step;
* `Ansisop.Kernel.ultimo`, `Ansisop.Kernel.Registros` — registers, and that each call is answered as
  by them;
* `Ansisop.Kernel.EnRango`, `Ansisop.Kernel.CodigosDistintos` — when they are.

Main results:

* `Ansisop.Kernel.atoi_formatoD` — a value survives the passage through its text;
* `Ansisop.Kernel.compartidas_registros_iff` — **the shared variables are registers exactly if** the
  names have different hash codes and the texts of the values fit into four bytes.
-/

import Ansisop.Lib.Checked
import Ansisop.Lib.HashTable
import Ansisop.Lib.Historia
import Ansisop.Protocolo.KernelCpu
import Ansisop.Cpu.Analizador
import Mathlib.Data.List.Find

set_option relaxedAutoImplicit false
set_option autoImplicit false

namespace Ansisop.Kernel

/-! ### Numbers as texts -/

/-- The text that `sprintf` writes for `%d`. -/
def formatoD (valor : U32) : Texto := (toString valor.toInt).toList

/-- `sprintf` into a block of the heap: the text and its NUL have to fit. -/
def sprintf (alojado : ℕ) (texto : Texto) : Except Checked.Fault Texto := do
  let _ ← Checked.copy (texto ++ ['\x00']) 0 alojado 0 (texto.length + 1)
  return texto

/-- The text of a natural number: its digits. -/
theorem toList_toString (n : ℕ) : (toString n).toList = Nat.toDigits 10 n := by
  rw [Nat.toString_eq_repr, Nat.toList_repr]

/-- The text of a value, for its sign. -/
theorem formatoD_eq (valor : U32) :
    0 ≤ valor.toInt ∧ formatoD valor = Nat.toDigits 10 valor.toInt.toNat ∨
      valor.toInt < 0 ∧ formatoD valor = '-' :: Nat.toDigits 10 (-valor.toInt).toNat := by
  rw [formatoD]
  cases valor.toInt with
  | ofNat n => exact Or.inl ⟨Int.natCast_nonneg n, toList_toString n⟩
  | negSucc n =>
      refine Or.inr ⟨Int.negSucc_lt_zero n, ?_⟩
      rw [show toString (Int.negSucc n) = "-" ++ toString (n + 1) from rfl, String.toList_append,
        toList_toString]
      rfl

/-- **The texts that fit into four bytes with their NUL.** -/
theorem length_formatoD_le_iff (valor : U32) :
    (formatoD valor).length ≤ 3 ↔ -99 ≤ valor.toInt ∧ valor.toInt ≤ 999 := by
  have hdigitos (n k : ℕ) (hk : 0 < k) : (Nat.toDigits 10 n).length ≤ k ↔ n < 10 ^ k :=
    Nat.length_toDigits_le_iff (by omega) hk
  rcases formatoD_eq valor with ⟨hsigno, htexto⟩ | ⟨hsigno, htexto⟩
  · rw [htexto, hdigitos _ 3 (by omega)]
    omega
  · have h := hdigitos (-valor.toInt).toNat 2 (by omega)
    rw [htexto, List.length_cons]
    omega

theorem digitos_eq {texto : Texto} (h : ∀ c ∈ texto, c.isDigit = true) (n : ℕ) :
    Cpu.digitos texto n = Nat.ofDigitChars 10 texto n := by
  induction texto generalizing n with
  | nil => rfl
  | cons c texto ih =>
      rw [Cpu.digitos, if_pos (h c List.mem_cons_self), ih fun c hc =>
        h c (List.mem_cons_of_mem _ hc), Nat.ofDigitChars_cons]
      rfl

/-- The digits of a number give it back. -/
theorem digitos_toDigits (n : ℕ) : Cpu.digitos (Nat.toDigits 10 n) 0 = n := by
  rw [digitos_eq fun c hc => Nat.isDigit_of_mem_toDigits (by omega) le_rfl hc,
    Nat.ofDigitChars_ten_toDigits]

/-- A text that starts with a digit is a number without a sign. -/
theorem atoi_digito {c : Char} (h : c.isDigit = true) (texto : Texto) :
    Cpu.atoi (c :: texto) = BitVec.ofNat 32 (min (Cpu.digitos (c :: texto) 0) (2 ^ 31 - 1)) := by
  have hespacio : ¬(Cpu.esEspacio c || decide (c = '\n')) = true := by
    intro hc
    simp only [Cpu.esEspacio, Bool.or_eq_true, decide_eq_true_eq] at hc
    rcases hc with ((((rfl | rfl) | rfl) | rfl) | rfl) | rfl <;> exact absurd h (by decide)
  rw [Cpu.atoi, List.dropWhile_cons_of_neg (p := fun c => Cpu.esEspacio c || c = '\n') hespacio]
  split
  · rename_i heq
    obtain rfl := (List.cons.inj heq).1
    exact absurd h (by decide)
  · rename_i heq
    obtain rfl := (List.cons.inj heq).1
    exact absurd h (by decide)
  · rfl

/-- **A value survives the passage through its text.** -/
theorem atoi_formatoD (valor : U32) : Cpu.atoi (formatoD valor) = valor := by
  have hlo : -2 ^ 31 ≤ valor.toInt := BitVec.le_toInt valor
  have hhi : valor.toInt < 2 ^ 31 := BitVec.toInt_lt
  rcases formatoD_eq valor with ⟨hsigno, htexto⟩ | ⟨hsigno, htexto⟩
  · obtain ⟨c, texto, hc⟩ := List.exists_cons_of_ne_nil
      (Nat.toDigits_ne_nil (n := valor.toInt.toNat) (b := 10))
    have hdigito : c.isDigit = true :=
      Nat.isDigit_of_mem_toDigits (by omega) le_rfl (hc ▸ List.mem_cons_self)
    rw [htexto, hc, atoi_digito hdigito, ← hc, digitos_toDigits, Nat.min_eq_left (by omega),
      ← BitVec.ofInt_natCast, Int.toNat_of_nonneg hsigno, BitVec.ofInt_toInt]
  · rw [htexto, Cpu.atoi, List.dropWhile_cons_of_neg (by decide)]
    simp only
    rw [digitos_toDigits, Nat.min_eq_left (by omega), Int.toNat_of_nonneg (by omega), neg_neg,
      BitVec.ofInt_toInt]

/-- No value is written as `exit`. -/
theorem formatoD_ne_exit (valor : U32) : formatoD valor ≠ "exit".toList := by
  intro h
  have hvalor : valor = 0#32 := by rw [← atoi_formatoD valor, h]; decide
  subst hvalor
  exact absurd h (by decide)

/-- What fits into a block, and what does not. -/
theorem sprintf_eq (alojado : ℕ) (texto : Texto) :
    sprintf alojado texto = if texto.length < alojado then .ok texto else .error .write := by
  rw [sprintf, Checked.copy, if_neg (by simp)]
  split_ifs <;> first | rfl | omega

/-! ### The calls -/

/-- `variables_compartidas`, whose data are positions, and the values of the variables. -/
structure Compartidas where
  diccionario : HashTable.Table ℕ
  valores : List U32

/-- The hash code of a name. -/
def codigoNombre (nombre : Cadena) : ℕ := (Cpu.dictionaryHash nombre.bytes).toNat

/-- A variable of the configuration: a turn of the loop of `inicializador`. -/
def crearVariable (c : Compartidas) (variable_ : Cadena × Texto) : Compartidas where
  diccionario := HashTable.put c.diccionario (codigoNombre variable_.1, c.valores.length)
  valores := c.valores ++ [Cpu.atoi variable_.2]

/-- The variables of the configuration, from `ID_VARIABLE` and `VARIABLE`. -/
def crearVariables (configuracion : List (Cadena × Texto)) : Compartidas :=
  configuracion.foldl crearVariable ⟨HashTable.empty 20, []⟩

namespace Compartidas

/-- `dictionary_get`. -/
def buscar (c : Compartidas) (nombre : Cadena) : Option ℕ :=
  HashTable.get c.diccionario (codigoNombre nombre)

/-- The field `valor` of a variable. -/
def valor (c : Compartidas) (variable_ : ℕ) : U32 := c.valores.getD variable_ 0#32

/-- `obtenerVariable`. -/
def obtenerVariable (c : Compartidas) (parametro : Cadena) : Except Checked.Fault Texto :=
  match c.buscar parametro with
  | some variableCompar => sprintf 4 (formatoD (c.valor variableCompar))
  | none => sprintf 5 "exit".toList

/-- `asignarVariable`. -/
def asignarVariable (c : Compartidas) (parametro : VariableCompartida) :
    Except Checked.Fault Texto × Compartidas :=
  match c.buscar parametro.nombre with
  | some variableCom =>
      let c' := { c with valores := c.valores.set variableCom parametro.valor }
      (sprintf 4 (formatoD (c'.valor variableCom)), c')
  | none => (sprintf 5 "exit".toList, c)

end Compartidas

/-- A call of a CPU. -/
inductive LlamadaCompartida
  | obtenerValorVarCompartida (nombre : Cadena)
  | asignarValorVarCompartida (varComp : VariableCompartida)

/-- The message that the thread of the CPU sends for the text. -/
def contestarTexto (tempVariable : Texto) (mensaje : U32 → MensajeKernel) : MensajeKernel :=
  if tempVariable = "exit".toList then .terminar else mensaje (Cpu.atoi tempVariable)

/-- The two cases of `pfnControladorConexion`. -/
def Compartidas.atender (c : Compartidas) :
    LlamadaCompartida → Except Checked.Fault MensajeKernel × Compartidas
  | .obtenerValorVarCompartida nombre =>
      ((c.obtenerVariable nombre).map fun tempVariable =>
        contestarTexto tempVariable .valorCompartida, c)
  | .asignarValorVarCompartida varComp =>
      let r := c.asignarVariable varComp
      (r.1.map fun tempVariable => contestarTexto tempVariable fun _ => .continuar, r.2)

/-- A call of a CPU with the message that is sent for it, if there is one. -/
structure Atencion where
  cpu : ℕ
  llamada : LlamadaCompartida
  respuesta : Option MensajeKernel

/-- **A call, as one step** of the thread of its CPU.  After a write outside its block nothing is
known of the memory. -/
inductive PasoCompartido (c : Compartidas) : Atencion → Compartidas → Prop
  | contesta {cpu : ℕ} {llamada : LlamadaCompartida} {mensaje : MensajeKernel} {c' : Compartidas} :
      c.atender llamada = (.ok mensaje, c') → PasoCompartido c ⟨cpu, llamada, some mensaje⟩ c'
  | corrompe {cpu : ℕ} {llamada : LlamadaCompartida} {falla : Checked.Fault}
      {c' c'' : Compartidas} :
      c.atender llamada = (.error falla, c') → PasoCompartido c ⟨cpu, llamada, none⟩ c''

/-! ### Registers -/

/-- The name of the variable of a call. -/
def LlamadaCompartida.nombre : LlamadaCompartida → Cadena
  | obtenerValorVarCompartida nombre => nombre
  | asignarValorVarCompartida varComp => varComp.nombre

/-- The registers of the configuration. -/
def registros (configuracion : List (Cadena × Texto)) (nombre : Cadena) : Option U32 :=
  (configuracion.find? fun variable_ => decide (variable_.1 = nombre)).map fun variable_ =>
    Cpu.atoi variable_.2

/-- A call to registers. -/
def registrar (r : Cadena → Option U32) (e : Atencion) : Cadena → Option U32 :=
  match e.llamada with
  | .obtenerValorVarCompartida _ => r
  | .asignarValorVarCompartida varComp => Function.update r varComp.nombre (some varComp.valor)

/-- **The last value that was assigned to each name**, or its value in the configuration. -/
def ultimo (configuracion : List (Cadena × Texto)) (tr : List Atencion) : Cadena → Option U32 :=
  tr.foldl registrar (registros configuracion)

/-- What registers answer. -/
def LlamadaCompartida.respuesta (r : Cadena → Option U32) : LlamadaCompartida → Option MensajeKernel
  | obtenerValorVarCompartida nombre => (r nombre).map .valorCompartida
  | asignarValorVarCompartida varComp => (r varComp.nombre).map fun _ => .continuar

/-- The value that a call writes as a text. -/
def LlamadaCompartida.valor (r : Cadena → Option U32) : LlamadaCompartida → Option U32
  | obtenerValorVarCompartida nombre => r nombre
  | asignarValorVarCompartida varComp => some varComp.valor

/-- **Each call is answered as by registers.** -/
def Registros (configuracion : List (Cadena × Texto)) : List Atencion → Prop :=
  Lts.CadaPaso fun antes e => e.respuesta = e.llamada.respuesta (ultimo configuracion antes)

/-- The value of each call is from -99 to 999. -/
def EnRango (configuracion : List (Cadena × Texto)) : List Atencion → Prop :=
  Lts.CadaPaso fun antes e => ∀ valor ∈ e.llamada.valor (ultimo configuracion antes),
    -99 ≤ valor.toInt ∧ valor.toInt ≤ 999

/-- The names of the configuration that are not the same have different hash codes. -/
def CodigosDistintos (configuracion : List (Cadena × Texto)) : Prop :=
  ∀ p ∈ configuracion, ∀ q ∈ configuracion, codigoNombre p.1 = codigoNombre q.1 → p.1 = q.1

/-- The calls are on names of the configuration. -/
def Configurados (configuracion : List (Cadena × Texto)) (tr : List Atencion) : Prop :=
  ∀ e ∈ tr, e.llamada.nombre ∈ configuracion.map Prod.fst

variable {configuracion : List (Cadena × Texto)} {c c' : Compartidas} {r : Cadena → Option U32}
  {nombre : Cadena} {e : Atencion} {tr : List Atencion}

/-! ### The dictionary -/

/-- The dictionary of the configuration has the names in their order. -/
theorem crearVariables_spec (configuracion : List (Cadena × Texto)) :
    HashTable.Represents (crearVariables configuracion).diccionario
        (configuracion.zipIdx.map fun p => (codigoNombre p.1.1, p.2)) ∧
      (crearVariables configuracion).valores = configuracion.map fun variable_ =>
      Cpu.atoi variable_.2 := by
  induction configuracion using List.reverseRecOn with
  | nil => exact ⟨HashTable.represents_empty (by omega), rfl⟩
  | append_singleton configuracion variable_ ih =>
      obtain ⟨hdiccionario, hvalores⟩ := ih
      have hcrear : crearVariables (configuracion ++ [variable_]) =
          crearVariable (crearVariables configuracion) variable_ := List.foldl_append
      have hlength : (crearVariables configuracion).valores.length = configuracion.length := by
        rw [hvalores, List.length_map]
      rw [hcrear, List.zipIdx_append, List.map_append, List.map_append, ← hvalores]
      refine ⟨?_, rfl⟩
      rw [crearVariable, hlength]
      simpa using hdiccionario.put (codigoNombre variable_.1, configuracion.length)

/-- The dictionary finds the first name with the code. -/
theorem buscar_crearVariables
    (hdiccionario : c.diccionario = (crearVariables configuracion).diccionario) (nombre : Cadena) :
    c.buscar nombre = configuracion.findIdx? fun p => codigoNombre p.1 == codigoNombre nombre := by
  rw [Compartidas.buscar, hdiccionario, (crearVariables_spec configuracion).1.get, List.find?_map,
    Option.map_map, List.findIdx?_eq_fst_find?_zipIdx]
  rfl

/-- **The dictionary finds each configured name**, if the codes are different. -/
theorem buscar_configurado (hcodigos : CodigosDistintos configuracion)
    (hdiccionario : c.diccionario = (crearVariables configuracion).diccionario)
    (hnombre : nombre ∈ configuracion.map Prod.fst) :
    ∃ j, ∃ hj : j < configuracion.length, c.buscar nombre = some j ∧
    configuracion[j].1 = nombre := by
  obtain ⟨q, hq, rfl⟩ := List.mem_map.1 hnombre
  have hbuscar := buscar_crearVariables hdiccionario q.1
  have hesta : (configuracion.findIdx? fun p => codigoNombre p.1 == codigoNombre q.1).isSome := by
    rw [List.findIdx?_isSome, List.any_eq_true]
    exact ⟨q, hq, by simp⟩
  obtain ⟨j, hj⟩ := Option.isSome_iff_exists.1 hesta
  obtain ⟨hlt, hcodigo, -⟩ := List.findIdx?_eq_some_iff_getElem.1 hj
  exact ⟨j, hlt, hbuscar.trans hj, hcodigos _ (List.getElem_mem hlt) _ hq (by simpa using hcodigo)⟩

/-- **The variables hold the registers.** -/
structure Refleja (configuracion : List (Cadena × Texto)) (c : Compartidas)
    (r : Cadena → Option U32) : Prop where
  diccionario : c.diccionario = (crearVariables configuracion).diccionario
  length : c.valores.length = configuracion.length
  valor : ∀ nombre ∈ configuracion.map Prod.fst, r nombre = (c.buscar nombre).map c.valor

/-- The variables of the configuration hold its values. -/
theorem refleja_crearVariables (hcodigos : CodigosDistintos configuracion) :
    Refleja configuracion (crearVariables configuracion) (registros configuracion) := by
  have hvalores := (crearVariables_spec configuracion).2
  refine ⟨rfl, by rw [hvalores, List.length_map], fun nombre hnombre => ?_⟩
  obtain ⟨q, hq, rfl⟩ := List.mem_map.1 hnombre
  obtain ⟨j, hj, hbuscar, -⟩ := buscar_configurado hcodigos rfl hnombre
  -- the first variable with the name is the first one with its code
  have hprimera : configuracion.find? (fun p => decide (p.1 = q.1)) =
      configuracion.find? fun p => codigoNombre p.1 == codigoNombre q.1 := by
    refine List.find?_congr fun p hp => ?_
    rw [Bool.eq_iff_iff, decide_eq_true_iff, beq_iff_eq]
    exact ⟨fun h => by rw [h], hcodigos p hp q hq⟩
  rw [registros, hprimera, List.find?_eq_bind_findIdx?_getElem?,
    ← buscar_crearVariables rfl, hbuscar, Option.bind_some, Option.map_some,
    List.getElem?_eq_getElem hj, Option.map_some, Compartidas.valor,
    hvalores, List.getD_eq_getElem _ _ (by simpa using hj), List.getElem_map]

/-- The message for the text of a value. -/
theorem contestar_formatoD (valor : U32) (mensaje : U32 → MensajeKernel) :
    ((sprintf 4 (formatoD valor)).map fun tempVariable => contestarTexto tempVariable mensaje) =
      if -99 ≤ valor.toInt ∧ valor.toInt ≤ 999 then .ok (mensaje valor) else .error .write := by
  rw [sprintf_eq]
  by_cases hrango : -99 ≤ valor.toInt ∧ valor.toInt ≤ 999
  · rw [if_pos hrango, if_pos (Nat.lt_succ_of_le ((length_formatoD_le_iff valor).2 hrango)),
      Except.map, contestarTexto, if_neg (formatoD_ne_exit valor), atoi_formatoD]
  · rw [if_neg hrango, if_neg fun h =>
      hrango ((length_formatoD_le_iff valor).1 (Nat.le_of_lt_succ h))]
    rfl

/-- `obtenerValorVarCompartida`, on a name that the dictionary finds. -/
theorem atender_obtener {j : ℕ} (hbuscar : c.buscar nombre = some j) :
    c.atender (.obtenerValorVarCompartida nombre) =
      (if -99 ≤ (c.valor j).toInt ∧ (c.valor j).toInt ≤ 999 then .ok (.valorCompartida (c.valor j))
        else .error .write, c) := by
  rw [Compartidas.atender, Compartidas.obtenerVariable, hbuscar]
  exact congrArg (·, c) (contestar_formatoD _ _)

/-- `asignarValorVarCompartida`, on a name that the dictionary finds. -/
theorem atender_asignar {j : ℕ} (hbuscar : c.buscar nombre = some j) (hj : j < c.valores.length)
    (valor : U32) :
    c.atender (.asignarValorVarCompartida ⟨nombre, valor⟩) =
      (if -99 ≤ valor.toInt ∧ valor.toInt ≤ 999 then .ok .continuar else .error .write,
        { c with valores := c.valores.set j valor }) := by
  have hset : (c.valores.set j valor).getD j 0#32 = valor := by
    rw [List.getD_eq_getElem _ _ (by rwa [List.length_set]), List.getElem_set_self]
  rw [Compartidas.atender, Compartidas.asignarVariable, hbuscar]
  simp only [Compartidas.valor, hset]
  rw [contestar_formatoD]

/-- **A call on a configured name**: it is answered as by the registers if its text fits into its
block. -/
theorem Refleja.atender (h : Refleja configuracion c r) (hcodigos : CodigosDistintos configuracion)
    (hnombre : e.llamada.nombre ∈ configuracion.map Prod.fst) :
    ∃ valor mensaje c', e.llamada.valor r = some valor ∧ e.llamada.respuesta r = some mensaje ∧
      c.atender e.llamada =
        (if -99 ≤ valor.toInt ∧ valor.toInt ≤ 999 then .ok mensaje else .error .write, c') ∧
      Refleja configuracion c' (registrar r e) := by
  obtain ⟨j, hj, hbuscar, hnombre_j⟩ := buscar_configurado hcodigos h.diccionario hnombre
  have hvalor := h.valor _ hnombre
  rw [hbuscar, Option.map_some] at hvalor
  rw [← h.length] at hj
  obtain ⟨cpu, llamada, respuesta⟩ := e
  cases llamada with
  | obtenerValorVarCompartida nombre =>
      exact ⟨c.valor j, .valorCompartida (c.valor j), c, hvalor,
        by rw [LlamadaCompartida.respuesta, show r nombre = _ from hvalor]; rfl,
        atender_obtener hbuscar, h⟩
  | asignarValorVarCompartida varComp =>
      refine ⟨varComp.valor, .continuar, { c with valores := c.valores.set j varComp.valor }, rfl,
        by rw [LlamadaCompartida.respuesta, show r varComp.nombre = _ from hvalor]; rfl,
        atender_asignar hbuscar hj varComp.valor,
        h.diccionario, by rw [List.length_set, h.length], ?_⟩
      intro nombre hnombre'
      obtain ⟨k, hk, hbuscar', hnombre_k⟩ := buscar_configurado hcodigos h.diccionario hnombre'
      show Function.update r varComp.nombre (some varComp.valor) nombre =
        (c.buscar nombre).map fun k => (c.valores.set j varComp.valor).getD k 0#32
      rw [hbuscar', Option.map_some, List.getD_eq_getElem?_getD]
      by_cases hjk : j = k
      · subst hjk
        rw [List.getElem?_set_self hj, ← hnombre_k, hnombre_j]
        exact Function.update_self _ _ _
      · have hne : nombre ≠ varComp.nombre := by
          rintro rfl
          exact hjk (Option.some.inj (hbuscar.symm.trans hbuscar'))
        rw [Function.update_of_ne hne, h.valor _ hnombre', hbuscar', Option.map_some,
          Compartidas.valor, List.getD_eq_getElem?_getD, List.getElem?_set_ne hjk]

/-! ### Runs -/

/-- **A step**: in range it is one of the registers, and out of range it is a write outside its
block. -/
theorem Refleja.paso (h : Refleja configuracion c r) (hcodigos : CodigosDistintos configuracion)
    (hnombre : e.llamada.nombre ∈ configuracion.map Prod.fst) (hpaso : PasoCompartido c e c') :
    if ∀ valor ∈ e.llamada.valor r, -99 ≤ valor.toInt ∧ valor.toInt ≤ 999 then
      e.respuesta = e.llamada.respuesta r ∧ Refleja configuracion c' (registrar r e)
    else e.respuesta ≠ e.llamada.respuesta r := by
  obtain ⟨valor, mensaje, c'', hvalor, hmensaje, hatender, hrefleja⟩ := h.atender hcodigos hnombre
  have hrango : (∀ v ∈ e.llamada.valor r, -99 ≤ v.toInt ∧ v.toInt ≤ 999) ↔
      -99 ≤ valor.toInt ∧ valor.toInt ≤ 999 := by
    rw [hvalor]
    exact ⟨fun h => h valor rfl, fun h v hv => Option.some.inj hv ▸ h⟩
  rw [hmensaje]
  split_ifs with hok
  · rw [if_pos (hrango.1 hok)] at hatender
    cases hpaso with
    | contesta heq =>
        obtain ⟨hm, rfl⟩ := Prod.mk.inj (heq.symm.trans hatender)
        exact ⟨congrArg some (Except.ok.inj hm), hrefleja⟩
    | corrompe heq => exact absurd (Prod.mk.inj (heq.symm.trans hatender)).1 nofun
  · rw [if_neg fun h => hok (hrango.2 h)] at hatender
    cases hpaso with
    | contesta heq => exact absurd (Prod.mk.inj (heq.symm.trans hatender)).1 nofun
    | corrompe _ => exact nofun

/-- The registers after one more call. -/
theorem ultimo_snoc (configuracion : List (Cadena × Texto)) (tr : List Atencion) (e : Atencion) :
    ultimo configuracion (tr ++ [e]) = registrar (ultimo configuracion tr) e := List.foldl_append

theorem configurados_snoc :
    Configurados configuracion (tr ++ [e]) ↔
      Configurados configuracion tr ∧ e.llamada.nombre ∈ configuracion.map Prod.fst := by
  simp [Configurados, or_imp, forall_and]

/-- **In a run in range the variables hold the registers**, and each call is answered as by them. -/
theorem Refleja.run (hcodigos : CodigosDistintos configuracion)
    (h : Lts.Run PasoCompartido (crearVariables configuracion) tr c)
    (hnombres : Configurados configuracion tr)
    (hrango : EnRango configuracion tr) :
    Registros configuracion tr ∧ Refleja configuracion c (ultimo configuracion tr) := by
  induction h with
  | nil => exact ⟨Lts.cadaPaso_nil, refleja_crearVariables hcodigos⟩
  | snoc _ hpaso ih =>
      obtain ⟨hnombres, hnombre⟩ := configurados_snoc.1 hnombres
      obtain ⟨hrango, hvalor⟩ := Lts.cadaPaso_snoc.1 hrango
      obtain ⟨hregistros, hrefleja⟩ := ih hnombres hrango
      have hstep := hrefleja.paso hcodigos hnombre hpaso
      rw [if_pos hvalor] at hstep
      rw [ultimo_snoc]
      exact ⟨Lts.cadaPaso_snoc.2 ⟨hregistros, hstep.1⟩, hstep.2⟩

/-- **A run whose calls are answered as by registers is in range.** -/
theorem enRango_of_registros (hcodigos : CodigosDistintos configuracion)
    (h : Lts.Run PasoCompartido (crearVariables configuracion) tr c)
    (hnombres : Configurados configuracion tr)
    (hregistros : Registros configuracion tr) : EnRango configuracion tr := by
  induction h with
  | nil => exact Lts.cadaPaso_nil
  | snoc hrun hpaso ih =>
      obtain ⟨hnombres, hnombre⟩ := configurados_snoc.1 hnombres
      obtain ⟨hregistros, hrespuesta⟩ := Lts.cadaPaso_snoc.1 hregistros
      have hrango := ih hnombres hregistros
      have hstep := (Refleja.run hcodigos hrun hnombres hrango).2.paso hcodigos hnombre hpaso
      refine Lts.cadaPaso_snoc.2 ⟨hrango, ?_⟩
      by_contra hvalor
      rw [if_neg hvalor] at hstep
      exact hstep hrespuesta

/-- Every call is a step. -/
theorem exists_pasoCompartido (c : Compartidas) (cpu : ℕ) (llamada : LlamadaCompartida) :
    ∃ respuesta c', PasoCompartido c ⟨cpu, llamada, respuesta⟩ c' := by
  rcases h : c.atender llamada with ⟨_ | mensaje, c'⟩
  · exact ⟨none, c, .corrompe h⟩
  · exact ⟨some mensaje, c', .contesta h⟩

/-- An assignment that is answered. -/
def asigna (cpu : ℕ) (nombre : Cadena) (valor : U32) : Atencion :=
  ⟨cpu, .asignarValorVarCompartida ⟨nombre, valor⟩, some .continuar⟩

/-- A read that is answered with a value. -/
def obtiene (cpu : ℕ) (nombre : Cadena) (valor : U32) : Atencion :=
  ⟨cpu, .obtenerValorVarCompartida nombre, some (.valorCompartida valor)⟩

/-- **Two names with one hash code are one variable**: a value that is assigned to one of them is
read from the other one. -/
theorem colision {p q : Cadena × Texto} (hp : p ∈ configuracion) (hq : q ∈ configuracion)
    (hcodigo : codigoNombre p.1 = codigoNombre q.1) (hne : p.1 ≠ q.1) :
    ∃ tr c, Lts.Run PasoCompartido (crearVariables configuracion) tr c ∧
    Configurados configuracion tr ∧
      EnRango configuracion tr ∧ ¬Registros configuracion tr := by
  have hesta : (configuracion.findIdx? fun x => codigoNombre x.1 == codigoNombre p.1).isSome := by
    rw [List.findIdx?_isSome, List.any_eq_true]
    exact ⟨p, hp, by simp⟩
  obtain ⟨j, hfind⟩ := Option.isSome_iff_exists.1 hesta
  have hbuscar : (crearVariables configuracion).buscar p.1 = some j :=
    (buscar_crearVariables rfl p.1).trans hfind
  have hbuscar' : (crearVariables configuracion).buscar q.1 = some j := by
    rw [← hbuscar, Compartidas.buscar, Compartidas.buscar, hcodigo]
  have hj : j < (crearVariables configuracion).valores.length := by
    rw [(crearVariables_spec configuracion).2, List.length_map]
    exact (List.findIdx?_eq_some_iff_getElem.1 hfind).1
  generalize hc : crearVariables configuracion = c at hj hbuscar hbuscar'
  let c₁ : Compartidas := { c with valores := c.valores.set j 1#32 }
  let c₂ : Compartidas := { c with valores := c₁.valores.set j 2#32 }
  have hj₁ : j < c₁.valores.length := by rwa [List.length_set]
  have hvalor : c₂.valor j = 2#32 := by
    rw [Compartidas.valor, List.getD_eq_getElem?_getD, List.getElem?_set_self hj₁]
    rfl
  have hpaso₁ : PasoCompartido c (asigna 0 p.1 1#32) c₁ :=
    .contesta (atender_asignar hbuscar hj 1#32)
  have hpaso₂ : PasoCompartido c₁ (asigna 1 q.1 2#32) c₂ :=
    .contesta (atender_asignar (c := c₁) hbuscar' hj₁ 2#32)
  have hpaso₃ : PasoCompartido c₂ (obtiene 0 p.1 2#32) c₂ := by
    have h := atender_obtener (show c₂.buscar p.1 = some j from hbuscar)
    rw [hvalor] at h
    exact .contesta h
  have hultimo : ultimo configuracion ([] ++ [asigna 0 p.1 1#32] ++ [asigna 1 q.1 2#32]) p.1 =
      some 1#32 := by
    rw [ultimo_snoc, ultimo_snoc]
    exact (Function.update_of_ne hne _ _).trans (Function.update_self _ _ _)
  refine ⟨_, c₂, ((Lts.Run.nil.snoc hpaso₁).snoc hpaso₂).snoc hpaso₃, ?_, ?_, ?_⟩
  · simp only [configurados_snoc]
    exact ⟨⟨⟨by simp [Configurados], List.mem_map_of_mem hp⟩, List.mem_map_of_mem hq⟩,
      List.mem_map_of_mem hp⟩
  · have huno : -99 ≤ (1#32).toInt ∧ (1#32).toInt ≤ 999 := by decide
    have hdos : -99 ≤ (2#32).toInt ∧ (2#32).toInt ≤ 999 := by decide
    refine Lts.cadaPaso_snoc.2
      ⟨Lts.cadaPaso_snoc.2 ⟨Lts.cadaPaso_snoc.2 ⟨Lts.cadaPaso_nil, ?_⟩, ?_⟩, ?_⟩
    · rintro v ⟨⟩
      exact huno
    · rintro v ⟨⟩
      exact hdos
    · intro v hv
      obtain rfl := Option.some.inj (hultimo.symm.trans hv)
      exact huno
  · intro h
    -- the registers answer with 1
    have hrespuesta : some (MensajeKernel.valorCompartida 2#32) =
        (ultimo configuracion ([] ++ [asigna 0 p.1 1#32] ++ [asigna 1 q.1 2#32]) p.1).map
          MensajeKernel.valorCompartida := (Lts.cadaPaso_snoc.1 h).2
    rw [hultimo] at hrespuesta
    exact absurd hrespuesta (by decide)

/-- **The shared variables are registers exactly if** the configured names have different hash
codes, in the runs in which each value is from -99 to 999; with such names, they are in no other
run. -/
theorem compartidas_registros_iff (configuracion : List (Cadena × Texto)) :
    (CodigosDistintos configuracion ↔
      ∀ tr c, Lts.Run PasoCompartido (crearVariables configuracion) tr c →
      Configurados configuracion tr →
        EnRango configuracion tr → Registros configuracion tr) ∧
    (CodigosDistintos configuracion →
      ∀ tr c, Lts.Run PasoCompartido (crearVariables configuracion) tr c →
      Configurados configuracion tr →
        (Registros configuracion tr ↔ EnRango configuracion tr)) := by
  refine ⟨⟨fun hcodigos tr c h hnombres hrango =>
    (Refleja.run hcodigos h hnombres hrango).1, fun h => ?_⟩,
    fun hcodigos tr c h hnombres =>
      ⟨enRango_of_registros hcodigos h hnombres, fun hrango =>
        (Refleja.run hcodigos h hnombres hrango).1⟩⟩
  intro p hp q hq hcodigo
  by_contra hne
  obtain ⟨tr, c, hrun, hnombres, hrango, hregistros⟩ := colision hp hq hcodigo hne
  exact hregistros (h tr c hrun hnombres hrango)

/-- The name of a variable. -/
def nombreA : Cadena := ⟨[65#8], by decide, by decide⟩

/-- A variable with the value 0. -/
def unaVariable : List (Cadena × Texto) := [(nombreA, "0".toList)]

/-- One CPU assigns 999 to the variable, and another one reads it. -/
theorem compartidas_registros_dos : ∃ c,
    Lts.Run PasoCompartido (crearVariables unaVariable)
      ([] ++ [asigna 0 nombreA 999#32] ++ [obtiene 1 nombreA 999#32]) c ∧
    EnRango unaVariable ([] ++ [asigna 0 nombreA 999#32] ++ [obtiene 1 nombreA 999#32]) := by
  have hcodigos : CodigosDistintos unaVariable := by
    simp [CodigosDistintos, unaVariable]
  have hrun : Lts.Run PasoCompartido (crearVariables unaVariable)
      ([] ++ [asigna 0 nombreA 999#32] ++ [obtiene 1 nombreA 999#32])
      { crearVariables unaVariable with valores := [999#32] } :=
    (Lts.Run.nil.snoc (.contesta rfl)).snoc (.contesta rfl)
  refine ⟨_, hrun, ((compartidas_registros_iff unaVariable).2 hcodigos _ _ hrun ?_).1 ?_⟩
  · simp [Configurados, unaVariable, asigna, obtiene, LlamadaCompartida.nombre]
  · refine Lts.cadaPaso_snoc.2 ⟨Lts.cadaPaso_snoc.2 ⟨Lts.cadaPaso_nil, ?_⟩, ?_⟩
    · decide
    · decide

/-- The text of 1000 does not fit into its block. -/
theorem no_compartidas_registros : ∃ c,
    CodigosDistintos unaVariable ∧
    Configurados unaVariable [⟨0, .asignarValorVarCompartida ⟨nombreA, 1000#32⟩, none⟩] ∧
    Lts.Run PasoCompartido (crearVariables unaVariable)
      [⟨0, .asignarValorVarCompartida ⟨nombreA, 1000#32⟩, none⟩] c ∧
    ¬Registros unaVariable [⟨0, .asignarValorVarCompartida ⟨nombreA, 1000#32⟩, none⟩] := by
  refine ⟨crearVariables unaVariable, by simp [CodigosDistintos, unaVariable], ?_,
    Lts.Run.single (@PasoCompartido.corrompe _ _ _ .write _ _ rfl), fun h => ?_⟩
  · simp [Configurados, unaVariable, LlamadaCompartida.nombre]
  · exact absurd (h [] _ [] rfl) (by decide)

end Ansisop.Kernel
