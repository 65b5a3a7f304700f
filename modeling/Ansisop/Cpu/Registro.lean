/-
**The lines that a CPU can log.**

A CPU logs every line that it fetches, and its primitives log the names and the texts that they are
given.  These are parts of the line, so that a line that is not long and has no `%` can be run
without going over the end of the buffer, and without asking for an argument that is not there.

Main definitions:

* `Ansisop.Cpu.Todas` — all the primitives that a line may call meet a condition;
* `Ansisop.Cpu.Registrable` — **a line that the CPU can log, with all its calls**;
* `Ansisop.Cpu.Breve` — a text that is not long and has no `%`.

Main results:

* `Ansisop.Cpu.todas_analizadorLinea` — **the names in the calls of a line are parts of it**;
* `Ansisop.Cpu.registrable_of_breve` — a short line without `%` can be logged, at any level.
-/

import Ansisop.Cpu.Rafaga

set_option relaxedAutoImplicit false
set_option autoImplicit false

namespace Ansisop.Cpu

open Commons
  (logLevelInfo logLevelDebug decimal registrable_of_not_mem not_mem_decimal length_decimal_le)

/-! ### The primitives of a line -/

/-- All the primitives that a line may call meet a condition. -/
def Todas (p : Primitiva → Prop) : Linea → Prop
  | .fin => True
  | .indefinida => True
  | .llamar a resto => p a ∧ ∀ v, Todas p (resto v)

variable {p q : Primitiva → Prop} {orden : Orden}

theorem Todas.mono (hpq : ∀ a, p a → q a) {linea : Linea} (h : Todas p linea) : Todas q linea := by
  induction linea with
  | fin => exact trivial
  | indefinida => exact trivial
  | llamar a resto ih => exact ⟨hpq a h.1, fun v => ih v (h.2 v)⟩

theorem todas_ambos {primero : Bool} {a b : (U32 → Linea) → Linea} {k : U32 → U32 → Linea}
    (ha : ∀ k, (∀ v, Todas p (k v)) → Todas p (a k))
    (hb : ∀ k, (∀ v, Todas p (k v)) → Todas p (b k)) (hk : ∀ x y, Todas p (k x y)) :
    Todas p (ambos primero a b k) := by
  cases primero with
  | true => exact ha _ fun x => hb _ fun y => hk x y
  | false => exact hb _ fun y => ha _ fun x => hk x y

theorem todas_ite {c : Prop} [Decidable c] {li li' : Linea} (h : Todas p li) (h' : Todas p li') :
    Todas p (if c then li else li') := by
  split
  · exact h
  · exact h'

variable {σ : Type*} {E : Entorno σ}

/-- **A line that the CPU can log**, with all the calls that it may make. -/
structure Registrable (E : Entorno σ) (orden : Orden) (lineaCodigo : Texto) : Prop where
  linea : E.RegistraTexto logLevelInfo (registroLinea lineaCodigo)
  llamadas : Todas E.Registra (analizadorLinea orden lineaCodigo)

/-! ### Short texts -/

/-- The length up to which any line can be logged. -/
def largoBreve : ℕ := 137

/-- A text that is not long and has no `%`. -/
def Breve (texto : Texto) : Prop :=
  texto.length ≤ largoBreve ∧ (texto.all fun c => BitVec.ofNat 8 c.toNat != 37#8) = true

instance (texto : Texto) : Decidable (Breve texto) := inferInstanceAs (Decidable (_ ∧ _))

variable {texto parte linea : Texto}

theorem Breve.sublista (h : Breve texto) (hparte : parte.Sublist texto) : Breve parte :=
  ⟨hparte.length_le.trans h.1, List.all_eq_true.2 fun c hc =>
    List.all_eq_true.1 h.2 c (hparte.subset hc)⟩

theorem Breve.not_mem (h : Breve texto) : '%' ∉ texto :=
  fun hc => absurd (List.all_eq_true.1 h.2 '%' hc) (by decide)

theorem Breve.caracter (h : Breve texto) (i : ℕ) : caracter texto i ≠ 37#8 := by
  rw [Cpu.caracter]
  split
  · next c hc => simpa using List.all_eq_true.1 h.2 c (List.mem_of_getElem? hc)
  · decide

theorem Breve.drop (h : Breve texto) (n : ℕ) : Breve (texto.drop n) :=
  h.sublista (List.drop_sublist n _)

theorem Breve.tail {c : Char} (h : Breve (c :: texto)) : Breve texto := h.drop 1

/-! ### The parts of a text -/

theorem stringTrim_sublist (texto : Texto) : (stringTrim texto).Sublist texto := by
  rw [stringTrim]
  have hfinal :=
    (List.dropWhile_sublist esEspacio (l := (texto.dropWhile esEspacio).reverse)).reverse
  rw [List.reverse_reverse] at hfinal
  exact hfinal.trans (List.dropWhile_sublist _)

theorem Breve.trim (h : Breve texto) : Breve (stringTrim texto) :=
  h.sublista (stringTrim_sublist texto)

theorem strstr_sublist {separador : Texto} {r : Texto × Texto}
    (h : strstr separador texto = some r) : r.1.Sublist texto ∧ r.2.Sublist texto := by
  induction texto generalizing r with
  | nil =>
      rw [strstr, Option.ite_none_right_eq_some] at h
      obtain ⟨-, h⟩ := h
      obtain rfl := Option.some_inj.1 h
      exact ⟨List.Sublist.refl [], List.Sublist.refl []⟩
  | cons c texto ih =>
      rw [strstr] at h
      split at h
      · obtain rfl := Option.some_inj.1 h
        exact ⟨List.nil_sublist _, List.drop_sublist _ _⟩
      · obtain ⟨r', hr', rfl⟩ := Option.map_eq_some_iff.1 h
        obtain ⟨hantes, hdespues⟩ := ih hr'
        exact ⟨hantes.cons_cons c, hdespues.cons c⟩

/-- The two sides of a separator are parts of the text. -/
theorem Breve.separarOperadores (h : Breve texto) (separador : Texto) :
    Breve (Cpu.separarOperadores texto separador).1 ∧
      ∀ b, (Cpu.separarOperadores texto separador).2 = some b → Breve b := by
  rw [Cpu.separarOperadores]
  split
  · next antes despues hstr =>
      obtain ⟨hantes, hdespues⟩ := strstr_sublist hstr
      refine ⟨(h.sublista hantes).trim, fun b hb => ?_⟩
      obtain rfl := Option.some_inj.1 hb
      exact (h.sublista hdespues).trim
  · exact ⟨h, fun b hb => absurd hb (by simp)⟩

theorem tokens_sublist {separador : Char} {actual : Texto}
    (hparte : parte ∈ tokens separador texto actual) : parte.Sublist (actual ++ texto) := by
  induction texto generalizing actual with
  | nil =>
      rw [tokens] at hparte
      split at hparte
      · exact absurd hparte List.not_mem_nil
      · rw [List.mem_singleton] at hparte
        rw [hparte, List.append_nil]
  | cons c texto ih =>
      -- the token that is read now is before the others
      have hotros : parte ∈ tokens separador texto [] → parte.Sublist (actual ++ c :: texto) :=
        fun h =>
        (ih h).trans (((List.Sublist.refl texto).cons c).trans (List.sublist_append_right actual _))
      rw [tokens] at hparte
      split at hparte
      · split at hparte
        · exact hotros hparte
        · rcases List.mem_cons.1 hparte with rfl | hparte
          · exact List.sublist_append_left _ _
          · exact hotros hparte
      · have hactual := ih hparte
        rwa [List.append_assoc] at hactual

/-- The pieces of a text are parts of it. -/
theorem Breve.stringSplit (h : Breve texto) {separador : Char}
    (hparte : parte ∈ Cpu.stringSplit texto separador) : Breve parte :=
  h.sublista (tokens_sublist hparte)

theorem Breve.trozo (h : Breve texto) {separador : Char} {i : ℕ}
    (hparte : (Cpu.stringSplit texto separador)[i]? = some parte) : Breve parte :=
  h.stringSplit (List.mem_of_getElem? hparte)

/-! ### The calls of a short line -/

/-- A call whose names are short and have no `%`. -/
def Primitiva.Breve : Primitiva → Prop
  | .definirVariable id => id ≠ 37#8
  | .obtenerPosicionVariable id => id ≠ 37#8
  | .irAlLabel etiqueta => Cpu.Breve etiqueta
  | .llamarSinRetorno etiqueta => Cpu.Breve etiqueta
  | .llamarConRetorno etiqueta _ => Cpu.Breve etiqueta
  | .obtenerValorCompartida nombre => Cpu.Breve nombre
  | .asignarValorCompartida nombre _ => Cpu.Breve nombre
  | .imprimirTexto texto => Cpu.Breve texto
  | .entrarSalida dispositivo _ => Cpu.Breve dispositivo
  | .waitAnsisop semaforo => Cpu.Breve semaforo
  | .signalAnsisop semaforo => Cpu.Breve semaforo
  | _ => True

theorem todas_obtenerPosicion (h : Breve texto) {k : U32 → Linea}
    (hk : ∀ v, Todas Primitiva.Breve (k v)) : Todas Primitiva.Breve (obtenerPosicion texto k) := by
  unfold obtenerPosicion
  split
  · exact ⟨h.tail.caracter 0, hk⟩
  · exact ⟨h.caracter 0, hk⟩

theorem todas_operar (orden : Orden) (fuel : ℕ) : ∀ (texto : Texto) (k : U32 → Linea), Breve texto →
    (∀ v, Todas Primitiva.Breve (k v)) → Todas Primitiva.Breve (operar orden fuel texto k) := by
  induction fuel with
  | zero => exact fun _ _ _ _ => trivial
  | succ fuel ih =>
      intro texto k h hk
      have hmas := h.separarOperadores ['+']
      have hmenos := h.separarOperadores ['-']
      unfold operar
      split
      · exact ih _ _ h.tail fun v => ⟨trivial, hk⟩
      · split
        · next a b heq =>
            rw [heq] at hmas
            exact todas_ambos (fun k hk => ih a k hmas.1 hk) (fun k hk => ih b k (hmas.2 b rfl) hk)
              fun x y => hk _
        · split
          · next a b heq =>
              rw [heq] at hmenos
              exact todas_ambos (fun k hk => ih a k hmenos.1 hk)
                (fun k hk => ih b k (hmenos.2 b rfl) hk)
                fun x y => hk _
          · split
            · exact todas_obtenerPosicion h.tail hk
            · exact ⟨h.tail, hk⟩
            · split
              · exact hk _
              · exact todas_obtenerPosicion h fun v => ⟨trivial, hk⟩
            · exact todas_obtenerPosicion h fun v => ⟨trivial, hk⟩

theorem todas_operarTexto (h : Breve texto) {k : U32 → Linea}
    (hk : ∀ v, Todas Primitiva.Breve (k v)) :
    Todas Primitiva.Breve (operarTexto orden texto k) := todas_operar orden _ texto k h hk

theorem todas_definirVariables {nombres : List Texto} (h : ∀ nombre ∈ nombres, Breve nombre) :
    Todas Primitiva.Breve (definirVariables nombres) := by
  induction nombres with
  | nil => exact trivial
  | cons nombre nombres ih =>
      exact ⟨(h nombre List.mem_cons_self).trim.caracter 0,
        fun _ => ih fun n hn => h n (List.mem_cons_of_mem _ hn)⟩

theorem todas_saltoCondicional (h : Breve texto) (comparacion : U32 → Bool) :
    Todas Primitiva.Breve (saltoCondicional orden texto comparacion) := by
  simp only [saltoCondicional]
  split
  · exact trivial
  · next operador hoperador =>
      refine todas_operarTexto (h.trozo hoperador).trim fun v => ?_
      split
      · split
        · exact trivial
        · next etiqueta hetiqueta => exact ⟨(h.trozo hetiqueta).trim, fun _ => trivial⟩
      · exact trivial

theorem todas_obtenerParametros {parametros : List Texto} (h : ∀ p ∈ parametros, Breve p) :
    ∀ k : List U32 → Linea, (∀ vs : List U32, vs.length = parametros.length →
      Todas Primitiva.Breve (k vs)) →
      Todas Primitiva.Breve (obtenerParametros orden parametros k) := by
  induction parametros with
  | nil => exact fun k hk => hk [] rfl
  | cons p parametros ih =>
      intro k hk
      refine todas_operarTexto (h p List.mem_cons_self) fun v => ?_
      exact ih (fun q hq => h q (List.mem_cons_of_mem _ hq)) _ fun vs hvs =>
        hk (v :: vs) (by simp [hvs])

/-- The anonymous parameters are digits. -/
theorem todas_definirParametros_breve (vs : List U32) :
    ∀ i, i + vs.length ≤ 10 → Todas Primitiva.Breve (definirParametros i vs) := by
  induction vs with
  | nil => exact fun _ _ => trivial
  | cons v vs ih =>
      intro i hi
      rw [List.length_cons] at hi
      refine ⟨fun heq => ?_, fun _ => ⟨trivial, fun _ => ih (i + 1) (by omega)⟩⟩
      have hbyte := congrArg BitVec.toNat heq
      rw [BitVec.toNat_ofNat] at hbyte
      have : (37#8 : Byte).toNat = 37 := rfl
      omega

theorem todas_llamadaFuncion {parametrosLiteral : Option Texto}
    (h : ∀ t, parametrosLiteral = some t → Breve t) {helper : Linea → Linea}
    (hhelper : ∀ linea, Todas Primitiva.Breve linea → Todas Primitiva.Breve (helper linea)) :
    Todas Primitiva.Breve (llamadaFuncion orden parametrosLiteral helper) := by
  rw [llamadaFuncion]
  split
  · next hdiez =>
      refine todas_obtenerParametros (fun p hp => ?_) _ fun vs hvs =>
        hhelper _ (todas_definirParametros_breve vs 0 (by omega))
      cases parametrosLiteral with
      | none => exact absurd hp List.not_mem_nil
      | some t => exact (h t rfl).stringSplit hp
  · exact trivial

/-- **The names in the calls of a line are parts of it**: those of a short line without `%` are
short, and have none. -/
theorem todas_analizadorLinea (h : Breve linea) :
    Todas Primitiva.Breve (analizadorLinea orden linea) := by
  have hlinea := h.trim
  have hresto (n : ℕ) : Breve ((stringTrim linea).drop n) := hlinea.drop n
  have higual := hlinea.separarOperadores ['=']
  have hflecha := hlinea.separarOperadores ['<', '-']
  have hespacio := hlinea.separarOperadores [' ']
  rw [analizadorLinea]
  refine todas_ite ⟨trivial, fun _ => trivial⟩ ?_
  refine todas_ite (todas_definirVariables fun _ hn => (hresto 10).trim.stringSplit hn) ?_
  refine todas_ite ?_ ?_
  · split
    · exact trivial
    · next nombre b heq =>
        rw [heq] at higual
        exact todas_operarTexto (higual.2 b rfl) fun _ => ⟨higual.1.tail, fun _ => trivial⟩
    · next a b heq =>
        rw [heq] at higual
        exact todas_ambos (fun _ hk => todas_operarTexto higual.1.tail hk)
          (fun _ hk => todas_operarTexto (higual.2 b rfl) hk) fun _ _ => ⟨trivial, fun _ => trivial⟩
    · next a b _ _ heq =>
        rw [heq] at higual
        exact todas_ambos (fun _ hk => todas_obtenerPosicion higual.1 hk)
          (fun _ hk => todas_operarTexto (higual.2 b rfl) hk) fun _ _ => ⟨trivial, fun _ => trivial⟩
  refine todas_ite (todas_operarTexto (hresto 6).trim fun _ => ⟨trivial, fun _ => trivial⟩) ?_
  refine todas_ite ⟨hresto 10, fun _ => trivial⟩ ?_
  refine todas_ite (todas_operarTexto (hresto 6).trim fun _ => ⟨trivial, fun _ => trivial⟩) ?_
  refine todas_ite ⟨(hresto 5).trim, fun _ => trivial⟩ ?_
  refine todas_ite (todas_saltoCondicional hlinea _) ?_
  refine todas_ite (todas_saltoCondicional hlinea _) ?_
  refine todas_ite ⟨(hresto 7).trim, fun _ => trivial⟩ ?_
  refine todas_ite ⟨(hresto 5).trim, fun _ => trivial⟩ ?_
  refine todas_ite ?_ ?_
  · split
    · next dispositivo tiempo _ heq =>
        have hmem : dispositivo ∈ stringSplit ((stringTrim linea).drop 3) ' ' :=
          heq ▸ List.mem_cons_self
        exact ⟨((hresto 3).stringSplit hmem).trim, fun _ => trivial⟩
    · exact trivial
  split
  · next variable_ llamada heq =>
      rw [heq] at hflecha
      have hllamada := (hflecha.2 llamada rfl).separarOperadores [' ']
      exact todas_llamadaFuncion hllamada.2 fun _ hk =>
        todas_obtenerPosicion hflecha.1 fun _ => ⟨hllamada.1, fun _ => hk⟩
  · exact todas_llamadaFuncion hespacio.2 fun _ hk => ⟨hespacio.1, fun _ => hk⟩

/-! ### What a short line logs -/

/-- A short name can be logged after a text without `%`, and before another one with a number. -/
theorem registraTexto_of_breve {antes despues : Texto} {level : ℕ} (h : Breve texto)
    (hlargo : antes.length + despues.length ≤ 62) (hantes : '%' ∉ antes)
    (hdespues : '%' ∉ despues) : E.RegistraTexto level (antes ++ texto ++ despues) := by
  refine registrable_of_not_mem ?_ ?_
  · have := h.1
    simp only [List.length_append, largoBreve, sizeBufferLog] at this ⊢
    omega
  · simp only [List.mem_append, not_or]
    exact ⟨⟨hantes, h.not_mem⟩, hdespues⟩

/-- The only byte that is a `%`. -/
theorem porciento_de_byte : ∀ n < 2 ^ 8, Char.ofNat n = '%' → n = 37 := by decide +kernel

theorem registraTexto_de_byte {antes : Texto} {id : Byte} (hid : id ≠ 37#8)
    (hlargo : antes.length ≤ 62) (hantes : '%' ∉ antes) :
    E.RegistraTexto logLevelDebug (antes ++ [Char.ofNat id.toNat]) := by
  refine registrable_of_not_mem ?_ ?_
  · simp only [List.length_append, List.length_singleton, sizeBufferLog]
    omega
  · rw [List.mem_append, List.mem_singleton, not_or]
    refine ⟨hantes, fun heq => hid (BitVec.eq_of_toNat_eq ?_)⟩
    exact porciento_de_byte _ id.isLt heq.symm

/-- **The line of a short call can be logged.** -/
theorem registra_of_breve {a : Primitiva} (h : a.Breve) : E.Registra a := by
  have hsolo {antes texto : Texto} (hantes : antes.length ≤ 62 ∧ '%' ∉ antes)
      (htexto : Breve texto) :
      E.RegistraTexto logLevelDebug (antes ++ texto) := by
    have hregistra : E.RegistraTexto logLevelDebug (antes ++ texto ++ []) :=
      registraTexto_of_breve htexto hantes.1 hantes.2 List.not_mem_nil
    rwa [List.append_nil] at hregistra
  have hnumero {antes texto medio : Texto} (valor : U32)
      (hlargo : antes.length + medio.length ≤ 51 ∧ '%' ∉ antes ∧ '%' ∉ medio)
      (htexto : Breve texto) :
      E.RegistraTexto logLevelDebug (antes ++ texto ++ medio ++ decimal valor) := by
    rw [List.append_assoc (antes ++ texto)]
    have hdecimal := length_decimal_le valor
    refine registraTexto_of_breve htexto ?_ hlargo.2.1 ?_
    · rw [List.length_append]
      omega
    · rw [List.mem_append, not_or]
      exact ⟨hlargo.2.2, not_mem_decimal valor⟩
  intro texto htexto
  cases a with
  | definirVariable id =>
      obtain rfl := Option.some_inj.1 htexto
      exact registraTexto_de_byte h (by decide) (by decide)
  | obtenerPosicionVariable id =>
      obtain rfl := Option.some_inj.1 htexto
      exact registraTexto_de_byte h (by decide) (by decide)
  | irAlLabel etiqueta =>
      obtain rfl := Option.some_inj.1 htexto
      exact hsolo (by decide) h
  | llamarSinRetorno etiqueta =>
      obtain rfl := Option.some_inj.1 htexto
      exact hsolo (by decide) h
  | llamarConRetorno etiqueta donde =>
      obtain rfl := Option.some_inj.1 htexto
      exact hnumero donde (by decide) h
  | obtenerValorCompartida nombre =>
      obtain rfl := Option.some_inj.1 htexto
      exact hsolo (by decide) h
  | asignarValorCompartida nombre valor =>
      obtain rfl := Option.some_inj.1 htexto
      exact hnumero valor (by decide) h
  | imprimirTexto texto =>
      obtain rfl := Option.some_inj.1 htexto
      have hlargo : ([] : Texto).length ≤ 62 ∧ '%' ∉ ([] : Texto) := by decide
      exact hsolo hlargo h
  | entrarSalida dispositivo tiempo =>
      obtain rfl := Option.some_inj.1 htexto
      exact hnumero tiempo (by decide) h
  | waitAnsisop semaforo =>
      obtain rfl := Option.some_inj.1 htexto
      exact hsolo (by decide) h
  | signalAnsisop semaforo =>
      obtain rfl := Option.some_inj.1 htexto
      exact hsolo (by decide) h
  | _ => exact absurd htexto (by simp [Primitiva.registro])

/-- **A short line without `%` can be logged**, with all its calls, at any level. -/
theorem registrable_of_breve (E : Entorno σ) (orden : Orden) (h : Breve linea) :
    Registrable E orden linea where
  linea := registraTexto_of_breve h (by decide) (by decide) (by decide)
  llamadas := (todas_analizadorLinea h).mono fun _ => registra_of_breve

end Ansisop.Cpu
