/-
**Calls and returns nest.**

A sequence of primitives is well nested when its calls are matched by the returns that go with them,
at any depth.  After the return that matches a call, the CPU is back where it was at the call: the
stack, the instruction and the variables are those of the caller, and of the bytes of the callers
only the values that were assigned have changed.

Main definitions:

* `Ansisop.Cpu.Accion`, `Ansisop.Cpu.ejecutarTodas` — the primitives and the fetches of a program,
  and their execution, one after the other;
* `Ansisop.Cpu.Secuencia`, `Ansisop.Cpu.Secuencia.BienAnidada` — **well-nested sequences**;
* `Ansisop.Cpu.Restaura`, `Ansisop.Cpu.Secuencia.Restauran` — a return that goes back to its call,
  and a sequence of which every one does.

Main results:

* `Ansisop.Cpu.paso_pila` — every action keeps the agreement with the stack;
* `Ansisop.Cpu.secuencia_pila` — so does every well-nested sequence, and it goes back to the context
  where it started;
* `Ansisop.Cpu.llamadas_anidan` — **every return of a well-nested sequence goes back to its call**.
-/

import Ansisop.Cpu.Contextos
import Ansisop.Cpu.Mundo

set_option relaxedAutoImplicit false
set_option autoImplicit false

namespace Ansisop.Cpu

variable {σ : Type*} {E : Entorno σ} {base : TPuntero} {F : UmvFiel E base} {m m' m'' : Maquina σ}
  {p : Pila}

/-! ### Actions -/

/-- What a program does to the CPU: the call of a primitive, or the fetch of the next line. -/
inductive Accion
  | primitiva (a : Primitiva)
  | traer
deriving DecidableEq

/-- An action; there is no result when the code reads through a null pointer. -/
def Accion.paso (E : Entorno σ) (m : Maquina σ) : Accion → Option (Maquina σ)
  | primitiva a => (ejecutar E m a).map Prod.snd
  | traer => (traerProximaInstruccion E m).1.map fun _ => trasFetch E m

/-- Some actions, one after the other. -/
def ejecutarTodas (E : Entorno σ) : List Accion → Maquina σ → Option (Maquina σ)
  | [], m => some m
  | a :: as, m => (a.paso E m).bind (ejecutarTodas E as)

theorem ejecutarTodas_append (as bs : List Accion) (m : Maquina σ) :
    ejecutarTodas E (as ++ bs) m = (ejecutarTodas E as m).bind (ejecutarTodas E bs) := by
  induction as generalizing m with
  | nil => rfl
  | cons a as ih =>
      rw [List.cons_append, ejecutarTodas, ejecutarTodas, Option.bind_assoc]
      congr 1
      funext m₁
      exact ih m₁

/-- The permitted actions. -/
def Pila.PermiteAccion (base : TPuntero) (p : Pila) : Accion → Prop
  | .primitiva a => p.Permite base a
  | .traer => True

/-- The stack after an action. -/
def Pila.trasAccion (p : Pila) (pc : U32) : Accion → Pila
  | .primitiva a => p.tras pc a
  | .traer => p

/-- The values that an action writes. -/
def Pila.escribeAccion (p : Pila) : Accion → List TPuntero
  | .primitiva a => p.escribe a
  | .traer => []

/-- The errors are counted, and none is forgotten. -/
theorem errores_le_paso {a : Accion} (h : a.paso E m = some m') : m.errores ≤ m'.errores := by
  cases a with
  | primitiva a =>
      obtain ⟨⟨v, m₁⟩, h₁, rfl⟩ := Option.map_eq_some_iff.1 h
      cases ha : a.delKernel with
      | true =>
          obtain ⟨-, -, -, -, herr⟩ := pasosKernel_ejecutar E ha h₁
          exact Nat.le_of_eq herr.symm
      | false =>
          obtain ⟨k, herr, -⟩ := sucede_umv E ha h₁
          exact herr ▸ Nat.le_add_right _ _
  | traer =>
      obtain ⟨linea, hlinea, rfl⟩ := Option.map_eq_some_iff.1 h
      change m.errores ≤ (traerProximaInstruccion E m).2.errores
      rcases traerProximaInstruccion_spec E m with ⟨_, -, hf⟩ | ⟨-, herr⟩
      · exact Nat.le_of_eq hf.errores.symm
      · omega

theorem errores_le_ejecutarTodas {as : List Accion} (h : ejecutarTodas E as m = some m') :
    m.errores ≤ m'.errores := by
  induction as generalizing m with
  | nil => exact Nat.le_of_eq (congrArg (·.errores) (Option.some_inj.1 h))
  | cons a as ih =>
      obtain ⟨m₁, h₁, h⟩ := Option.bind_eq_some_iff.1 h
      exact Nat.le_trans (errores_le_paso h₁) (ih h)

theorem UmvFiel.solicitar_bytes {sol : SolicitudBytes} {r : Except Texto (List Byte)}
    (h : m.solicitar E sol = (r, m')) : F.bytes m' = F.bytes m := by
  rw [Maquina.solicitar, Prod.mk.injEq] at h
  obtain ⟨-, rfl⟩ := h
  exact F.solicitar _ _

/-- The fetch of a line leaves the stack alone. -/
theorem quieta_trasFetch {linea : List Byte}
    (hlinea : (traerProximaInstruccion E m).1 = some linea) : Quieta F m (trasFetch E m) := by
  have hq : (traerProximaInstruccion E m).2.estado = m.estado ∧
      F.bytes (traerProximaInstruccion E m).2 = F.bytes m := by
    rw [traerProximaInstruccion] at hlinea ⊢
    revert hlinea
    split
    · next data m₁ h₁ =>
        rw [proximaLineaDeCodigo]
        split
        · next data₂ m₂ h₂ =>
            intro _
            exact ⟨(estado_solicitar h₂).trans (estado_solicitar h₁),
              (F.solicitar_bytes h₂).trans (F.solicitar_bytes h₁)⟩
        · intro hno
          exact absurd hno (by simp)
    · intro hno
      exact absurd hno (by simp)
  obtain ⟨hest, hbytes⟩ := hq
  exact ⟨congrArg (·.pcb.segmentoStack) hest, congrArg (·.pcb.cursorStack) hest,
    congrArg (·.pcb.tamanioContexto) hest, congrArg (·.diccionarioVariables) hest, hbytes⟩

/-- **Every permitted action keeps the agreement** with the stack. -/
theorem paso_pila {a : Accion} (h : PilaBien F m p) (ha : p.PermiteAccion base a)
    (hpaso : a.paso E m = some m') (herr : m'.errores = m.errores) :
    PilaBien F m' (p.trasAccion m.estado.pcb.programCounter a) ∧
      Conserva F p.tope (p.escribeAccion a) m m' := by
  cases a with
  | primitiva a =>
      obtain ⟨⟨v, m₁⟩, h₁, rfl⟩ := Option.map_eq_some_iff.1 hpaso
      exact ejecutar_pila h ha h₁ herr
  | traer =>
      obtain ⟨linea, hlinea, rfl⟩ := Option.map_eq_some_iff.1 hpaso
      have hq : Quieta F m (trasFetch E m) := quieta_trasFetch hlinea
      exact ⟨h.quieta hq, Conserva.of_bytes hq.bytes⟩

/-- The values that a permitted action writes are those of variables of the stack. -/
theorem apunta_escribeAccion {a : Accion} (h : PilaBien F m p) (ha : p.PermiteAccion base a) :
    ∀ dir ∈ p.escribeAccion a, p.Apunta base dir := by
  intro dir hdir
  cases a with
  | traer => exact absurd hdir (by simp [Pila.escribeAccion])
  | primitiva a =>
      cases a with
      | asignar d valor =>
          obtain rfl := List.mem_singleton.1 hdir
          exact ha
      | retornar valor =>
          cases p with
          | base c => exact absurd hdir (by simp [Pila.escribeAccion, Pila.escribe, Pila.donde])
          | marco p pc d c =>
              obtain ⟨i, hi, hi'⟩ := (h.cabeceras.2.2.2 dir (Option.mem_toList.1 hdir)).2
              exact ⟨i, Or.inl hi, hi'⟩
      | _ => exact absurd hdir (by simp [Pila.escribeAccion, Pila.escribe])

/-- A permitted action leaves the headers and the names as they were. -/
theorem paso_fijos {a : Accion} (h : PilaBien F m p) (ha : p.PermiteAccion base a)
    (hpaso : a.paso E m = some m') (herr : m'.errores = m.errores) {i : ℕ} (hi : p.Fijo i) :
    (F.bytes m').getD i 0#8 = (F.bytes m).getD i 0#8 :=
  (paso_pila h ha hpaso herr).2 i hi.1 (hi.fuera h.tope_lt (apunta_escribeAccion h ha))

/-! ### Well-nested sequences -/

/-- **A sequence of actions with the calls matched by their returns.**  A call has its body, and the
value that it returns if it is to return one. -/
inductive Secuencia
  | fin
  | accion (a : Accion) (resto : Secuencia)
  | llamada (etiqueta : Texto) (donde : Option TPuntero) (cuerpo : Secuencia) (retorno : U32)
      (resto : Secuencia)

/-- The primitive that calls. -/
def entrada (etiqueta : Texto) : Option TPuntero → Accion
  | none => .primitiva (.llamarSinRetorno etiqueta)
  | some donde => .primitiva (.llamarConRetorno etiqueta donde)

/-- The primitive that returns from that call. -/
def salida (retorno : U32) : Option TPuntero → Accion
  | none => .primitiva .finalizar
  | some _ => .primitiva (.retornar retorno)

/-- An action that neither calls nor returns. -/
def Accion.simple : Accion → Bool
  | primitiva (.llamarSinRetorno _) => false
  | primitiva (.llamarConRetorno _ _) => false
  | primitiva .finalizar => false
  | primitiva (.retornar _) => false
  | _ => true

/-- The stack after an action that neither calls nor returns. -/
def Pila.trasSimple (p : Pila) : Accion → Pila
  | .primitiva (.definirVariable _) => p.conCelda
  | _ => p

namespace Secuencia

/-- The actions, one after the other. -/
def acciones : Secuencia → List Accion
  | fin => []
  | accion a resto => a :: resto.acciones
  | llamada etiqueta donde cuerpo retorno resto =>
      entrada etiqueta donde :: (cuerpo.acciones ++ salida retorno donde :: resto.acciones)

/-- The stack after the sequence: the same contexts, with the variables defined in the current
one. -/
def tras : Secuencia → Pila → Pila
  | fin, p => p
  | accion a resto, p => resto.tras (p.trasSimple a)
  | llamada _ _ _ _ resto, p => resto.tras p

/-- The addresses of the values that the sequence assigns, results of calls included. -/
def escritas : Secuencia → List TPuntero
  | fin => []
  | accion (.primitiva (.asignar dir _)) resto => dir :: resto.escritas
  | accion _ resto => resto.escritas
  | llamada _ donde cuerpo _ resto => cuerpo.escritas ++ (donde.toList ++ resto.escritas)

/-- **A well-nested sequence, from a stack.**  The assignments, and the results of the calls, go to
the values of variables of the stack. -/
def BienAnidada (base : TPuntero) : Secuencia → Pila → Prop
  | fin, _ => True
  | accion a resto, p =>
      a.simple = true ∧ p.PermiteAccion base a ∧ resto.BienAnidada base (p.trasSimple a)
  | llamada _ donde cuerpo _ resto, p =>
      (∀ dir ∈ donde, p.Apunta base dir) ∧
        (∀ pc, cuerpo.BienAnidada base (.marco p pc donde 0)) ∧ resto.BienAnidada base p

end Secuencia

/-- The bytes of the stack after a return has written its result, if there is one. -/
def conResultado (base : TPuntero) (bs : List Byte) (retorno : U32) : Option TPuntero → List Byte
  | none => bs
  | some dir => SegMem.overwrite bs (dir - base).toNat 4 (Words.byteAt retorno)

/-- **A return goes back to its call.**  The machine is `m` at the call, `m'` before the return and
`m''` after it. -/
structure Restaura (F : UmvFiel E base) (donde : Option TPuntero) (retorno : U32)
    (escritas : List TPuntero) (m m' m'' : Maquina σ) : Prop where
  cursorStack : m''.estado.pcb.cursorStack = m.estado.pcb.cursorStack
  tamanioContexto : m''.estado.pcb.tamanioContexto = m.estado.pcb.tamanioContexto
  programCounter : m''.estado.pcb.programCounter = m.estado.pcb.programCounter
  diccionario : ∀ nombre, dictionaryGet m''.estado.diccionarioVariables nombre =
    dictionaryGet m.estado.diccionarioVariables nombre
  /-- the contexts of the callers keep their bytes, but for the values assigned -/
  marcos : Conserva F (m.estado.pcb.cursorStack - base).toNat (escritas ++ donde.toList) m m''
  /-- the return writes the result, if there is one, and nothing else -/
  resultado : F.bytes m'' = conResultado base (F.bytes m') retorno donde
  /-- it does not mark the end of the program -/
  marca : m''.estado.estadoRafaga = m'.estado.estadoRafaga

/-- **Every return of the sequence goes back to its call**, in the execution from a machine. -/
def Secuencia.Restauran (F : UmvFiel E base) : Secuencia → Maquina σ → Prop
  | .fin, _ => True
  | .accion a resto, m => ∀ m', a.paso E m = some m' → resto.Restauran F m'
  | .llamada etiqueta donde cuerpo retorno resto, m =>
      ∀ m₁ m₂ m₃, (entrada etiqueta donde).paso E m = some m₁ →
        ejecutarTodas E cuerpo.acciones m₁ = some m₂ →
        (salida retorno donde).paso E m₂ = some m₃ →
        cuerpo.Restauran F m₁ ∧ Restaura F donde retorno cuerpo.escritas m m₂ m₃ ∧
          resto.Restauran F m₃

theorem trasAccion_simple {a : Accion} (ha : a.simple = true) (p : Pila) (pc : U32) :
    p.trasAccion pc a = p.trasSimple a := by
  cases a with
  | traer => rfl
  | primitiva a =>
      cases a with
      | llamarSinRetorno etiqueta => exact (Bool.false_ne_true ha).elim
      | llamarConRetorno etiqueta donde => exact (Bool.false_ne_true ha).elim
      | finalizar => exact (Bool.false_ne_true ha).elim
      | retornar retorno => exact (Bool.false_ne_true ha).elim
      | _ => rfl

theorem Secuencia.escritas_accion {a : Accion} (ha : a.simple = true) (p : Pila)
    {resto : Secuencia} :
    (Secuencia.accion a resto).escritas = p.escribeAccion a ++ resto.escritas := by
  cases a with
  | traer => rfl
  | primitiva a =>
      cases a with
      | retornar retorno => exact (Bool.false_ne_true ha).elim
      | _ => rfl

/-- A sequence in the body of a call leaves the header and the callers alone. -/
theorem Secuencia.tras_marco (s : Secuencia) (p : Pila) (pc : U32) (donde : Option TPuntero)
    (c : ℕ) : ∃ c', s.tras (.marco p pc donde c) = .marco p pc donde c' := by
  induction s generalizing c with
  | fin => exact ⟨c, rfl⟩
  | accion a resto ih =>
      rw [Secuencia.tras]
      obtain ⟨c₁, h₁⟩ : ∃ c₁, (Pila.marco p pc donde c).trasSimple a = .marco p pc donde c₁ := by
        rw [Pila.trasSimple.eq_def]
        split
        · exact ⟨c + 1, rfl⟩
        · exact ⟨c, rfl⟩
      rw [h₁]
      exact ih c₁
  | llamada etiqueta d cuerpo retorno resto _ ih => exact ih c

theorem Pila.Fijo.trasSimple {i : ℕ} (h : p.Fijo i) (a : Accion) : (p.trasSimple a).Fijo i := by
  rw [Pila.trasSimple.eq_def]
  split
  · exact h.conCelda
  · exact h

theorem Pila.tope_le_trasSimple (p : Pila) (a : Accion) : p.tope ≤ (p.trasSimple a).tope := by
  rw [Pila.trasSimple.eq_def]
  split
  · rw [Pila.tope_conCelda]
    omega
  · exact le_rfl

/-! ### Returns go back to their calls -/

theorem entrada_pila {etiqueta : Texto} {donde : Option TPuntero} (h : PilaBien F m p)
    (hdonde : ∀ dir ∈ donde, p.Apunta base dir)
    (hpaso : (entrada etiqueta donde).paso E m = some m') (herr : m'.errores = m.errores) :
    PilaBien F m' (.marco p m.estado.pcb.programCounter donde 0) ∧ Conserva F p.tope [] m m' := by
  cases donde with
  | none => exact paso_pila (a := entrada etiqueta none) h trivial hpaso herr
  | some dir => exact paso_pila (a := entrada etiqueta (some dir)) h (hdonde dir rfl) hpaso herr

/-- What a return does. -/
theorem salida_pila {retorno : U32} {donde : Option TPuntero} {pc : U32} {c : ℕ}
    (h : PilaBien F m (.marco p pc donde c)) (hpaso : (salida retorno donde).paso E m = some m')
    (herr : m'.errores = m.errores) :
    PilaBien F m' p ∧ m'.estado.pcb.programCounter = pc ∧
      m'.estado.estadoRafaga = m.estado.estadoRafaga ∧
      F.bytes m' = conResultado base (F.bytes m) retorno donde := by
  cases donde with
  | none =>
      obtain rfl : finalizar E m = m' := Option.some_inj.1 hpaso
      obtain ⟨hpila, hbytes, hpc, hraf⟩ := finalizar_pila h herr
      exact ⟨hpila, hpc, hraf, hbytes⟩
  | some dir =>
      obtain rfl : retornar E retorno m = m' := Option.some_inj.1 hpaso
      obtain ⟨hpila, hbytes, hpc, hraf⟩ := retornar_pila h retorno herr
      exact ⟨hpila, hpc, hraf, hbytes⟩

/-- A return writes its result and nothing else. -/
theorem conserva_resultado {donde : Option TPuntero} {retorno : U32} {n : ℕ}
    (h : F.bytes m' = conResultado base (F.bytes m) retorno donde) :
    Conserva F n donde.toList m m' := by
  cases donde with
  | none => exact Conserva.of_bytes h
  | some dir =>
      intro i _ hfuera
      have := hfuera dir (by simp)
      rw [h, conResultado, SegMem.getD_overwrite, if_neg (by omega)]

/-- Two machines that agree with one stack, and with bytes that differ in values only, look up the
same variables. -/
theorem dictionaryGet_eq (h : PilaBien F m p) (h' : PilaBien F m' p)
    (hfijos : ∀ i, p.Fijo i → (F.bytes m').getD i 0#8 = (F.bytes m).getD i 0#8) (nombre : Byte) :
    dictionaryGet m'.estado.diccionarioVariables nombre =
      dictionaryGet m.estado.diccionarioVariables nombre := by
  rw [dictionaryGet, dictionaryGet, h'.diccionario.get, h.diccionario.get,
    Pila.nombres_congr hfijos]

/-- **A well-nested sequence goes back to the context where it started**, every return in it goes
back to its call, and of the bytes below only the values assigned change. -/
theorem secuencia_pila {s : Secuencia} (h : PilaBien F m p) (hs : s.BienAnidada base p)
    (hrun : ejecutarTodas E s.acciones m = some m') (herr : m'.errores = m.errores) :
    PilaBien F m' (s.tras p) ∧
      (∀ i, p.Fijo i → (F.bytes m').getD i 0#8 = (F.bytes m).getD i 0#8) ∧
      Conserva F p.tope s.escritas m m' ∧ s.Restauran F m := by
  induction s generalizing m m' p with
  | fin =>
      obtain rfl := Option.some_inj.1 hrun
      exact ⟨h, fun i _ => rfl, Conserva.of_bytes rfl, trivial⟩
  | accion a resto ih =>
      obtain ⟨hsimple, hpermite, hresto⟩ := hs
      obtain ⟨m₁, hpaso, hrun⟩ := Option.bind_eq_some_iff.1 hrun
      have hle := errores_le_paso hpaso
      have hle' := errores_le_ejecutarTodas hrun
      have herr₁ : m₁.errores = m.errores := by omega
      obtain ⟨h₁, hcons⟩ := paso_pila h hpermite hpaso herr₁
      have hfijos (i : ℕ) (hi : p.Fijo i) := paso_fijos h hpermite hpaso herr₁ hi
      rw [trasAccion_simple hsimple] at h₁
      obtain ⟨h', hfijos', hcons', hrest'⟩ := ih h₁ hresto hrun (by omega)
      refine ⟨h', fun i hi => ?_, ?_, ?_⟩
      · rw [hfijos' i (hi.trasSimple a), hfijos i hi]
      · rw [Secuencia.escritas_accion hsimple p]
        exact hcons.trans hcons' (p.tope_le_trasSimple a)
      · intro m₂ hpaso₂
        obtain rfl := Option.some_inj.1 (hpaso.symm.trans hpaso₂)
        exact hrest'
  | llamada etiqueta donde cuerpo retorno resto ihc ihr =>
      obtain ⟨hdonde, hcuerpo, hresto⟩ := hs
      obtain ⟨m₁, hentra, hrun⟩ := Option.bind_eq_some_iff.1 hrun
      rw [ejecutarTodas_append] at hrun
      obtain ⟨m₂, hcuer, hrun⟩ := Option.bind_eq_some_iff.1 hrun
      obtain ⟨m₃, hsale, hrun⟩ := Option.bind_eq_some_iff.1 hrun
      have hle₁ := errores_le_paso hentra
      have hle₂ := errores_le_ejecutarTodas hcuer
      have hle₃ := errores_le_paso hsale
      have hle₄ := errores_le_ejecutarTodas hrun
      -- in, the body, out, and the rest: the errors only grow, so there is none in any of them
      obtain ⟨h₁, hcons₁⟩ := entrada_pila h hdonde hentra (by omega)
      obtain ⟨h₂, hfijos₂, hcons₂, hrest₂⟩ := ihc h₁ (hcuerpo _) hcuer (by omega)
      obtain ⟨c, hc⟩ := cuerpo.tras_marco p m.estado.pcb.programCounter donde 0
      rw [hc] at h₂
      obtain ⟨h₃, hpc, hraf, hres⟩ := salida_pila h₂ hsale (by omega)
      obtain ⟨h', hfijos', hcons', hrest'⟩ := ihr h₃ hresto hrun (by omega)
      have hcons₃ (n : ℕ) : Conserva F n donde.toList m₂ m₃ := conserva_resultado hres
      have hmarco : p.tope ≤ (Pila.marco p m.estado.pcb.programCounter donde 0).tope := by
        simp only [Pila.tope]
        omega
      have hcons : Conserva F p.tope (cuerpo.escritas ++ donde.toList) m m₃ :=
        (hcons₁.trans hcons₂ hmarco).trans (hcons₃ p.tope) le_rfl
      -- the names of the caller are not values, so the body cannot have written them
      have hfijos (i : ℕ) (hi : p.Fijo i) : (F.bytes m₃).getD i 0#8 = (F.bytes m).getD i 0#8 := by
        rw [hcons₃ p.tope i hi.1 (hi.fuera h.tope_lt fun dir hdir =>
          hdonde dir (by simpa using hdir)), hfijos₂ i hi.marco, hcons₁ i hi.1 (by simp [Fuera])]
      refine ⟨h', fun i hi => by rw [hfijos' i hi, hfijos i hi], ?_, ?_⟩
      · rw [Secuencia.escritas, ← List.append_assoc]
        exact hcons.trans hcons' le_rfl
      · -- the actions are determined, so these are the machines of any other account of the run
        intro n₁ n₂ n₃ hn₁ hn₂ hn₃
        obtain rfl := Option.some_inj.1 (hentra.symm.trans hn₁)
        obtain rfl := Option.some_inj.1 (hcuer.symm.trans hn₂)
        obtain rfl := Option.some_inj.1 (hsale.symm.trans hn₃)
        refine ⟨hrest₂, ⟨?_, ?_, hpc, dictionaryGet_eq h h₃ hfijos, ?_, hres, hraf⟩, hrest'⟩
        · rw [h₃.cursorStack, h.cursorStack]
        · rw [h₃.tamanioContexto, h.tamanioContexto]
        · have htope := h.tope_lt
          have hcursor : (m.estado.pcb.cursorStack - base).toNat = p.tope := by
            rw [h.cursorStack]
            bv_omega
          rw [hcursor]
          exact hcons

/-- **Calls and returns nest.**  In the execution of a well-nested sequence, from a CPU that agrees
with a stack of any depth and without a request answered with an error, every return goes back to
its call; the sequence ends in the context where it started; and there `finalizar` ends the program
if it is the outermost one. -/
theorem llamadas_anidan (F : UmvFiel E base) {s : Secuencia} (h : PilaBien F m p)
    (hs : s.BienAnidada base p) (hrun : ejecutarTodas E s.acciones m = some m')
    (herr : m'.errores = m.errores) :
    s.Restauran F m ∧ PilaBien F m' (s.tras p) ∧
      ∀ c, s.tras p = .base c → finalizar E m' = m'.conRafaga .notificarPorFinPrograma := by
  obtain ⟨h', -, -, hrest⟩ := secuencia_pila h hs hrun herr
  refine ⟨hrest, h', fun c hc => ?_⟩
  rw [hc] at h'
  exact finalizar_base h'

/-! ### A call with a result, and a call in it -/

/-- A kernel that lets every program go on. -/
def nucleoContinuar : Nucleo Unit where
  consultar := fun _ _ => (.continuar, ())
  enviar := fun _ _ => ()
  basura := fun _ => (0#32, ())

/-- A CPU for the process `1`, whose stack is the segment `16` of sixty-four bytes, empty. -/
def maquinaInicial : Maquina (Mundo Unit) where
  estado :=
    { pcb := { pcbSegfault with segmentoStack := 16#32, cursorStack := 16#32 }
      diccionarioVariables := HashTable.empty 20
      bloqueEtiquetas := []
      inicioContexto := 16#32
      quantumDeEjecucion := 3#32
      estadoRafaga := .notificarPorFinRafaga }
  entorno := ⟨SegMem.create SegMem.empty 1#32 16#32 (List.replicate 64 0#8), 1#32, ()⟩
  enviados := []
  errores := 0

/-- `variables a`, and then `a <- f`, whose body defines `b` and calls a function that assigns
`a`. -/
def secuenciaDosLlamadas : Secuencia :=
  .accion (.primitiva (.definirVariable 97#8)) <|
    .llamada "f".toList (some 17#32)
      (.accion (.primitiva (.definirVariable 98#8)) <|
        .llamada "g".toList none (.accion (.primitiva (.asignar 17#32 9#32)) .fin) 0#32 .fin)
      7#32 .fin

theorem pilaBien_inicial : PilaBien (fielUmv nucleoContinuar 16#32) maquinaInicial (.base 0) where
  segmentoStack := rfl
  cursorStack := rfl
  tamanioContexto := rfl
  tope := by decide
  tamanio := by decide
  cabeceras := trivial
  diccionario := HashTable.represents_empty (by decide)

theorem secuenciaDosLlamadas_bienAnidada : secuenciaDosLlamadas.BienAnidada 16#32 (.base 0) := by
  have hcelda {p : Pila} (h : p.EsCelda 1) : p.Apunta 16#32 17#32 := ⟨1, h, rfl⟩
  refine ⟨rfl, trivial, ?_, fun pc => ⟨rfl, trivial, ?_, fun pc' => ⟨rfl, ?_, trivial⟩, trivial⟩,
    trivial⟩
  · rintro dir ⟨⟩
    exact hcelda ⟨0, by decide, rfl⟩
  · rintro dir ⟨⟩
  · exact hcelda (Or.inl (Or.inl ⟨0, by decide, rfl⟩))

/-- The sequence runs, without errors. -/
theorem ejecutarTodas_dosLlamadas :
    ∃ m', ejecutarTodas (entornoUmv nucleoContinuar) secuenciaDosLlamadas.acciones maquinaInicial =
      some m' ∧ m'.errores = 0 := by
  have h : (ejecutarTodas (entornoUmv nucleoContinuar) secuenciaDosLlamadas.acciones
      maquinaInicial).map (·.errores) = some 0 := by decide +kernel
  obtain ⟨m', hrun, herr⟩ := Option.map_eq_some_iff.1 h
  exact ⟨m', hrun, herr⟩

theorem llamadas_anidan_dosLlamadas :
    secuenciaDosLlamadas.Restauran (fielUmv nucleoContinuar 16#32) maquinaInicial := by
  obtain ⟨m', hrun, herr⟩ := ejecutarTodas_dosLlamadas
  exact (llamadas_anidan (fielUmv nucleoContinuar 16#32) pilaBien_inicial
    secuenciaDosLlamadas_bienAnidada hrun herr).1

end Ansisop.Cpu
