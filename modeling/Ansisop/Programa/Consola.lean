/-
**What a program prints.**

The kernel sends each text that a script prints, and at the end a closing one, with its NUL and
nothing else.  The client reads up to 1024 bytes at a time into one array and prints the array as a
string, up to its first NUL.  Nothing acknowledges a print, so that a read may give a part of a
text, or several texts together.

Main definitions:

* `Ansisop.Programa.imprimir` — `printf("%s\n", package)`;
* `Ansisop.Programa.Consola`, `Ansisop.Programa.PasoConsola` — the kernel and the client of one
  program;
* `Ansisop.Programa.Consola.Fiel` — every text is shown once, complete and in order.

Main results:

* `Ansisop.Programa.salida_completa` — **what is shown is what was sent, exactly as long as every
  read gives one text with its NUL**;
* `Ansisop.Programa.no_salida_completa` — of two texts that arrive together the second one is never
  shown.
-/

import Ansisop.Lib.Pipe
import Ansisop.Lib.Runs
import Ansisop.Protocolo.Tipos
import Mathlib.Data.List.TakeWhile

set_option relaxedAutoImplicit false
set_option autoImplicit false

namespace Ansisop.Programa

/-! ### The texts -/

/-- The characters of a string of the source. -/
def caracteres (texto : String) : List Byte := texto.toList.map fun c => BitVec.ofNat 8 c.toNat

/-- What `send` is given of a text: its characters and the NUL. -/
def conNul (texto : List Byte) : List Byte := texto ++ [0#8]

/-- `string_itoa`, of an `int`. -/
def stringItoa (valor : U32) : List Byte := caracteres (toString valor.toInt)

/-- The text that `terminarPrograma` sends. -/
def terminoLaEjecucion : List Byte := caracteres "Termino la ejecucion"

/-- `sizeof(package)`. -/
def sizePackage : ℕ := 1024

/-- `recv` into `package`: the bytes after those that it gave stay what they were. -/
def escribir (package : ℕ → Byte) (leido : List Byte) : ℕ → Byte :=
  fun i => if i < leido.length then leido.getD i 0#8 else package i

/-- **`printf("%s\n", package)`**: the bytes before the first NUL; without one in the array it reads
on after the array, and has no result. -/
def imprimir (package : ℕ → Byte) : Option (List Byte) :=
  let bytes := (List.range sizePackage).map package
  if 0#8 ∈ bytes then some (bytes.takeWhile (· ≠ 0#8)) else none

/-! ### The kernel and the client -/

/-- Where the client is.  The first `recv` comes before the loop, and what it gave is printed in any
case. -/
inductive Lugar
  | primera
  | recibe
  | muestra
  | fin
  | indefinido
deriving DecidableEq

/-- **The console of a program**, with the texts that were sent, those that were shown, and all the
bytes that were read. -/
structure Consola where
  canal : Pipe Byte
  cerrado : Bool
  package : ℕ → Byte
  lugar : Lugar
  enviados : List (List Byte)
  mostrados : List (List Byte)
  leidos : List Byte

inductive EventoConsola
  | imprimirTexto (texto : List Byte)
  | imprimirVariable (valor : U32)
  | terminarPrograma
  | llega (n : ℕ)
  | recibe
  | muestra
  | desconexion

namespace Consola

/-- The kernel sends a text. -/
def enviar (s : Consola) (texto : List Byte) : Consola :=
  { s with canal := s.canal.send (conNul texto), enviados := s.enviados ++ [texto] }

/-- What `recv` is about to give. -/
def siguiente (s : Consola) : List Byte := s.canal.arrived.take sizePackage

/-- The client has read. -/
def recibir (s : Consola) : Consola :=
  { s with
    canal := s.canal.consume sizePackage
    package := escribir s.package s.siguiente
    lugar := .muestra
    leidos := s.leidos ++ s.siguiente }

/-- The client has printed a text. -/
def mostrado (s : Consola) (despues : Lugar) : Option (List Byte) → Consola
  | some texto => { s with lugar := despues, mostrados := s.mostrados ++ [texto] }
  | none => { s with lugar := .indefinido }

/-- The client prints `package`. -/
def mostrar (s : Consola) (despues : Lugar) : Consola := s.mostrado despues (imprimir s.package)

end Consola

/-- **The steps.**  The kernel sends and closes; the bytes arrive in pieces; `recv` waits for some,
and gives nothing when the connection was closed and all was read. -/
inductive PasoConsola (s : Consola) : EventoConsola → Consola → Prop
  | imprimirTexto {texto : List Byte} : s.cerrado = false → 0#8 ∉ texto →
      PasoConsola s (.imprimirTexto texto) (s.enviar texto)
  | imprimirVariable {valor : U32} : s.cerrado = false →
      PasoConsola s (.imprimirVariable valor) (s.enviar (stringItoa valor))
  | terminarPrograma : s.cerrado = false →
      PasoConsola s .terminarPrograma { s.enviar terminoLaEjecucion with cerrado := true }
  | llega {n : ℕ} : 0 < n → n ≤ s.canal.inFlight.length →
      PasoConsola s (.llega n) { s with canal := s.canal.deliver n }
  | recibe : s.lugar = .primera ∨ s.lugar = .recibe → s.canal.arrived ≠ [] →
      PasoConsola s .recibe s.recibir
  | muestra : s.lugar = .muestra → PasoConsola s .muestra (s.mostrar .recibe)
  | primeraVacia : s.lugar = .primera → s.cerrado = true → s.canal.content = [] →
      PasoConsola s .desconexion (s.mostrar .fin)
  | desconexion : s.lugar = .recibe → s.cerrado = true → s.canal.content = [] →
      PasoConsola s .desconexion { s with lugar := .fin }

/-- The start: nothing was sent, and nothing has initialised `package`. -/
structure Consola.Inicial (s : Consola) : Prop where
  canal : s.canal = .empty
  cerrado : s.cerrado = false
  lugar : s.lugar = .primera
  enviados : s.enviados = []
  mostrados : s.mostrados = []
  leidos : s.leidos = []

/-- **Every text is shown once, complete and in order**: what is shown is what was sent, all of it
when the client ends, and what was read is what is shown, with the NULs. -/
structure Consola.Fiel (s : Consola) : Prop where
  definido : s.lugar ≠ .indefinido
  mostrados : s.mostrados <+: s.enviados
  leidos : s.lugar ≠ .muestra → s.leidos = s.mostrados.flatMap conNul
  fin : s.lugar = .fin → s.mostrados = s.enviados

/-- **A read gives one text with its NUL.** -/
def EventoConsola.UnTexto (s : Consola) : EventoConsola → Prop
  | recibe => ∃ texto, 0#8 ∉ texto ∧ s.siguiente = conNul texto
  | _ => True

variable {s t : Consola} {texto : List Byte} {ev : EventoConsola}

/-! ### What is printed -/

/-- The characters of a number are digits and a sign. -/
theorem stringItoa_sinNul (valor : U32) : 0#8 ∉ stringItoa valor := by
  have hdigito (n : ℕ) : 0#8 ∉ caracteres (toString n) := by
    intro h
    obtain ⟨c, hc, hcero⟩ := List.mem_map.1 h
    have hc' : c ∈ Nat.toDigits 10 n := by rwa [← Nat.toList_repr]
    have hdig : c.isDigit = true := Nat.isDigit_of_mem_toDigits (by omega) le_rfl hc'
    obtain ⟨hdesde, hhasta⟩ := Char.isDigit_iff_toNat.1 hdig
    have h₀ : '0'.toNat = 48 := rfl
    have h₉ : '9'.toNat = 57 := rfl
    have hval : c.toNat % 256 = 0 := congrArg BitVec.toNat hcero
    omega
  rw [stringItoa]
  cases valor.toInt with
  | ofNat n => exact hdigito n
  | negSucc n =>
      show 0#8 ∉ caracteres ("-" ++ toString (n + 1))
      rw [caracteres, String.toList_append, List.map_append, List.mem_append, not_or]
      exact ⟨by decide, hdigito (n + 1)⟩

theorem terminoLaEjecucion_sinNul : 0#8 ∉ terminoLaEjecucion := by
  simp [terminoLaEjecucion, caracteres]

/-- The array starts with what was read last. -/
theorem map_escribir (package : ℕ → Byte) {leido : List Byte} (hlen : leido.length ≤ sizePackage) :
    (List.range sizePackage).map (escribir package leido) =
      leido ++ ((List.range sizePackage).map package).drop leido.length := by
  refine List.ext_getElem (by simp; omega) fun i hi _ => ?_
  rw [List.length_map, List.length_range] at hi
  rw [List.getElem_map, List.getElem_range, escribir]
  split
  · rename_i hlt
    rw [List.getElem_append_left hlt, List.getD_eq_getElem?_getD, List.getElem?_eq_getElem hlt]
    rfl
  · rename_i hle
    rw [List.getElem_append_right (by omega), List.getElem_drop, List.getElem_map,
      List.getElem_range]
    congr 1
    omega

/-- A text without NULs ends at the first NUL. -/
theorem takeWhile_conNul (h : 0#8 ∉ texto) (resto : List Byte) :
    (conNul texto ++ resto).takeWhile (· ≠ 0#8) = texto := by
  rw [conNul, List.append_assoc, List.takeWhile_append_of_pos]
  · simp
  · intro b hb
    have : b ≠ 0#8 := fun hcero => h (hcero ▸ hb)
    simpa using this

/-- Of what was read last, the text before the first NUL is printed. -/
theorem imprimir_escribir {package : ℕ → Byte} {leido : List Byte} (resto : List Byte)
    (h : 0#8 ∉ texto) (hleido : leido = conNul texto ++ resto) (hlen : leido.length ≤ sizePackage) :
    imprimir (escribir package leido) = some texto := by
  subst hleido
  rw [imprimir, map_escribir package hlen, List.append_assoc]
  have hnul : 0#8 ∈ conNul texto := List.mem_append_right _ (List.mem_singleton.2 rfl)
  rw [if_pos (List.mem_append_left _ hnul), takeWhile_conNul h]

/-- What is printed has no NUL. -/
theorem sinNul_of_imprimir {package : ℕ → Byte} (h : imprimir package = some texto) :
    0#8 ∉ texto := by
  rw [imprimir] at h
  obtain ⟨-, h⟩ := Option.ite_none_right_eq_some.1 h
  obtain rfl := Option.some_inj.1 h
  intro hcero
  simpa using List.mem_takeWhile_imp hcero

/-! ### What is shown -/

/-- Of the texts that were read all are shown, but for the one that is about to be printed. -/
def Consola.PorMostrar (s : Consola) (vistos : List (List Byte)) : Prop :=
  match s.lugar with
  | .muestra => ∃ texto, imprimir s.package = some texto ∧ vistos = s.mostrados ++ [texto]
  | .indefinido => False
  | _ => vistos = s.mostrados

/-- **The invariant**: the texts that were sent are those that were read, and those that are still
in the pipe, in order and with their NULs. -/
structure Consola.Bien (s : Consola) (vistos pendientes : List (List Byte)) : Prop where
  enviados : s.enviados = vistos ++ pendientes
  sinNul : ∀ texto ∈ pendientes, 0#8 ∉ texto
  canal : s.canal.content = pendientes.flatMap conNul
  leidos : s.leidos = vistos.flatMap conNul
  mostrar : s.PorMostrar vistos
  primera : s.lugar = .primera → s.cerrado = true → pendientes ≠ []
  fin : s.lugar = .fin → s.cerrado = true ∧ pendientes = []

theorem Consola.Inicial.bien (h : s.Inicial) : s.Bien [] [] where
  enviados := h.enviados
  sinNul := nofun
  canal := by rw [h.canal]; rfl
  leidos := h.leidos
  mostrar := by rw [PorMostrar, h.lugar, h.mostrados]
  primera := fun _ hc => by simp [h.cerrado] at hc
  fin := fun hf => by simp [h.lugar] at hf

/-- With nothing in the pipe every text was read. -/
theorem Consola.Bien.nada {vistos pendientes : List (List Byte)} (h : s.Bien vistos pendientes)
    (hcanal : s.canal.content = []) : pendientes = [] := by
  rw [h.canal] at hcanal
  cases pendientes with
  | nil => rfl
  | cons texto resto => exact absurd hcanal (by simp [conNul])

/-- What is sent comes last. -/
theorem Consola.Bien.enviar {vistos pendientes : List (List Byte)} (h : s.Bien vistos pendientes)
    (hcerrado : s.cerrado = false) (ht : 0#8 ∉ texto) (cerrado : Bool) :
    Consola.Bien { s.enviar texto with cerrado } vistos (pendientes ++ [texto]) where
  enviados := by rw [← List.append_assoc, ← h.enviados]; rfl
  sinNul := by
    intro texto' ht'
    obtain ht' | ht' := List.mem_append.1 ht'
    · exact h.sinNul texto' ht'
    · exact List.mem_singleton.1 ht' ▸ ht
  canal := by
    show (s.canal.send (conNul texto)).content = _
    rw [Pipe.content_send, h.canal, List.flatMap_append, List.flatMap_singleton]
  leidos := h.leidos
  mostrar := h.mostrar
  primera := fun _ _ => by simp
  fin := fun hf => absurd (hcerrado.symm.trans (h.fin hf).1) (by simp)

/-- The pipe starts with the first text that was not read, and a NUL. -/
theorem Consola.Bien.siguiente {vistos pendientes : List (List Byte)} (h : s.Bien vistos pendientes)
    (ht : 0#8 ∉ texto) (hs : s.siguiente = conNul texto) :
    ∃ resto, pendientes = texto :: resto ∧
    (s.canal.consume sizePackage).content = resto.flatMap conNul := by
  have hcanal : s.siguiente ++ (s.canal.consume sizePackage).content = pendientes.flatMap conNul :=
    Pipe.content_consume.symm.trans h.canal
  rw [hs] at hcanal
  cases pendientes with
  | nil => exact absurd hcanal (by simp [conNul])
  | cons texto' resto =>
      rw [List.flatMap_cons] at hcanal
      have htexto := congrArg (List.takeWhile (· ≠ 0#8)) hcanal
      rw [takeWhile_conNul ht, takeWhile_conNul (h.sinNul texto' List.mem_cons_self)] at htexto
      subst htexto
      exact ⟨resto, rfl, List.append_cancel_left hcanal⟩

theorem Consola.length_siguiente_le (s : Consola) : s.siguiente.length ≤ sizePackage := by
  rw [Consola.siguiente, List.length_take]
  exact Nat.min_le_left _ _

/-- **A read of one text**: it is in `package`, about to be printed. -/
theorem Consola.Bien.recibir {vistos pendientes : List (List Byte)} (h : s.Bien vistos pendientes)
    (hl : s.lugar = .primera ∨ s.lugar = .recibe) (ht : 0#8 ∉ texto)
    (hs : s.siguiente = conNul texto) : ∃ resto, s.recibir.Bien (vistos ++ [texto]) resto := by
  obtain ⟨resto, rfl, hresto⟩ := h.siguiente ht hs
  have hvistos : vistos = s.mostrados := by
    have := h.mostrar
    rw [PorMostrar] at this
    rcases hl with hl | hl <;> rwa [hl] at this
  refine ⟨resto, ?_, fun t ht => h.sinNul t (List.mem_cons_of_mem _ ht), hresto, ?_, ?_, ?_, ?_⟩
  · rw [List.append_assoc]
    exact h.enviados
  · show s.leidos ++ s.siguiente = _
    rw [h.leidos, hs, List.flatMap_append, List.flatMap_singleton]
  · refine ⟨texto, ?_, by rw [hvistos]; rfl⟩
    exact imprimir_escribir [] ht (by rw [hs, List.append_nil]) s.length_siguiente_le
  · exact fun hp => absurd hp (by simp [Consola.recibir])
  · exact fun hp => absurd hp (by simp [Consola.recibir])

/-- **Every step whose read gives one text keeps the invariant.** -/
theorem PasoConsola.bien (hp : PasoConsola s ev t) (hev : ev.UnTexto s)
    (hs : ∃ vistos pendientes, s.Bien vistos pendientes) :
    ∃ vistos pendientes, t.Bien vistos pendientes := by
  obtain ⟨vistos, pendientes, h⟩ := hs
  have hmostrar := h.mostrar
  rw [Consola.PorMostrar] at hmostrar
  cases hp with
  | imprimirTexto hc ht => exact ⟨_, _, h.enviar hc ht s.cerrado⟩
  | imprimirVariable hc => exact ⟨_, _, h.enviar hc (stringItoa_sinNul _) s.cerrado⟩
  | terminarPrograma hc => exact ⟨_, _, h.enviar hc terminoLaEjecucion_sinNul true⟩
  | llega _ _ =>
      exact ⟨vistos, pendientes, h.enviados, h.sinNul, Pipe.content_deliver.trans h.canal, h.leidos,
        h.mostrar, h.primera, h.fin⟩
  | recibe hl _ =>
      obtain ⟨texto, ht, hsig⟩ := hev
      obtain ⟨resto, hresto⟩ := h.recibir hl ht hsig
      exact ⟨_, _, hresto⟩
  | muestra hl =>
      rw [hl] at hmostrar
      obtain ⟨texto, himprime, hvistos⟩ := hmostrar
      rw [Consola.mostrar, himprime]
      exact ⟨vistos, pendientes, h.enviados, h.sinNul, h.canal, h.leidos, hvistos, nofun, nofun⟩
  | primeraVacia hl hc hcanal => exact absurd (h.nada hcanal) (h.primera hl hc)
  | desconexion hl hc hcanal =>
      rw [hl] at hmostrar
      exact ⟨vistos, pendientes, h.enviados, h.sinNul, h.canal, h.leidos, hmostrar, nofun,
        fun _ => ⟨hc, h.nada hcanal⟩⟩

/-- The runs in which every read gives one text. -/
def CorridaConsola : Consola → List EventoConsola → Consola → Prop :=
  Lts.Run (Lts.restrict (fun s ev => ev.UnTexto s) PasoConsola)

theorem CorridaConsola.bien {tr : List EventoConsola} (h : CorridaConsola s tr t) (hs : s.Inicial) :
    ∃ vistos pendientes, t.Bien vistos pendientes :=
  Lts.Run.invariant (I := fun s => ∃ vistos pendientes, s.Bien vistos pendientes)
    (fun _ _ _ hu hp => hp.2.bien hp.1 hu) h ⟨_, _, hs.bien⟩

theorem Consola.Bien.fiel {vistos pendientes : List (List Byte)} (h : s.Bien vistos pendientes) :
    s.Fiel := by
  have hmostrar := h.mostrar
  rw [Consola.PorMostrar] at hmostrar
  have hvistos (hl : s.lugar ≠ .muestra) : vistos = s.mostrados := by
    split at hmostrar
    · rename_i hm
      exact absurd hm hl
    · exact hmostrar.elim
    · exact hmostrar
  refine ⟨fun hl => by simp [hl] at hmostrar, ?_, fun hl => by rw [h.leidos, hvistos hl],
    fun hl => ?_⟩
  · rw [h.enviados]
    by_cases hl : s.lugar = .muestra
    · rw [hl] at hmostrar
      obtain ⟨texto, -, rfl⟩ := hmostrar
      rw [List.append_assoc]
      exact List.prefix_append _ _
    · exact hvistos hl ▸ List.prefix_append _ _
  · rw [h.enviados, (h.fin hl).2, List.append_nil, hvistos (by simp [hl])]

/-- **A read that does not give one text** is shown as something else, or as what was not read. -/
theorem Consola.Fiel.otra_cosa (h : s.Fiel) (hp : PasoConsola s .recibe t)
    (hno : ¬ EventoConsola.recibe.UnTexto s) : ∃ u, PasoConsola t .muestra u ∧ ¬ u.Fiel := by
  cases hp with
  | recibe hl _ =>
      refine ⟨_, .muestra rfl, fun hfiel => ?_⟩
      obtain himprime | ⟨texto, himprime⟩ := Option.eq_none_or_eq_some (imprimir s.recibir.package)
      · rw [Consola.mostrar, himprime] at hfiel
        exact hfiel.definido rfl
      · rw [Consola.mostrar, himprime] at hfiel
        have hleidos : s.leidos ++ s.siguiente = (s.mostrados ++ [texto]).flatMap conNul :=
          hfiel.leidos nofun
        rw [h.leidos (by rcases hl with hl | hl <;> simp [hl]), List.flatMap_append,
          List.flatMap_singleton] at hleidos
        exact hno ⟨texto, sinNul_of_imprimir himprime, List.append_cancel_left hleidos⟩

/-- **What is shown is what was sent, exactly as long as every read gives one text with its NUL.**
In every run in which every `recv` does, every text is shown once, complete and in order, and all of
them when the client ends; and a `recv` that gives anything else is shown as something that was not
read in it, or not as all that was. -/
theorem salida_completa {s₀ s : Consola} {tr : List EventoConsola} (hs : s₀.Inicial)
    (h : CorridaConsola s₀ tr s) :
    s.Fiel ∧ ∀ t, PasoConsola s .recibe t → ¬ EventoConsola.recibe.UnTexto s →
      ∃ u, PasoConsola t .muestra u ∧ ¬ u.Fiel := by
  obtain ⟨vistos, pendientes, hbien⟩ := h.bien hs
  exact ⟨hbien.fiel, fun t hp hno => hbien.fiel.otra_cosa hp hno⟩

/-- The console at the start. -/
def consolaNueva : Consola := ⟨.empty, false, fun _ => 7#8, .primera, [], [], []⟩

theorem inicial_consolaNueva : consolaNueva.Inicial := ⟨rfl, rfl, rfl, rfl, rfl, rfl⟩

/-- **A text that is all there is in the channel** is shown, when it arrives whole. -/
theorem CorridaConsola.turno {s₀ s : Consola} {tr : List EventoConsola} (h : CorridaConsola s₀ tr s)
    {texto : List Byte} (hcanal : s.canal = ⟨[], conNul texto⟩)
    (hlugar : s.lugar = .primera ∨ s.lugar = .recibe) (hnul : 0#8 ∉ texto)
    (hlargo : texto.length < sizePackage) :
    ∃ t, CorridaConsola s₀ (tr ++ [.llega (texto.length + 1), .recibe, .muestra]) t ∧
      t.canal = .empty ∧ t.lugar = .recibe ∧ t.cerrado = s.cerrado ∧
      t.mostrados = s.mostrados ++ [texto] := by
  have hlen : (conNul texto).length = texto.length + 1 := List.length_append
  have hllega : s.canal.deliver (texto.length + 1) = ⟨conNul texto, []⟩ := by
    simp only [hcanal, Pipe.deliver, List.nil_append, ← hlen, List.take_length, List.drop_length]
  have hpaso : PasoConsola s (.llega (texto.length + 1)) { s with
      canal := ⟨conNul texto, []⟩ } := by
    rw [← hllega]
    exact .llega (Nat.succ_pos _) (by rw [hcanal, hlen])
  generalize hu : ({ s with canal := ⟨conNul texto, []⟩ } : Consola) = u at hpaso
  have hcanal' : u.canal = ⟨conNul texto, []⟩ := by rw [← hu]
  have hlugar' : u.lugar = .primera ∨ u.lugar = .recibe := by
    rw [← hu]
    exact hlugar
  have hsiguiente : u.siguiente = conNul texto := by
    rw [Consola.siguiente, hcanal', List.take_of_length_le (hlen ▸ hlargo)]
  have hrecibe : PasoConsola u .recibe u.recibir := .recibe hlugar' (by simp [hcanal', conNul])
  have himprime : imprimir u.recibir.package = some texto :=
    imprimir_escribir [] hnul (by rw [hsiguiente, List.append_nil]) u.length_siguiente_le
  have hmuestra : PasoConsola u.recibir .muestra (u.recibir.mostrado .recibe (some texto)) :=
    himprime ▸ .muestra rfl
  have hunTexto : EventoConsola.recibe.UnTexto u := ⟨texto, hnul, hsiguiente⟩
  have hcorrida := ((Lts.Run.snoc h (e := .llega (texto.length + 1)) ⟨by exact trivial, hpaso⟩).snoc
    ⟨hunTexto, hrecibe⟩).snoc (e := .muestra) ⟨by exact trivial, hmuestra⟩
  rw [List.append_assoc, List.append_assoc] at hcorrida
  refine ⟨_, hcorrida, ?_, rfl, hu ▸ rfl, hu ▸ rfl⟩
  change u.canal.consume sizePackage = .empty
  rw [hcanal', Pipe.consume, List.drop_of_length_le (hlen ▸ hlargo)]
  rfl

/-- Two texts and the closing one, each read before the next one is sent. -/
theorem salida_completa_dosTextos : ∃ s, CorridaConsola consolaNueva
    [.imprimirTexto [97#8], .llega 2, .recibe, .muestra, .imprimirTexto [98#8], .llega 2, .recibe,
      .muestra, .terminarPrograma, .llega 21, .recibe, .muestra, .desconexion] s ∧ s.Fiel ∧
    s.lugar = .fin ∧ s.mostrados = [[97#8], [98#8], terminoLaEjecucion] := by
  have henvia {s : Consola} {texto : List Byte} (hcanal : s.canal = .empty) :
      (s.enviar texto).canal = ⟨[], conNul texto⟩ := by
    rw [Consola.enviar, hcanal]
    rfl
  have hnueva : CorridaConsola consolaNueva [.imprimirTexto [97#8]] (consolaNueva.enviar [97#8]) :=
    Lts.Run.single ⟨trivial, .imprimirTexto rfl (by decide)⟩
  obtain ⟨s₁, h₁, hcanal₁, hlugar₁, hcerrado₁, hmostrados₁⟩ :=
    hnueva.turno (henvia rfl) (Or.inl rfl) (by decide) (by decide)
  have hsegundo : CorridaConsola consolaNueva _ (s₁.enviar [98#8]) :=
    Lts.Run.snoc h₁ (e := .imprimirTexto [98#8])
      ⟨by exact trivial, .imprimirTexto hcerrado₁ (by decide)⟩
  obtain ⟨s₂, h₂, hcanal₂, hlugar₂, hcerrado₂, hmostrados₂⟩ :=
    hsegundo.turno (henvia hcanal₁) (Or.inr hlugar₁) (by decide) (by decide)
  have hcierra :
      CorridaConsola consolaNueva _ { s₂.enviar terminoLaEjecucion with cerrado := true } :=
    Lts.Run.snoc h₂ (e := .terminarPrograma)
      ⟨by exact trivial, .terminarPrograma (hcerrado₂.trans hcerrado₁)⟩
  obtain ⟨s₃, h₃, hcanal₃, hlugar₃, hcerrado₃, hmostrados₃⟩ :=
    hcierra.turno (henvia hcanal₂) (Or.inr hlugar₂) terminoLaEjecucion_sinNul (by decide)
  have hfin : CorridaConsola consolaNueva _ { s₃ with lugar := .fin } :=
    Lts.Run.snoc h₃ (e := .desconexion)
      ⟨by exact trivial, .desconexion hlugar₃ hcerrado₃ (by rw [hcanal₃]; rfl)⟩
  refine ⟨_, hfin, (salida_completa inicial_consolaNueva hfin).1, rfl, ?_⟩
  change s₃.mostrados = _
  rw [hmostrados₃]
  change s₂.mostrados ++ _ = _
  rw [hmostrados₂]
  change (s₁.mostrados ++ _) ++ _ = _
  rw [hmostrados₁]
  rfl

/-- Two texts and the closing one have arrived together. -/
def consolaConDos : Consola :=
  let s := { ((consolaNueva.enviar [97#8]).enviar [98#8]).enviar terminoLaEjecucion with
    cerrado := true }
  { s with canal := s.canal.deliver 25 }

/-- **Of three texts that arrive together only the first one is shown.** -/
theorem no_salida_completa : ¬ ∀ (s₀ s : Consola) (tr : List EventoConsola), s₀.Inicial →
    Lts.Run PasoConsola s₀ tr s → s.lugar = .fin → s.mostrados = s.enviados := by
  intro hclaim
  have henvia :
      Lts.Run PasoConsola consolaNueva [.imprimirTexto [97#8]] (consolaNueva.enviar [97#8]) :=
    Lts.Run.single (.imprimirTexto rfl (by decide))
  have hdos := henvia.snoc (e := .imprimirTexto [98#8]) (.imprimirTexto rfl (by decide))
  have hllega : Lts.Run PasoConsola consolaNueva _ consolaConDos :=
    (hdos.snoc (.terminarPrograma rfl)).snoc (e := .llega 25) (.llega (by decide) (by decide))
  have hmuestra := (hllega.snoc (.recibe (Or.inl rfl) (by decide))).snoc (.muestra rfl)
  have hleido :
      consolaConDos.siguiente = conNul [97#8] ++ (conNul [98#8] ++ conNul terminoLaEjecucion) :=
    rfl
  have himprime : imprimir consolaConDos.recibir.package = some [97#8] :=
    imprimir_escribir _ (by decide) hleido consolaConDos.length_siguiente_le
  rw [Consola.mostrar, himprime] at hmuestra
  have hfin := hmuestra.snoc (.desconexion rfl rfl rfl)
  exact absurd (hclaim _ _ _ inicial_consolaNueva hfin rfl) (by decide)

end Ansisop.Programa
