/-
**The free space that the console shows.**

`fnMostrarEspaciosLibre`, a part of the command `dump`, walks over the segments as the searches do
and logs the number, the base and the size of each free range.  The space after the last segment
comes after the loop, and is logged with the `base` of the loop: that of the free range before, or
what the local variable held if there is none.  The loop logs at the level of debug and the last
entry is logged as information, so that a logger that is set to information drops the entries of the
loop.

Main definitions:

* `Ansisop.Umv.fnMostrarEspaciosLibre` — the entries that are logged;
* `Ansisop.Umv.MuestraHuecos` — the entries are the maximal free ranges, in order.

Main results:

* `Ansisop.Umv.muestra_huecos_iff` — **exactly when the entries are right**;
* `Ansisop.Umv.no_muestra_huecos` — two free ranges are shown with one base.
-/

import Ansisop.Commons.Log
import Ansisop.Umv.Ajuste

set_option relaxedAutoImplicit false
set_option autoImplicit false

namespace Ansisop.Umv

open Commons (logLevelDebug logLevelInfo isEnableLevelInLogger)

/-! ### The code -/

/-- An entry that is handed to the logger. -/
structure EspacioLibre where
  nivel : ℕ
  numero : ℕ
  base : TPuntero
  tamanio : U32
deriving DecidableEq, Repr

/-- The end of `fnMostrarEspaciosLibre`: the space after the last segment. -/
def ultimoEspacio (cantMem posicion : U32) (contadorLibres : ℕ) (base : TPuntero) :
    List EspacioLibre :=
  let cantidad := cantMem - posicion
  if (0#32).slt cantidad then [⟨logLevelInfo, contadorLibres + 1, base, cantidad⟩] else []

/-- The loop of `fnMostrarEspaciosLibre` over the segments. -/
def mostrarEspacios (cantMem : U32) :
    List TipoSegmento → TPuntero → U32 → ℕ → TPuntero → List EspacioLibre
  | [], _, posicion, contadorLibres, base => ultimoEspacio cantMem posicion contadorLibres base
  | nodo :: resto, pMoviendo, posicion, contadorLibres, base =>
      if posicion == cantMem then ultimoEspacio cantMem posicion contadorLibres base
      else
        let (pMoviendo, posicion, cantidad) :=
          avanzar (fun posicion => posicion != cantMem) nodo.dirFisica (cantMem - posicion).toNat
            pMoviendo posicion 0#32
        if (0#32).slt cantidad then
          ⟨logLevelDebug, contadorLibres + 1, pMoviendo - cantidad, cantidad⟩ ::
            mostrarEspacios cantMem resto (pMoviendo + nodo.tamanio) (posicion + nodo.tamanio)
              (contadorLibres + 1) (pMoviendo - cantidad)
        else
          mostrarEspacios cantMem resto (pMoviendo + nodo.tamanio) (posicion + nodo.tamanio)
            contadorLibres base

/-- `fnMostrarEspaciosLibre`, with the detail of `logConsolaUmv` and what the local variable `base`
holds before it is assigned. -/
def fnMostrarEspaciosLibre (B : Bloque) (detail : ℕ) (pSegmentos : List TipoSegmento)
    (base : TPuntero) : List EspacioLibre :=
  (mostrarEspacios B.cantMem pSegmentos B.pInicioMemoria 0#32 0 base).filter
    fun e => isEnableLevelInLogger detail e.nivel

/-- The base and the size of an entry, as numbers. -/
def EspacioLibre.rango (e : EspacioLibre) : ℕ × ℕ := (e.base.toNat, e.tamanio.toNat)

/-- **The entries are the maximal free ranges**, in the order of their addresses, and their sizes
add up to what the segments leave. -/
structure MuestraHuecos (B : Bloque) (xs : List TipoSegmento) (espacios : List EspacioLibre) :
    Prop where
  orden : (espacios.map EspacioLibre.rango).Pairwise fun g g' => g.1 < g'.1
  huecos : ∀ a n, (a, n) ∈ espacios.map EspacioLibre.rango ↔ Hueco B xs a n
  suma : ((espacios.map EspacioLibre.rango).map Prod.snd).sum + ocupado xs = B.cantMem.toNat

variable {B : Bloque} {xs : List TipoSegmento} {lo detail anterior : ℕ} {p : TPuntero}

/-! ### What is logged -/

/-- The gaps that are not empty, the last one with the base of the one before, if the logger lets
them through. -/
def conBaseAnterior (detail anterior : ℕ) : List (ℕ × ℕ) → List (ℕ × ℕ)
  | [] => []
  | [g] => if 0 < g.2 ∧ detail ≤ logLevelInfo then [(anterior, g.2)] else []
  | g :: gs =>
      if 0 < g.2 then
        if detail ≤ logLevelDebug then g :: conBaseAnterior detail g.1 gs
        else conBaseAnterior detail g.1 gs
      else conBaseAnterior detail anterior gs

theorem conBaseAnterior_cons (detail anterior : ℕ) (g : ℕ × ℕ) {gs : List (ℕ × ℕ)} (hgs : gs ≠ []) :
    conBaseAnterior detail anterior (g :: gs) =
      if 0 < g.2 then
        if detail ≤ logLevelDebug then g :: conBaseAnterior detail g.1 gs
        else conBaseAnterior detail g.1 gs
      else conBaseAnterior detail anterior gs := by
  cases gs with
  | nil => exact absurd rfl hgs
  | cons g' gs => rfl

/-- No more entries than gaps that are not empty. -/
theorem length_conBaseAnterior_le (detail anterior : ℕ) (gs : List (ℕ × ℕ)) :
    (conBaseAnterior detail anterior gs).length ≤ (gs.filter fun g => decide (0 < g.2)).length := by
  induction gs generalizing anterior with
  | nil => exact le_rfl
  | cons g gs ih =>
      rcases eq_or_ne gs [] with rfl | hgs
      · rw [conBaseAnterior, List.filter_cons]
        simp only [decide_eq_true_eq, List.filter_nil]
        by_cases hg : 0 < g.2
        · rw [if_pos hg]
          split <;> simp
        · rw [if_neg hg, if_neg fun h => hg h.1]
      · rw [conBaseAnterior_cons _ _ _ hgs, List.filter_cons]
        simp only [decide_eq_true_eq]
        split
        · have := ih g.1
          split <;> simp only [List.length_cons] <;> omega
        · exact ih anterior

/-- The code asks whether a size is positive as an `int`. -/
theorem slt_zero_ofNat {n : ℕ} (hn : n < 2 ^ 31) :
    (0#32).slt (BitVec.ofNat 32 n) = decide (0 < n) :=
  slt_ofNat (a := 0) (by norm_num) hn

/-- **What is logged are the gaps that are not empty**, but for the base of the last one. -/
theorem mostrarEspacios_eq (hdentro : Layout.Within base len lo B.hi xs) (hlo : B.lo ≤ lo)
    (hpos : ∀ x ∈ xs, 0 < len x) (contador : ℕ) (p : TPuntero) :
    ((mostrarEspacios B.cantMem xs (BitVec.ofNat 32 lo) (BitVec.ofNat 32 (lo - B.lo))
      contador p).filter
        fun e => isEnableLevelInLogger detail e.nivel).map EspacioLibre.rango =
      conBaseAnterior detail p.toNat (Layout.gaps base len lo B.hi xs) := by
  have hBe := B.hi_eq
  have hB := B.hi_le
  have hc := B.cantMem_lt
  induction xs generalizing lo contador p with
  | nil =>
      have hhi : lo ≤ B.hi := hdentro
      have hsub := cantMem_sub_posicion hlo hhi
      have heq : B.cantMem - BitVec.ofNat 32 (lo - B.lo) = BitVec.ofNat 32 (B.hi - lo) := by
        rw [← hsub, BitVec.ofNat_toNat, BitVec.setWidth_eq]
      rw [mostrarEspacios, ultimoEspacio, Layout.gaps_nil, conBaseAnterior]
      simp only [heq, slt_zero_ofNat (n := B.hi - lo) (by omega), decide_eq_true_eq]
      by_cases hfin : 0 < B.hi - lo
      · rw [if_pos hfin, List.filter_cons]
        simp only [isEnableLevelInLogger, decide_eq_true_eq, hfin, true_and]
        split
        · simp only [List.filter_nil, List.map_cons, List.map_nil, EspacioLibre.rango, ← heq, hsub]
        · rfl
      · rw [if_neg hfin, if_neg fun h => hfin h.1]
        rfl
  | cons nodo resto ih =>
      have hnodo := hpos nodo List.mem_cons_self
      have hle := hdentro.1
      have hhi := hdentro.2.le
      have hrango : ∀ i < B.cantMem.toNat, (BitVec.ofNat 32 i != B.cantMem) = true := by
        intro i hi
        rw [bne_iff_ne]
        bv_omega
      have hini : nodo.dirFisica - BitVec.ofNat 32 (base nodo - lo) = BitVec.ofNat 32 lo := by
        simp only [base] at hle ⊢
        bv_omega
      have hlo' : (BitVec.ofNat 32 lo).toNat = lo := by
        rw [BitVec.toNat_ofNat]
        omega
      have hcant : (BitVec.ofNat 32 (base nodo - lo)).toNat = base nodo - lo := by
        rw [BitVec.toNat_ofNat]
        omega
      have ih := ih hdentro.2 (by omega) fun x hx => hpos x (List.mem_cons_of_mem _ hx)
      rw [mostrarEspacios, posicion_ne hdentro hlo hnodo, if_neg (by simp),
        avanzar_hueco hdentro hlo hnodo hrango, Layout.gaps_cons,
        conBaseAnterior_cons _ _ _ (Layout.gaps_ne_nil _ _ _)]
      simp only [slt_zero_ofNat (n := base nodo - lo) (by omega), hini, dirFisica_add_tamanio,
        posicion_add_tamanio (show B.lo ≤ base nodo by omega), decide_eq_true_eq]
      split
      · rw [List.filter_cons]
        simp only [isEnableLevelInLogger, decide_eq_true_eq]
        split
        · rw [List.map_cons, EspacioLibre.rango, hlo', hcant]
          exact congrArg _ ((ih (contador + 1) (BitVec.ofNat 32 lo)).trans (by rw [hlo']))
        · exact (ih (contador + 1) (BitVec.ofNat 32 lo)).trans (by rw [hlo'])
      · exact ih contador p

/-- **When the entries are all the gaps.** -/
theorem conBaseAnterior_eq_iff {hi : ℕ} (hdentro : Layout.Within base len lo hi xs)
    (hpos : ∀ x ∈ xs, 0 < len x) :
    conBaseAnterior detail anterior (Layout.gaps base len lo hi xs) =
        (Layout.gaps base len lo hi xs).filter (fun g => decide (0 < g.2)) ↔
      (detail ≤ logLevelDebug ∨ Layout.Packed base len lo xs) ∧
        (Layout.endOf base len lo xs = hi ∨
          detail ≤ logLevelInfo ∧ Layout.Packed base len lo xs ∧
          anterior = Layout.endOf base len lo xs) := by
  induction xs generalizing lo anterior with
  | nil =>
      have hlo : lo ≤ hi := hdentro
      simp only [Layout.gaps_nil, conBaseAnterior, Layout.endOf_nil, List.filter_cons,
        List.filter_nil, decide_eq_true_eq, Layout.packed_nil, or_true, true_and]
      by_cases hfin : 0 < hi - lo
      · rw [if_pos hfin]
        by_cases hdetail : detail ≤ logLevelInfo
        · rw [if_pos ⟨hfin, hdetail⟩]
          simp only [List.cons.injEq, Prod.mk.injEq, and_true, hdetail, true_and]
          omega
        · rw [if_neg fun h => hdetail h.2]
          exact iff_of_false (by simp) (by omega)
      · rw [if_neg hfin, if_neg fun h => hfin h.1]
        exact iff_of_true rfl (Or.inl (by omega))
  | cons x xs ih =>
      have hx := hdentro.1
      have hlen := hpos x List.mem_cons_self
      have hend := hdentro.2.endOf_bounds
      have ih {anterior : ℕ} :=
        @ih _ anterior hdentro.2 fun y hy => hpos y (List.mem_cons_of_mem _ hy)
      rw [Layout.gaps_cons, conBaseAnterior_cons _ _ _ (Layout.gaps_ne_nil _ _ _),
        Layout.endOf_cons, Layout.packed_cons, List.filter_cons]
      simp only [decide_eq_true_eq]
      by_cases hhueco : 0 < base x - lo
      · have hne : base x ≠ lo := by omega
        rw [if_pos hhueco, if_pos hhueco]
        by_cases hdetail : detail ≤ logLevelDebug
        · -- the last base is that of this gap or of a later one, before the end
          rw [if_pos hdetail, List.cons_inj_right, ih]
          simp only [hdetail, hne, false_and, true_or, true_and, and_false, or_false]
          refine or_iff_left ?_
          rintro ⟨-, -, h⟩
          omega
        · -- this gap is not logged, and the others are too few
          rw [if_neg hdetail]
          refine iff_of_false (fun h => ?_) (by simp [hdetail, hne])
          have hlength := congrArg List.length h
          have hle :=
            length_conBaseAnterior_le detail lo (Layout.gaps base len (base x + len x) hi xs)
          rw [List.length_cons] at hlength
          omega
      · rw [if_neg hhueco, if_neg hhueco, ih]
        simp only [show base x = lo by omega, true_and]

/-- The entries, as numbers. -/
theorem rango_fnMostrarEspaciosLibre (hdentro : Layout.Within base len B.lo B.hi xs)
    (hpos : ∀ x ∈ xs, 0 < len x) (detail : ℕ) (p : TPuntero) :
    (fnMostrarEspaciosLibre B detail xs p).map EspacioLibre.rango =
      conBaseAnterior detail p.toNat (huecos B xs) := by
  have heq : _ = conBaseAnterior detail _ _ := mostrarEspacios_eq hdentro le_rfl hpos 0 p
  rwa [Nat.sub_self, Bloque.lo, BitVec.ofNat_toNat, BitVec.setWidth_eq] at heq

/-- **The entries are right exactly if** the logger shows those of the loop, or there are none, and
nothing is free after the last segment, or its entry is shown and `base` held its address. -/
theorem muestra_huecos_iff (B : Bloque) (xs : List TipoSegmento)
    (hdentro : Layout.Within base len B.lo B.hi xs) (hpos : ∀ x ∈ xs, 0 < len x) (detail : ℕ)
    (p : TPuntero) :
    MuestraHuecos B xs (fnMostrarEspaciosLibre B detail xs p) ↔
      (detail ≤ logLevelDebug ∨ Layout.Packed base len B.lo xs) ∧
        (Layout.endOf base len B.lo xs = B.hi ∨
          detail ≤ logLevelInfo ∧ Layout.Packed base len B.lo xs ∧
            p.toNat = Layout.endOf base len B.lo xs) := by
  rw [← conBaseAnterior_eq_iff hdentro hpos, ← rango_fnMostrarEspaciosLibre hdentro hpos]
  have hlista :=
    hdentro.eq_filter_gaps_iff ((fnMostrarEspaciosLibre B detail xs p).map EspacioLibre.rango)
  constructor
  · intro h
    exact hlista.1 ⟨h.orden, h.huecos⟩
  · intro h
    obtain ⟨horden, hhuecos⟩ := hlista.2 h
    refine ⟨horden, hhuecos, ?_⟩
    have hsuma := hdentro.sum_gaps
    have hBe := B.hi_eq
    rw [h, Layout.sum_filter_gaps, hsuma, hBe, Nat.add_sub_cancel_left]

/-- The segment in the middle, and another one after it, up to the end of the memory. -/
def hastaElFin : List TipoSegmento :=
  [⟨1#32, 4#32, 100#32, 0x1004#32⟩, ⟨2#32, 8#32, 200#32, 0x1008#32⟩]

/-- The free space before the two segments is shown as it is. -/
theorem muestra_huecos_hastaElFin :
    MuestraHuecos bloque16 hastaElFin
    (fnMostrarEspaciosLibre bloque16 logLevelDebug hastaElFin 0#32) :=
  (muestra_huecos_iff bloque16 hastaElFin (by decide) (by decide) logLevelDebug 0#32).2
    ⟨Or.inl le_rfl, Or.inl (by decide)⟩

/-- **The space after the last segment is shown with the base of the one before.** -/
theorem no_muestra_huecos : ¬ ∀ (B : Bloque) (xs : List TipoSegmento) (p : TPuntero),
    Layout.Within base len B.lo B.hi xs → (∀ x ∈ xs, 0 < len x) →
    MuestraHuecos B xs (fnMostrarEspaciosLibre B logLevelDebug xs p) := by
  intro hclaim
  have h := (hclaim bloque16 unoEnMedio 0#32 unoEnMedio_dentro unoEnMedio_pos).orden
  have heq : (fnMostrarEspaciosLibre bloque16 logLevelDebug unoEnMedio 0#32).map
      EspacioLibre.rango =
      [(0x1000, 4), (0x1000, 8)] := by decide
  rw [heq] at h
  exact absurd h (by decide)

end Ansisop.Umv
