/-
**The two searches for free space.**

`buscarEspacioFF` and `buscarEspacioWF` walk the segment table with a byte pointer `pMoviendo` and
an `int` counter `posicion`, byte by byte through each gap and in one jump over each segment.  This
module translates both and proves what they find in a valid table, in terms of the gaps that
`Layout.gaps` lists.

The counters `posicion`, `cantidad` and `mayorTamanio` are `int` in the code and `CANT_MEM` is
`unsigned long`, so that every comparison with `CANT_MEM` or with the requested size is unsigned;
the one signed comparison, `cantidad > mayorTamanio`, is `BitVec.slt` here.

Main definitions:

* `Ansisop.Umv.avanzar` — the inner loop of the searches, which walks over a gap;
* `Ansisop.Umv.buscarEspacioFF`, `Ansisop.Umv.buscarEspacioWF`, `Ansisop.Umv.buscarEspacio`;
* `Ansisop.Umv.huecos` — the gaps of the memory block.

Main results:

* `Ansisop.Umv.buscarEspacioFF_eq` — **first fit returns the first gap that is large enough**;
* `Ansisop.Umv.buscarEspacioWF_eq` — **worst fit returns the widest gap, if it is large enough**;
* `Ansisop.Umv.buscarEspacio_spec` — either search returns the start of a gap that holds the
  request, and null exactly when there is none.
-/

import Ansisop.Umv.Tabla

set_option relaxedAutoImplicit false
set_option autoImplicit false

namespace Ansisop.Umv

/-! ### The searches -/

/-- The inner loop of the searches: while `pMoviendo` is not the base of the next segment and
`posicion` is still in range, advance one byte.  Each turn brings `posicion` one closer to
`CANT_MEM`, where the loop ends, so the fuel is their distance. -/
def avanzar (enRango : U32 → Bool) (dirFisicaNodo : TPuntero) :
    ℕ → TPuntero → U32 → U32 → TPuntero × U32 × U32
  | 0, pMoviendo, posicion, cantidad => (pMoviendo, posicion, cantidad)
  | fuel + 1, pMoviendo, posicion, cantidad =>
      if pMoviendo != dirFisicaNodo && enRango posicion then
        avanzar enRango dirFisicaNodo fuel (pMoviendo + 1#32) (posicion + 1#32) (cantidad + 1#32)
      else (pMoviendo, posicion, cantidad)

/-- The end of `buscarEspacioFF`: the space after the last segment. -/
def finalFF (cantMem tamanioNuevoSegmento : U32) (pMoviendo : TPuntero) (posicion : U32) :
    TPuntero :=
  if tamanioNuevoSegmento ≤ cantMem - posicion then pMoviendo else null

/-- The loop of `buscarEspacioFF` over the segments. -/
def recorrerFF (cantMem tamanioNuevoSegmento : U32) :
    List TipoSegmento → TPuntero → U32 → TPuntero
  | [], pMoviendo, posicion => finalFF cantMem tamanioNuevoSegmento pMoviendo posicion
  | nodo :: resto, pMoviendo, posicion =>
      if posicion == cantMem then finalFF cantMem tamanioNuevoSegmento pMoviendo posicion
      else
        let (pMoviendo, posicion, cantidadLibre) :=
          avanzar (fun posicion => posicion.ult cantMem) nodo.dirFisica (cantMem - posicion).toNat
            pMoviendo posicion 0#32
        if cantidadLibre < tamanioNuevoSegmento then
          recorrerFF cantMem tamanioNuevoSegmento resto (pMoviendo + nodo.tamanio)
            (posicion + nodo.tamanio)
        else pMoviendo - cantidadLibre

/-- `buscarEspacioFF`. -/
def buscarEspacioFF (B : Bloque) (pSegmentos : List TipoSegmento) (tamanioNuevoSegmento : U32) :
    TPuntero :=
  recorrerFF B.cantMem tamanioNuevoSegmento pSegmentos B.pInicioMemoria 0#32

/-- The end of `buscarEspacioWF`: the space after the last segment, which wins ties. -/
def finalWF (cantMem tamanioNuevoSegmento : U32) (pMoviendo : TPuntero) (posicion : U32)
    (mayorTamanio : U32) (pMayorTamanio : TPuntero) : TPuntero :=
  let (mayorTamanio, pMayorTamanio) :=
    if mayorTamanio ≤ cantMem - posicion then (cantMem - posicion, pMoviendo)
    else (mayorTamanio, pMayorTamanio)
  if tamanioNuevoSegmento ≤ mayorTamanio then pMayorTamanio else null

/-- The loop of `buscarEspacioWF` over the segments. -/
def recorrerWF (cantMem tamanioNuevoSegmento : U32) :
    List TipoSegmento → TPuntero → U32 → U32 → TPuntero → TPuntero
  | [], pMoviendo, posicion, mayorTamanio, pMayorTamanio =>
      finalWF cantMem tamanioNuevoSegmento pMoviendo posicion mayorTamanio pMayorTamanio
  | nodo :: resto, pMoviendo, posicion, mayorTamanio, pMayorTamanio =>
      if posicion == cantMem then
        finalWF cantMem tamanioNuevoSegmento pMoviendo posicion mayorTamanio pMayorTamanio
      else
        let (pMoviendo, posicion, cantidad) :=
          avanzar (fun posicion => posicion != cantMem) nodo.dirFisica (cantMem - posicion).toNat
            pMoviendo posicion 0#32
        let (mayorTamanio, pMayorTamanio) :=
          if mayorTamanio.slt cantidad then (cantidad, pMoviendo - cantidad)
          else (mayorTamanio, pMayorTamanio)
        recorrerWF cantMem tamanioNuevoSegmento resto (pMoviendo + nodo.tamanio)
          (posicion + nodo.tamanio) mayorTamanio pMayorTamanio

/-- `buscarEspacioWF`.  The code leaves `pMayorTamanio` unassigned at first; it is always assigned
before it is returned, and starts as null here. -/
def buscarEspacioWF (B : Bloque) (pSegmentos : List TipoSegmento) (tamanioNuevoSegmento : U32) :
    TPuntero :=
  recorrerWF B.cantMem tamanioNuevoSegmento pSegmentos B.pInicioMemoria 0#32 0#32 null

/-- `buscarEspacio`.  `ALG_MEM` only ever holds one of the two algorithms. -/
def buscarEspacio (B : Bloque) (s : Estado) (tamanioNuevoSegmento : U32) : TPuntero :=
  match s.algMem with
  | .WF => buscarEspacioWF B s.pSegmentos tamanioNuevoSegmento
  | .FF => buscarEspacioFF B s.pSegmentos tamanioNuevoSegmento

/-! ### Walking over a gap -/

/-- The loop ends by its own condition, never for lack of fuel. -/
theorem avanzar_fin {enRango : U32 → Bool} {cantMem dir : U32} (hfin : enRango cantMem = false)
    {fuel : ℕ} {p pos cant : U32} (hfuel : fuel = (cantMem - pos).toNat) :
    ((avanzar enRango dir fuel p pos cant).1 != dir &&
      enRango (avanzar enRango dir fuel p pos cant).2.1) = false := by
  induction fuel generalizing p pos cant with
  | zero =>
      have : pos = cantMem := by bv_omega
      subst this
      simp [avanzar, hfin]
  | succ fuel ih =>
      rw [avanzar]
      split
      · exact ih (by bv_omega)
      · next h => simpa using h

/-- Walking from the address `lo` to the base `dir` of the next segment, at a distance `k`. -/
theorem avanzar_eq {enRango : U32 → Bool} {dir : TPuntero} {k fuel : ℕ} {p pos cant : U32}
    (hdir : dir = p + BitVec.ofNat 32 k) (hk : k < 2 ^ 32) (hfuel : k ≤ fuel)
    (hrango : ∀ i < k, enRango (pos + BitVec.ofNat 32 i) = true) :
    avanzar enRango dir fuel p pos cant =
      (dir, pos + BitVec.ofNat 32 k, cant + BitVec.ofNat 32 k) := by
  induction k generalizing fuel p pos cant with
  | zero =>
      have hp : p = dir := by bv_omega
      subst hp
      cases fuel <;> simp [avanzar]
  | succ k ih =>
      obtain ⟨fuel, rfl⟩ : ∃ f, fuel = f + 1 := ⟨fuel - 1, by omega⟩
      have hne : (p != dir) = true := by
        rw [bne_iff_ne]
        bv_omega
      have h0 : enRango pos = true := by simpa using hrango 0 (by omega)
      have hsucc : ∀ x : U32, x + 1#32 + BitVec.ofNat 32 k = x + BitVec.ofNat 32 (k + 1) := by
        intro x
        bv_omega
      rw [avanzar, hne, h0, Bool.and_self, if_pos rfl,
        ih (by rw [hdir, hsucc]) (by omega) (by omega) ?_, hsucc, hsucc]
      intro i hi
      have : pos + 1#32 + BitVec.ofNat 32 i = pos + BitVec.ofNat 32 (i + 1) := by bv_omega
      rw [this]
      exact hrango (i + 1) (by omega)

variable {B : Bloque} {xs : List TipoSegmento} {n : U32}

/-- The walk of either search from the end `lo` of a segment to the base of the next one. -/
theorem avanzar_hueco {enRango : U32 → Bool} {lo : ℕ} {nodo : TipoSegmento}
    {resto : List TipoSegmento} (hw : Layout.Within base len lo B.hi (nodo :: resto))
    (hlo : B.lo ≤ lo) (hpos : 0 < len nodo)
    (hrango : ∀ i < B.cantMem.toNat, enRango (BitVec.ofNat 32 i) = true) :
    avanzar enRango nodo.dirFisica (B.cantMem - BitVec.ofNat 32 (lo - B.lo)).toNat
        (BitVec.ofNat 32 lo) (BitVec.ofNat 32 (lo - B.lo)) 0#32 =
      (nodo.dirFisica, BitVec.ofNat 32 (base nodo - B.lo), BitVec.ofNat 32 (base nodo - lo)) := by
  have hle := hw.1
  have hhi := hw.2.le
  have hB := B.hi_le
  have hBe := B.hi_eq
  have hc := B.cantMem_lt
  have hdir : nodo.dirFisica = BitVec.ofNat 32 (base nodo) := by simp [base]
  have hk : base nodo = lo + (base nodo - lo) := by omega
  rw [avanzar_eq (k := base nodo - lo) ?_ (by omega) ?_ ?_]
  · refine Prod.ext rfl (Prod.ext ?_ ?_)
    · simp only
      bv_omega
    · simp only
      bv_omega
  · rw [hdir]
    bv_omega
  · bv_omega
  · intro i hi
    have : BitVec.ofNat 32 (lo - B.lo) + BitVec.ofNat 32 i = BitVec.ofNat 32 (lo - B.lo + i) := by
      bv_omega
    rw [this]
    exact hrango _ (by omega)

/-! ### What the searches find -/

/-- The gaps that the segments leave in the memory block. -/
abbrev huecos (B : Bloque) (xs : List TipoSegmento) : List (ℕ × ℕ) :=
  Layout.gaps base len B.lo B.hi xs

/-- The pointer that a search returns for the gap it chose. -/
def punteroHueco : Option (ℕ × ℕ) → TPuntero
  | some g => BitVec.ofNat 32 g.1
  | none => null

/-- In range, `posicion` has not reached `CANT_MEM` while a segment remains. -/
theorem posicion_ne {lo : ℕ} {nodo : TipoSegmento} {resto : List TipoSegmento}
    (hw : Layout.Within base len lo B.hi (nodo :: resto)) (hlo : B.lo ≤ lo) (hpos : 0 < len nodo) :
    (BitVec.ofNat 32 (lo - B.lo) == B.cantMem) = false := by
  have hle := hw.1
  have hhi := hw.2.le
  have hBe := B.hi_eq
  have hc := B.cantMem_lt
  rw [beq_eq_false_iff_ne]
  bv_omega

/-- The space after the last segment, as the code computes it. -/
theorem cantMem_sub_posicion {lo : ℕ} (hlo : B.lo ≤ lo) (hhi : lo ≤ B.hi) :
    (B.cantMem - BitVec.ofNat 32 (lo - B.lo)).toNat = B.hi - lo := by
  have hBe := B.hi_eq
  have hc := B.cantMem_lt
  bv_omega

/-- The jump of `pMoviendo` over a segment. -/
theorem dirFisica_add_tamanio (nodo : TipoSegmento) :
    nodo.dirFisica + nodo.tamanio = BitVec.ofNat 32 (base nodo + len nodo) := by
  simp only [base, len]
  bv_omega

/-- The jump of `posicion` over a segment. -/
theorem posicion_add_tamanio {nodo : TipoSegmento} (hlo : B.lo ≤ base nodo) :
    BitVec.ofNat 32 (base nodo - B.lo) + nodo.tamanio =
      BitVec.ofNat 32 (base nodo + len nodo - B.lo) := by
  simp only [base, len] at hlo ⊢
  bv_omega

/-- The one signed comparison of the searches, between two lengths of gaps. -/
theorem slt_ofNat {a b : ℕ} (ha : a < 2 ^ 31) (hb : b < 2 ^ 31) :
    (BitVec.ofNat 32 a).slt (BitVec.ofNat 32 b) = decide (a < b) := by
  have hto : ∀ x < 2 ^ 31, (BitVec.ofNat 32 x).toInt = x := by
    intro x hx
    have hx' : (BitVec.ofNat 32 x).toNat = x := by
      rw [BitVec.toNat_ofNat]
      omega
    rw [BitVec.toInt_eq_toNat_of_lt (by omega), hx']
  rw [BitVec.slt, hto a ha, hto b hb]
  simp

theorem recorrerFF_eq {lo : ℕ} (hw : Layout.Within base len lo B.hi xs) (hlo : B.lo ≤ lo)
    (hpos : ∀ s ∈ xs, 0 < len s) :
    recorrerFF B.cantMem n xs (BitVec.ofNat 32 lo) (BitVec.ofNat 32 (lo - B.lo)) =
      punteroHueco ((Layout.gaps base len lo B.hi xs).find? fun g => decide (n.toNat ≤ g.2)) := by
  induction xs generalizing lo with
  | nil =>
      -- the last gap, up to the end of the block
      have hsub := cantMem_sub_posicion hlo hw
      rw [recorrerFF, finalFF, Layout.gaps_nil, List.find?_singleton]
      by_cases h : n.toNat ≤ B.hi - lo
      · rw [if_pos (by rw [BitVec.le_def, hsub]; exact h), if_pos (by simpa using h)]
        rfl
      · rw [if_neg (by rw [BitVec.le_def, hsub]; exact h), if_neg (by simpa using h)]
        rfl
  | cons nodo resto ih =>
      have hnodo := hpos nodo List.mem_cons_self
      have hle := hw.1
      have hhi := hw.2.le
      have hB := B.hi_le
      have hBe := B.hi_eq
      have hc := B.cantMem_lt
      have hrango : ∀ i < B.cantMem.toNat,
          (BitVec.ofNat 32 i).ult B.cantMem = true := by
        intro i hi
        rw [BitVec.ult, BitVec.toNat_ofNat, decide_eq_true_eq]
        omega
      -- the inner loop stops at the segment, after the bytes of the gap
      rw [recorrerFF, posicion_ne hw hlo hnodo, if_neg (by simp),
        avanzar_hueco hw hlo hnodo hrango]
      simp only
      have hcant : (BitVec.ofNat 32 (base nodo - lo)).toNat = base nodo - lo := by
        rw [BitVec.toNat_ofNat]
        omega
      rw [Layout.gaps_cons, List.find?_cons]
      by_cases h : n.toNat ≤ base nodo - lo
      · rw [if_neg (by rw [BitVec.lt_def, hcant]; omega), decide_eq_true h]
        simp only [punteroHueco, base] at h hle hcant ⊢
        bv_omega
      · rw [if_pos (by rw [BitVec.lt_def, hcant]; omega), decide_eq_false h]
        rw [dirFisica_add_tamanio, posicion_add_tamanio (by omega)]
        exact ih hw.2 (by omega) fun s hs => hpos s (List.mem_cons_of_mem _ hs)

/-- **First fit returns the first gap that is large enough.** -/
theorem buscarEspacioFF_eq (h : TablaValida B xs) :
    buscarEspacioFF B xs n =
      punteroHueco ((huecos B xs).find? fun g => decide (n.toNat ≤ g.2)) := by
  have := recorrerFF_eq (n := n) h.within le_rfl h.pos
  rw [Nat.sub_self] at this
  rwa [Bloque.lo, BitVec.ofNat_toNat, BitVec.setWidth_eq] at this

theorem recorrerWF_eq {lo : ℕ} {mayor : ℕ × ℕ} (hw : Layout.Within base len lo B.hi xs)
    (hlo : B.lo ≤ lo) (hpos : ∀ s ∈ xs, 0 < len s) (hmayor : mayor.2 < 2 ^ 31) :
    recorrerWF B.cantMem n xs (BitVec.ofNat 32 lo) (BitVec.ofNat 32 (lo - B.lo))
        (BitVec.ofNat 32 mayor.2) (BitVec.ofNat 32 mayor.1) =
      punteroHueco ((some (Layout.widest mayor (Layout.gaps base len lo B.hi xs))).filter
        fun g => decide (n.toNat ≤ g.2)) := by
  have hBe := B.hi_eq
  have hc := B.cantMem_lt
  induction xs generalizing lo mayor with
  | nil =>
      have hhi : lo ≤ B.hi := hw
      have hsub := cantMem_sub_posicion hlo hw
      have hmt : (BitVec.ofNat 32 mayor.2).toNat = mayor.2 := by
        rw [BitVec.toNat_ofNat]
        omega
      -- the last gap wins a tie here, and `widest` is defined to agree
      rw [recorrerWF, finalWF, Layout.gaps_nil, Layout.widest_singleton]
      by_cases h : mayor.2 ≤ B.hi - lo
      · rw [if_pos (by rw [BitVec.le_def, hmt, hsub]; exact h), if_pos h]
        simp only [BitVec.le_def, hsub, Option.filter, decide_eq_true_eq]
        split <;> rfl
      · rw [if_neg (by rw [BitVec.le_def, hmt, hsub]; exact h), if_neg h]
        simp only [BitVec.le_def, hmt, Option.filter, decide_eq_true_eq]
        split <;> rfl
  | cons nodo resto ih =>
      have hnodo := hpos nodo List.mem_cons_self
      have hle := hw.1
      have hhi := hw.2.le
      have hB := B.hi_le
      have hrango : ∀ i < B.cantMem.toNat, (BitVec.ofNat 32 i != B.cantMem) = true := by
        intro i hi
        rw [bne_iff_ne]
        bv_omega
      rw [recorrerWF, posicion_ne hw hlo hnodo, if_neg (by simp),
        avanzar_hueco hw hlo hnodo hrango]
      simp only
      have hini : nodo.dirFisica - BitVec.ofNat 32 (base nodo - lo) = BitVec.ofNat 32 lo := by
        simp only [base] at hle ⊢
        bv_omega
      rw [slt_ofNat hmayor (by omega), hini, dirFisica_add_tamanio,
        posicion_add_tamanio (by omega), Layout.gaps_cons,
        Layout.widest_cons _ _ (Layout.gaps_ne_nil _ _ _)]
      by_cases h : mayor.2 < base nodo - lo
      · rw [decide_eq_true h, if_pos rfl, if_pos h]
        exact @ih _ (lo, base nodo - lo) hw.2 (by omega)
          (fun s hs => hpos s (List.mem_cons_of_mem _ hs)) (by simp only; omega)
      · rw [decide_eq_false h, if_neg (by simp), if_neg h]
        exact ih hw.2 (by omega) (fun s hs => hpos s (List.mem_cons_of_mem _ hs)) hmayor

/-- **Worst fit returns the widest gap, if it is large enough.** -/
theorem buscarEspacioWF_eq (h : TablaValida B xs) :
    buscarEspacioWF B xs n =
      punteroHueco ((some (Layout.widest (0, 0) (huecos B xs))).filter
        fun g => decide (n.toNat ≤ g.2)) := by
  have := @recorrerWF_eq B xs n B.lo (0, 0) h.within le_rfl h.pos (by norm_num)
  rwa [Nat.sub_self, Bloque.lo, BitVec.ofNat_toNat, BitVec.setWidth_eq] at this

/-- The pointer to a gap of positive length is not null, and is the address of the gap. -/
theorem toNat_punteroHueco (h : TablaValida B xs) {g : ℕ × ℕ} (hg : g ∈ huecos B xs)
    (hpos : 0 < g.2) :
    (punteroHueco (some g)).toNat = g.1 ∧ punteroHueco (some g) ≠ null := by
  have hb := h.within.gap_bounds hg
  have hB := B.hi_le
  have hlo := B.lo_pos
  have hto : (punteroHueco (some g)).toNat = g.1 := by
    rw [punteroHueco, BitVec.toNat_ofNat]
    omega
  refine ⟨hto, fun h0 => ?_⟩
  rw [h0] at hto
  simp [null] at hto
  omega

/-- **What a search returns**: with either algorithm the pointer to a gap that holds the request,
and null exactly when no gap does. -/
theorem buscarEspacio_eq {s : Estado} (h : TablaValida B s.pSegmentos) (n : U32) :
    (∃ g ∈ huecos B s.pSegmentos, n.toNat ≤ g.2 ∧ buscarEspacio B s n = punteroHueco (some g)) ∨
      (buscarEspacio B s n = null ∧ ¬ Layout.Fits base len B.lo B.hi n.toNat s.pSegmentos) := by
  cases halg : s.algMem with
  | FF =>
      have heq : buscarEspacio B s n = buscarEspacioFF B s.pSegmentos n := by
        simp only [buscarEspacio, halg]
      rw [buscarEspacioFF_eq h] at heq
      cases hf : (huecos B s.pSegmentos).find? fun g => decide (n.toNat ≤ g.2) with
      | some g =>
          rw [hf] at heq
          exact Or.inl ⟨g, List.mem_of_find?_eq_some hf, by simpa using List.find?_some hf, heq⟩
      | none =>
          rw [hf] at heq
          refine Or.inr ⟨heq, ?_⟩
          rintro ⟨g, hg, hgn⟩
          have := List.find?_eq_none.1 hf g hg
          simp at this
          omega
  | WF =>
      have heq : buscarEspacio B s n = buscarEspacioWF B s.pSegmentos n := by
        simp only [buscarEspacio, halg]
      rw [buscarEspacioWF_eq h, Option.filter] at heq
      by_cases hw : n.toNat ≤ (Layout.widest (0, 0) (huecos B s.pSegmentos)).2
      · rw [if_pos (by simpa using hw)] at heq
        exact Or.inl ⟨_, Layout.widest_mem (Layout.gaps_ne_nil _ _ _) rfl, hw, heq⟩
      · rw [if_neg (by simpa using hw)] at heq
        refine Or.inr ⟨heq, ?_⟩
        rintro ⟨g, hg, hgn⟩
        have hle : g.2 ≤ (Layout.widest (0, 0) (huecos B s.pSegmentos)).2 := Layout.le_widest hg
        omega

/-- **What a search finds**: for a request of at least one byte, either search returns the start of
a gap that holds it, and null exactly when no gap does. -/
theorem buscarEspacio_spec {s : Estado} (h : TablaValida B s.pSegmentos) (hn : 0 < n.toNat) :
    (∃ k, ((buscarEspacio B s n).toNat, k) ∈ huecos B s.pSegmentos ∧ n.toNat ≤ k ∧
        buscarEspacio B s n ≠ null) ∨
      (buscarEspacio B s n = null ∧ ¬ Layout.Fits base len B.lo B.hi n.toNat s.pSegmentos) := by
  refine (buscarEspacio_eq h n).imp_left ?_
  rintro ⟨g, hg, hgn, heq⟩
  obtain ⟨hto, hnull⟩ := toNat_punteroHueco h hg (by omega)
  rw [heq, hto]
  exact ⟨g.2, hg, hgn, hnull⟩

end Ansisop.Umv
