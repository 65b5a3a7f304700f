/-
**Runs of a labelled transition system.**

A system is a step relation `step : σ → ε → σ → Prop`: from a state, under a label, to a state.
This module fixes the three things the rest of the development says about such systems, once and for
arbitrary states and labels.

Main definitions:

* `Lts.Run` — a finite run, with the labels it performed;
* `Lts.restrict` — the same system, kept to the steps that satisfy a side condition;
* `Lts.ejecutar` — the run of a list of labels, for a system that is given by a function;
* `Lts.Simulates` — one step of a concrete system is answered by one step of an abstract system with
  the same label.

Main results:

* `Lts.Run.invariant` — **what every step preserves, every run preserves**;
* `Lts.Run.simulation` — **a step-by-step simulation lifts to runs**, label by label;
* `Lts.Run.simulation_filterMap` — the same, for an abstract system that takes part in some steps
  only.
-/

import Mathlib.Data.List.Induction

set_option relaxedAutoImplicit false
set_option autoImplicit false

namespace Lts

variable {σ τ ε : Type*}

/-- `Run step s tr t`: starting in `s`, the steps labelled `tr`, in that order, end in `t`. -/
inductive Run (step : σ → ε → σ → Prop) (s : σ) : List ε → σ → Prop
  | nil : Run step s [] s
  | snoc {tr : List ε} {t u : σ} {e : ε} : Run step s tr t → step t e u →
      Run step s (tr ++ [e]) u

/-- The system kept to the steps that satisfy the side condition `ok`, which may look at the state
before the step and at the label. -/
def restrict (ok : σ → ε → Prop) (step : σ → ε → σ → Prop) : σ → ε → σ → Prop :=
  fun s e t => ok s e ∧ step s e t

/-- A relation `R` between concrete and abstract states under which every concrete step is answered
by an abstract step with the same label. -/
def Simulates (R : σ → τ → Prop) (step : σ → ε → σ → Prop) (astep : τ → ε → τ → Prop) : Prop :=
  ∀ s e t a, R s a → step s e t → ∃ b, astep a e b ∧ R t b

variable {step : σ → ε → σ → Prop}

/-- A single step is a run. -/
theorem Run.single {s t : σ} {e : ε} (h : step s e t) : Run step s [e] t := by
  rw [← List.nil_append [e]]
  exact Run.nil.snoc h

/-- Runs compose. -/
theorem Run.trans {s t u : σ} {tr tr' : List ε} (h : Run step s tr t) (h' : Run step t tr' u) :
    Run step s (tr ++ tr') u := by
  induction h' with
  | nil => simpa using h
  | snoc _ hs ih =>
      rw [← List.append_assoc]
      exact ih.snoc hs

/-- The last step of a run. -/
theorem Run.snoc_inv {s t : σ} {tr : List ε} {e : ε} (h : Run step s (tr ++ [e]) t) :
    ∃ u, Run step s tr u ∧ step u e t := by
  generalize htr : tr ++ [e] = tr' at h
  cases h with
  | nil => simp at htr
  | snoc h he =>
      obtain ⟨rfl, heq⟩ := List.append_inj' htr rfl
      obtain rfl := List.singleton_inj.1 heq
      exact ⟨_, h, he⟩

/-- A run splits wherever its labels do. -/
theorem Run.split {s t : σ} {tr tr' : List ε} (h : Run step s (tr ++ tr') t) :
    ∃ u, Run step s tr u ∧ Run step u tr' t := by
  induction tr' using List.reverseRecOn generalizing t with
  | nil => exact ⟨t, by simpa using h, Run.nil⟩
  | append_singleton tr' e ih =>
      rw [← List.append_assoc] at h
      obtain ⟨v, hv, he⟩ := h.snoc_inv
      obtain ⟨u, hu, hv⟩ := ih hv
      exact ⟨u, hu, hv.snoc he⟩

/-- **What every step preserves, every run preserves.** -/
theorem Run.invariant {I : σ → Prop} (hstep : ∀ s e t, I s → step s e t → I t) {s t : σ}
    {tr : List ε} (h : Run step s tr t) (hs : I s) : I t := by
  induction h with
  | nil => exact hs
  | snoc _ he ih => exact hstep _ _ _ ih he

/-- **What every step of a run preserves, the run preserves**: only the labels of the run matter. -/
theorem Run.invariant_of_labels {I : σ → Prop} {s t : σ} {tr : List ε} (h : Run step s tr t)
    (hstep : ∀ s, ∀ e ∈ tr, ∀ t, I s → step s e t → I t) (hs : I s) : I t := by
  induction h with
  | nil => exact hs
  | snoc _ he ih =>
      exact hstep _ _ (by simp) _
        (ih fun s e hmem t => hstep s e (List.mem_append_left _ hmem) t) he

/-- A run whose labels all satisfy the side condition is a run of the restricted system. -/
theorem Run.restrict {ok : σ → ε → Prop} {s t : σ} {tr : List ε} (h : Run step s tr t)
    (hok : ∀ e ∈ tr, ∀ s, ok s e) : Run (Lts.restrict ok step) s tr t := by
  induction h with
  | nil => exact Run.nil
  | snoc _ he ih =>
      exact (ih fun e hmem => hok e (List.mem_append_left _ hmem)).snoc ⟨hok _ (by simp) _, he⟩

/-- A run under a side condition is a run under any weaker one. -/
theorem Run.restrict_mono {ok ok' : σ → ε → Prop} {s t : σ} {tr : List ε}
    (h : Run (Lts.restrict ok step) s tr t) (hok : ∀ s e, ok s e → ok' s e) :
    Run (Lts.restrict ok' step) s tr t := by
  induction h with
  | nil => exact Run.nil
  | snoc _ he ih => exact ih.snoc ⟨hok _ _ he.1, he.2⟩

/-- A run of a restricted system is a run of the system. -/
theorem Run.of_restrict {ok : σ → ε → Prop} {s t : σ} {tr : List ε}
    (h : Run (Lts.restrict ok step) s tr t) : Run step s tr t := by
  induction h with
  | nil => exact Run.nil
  | snoc _ he ih => exact ih.snoc he.2

/-- Some steps of a system that is given by a function, one after the other, as long as they meet a
condition. -/
def ejecutar (paso : σ → ε → Option σ) (ok : σ → ε → Bool) : List ε → σ → Option σ
  | [], s => some s
  | e :: tr, s => if ok s e then (paso s e).bind (ejecutar paso ok tr) else none

/-- What was executed is a run. -/
theorem run_of_ejecutar {paso : σ → ε → Option σ} {ok : σ → ε → Bool} {tr : List ε} {s t : σ}
    (h : ejecutar paso ok tr s = some t) :
    Run (Lts.restrict (fun s e => ok s e = true) fun s e t => paso s e = some t) s tr t := by
  induction tr generalizing s with
  | nil =>
      obtain rfl := Option.some_inj.1 h
      exact Run.nil
  | cons e tr ih =>
      rw [ejecutar] at h
      split at h
      · rename_i hok
        obtain ⟨u, hu, h⟩ := Option.bind_eq_some_iff.1 h
        exact (Run.single ⟨hok, hu⟩).trans (ih h)
      · exact absurd h (by simp)

/-- **A step-by-step simulation lifts to runs**: the abstract run has the same labels and ends in a
related state. -/
theorem Run.simulation {R : σ → τ → Prop} {astep : τ → ε → τ → Prop}
    (hR : Simulates R step astep) {s t : σ} {tr : List ε} {a : τ} (h : Run step s tr t)
    (hs : R s a) : ∃ b, Run astep a tr b ∧ R t b := by
  induction h with
  | nil => exact ⟨a, Run.nil, hs⟩
  | snoc _ he ih =>
      obtain ⟨b, hb, hRb⟩ := ih
      obtain ⟨c, hc, hRc⟩ := hR _ _ _ _ hRb he
      exact ⟨c, hb.snoc hc, hRc⟩

/-- **A simulation by a system that takes part in some steps only**: a label either has no abstract
label, and then its steps keep the relation, or they are answered by a step with that label. -/
theorem Run.simulation_filterMap {ε' : Type*} {R : σ → τ → Prop} {astep : τ → ε' → τ → Prop}
    {f : ε → Option ε'} (hqueda : ∀ s e t a, f e = none → R s a → step s e t → R t a)
    (hpasa : ∀ s e e' t a, f e = some e' → R s a → step s e t → ∃ b, astep a e' b ∧ R t b) {s t : σ}
    {tr : List ε} {a : τ} (h : Run step s tr t) (hs : R s a) :
    ∃ b, Run astep a (tr.filterMap f) b ∧ R t b := by
  induction h with
  | nil => exact ⟨a, Run.nil, hs⟩
  | @snoc tr t u e _ he ih =>
      obtain ⟨b, hb, hRb⟩ := ih
      rw [List.filterMap_append]
      cases hf : f e with
      | none =>
          rw [List.filterMap_cons_none hf, List.filterMap_nil, List.append_nil]
          exact ⟨b, hb, hqueda _ _ _ _ hf hRb he⟩
      | some e' =>
          obtain ⟨c, hc, hRc⟩ := hpasa _ _ _ _ _ hf hRb he
          rw [List.filterMap_cons_some hf, List.filterMap_nil]
          exact ⟨c, hb.snoc hc, hRc⟩

end Lts
