/-
**Runs with a history.**

What a system did is not always to be read off its state.  Here a system is extended with a history,
to which every step adds what it notes; the history does not change what the system can do.

A property of a run may be one of each of its steps, seen from the steps before it.

The history of a queue is the items that entered it and those that left it.  In a queue that is fed
at its end and emptied at its front, the items that entered are those that left, followed by those
that are still there.

Main definitions:

* `Lts.anotado` — a system with a history;
* `Lts.CadaPaso` — each step of a run is as its past asks for;
* `Lts.Transito` — the items that entered a queue and those that left it.

Main results:

* `Lts.Run.anotar` — **every run has its history**;
* `Lts.cadaPaso_snoc` — a property of each step is proved along the run;
* `Lts.Run.fifo` — **first in, first out**, from what one step does.
-/

import Ansisop.Lib.Runs

set_option relaxedAutoImplicit false
set_option autoImplicit false

namespace Lts

variable {σ ε η α : Type*}

/-- The system with a history: every step adds to it what it notes, from the state before the
step. -/
def anotado (nota : σ → ε → η → η) (step : σ → ε → σ → Prop) : σ × η → ε → σ × η → Prop :=
  fun p e q => step p.1 e q.1 ∧ q.2 = nota p.1 e p.2

variable {step : σ → ε → σ → Prop} {nota : σ → ε → η → η}

/-- **Every run has a history.** -/
theorem Run.anotar {s t : σ} {tr : List ε} (h : Run step s tr t) (historia : η) :
    ∃ historia', Run (anotado nota step) (s, historia) tr (t, historia') := by
  induction h with
  | nil => exact ⟨historia, Run.nil⟩
  | snoc _ he ih =>
      obtain ⟨historia', ih⟩ := ih
      exact ⟨_, ih.snoc ⟨he, rfl⟩⟩

/-! ### Each step and its past -/

/-- **Each step is as its past asks for.** -/
def CadaPaso (p : List ε → ε → Prop) (tr : List ε) : Prop :=
  ∀ antes e despues, tr = antes ++ e :: despues → p antes e

theorem cadaPaso_nil {p : List ε → ε → Prop} : CadaPaso p [] :=
  fun _ _ _ h => absurd h (by simp)

/-- **The last step of a run comes after the others.** -/
theorem cadaPaso_snoc {p : List ε → ε → Prop} {tr : List ε} {e : ε} :
    CadaPaso p (tr ++ [e]) ↔ CadaPaso p tr ∧ p tr e := by
  constructor
  · intro h
    exact ⟨fun antes e' despues heq => h antes e' (despues ++ [e]) (by simp [heq]), h tr e [] rfl⟩
  · rintro ⟨htr, he⟩ antes e' despues heq
    rcases List.eq_nil_or_concat despues with rfl | ⟨despues, e'', rfl⟩
    · obtain ⟨rfl, h⟩ := List.append_inj' heq rfl
      rwa [← List.singleton_inj.1 h]
    · rw [List.concat_eq_append, ← List.cons_append, ← List.append_assoc] at heq
      exact htr antes e' despues (List.append_inj' heq rfl).1

/-! ### Queues -/

/-- **What passed through a queue.** -/
structure Transito (α : Type*) where
  entraron : List α
  salieron : List α

/-- A queue through which nothing has passed. -/
def Transito.nada : Transito α := ⟨[], []⟩

/-- What one step adds to the history of a queue. -/
def Transito.mas (entra sale : σ → ε → List α) (s : σ) (e : ε) (transito : Transito α) :
    Transito α :=
  ⟨transito.entraron ++ entra s e, transito.salieron ++ sale s e⟩

/-- **First in, first out**: if every step adds to the end of the queue and takes from its front,
then the items that were there and those that entered are those that left, followed by those that
are still there. -/
theorem Run.fifo {lista : σ → List α} {entra sale : σ → ε → List α}
    (hstep : ∀ s e t, step s e t → lista s ++ entra s e = sale s e ++ lista t) {s t : σ}
    {transito : Transito α} {tr : List ε}
    (h : Run (anotado (Transito.mas entra sale) step) (s, Transito.nada) tr (t, transito)) :
    lista s ++ transito.entraron = transito.salieron ++ lista t := by
  have hinv : ∀ p e q, lista s ++ p.2.entraron = p.2.salieron ++ lista p.1 →
      anotado (Transito.mas entra sale) step p e q →
      lista s ++ q.2.entraron = q.2.salieron ++ lista q.1 := by
    rintro ⟨u, transito⟩ e ⟨v, transito'⟩ ih ⟨he, rfl⟩
    calc lista s ++ (transito.entraron ++ entra u e)
        = transito.salieron ++ (lista u ++ entra u e) := by
          rw [← List.append_assoc, ih, List.append_assoc]
      _ = transito.salieron ++ sale u e ++ lista v := by
          rw [hstep u e v he, List.append_assoc]
  exact h.invariant (I := fun q => lista s ++ q.2.entraron = q.2.salieron ++ lista q.1) hinv
    (by simp [Transito.nada])

end Lts
