/-
**What a program leads to, when it takes turns with others.**

A program is a partial step function.  Between its steps others have turns, which may change
anything but a view of its state.  This module is about what the program leads to from a view: a
goal that every life of the program reaches, however the turns fall, without ever being stuck on its
way.

Main definitions:

* `LeadsTo.Program` — a step function, when it may run, when it is done, and the view that is its
  own;
* `LeadsTo.Leads` — **from a view the program leads to a goal**, by steps that do only what they
  may;
* `LeadsTo.Program.Next` — a step of the program, or a turn of the others.

Main results:

* `LeadsTo.Leads.trans`, `LeadsTo.Leads.loop` — goals compose, and a variant makes a loop lead to
  its exit;
* `LeadsTo.Leads.safe` — **on its way to the goal the program is never stuck**;
* `LeadsTo.Leads.inevitable` — **a life in which the program has turns until it is done reaches the
  goal**.
-/

import Mathlib.Data.Nat.Find
import Mathlib.Logic.Relation

set_option relaxedAutoImplicit false
set_option autoImplicit false

namespace LeadsTo

open Relation (ReflTransGen)

variable {σ ρ : Type*}

/-- A program among others. -/
structure Program (σ ρ : Type*) where
  step : σ → Option σ
  runs : σ → Prop
  done : σ → Prop
  view : σ → ρ
  not_done : ∀ s, runs s → ¬done s

/-- **From a view the program leads to a goal**: it is there, or whatever the rest of the state is,
it has a step, which does what it may do, and then it is done or leads there. -/
inductive Leads (S : Program σ ρ) (R : σ → σ → Prop) (B : ρ → Prop) : ρ → Prop
  | here {x : ρ} : B x → Leads S R B x
  | step {x : ρ} : (∀ s, S.view s = x → S.runs s → (S.step s).isSome) →
      (∀ s t, S.view s = x → S.runs s → S.step s = some t → R s t) →
      (∀ s t, S.view s = x → S.runs s → S.step s = some t → ¬S.done t → Leads S R B (S.view t)) →
      Leads S R B x

variable {S : Program σ ρ} {R : σ → σ → Prop} {B C I : ρ → Prop} {x : ρ} {s t : σ}

/-- One step, and then the goal. -/
theorem Leads.of_step (h : ∀ s, S.view s = x → S.runs s →
    ∃ t, S.step s = some t ∧ R s t ∧ (S.done t ∨ Leads S R B (S.view t))) : Leads S R B x := by
  refine .step (fun s hs hrun => ?_) (fun s t hs hrun ht => ?_) fun s t hs hrun ht hdone => ?_
  · obtain ⟨t, ht, -⟩ := h s hs hrun
    rw [ht]
    rfl
  · obtain ⟨t', ht', hR, -⟩ := h s hs hrun
    rw [ht, Option.some_inj] at ht'
    exact ht' ▸ hR
  · obtain ⟨t', ht', -, hnext⟩ := h s hs hrun
    rw [ht, Option.some_inj] at ht'
    subst ht'
    exact hnext.resolve_left hdone

/-- **Goals compose.** -/
theorem Leads.trans (h : Leads S R B x) (hBC : ∀ y, B y → Leads S R C y) : Leads S R C x := by
  induction h with
  | here hx => exact hBC _ hx
  | step hsome hR _ ih => exact .step hsome hR ih

theorem Leads.mono (h : Leads S R B x) (hBC : ∀ y, B y → C y) : Leads S R C x :=
  h.trans fun y hy => .here (hBC y hy)

/-- **A loop**: from the invariant it leads to the exit, or to the invariant with a smaller
variant. -/
theorem Leads.loop (μ : ρ → ℕ) (h : ∀ x, I x → Leads S R (fun y => B y ∨ I y ∧ μ y < μ x) x)
    (hx : I x) : Leads S R B x := by
  induction hn : μ x using Nat.strong_induction_on generalizing x with
  | _ n ih =>
      refine (h x hx).trans fun y hy => ?_
      rcases hy with hy | ⟨hy, hlt⟩
      · exact .here hy
      · exact ih (μ y) (hn ▸ hlt) hy rfl

/-! ### Lives -/

/-- A step of the program, or a turn of the others, which leaves the view as it is. -/
def Program.Next (S : Program σ ρ) (s t : σ) : Prop :=
  S.runs s ∧ S.step s = some t ∨ ¬S.done s ∧ S.view t = S.view s ∧ ¬S.done t

/-- On the way to the goal, a step goes on leading there. -/
theorem Leads.next (h : Leads S R B (S.view s)) (hB : ¬B (S.view s)) (hst : S.Next s t) :
    S.done t ∨ Leads S R B (S.view t) := by
  rcases hst with ⟨hrun, hstep⟩ | ⟨-, hview, -⟩
  · generalize hx : S.view s = x at h hB
    cases h with
    | here hx' => exact absurd hx' hB
    | step _ _ hnext => exact or_iff_not_imp_left.2 fun hdone => hnext s t hx hrun hstep hdone
  · rw [hview]
    exact Or.inr h

/-- **On its way to the goal the program is never stuck.** -/
theorem Leads.safe (h : Leads S R B (S.view s))
    (hlife : ReflTransGen (fun s t => ¬B (S.view s) ∧ S.Next s t) s t) (hB : ¬B (S.view t))
    (hrun : S.runs t) : (S.step t).isSome := by
  have hleads : S.done t ∨ Leads S R B (S.view t) := by
    clear hB hrun
    induction hlife with
    | refl => exact Or.inr h
    | tail _ hst ih =>
        rcases ih with hdone | hleads
        · rcases hst.2 with ⟨hrun, -⟩ | ⟨hno, -⟩
          · exact absurd hdone (S.not_done _ hrun)
          · exact absurd hdone hno
        · exact hleads.next hst.1 hst.2
  cases hleads.resolve_left (S.not_done t hrun) with
  | here hx => exact absurd hx hB
  | step hsome _ _ => exact hsome t rfl hrun

/-- **A life in which the program has turns until it is done reaches the goal**, or the program is
done on its way, by a step that does what it may do. -/
theorem Leads.inevitable {f : ℕ → σ} (hlife : ∀ n, S.done (f n) ∨ S.Next (f n) (f (n + 1)))
    (hfair : ∀ n, ∃ m, n ≤ m ∧ (S.done (f m) ∨ S.runs (f m) ∧ S.step (f m) = some (f (m + 1))))
    {n : ℕ} (hn : ¬S.done (f n)) (h : Leads S R B (S.view (f n))) :
    ∃ m, n ≤ m ∧ (B (S.view (f m)) ∨ S.runs (f m) ∧ R (f m) (f (m + 1)) ∧ S.done (f (m + 1))) := by
  generalize hx : S.view (f n) = x at h
  induction h generalizing n with
  | here hB => exact ⟨n, Nat.le_refl n, Or.inl (hx ▸ hB)⟩
  | step _ hR _ ih =>
      classical
      -- the next turn of the program, before which only the others have theirs
      have hview : ∀ k, n ≤ k → k ≤ Nat.find (hfair n) → S.view (f k) = S.view (f n) ∧
          ¬S.done (f k) := by
        intro k hnk
        induction k, hnk using Nat.le_induction with
        | base =>
            intro _
            exact ⟨rfl, hn⟩
        | succ k hnk ihk =>
            intro hk
            obtain ⟨hview, hdone⟩ := ihk (Nat.le_of_succ_le hk)
            rcases (hlife k).resolve_left hdone with ⟨hrun, hstep⟩ | ⟨-, hview', hdone'⟩
            · exact absurd ⟨hnk, Or.inr ⟨hrun, hstep⟩⟩ (Nat.find_min (hfair n) hk)
            · exact ⟨hview'.trans hview, hdone'⟩
      obtain ⟨hle, hturn⟩ := Nat.find_spec (hfair n)
      obtain ⟨hview, hdone⟩ := hview _ hle (Nat.le_refl _)
      obtain ⟨hrun, hstep⟩ := hturn.resolve_left hdone
      have hat := hview.trans hx
      by_cases hdone' : S.done (f (Nat.find (hfair n) + 1))
      · exact ⟨_, hle, Or.inr ⟨hrun, hR _ _ hat hrun hstep, hdone'⟩⟩
      · obtain ⟨m, hm, hgoal⟩ := ih _ _ hat hrun hstep hdone' hdone' rfl
        exact ⟨m, Nat.le_trans (Nat.le_succ_of_le hle) hm, hgoal⟩

end LeadsTo
