/-
**Checked copies.**

A program that copies ranges of bytes between blocks is run with every access checked: the first one
that leaves its block, and the first subtraction that would wrap around, ends it with a fault.

Main definitions:

* `Checked.Fault` — what can go wrong;
* `Checked.copy`, `Checked.sub` — a copy between two blocks, and the subtraction of a size.

Main results:

* `Checked.copy_eq_ok`, `Checked.sub_eq_ok`, `Checked.bind_eq_ok` — when a checked program ends
  without a fault.
-/

import Mathlib.Data.List.Basic

set_option relaxedAutoImplicit false
set_option autoImplicit false

namespace Checked

/-- An access that leaves its block, or a size that wraps around. -/
inductive Fault
  | read
  | write
  | wrap
deriving DecidableEq

universe u

variable {α β : Type u} {ε : Type*}

/-- `n` items from offset `start` of a block are copied to offset `offset` of a block of size
`target`. -/
def copy (source : List α) (start target offset n : ℕ) : Except Fault (List α) :=
  if source.length < start + n then .error .read
  else if target < offset + n then .error .write
  else .ok ((source.drop start).take n)

/-- A size that is decreased. -/
def sub (size n : ℕ) : Except Fault ℕ := if n ≤ size then .ok (size - n) else .error .wrap

/-- **A copy has no fault** if it stays inside both blocks. -/
@[simp] theorem copy_eq_ok {source : List α} {start target offset n : ℕ} {items : List α} :
    copy source start target offset n = .ok items ↔
      start + n ≤ source.length ∧ offset + n ≤ target ∧ (source.drop start).take n = items := by
  rw [copy]
  split
  · exact iff_of_false nofun fun h => by omega
  · split
    · exact iff_of_false nofun fun h => by omega
    · simp only [Except.ok.injEq]
      exact ⟨fun h => ⟨by omega, by omega, h⟩, fun h => h.2.2⟩

@[simp] theorem sub_eq_ok {size n m : ℕ} : sub size n = .ok m ↔ n ≤ size ∧ size - n = m := by
  rw [sub]
  split
  · rename_i h
    simp [h]
  · rename_i h
    simp [h]

/-- **Two programs, one after the other**, have no fault if none of them has. -/
@[simp] theorem bind_eq_ok {x : Except ε α} {f : α → Except ε β} {b : β} :
    x >>= f = .ok b ↔ ∃ a, x = .ok a ∧ f a = .ok b := by
  cases x with
  | error e => exact iff_of_false nofun fun ⟨_, h, _⟩ => nomatch h
  | ok a => exact ⟨fun h => ⟨a, rfl, h⟩, fun ⟨_, ha, h⟩ => Except.ok.inj ha ▸ h⟩

@[simp] theorem pure_eq_ok {a b : α} : (pure a : Except ε α) = .ok b ↔ a = b := by
  show Except.ok a = Except.ok b ↔ a = b
  rw [Except.ok.injEq]

@[simp] theorem map_eq_ok {x : Except ε α} {f : α → β} {b : β} :
    x.map f = .ok b ↔ ∃ a, x = .ok a ∧ f a = b := by
  cases x with
  | error e => exact iff_of_false nofun fun ⟨_, h, _⟩ => nomatch h
  | ok a => simp [Except.map]

end Checked
