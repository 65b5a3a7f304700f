/-
**A pipe.**

What is written to a pipe is in flight until it arrives, in pieces of any size, and what has arrived
is read from the front.  Nothing is lost, duplicated or reordered; only the pieces are arbitrary.

Main definitions:

* `Pipe` — a pipe, with what has arrived and what is in flight;
* `Pipe.content` — all that was written and not read;
* `Pipe.send`, `Pipe.deliver`, `Pipe.consume` — writing, the arrival of a piece, reading.

Main results:

* `Pipe.content_deliver`, `Pipe.content_consume` — **an arrival changes nothing of the contents, and
  a read takes their front**.
-/

import Mathlib.Data.List.Basic

set_option relaxedAutoImplicit false
set_option autoImplicit false

variable {α : Type*}

/-- What was written to a pipe and not read. -/
structure Pipe (α : Type*) where
  arrived : List α
  inFlight : List α

namespace Pipe

/-- A pipe with nothing in it. -/
def empty : Pipe α := ⟨[], []⟩

/-- All that was written and not read, in order. -/
def content (p : Pipe α) : List α := p.arrived ++ p.inFlight

/-- Something is written. -/
def send (p : Pipe α) (xs : List α) : Pipe α := { p with inFlight := p.inFlight ++ xs }

/-- The first `n` items in flight arrive. -/
def deliver (p : Pipe α) (n : ℕ) : Pipe α := ⟨p.arrived ++ p.inFlight.take n, p.inFlight.drop n⟩

/-- The first `n` items that have arrived are read. -/
def consume (p : Pipe α) (n : ℕ) : Pipe α := { p with arrived := p.arrived.drop n }

variable {p : Pipe α} {xs : List α} {n : ℕ}

@[simp] theorem content_empty : (empty : Pipe α).content = [] := rfl

@[simp] theorem content_send : (p.send xs).content = p.content ++ xs := by
  simp [send, content]

/-- **An arrival changes nothing of the contents.** -/
@[simp] theorem content_deliver : (p.deliver n).content = p.content := by
  rw [deliver, content, List.append_assoc, List.take_append_drop, content]

/-- **A read takes the front of the contents.** -/
theorem content_consume : p.content = p.arrived.take n ++ (p.consume n).content := by
  rw [consume, content, content, ← List.append_assoc, List.take_append_drop]

/-- With nothing in flight the contents have arrived. -/
theorem arrived_of_inFlight (h : p.inFlight = []) : p.arrived = p.content := by
  rw [content, h, List.append_nil]

theorem content_eq_nil : p.content = [] ↔ p.arrived = [] ∧ p.inFlight = [] := List.append_eq_nil_iff

end Pipe
