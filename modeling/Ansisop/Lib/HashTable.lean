/-
**A hash table with chains.**

Entries are pairs of a hash code and a value; keys are not looked at after hashing.  A chain holds
the entries whose codes agree modulo the size of the table.  A new entry goes to the end of its
chain, also when there is one with the same code already, and the table doubles when no chain is
empty.  A lookup returns the first entry of the chain with the code.

What matters to a user is the log of the entries put since the table was last cleaned: the table
represents it, and a lookup returns the first entry of the log with the code.

Main definitions:

* `HashTable.Table`, `HashTable.put`, `HashTable.get`, `HashTable.clean`;
* `HashTable.Represents` — the table holds a log.

Main results:

* `HashTable.Represents.put`, `HashTable.represents_clean` — putting appends to the log, also
  through a resize; cleaning empties it;
* `HashTable.Represents.get` — **a lookup returns the first entry of the log with the code**.
-/

import Mathlib.Data.List.Basic
import Mathlib.Logic.Function.Basic

set_option relaxedAutoImplicit false
set_option autoImplicit false

namespace HashTable

variable {β : Type*}

/-- A table: its size, the number of chains that are not empty, and the chains. -/
structure Table (β : Type*) where
  maxSize : ℕ
  currentSize : ℕ
  chain : ℕ → List (ℕ × β)

/-- The table without entries, of a given size. -/
def empty (maxSize : ℕ) : Table β := ⟨maxSize, 0, fun _ => []⟩

/-- An entry at the end of its chain. -/
def append (t : Table β) (e : ℕ × β) : Table β where
  maxSize := t.maxSize
  currentSize :=
    if (t.chain (e.1 % t.maxSize)).isEmpty then t.currentSize + 1 else t.currentSize
  chain := Function.update t.chain (e.1 % t.maxSize) (t.chain (e.1 % t.maxSize) ++ [e])

/-- The entries, chain after chain. -/
def entries (t : Table β) : List (ℕ × β) := (List.range t.maxSize).flatMap t.chain

/-- The entries put again, in that order, in a table of another size. -/
def resize (t : Table β) (newMaxSize : ℕ) : Table β :=
  (entries t).foldl append (empty newMaxSize)

/-- A new entry; the table doubles when the entry fills its last empty chain. -/
def put (t : Table β) (e : ℕ × β) : Table β :=
  if (t.chain (e.1 % t.maxSize)).isEmpty ∧ t.maxSize ≤ (append t e).currentSize then
    resize (append t e) (t.maxSize * 2)
  else append t e

/-- The value of the first entry of the chain with the hash code. -/
def get (t : Table β) (hash : ℕ) : Option β :=
  ((t.chain (hash % t.maxSize)).find? fun e => e.1 == hash).map Prod.snd

/-- No entries any more; the size stays. -/
def clean (t : Table β) : Table β := empty t.maxSize

/-- **The table holds the log**: each entry is in its chain, and the entries with a code are those
of the log, in the same order. -/
structure Represents (t : Table β) (log : List (ℕ × β)) : Prop where
  pos : 0 < t.maxSize
  placed : ∀ i, ∀ e ∈ t.chain i, e.1 % t.maxSize = i
  chain : ∀ h, (t.chain (h % t.maxSize)).filter (fun e => e.1 == h) = log.filter fun e => e.1 == h

variable {t : Table β} {log log' : List (ℕ × β)} {e : ℕ × β}

theorem represents_empty {n : ℕ} (h : 0 < n) : Represents (empty n : Table β) [] :=
  ⟨h, by simp [empty], by simp [empty]⟩

/-- Cleaning empties the log. -/
theorem represents_clean (h : Represents t log) : Represents (clean t) [] :=
  represents_empty h.pos

/-- Appending an entry appends it to the log. -/
theorem Represents.append (h : Represents t log) : Represents (append t e) (log ++ [e]) where
  pos := h.pos
  placed := by
    intro i e' he'
    simp only [HashTable.append] at he' ⊢
    rcases eq_or_ne i (e.1 % t.maxSize) with rfl | hne
    · rw [Function.update_self, List.mem_append, List.mem_singleton] at he'
      rcases he' with he' | rfl
      · exact h.placed _ _ he'
      · rfl
    · rw [Function.update_of_ne hne] at he'
      exact h.placed _ _ he'
  chain := by
    intro hash
    simp only [HashTable.append, List.filter_append]
    rcases eq_or_ne (hash % t.maxSize) (e.1 % t.maxSize) with heq | hne
    · rw [heq, Function.update_self, List.filter_append, ← heq, h.chain hash]
    · have hcode : (e.1 == hash) = false := by
        rw [beq_eq_false_iff_ne]
        rintro rfl
        exact hne rfl
      rw [Function.update_of_ne hne, h.chain hash]
      simp [hcode]

/-- Appending a list of entries appends it to the log. -/
theorem Represents.foldl_append (h : Represents t log) (es : List (ℕ × β)) :
    Represents (es.foldl HashTable.append t) (log ++ es) := by
  induction es generalizing t log with
  | nil => simpa using h
  | cons e es ih =>
      rw [List.foldl_cons, List.append_cons]
      exact ih h.append

/-- Only the entries with each code matter, and their order. -/
theorem Represents.congr (h : Represents t log)
    (hlog : ∀ hash, log.filter (fun e => e.1 == hash) = log'.filter fun e => e.1 == hash) :
    Represents t log' :=
  ⟨h.pos, h.placed, fun hash => (h.chain hash).trans (hlog hash)⟩

/-- A concatenation of which all parts but one are empty. -/
theorem flatMap_range_of_eq_nil {α : Type*} {f : ℕ → List α} {k n : ℕ} (hk : k < n)
    (hf : ∀ i, i ≠ k → f i = []) : (List.range n).flatMap f = f k := by
  induction n with
  | zero => exact absurd hk (Nat.not_lt_zero k)
  | succ n ih =>
      rw [List.range_succ, List.flatMap_append, List.flatMap_singleton]
      rcases Nat.lt_succ_iff_lt_or_eq.1 hk with hlt | rfl
      · rw [ih hlt, hf n (by omega), List.append_nil]
      · have hnil : (List.range k).flatMap f = [] := by
          rw [List.flatMap_eq_nil_iff]
          exact fun i hi => hf i (by have := List.mem_range.1 hi; omega)
        rw [hnil, List.nil_append]

/-- The entries of the table with a code are those of its log. -/
theorem Represents.filter_entries (h : Represents t log) (hash : ℕ) :
    (entries t).filter (fun e => e.1 == hash) = log.filter fun e => e.1 == hash := by
  rw [entries, List.filter_flatMap, flatMap_range_of_eq_nil (Nat.mod_lt hash h.pos), h.chain hash]
  intro i hi
  -- the other chains hold no entry with the code
  rw [List.filter_eq_nil_iff]
  intro e he hcode
  have := h.placed i e he
  rw [beq_iff_eq] at hcode
  rw [hcode] at this
  exact hi this.symm

/-- Resizing keeps the log. -/
theorem Represents.resize (h : Represents t log) {n : ℕ} (hn : 0 < n) :
    Represents (resize t n) log := by
  refine ((represents_empty hn).foldl_append (entries t)).congr fun hash => ?_
  rw [List.nil_append]
  exact h.filter_entries hash

/-- **Putting an entry appends it to the log.** -/
theorem Represents.put (h : Represents t log) (e : ℕ × β) : Represents (put t e) (log ++ [e]) := by
  rw [HashTable.put]
  split
  · exact h.append.resize (Nat.mul_pos h.pos Nat.two_pos)
  · exact h.append

/-- **A lookup returns the first entry of the log with the code.** -/
theorem Represents.get (h : Represents t log) (hash : ℕ) :
    get t hash = (log.find? fun e => e.1 == hash).map Prod.snd := by
  rw [HashTable.get, ← List.head?_filter, h.chain hash, List.head?_filter]

end HashTable
