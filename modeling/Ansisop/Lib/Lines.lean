/-
**The lines of a text.**

The lines of a text are its pieces between separators, over arbitrary symbols.  Each line starts at
a position of the text, and after it comes the separator or the end.

Main definitions:

* `Lines.placed` — some lines with the positions where they start.

Main results:

* `Lines.notMem_of_mem_splitOn` — no line has the separator in it;
* `Lines.map_intercalate` — the text with other separators has the same lines;
* `Lines.takeWhile_append_sep` — a line is read up to its separator;
* `Lines.slice_of_mem_placed` — **what there is at the position of a line**, in the text: the line,
  and after it a separator or the end.
-/

import Mathlib.Data.List.Basic

set_option relaxedAutoImplicit false
set_option autoImplicit false

namespace Lines

variable {α β : Type*}

/-! ### The pieces -/

/-- No line has the separator in it. -/
theorem notMem_of_mem_splitOn [DecidableEq α] {sep : α} {text line : List α}
    (h : line ∈ text.splitOn sep) : sep ∉ line := by
  induction text generalizing line with
  | nil =>
      rw [List.splitOn_nil, List.mem_singleton] at h
      subst h
      exact List.not_mem_nil
  | cons x text ih =>
      rw [List.splitOn_cons_eq_if_modifyHead] at h
      split at h
      · rcases List.mem_cons.1 h with rfl | h
        · exact List.not_mem_nil
        · exact ih h
      · rename_i hx
        obtain ⟨first, others, heq⟩ := List.exists_cons_of_ne_nil (List.splitOn_ne_nil sep text)
        rw [heq, List.modifyHead_cons] at h
        rcases List.mem_cons.1 h with rfl | h
        · have hne : sep ≠ x := fun hsep => hx (beq_iff_eq.2 hsep.symm)
          have hfirst : sep ∉ first := ih (heq ▸ List.mem_cons_self)
          exact fun hmem => (List.mem_cons.1 hmem).elim hne hfirst
        · exact ih (heq ▸ List.mem_cons_of_mem _ h)

/-- The symbols of a line are symbols of the text. -/
theorem mem_of_mem_splitOn [DecidableEq α] {sep x : α} {text line : List α}
    (h : line ∈ text.splitOn sep) (hx : x ∈ line) : x ∈ text := by
  have htext : [sep].intercalate (text.splitOn sep) = text := List.intercalate_splitOn sep
  rw [← htext]
  generalize text.splitOn sep = lines at h
  induction lines with
  | nil => exact absurd h List.not_mem_nil
  | cons first others ih =>
      cases others with
      | nil =>
          obtain rfl := List.mem_singleton.1 h
          rwa [List.intercalate_singleton]
      | cons second others =>
          rw [List.intercalate_cons_cons, List.mem_append, List.mem_append]
          rcases List.mem_cons.1 h with rfl | h
          · exact Or.inl (Or.inl hx)
          · exact Or.inr (ih h)

/-- There are at most as many lines as symbols, and one more. -/
theorem length_splitOn_le [DecidableEq α] (sep : α) (text : List α) :
    (text.splitOn sep).length ≤ text.length + 1 := by
  induction text with
  | nil => exact Nat.le_refl _
  | cons x text ih =>
      rw [List.splitOn_cons_eq_if_modifyHead, List.length_cons]
      split
      · rw [List.length_cons]
        omega
      · rw [List.length_modifyHead]
        omega

/-- **Other separators, the same lines.** -/
theorem map_intercalate (f : α → β) (sep : α) (lines : List (List α)) :
    ([sep].intercalate lines).map f = [f sep].intercalate (lines.map (List.map f)) := by
  induction lines with
  | nil => rfl
  | cons first others ih =>
      cases others with
      | nil => rw [List.map_singleton, List.intercalate_singleton, List.intercalate_singleton]
      | cons second others =>
          rw [List.intercalate_cons_cons, List.map_append, List.map_append, ih]
          exact List.intercalate_cons_cons.symm

theorem takeWhile_append [DecidableEq α] {sep : α} {line : List α} (h : sep ∉ line)
    (rest : List α) : (line ++ rest).takeWhile (· ≠ sep) = line ++ rest.takeWhile (· ≠ sep) :=
  List.takeWhile_append_of_pos fun _ hx => decide_eq_true fun heq => h (heq ▸ hx)

/-- A line is what there is before a separator. -/
theorem takeWhile_append_sep [DecidableEq α] {sep : α} {line : List α} (h : sep ∉ line)
    (rest : List α) : (line ++ sep :: rest).takeWhile (· ≠ sep) = line := by
  rw [takeWhile_append h, List.takeWhile_cons_of_neg (by simp), List.append_nil]

/-- The last line is what there is before the end. -/
theorem takeWhile_last [DecidableEq α] {sep : α} {line : List α} (h : sep ∉ line) :
    line.takeWhile (· ≠ sep) = line := by
  simpa using takeWhile_append h []

/-! ### The positions -/

/-- Some lines, with the positions where they start; the first one starts at a given position. -/
def placed : ℕ → List (List α) → List (ℕ × List α)
  | _, [] => []
  | position, line :: lines => (position, line) :: placed (position + (line.length + 1)) lines

@[simp] theorem map_snd_placed (position : ℕ) (lines : List (List α)) :
    (placed position lines).map Prod.snd = lines := by
  induction lines generalizing position with
  | nil => rfl
  | cons line lines ih => rw [placed, List.map_cons, ih]

/-- **What there is at the position of a line**: the line, and after it a separator or the end. -/
theorem slice_of_mem_placed (sep fin : α) {lines : List (List α)} (before : List α) {line : List α}
    {position : ℕ} (h : (position, line) ∈ placed before.length lines) :
    ∃ pre c post, (c = sep ∨ c = fin) ∧
      before ++ [sep].intercalate lines ++ [fin] = pre ++ (line ++ c :: post) ∧
      pre.length = position := by
  induction lines generalizing before with
  | nil => exact absurd h List.not_mem_nil
  | cons first others ih =>
      rcases List.mem_cons.1 h with heq | h
      · obtain ⟨rfl, rfl⟩ := Prod.mk.inj heq
        cases others with
        | nil => exact ⟨before, fin, [], Or.inr rfl, by simp, rfl⟩
        | cons second others =>
            refine ⟨before, sep, [sep].intercalate (second :: others) ++ [fin], Or.inl rfl, ?_, rfl⟩
            rw [List.intercalate_cons_cons]
            simp
      · cases others with
        | nil => exact absurd h List.not_mem_nil
        | cons second others =>
            have hlength :
                (before ++ first ++ [sep]).length = before.length + (first.length + 1) := by
              simp
            obtain ⟨pre, c, post, hc, heq, hpre⟩ := ih (before ++ first ++ [sep]) (hlength ▸ h)
            refine ⟨pre, c, post, hc, ?_, hpre⟩
            rw [← heq, List.intercalate_cons_cons]
            simp

end Lines
