/-
**A segmented memory.**

A segmented memory gives, for each owner and each address, the cells of the segment there, if there
is one.  Segments are created with a length and some contents, destroyed all at once for an owner,
and written and read by slices.  There is no notion of where the cells are.

Main definitions:

* `SegMem.Memory` — segmented memories, over arbitrary owners, addresses and cells;
* `SegMem.create`, `SegMem.destroy`, `SegMem.store`, `SegMem.load` — the operations.

Main results:

* `SegMem.Holds.store_of_notMem`, `SegMem.Holds.create`, `SegMem.Holds.destroy` — **a cell keeps its
  value** under every operation that does not write it;
* `SegMem.holds_of_store`, `SegMem.Holds.load` — a store gives it the value written, and a load
  returns it;
* `SegMem.destroy_create`, `SegMem.destroy_store`, `SegMem.destroy_comm` — the operations of the
  other owners are the same with an owner's segments or without them.
-/

import Mathlib.Data.List.Basic

set_option relaxedAutoImplicit false
set_option autoImplicit false

namespace SegMem

variable {κ δ β : Type*}

/-- The cells of each segment, by owner and address. -/
abbrev Memory (κ δ β : Type*) := κ → δ → Option (List β)

/-- The memory without segments. -/
def empty : Memory κ δ β := fun _ _ => none

/-- The cells after writing `src 0, …, src (n - 1)` from the position `off` on. -/
def overwrite (bs : List β) (off n : ℕ) (src : ℕ → β) : List β :=
  bs.mapIdx fun i b => if off ≤ i ∧ i < off + n then src (i - off) else b

@[simp] theorem length_overwrite (bs : List β) (off n : ℕ) (src : ℕ → β) :
    (overwrite bs off n src).length = bs.length := List.length_mapIdx

/-- The cells after writing a slice, one by one. -/
theorem getD_overwrite (bs : List β) (off n i : ℕ) (src : ℕ → β) (d : β) :
    (overwrite bs off n src).getD i d =
      if off ≤ i ∧ i < off + n ∧ i < bs.length then src (i - off) else bs.getD i d := by
  rw [overwrite, List.getD_eq_getElem?_getD, List.getElem?_mapIdx, List.getD_eq_getElem?_getD]
  rcases Nat.lt_or_ge i bs.length with hi | hi
  · rw [List.getElem?_eq_getElem hi, Option.map_some, Option.getD_some, Option.getD_some]
    simp [hi]
  · rw [List.getElem?_eq_none hi]
    simp [Nat.not_lt.2 hi]

section Operations

variable [DecidableEq κ] [DecidableEq δ]

/-- A segment with the given cells, in place of any at the same address. -/
def create (m : Memory κ δ β) (k : κ) (d : δ) (bs : List β) : Memory κ δ β :=
  fun k' d' => if k' = k ∧ d' = d then some bs else m k' d'

/-- No segment of the owner any more. -/
def destroy (m : Memory κ δ β) (k : κ) : Memory κ δ β :=
  fun k' d' => if k' = k then none else m k' d'

/-- Writing a slice of a segment; nothing when the segment does not hold the slice. -/
def store (m : Memory κ δ β) (k : κ) (d : δ) (off n : ℕ) (src : ℕ → β) : Option (Memory κ δ β) :=
  match m k d with
  | some bs => if off + n ≤ bs.length then some (create m k d (overwrite bs off n src)) else none
  | none => none

end Operations

/-- Reading a slice of a segment; nothing when the segment does not hold the slice. -/
def load (m : Memory κ δ β) (k : κ) (d : δ) (off n : ℕ) : Option (List β) :=
  match m k d with
  | some bs => if off + n ≤ bs.length then some ((bs.drop off).take n) else none
  | none => none

/-- The cell at position `i` of a segment exists and has the value `v`. -/
def Holds (m : Memory κ δ β) (k : κ) (d : δ) (i : ℕ) (v : β) : Prop :=
  ∃ bs, m k d = some bs ∧ bs[i]? = some v

variable {m m' : Memory κ δ β} {k k' : κ} {d d' : δ} {i off n : ℕ} {v : β} {bs : List β}

theorem load_of_le (h : m k d = some bs) (hle : off + n ≤ bs.length) :
    load m k d off n = some ((bs.drop off).take n) := by
  rw [load, h]
  exact if_pos hle

theorem load_eq_none (h : ∀ bs, m k d = some bs → ¬ off + n ≤ bs.length) :
    load m k d off n = none := by
  rw [load]
  split
  · next bs hbs => exact if_neg (h bs hbs)
  · rfl

/-- A load returns the value of each cell it reads. -/
theorem Holds.load (h : Holds m k d i v) {data : List β} (hd : load m k d off n = some data)
    (hoff : off ≤ i) (hn : i < off + n) : data[i - off]? = some v := by
  obtain ⟨bs, hbs, hv⟩ := h
  rw [SegMem.load, hbs] at hd
  simp only [Option.ite_none_right_eq_some, Option.some.injEq] at hd
  obtain ⟨-, rfl⟩ := hd
  rw [List.getElem?_take_of_lt (by omega), List.getElem?_drop, Nat.add_sub_cancel' hoff, hv]

variable [DecidableEq κ]

theorem destroy_of_ne (h : k' ≠ k) : destroy m k k' d' = m k' d' := if_neg h

@[simp] theorem destroy_self : destroy m k k d = none := if_pos rfl

/-- The segments of two owners are destroyed in any order. -/
theorem destroy_comm (m : Memory κ δ β) (k k' : κ) :
    destroy (destroy m k') k = destroy (destroy m k) k' := by
  funext j e
  by_cases hj : j = k
  · simp [destroy, hj]
  · rw [destroy_of_ne hj]
    by_cases hj' : j = k'
    · simp [destroy, hj']
    · rw [destroy_of_ne hj', destroy_of_ne hj', destroy_of_ne hj]

theorem destroy_destroy (m : Memory κ δ β) (k : κ) : destroy (destroy m k) k = destroy m k := by
  funext j e
  rcases eq_or_ne j k with rfl | hj
  · rw [destroy_self, destroy_self]
  · rw [destroy_of_ne hj]

/-- A load of another owner returns the same without the segments of the owner. -/
theorem load_destroy (hne : k' ≠ k) : load (destroy m k) k' d off n = load m k' d off n := by
  rw [load, load, destroy_of_ne hne]

/-- Destroying the segments of another owner leaves the cell as it was. -/
theorem Holds.destroy (h : Holds m k d i v) (hne : k ≠ k') : Holds (destroy m k') k d i v := by
  obtain ⟨cs, hcs, hv⟩ := h
  exact ⟨cs, by rw [destroy_of_ne hne, hcs], hv⟩

variable [DecidableEq δ]

theorem create_self : create m k d bs k d = some bs := if_pos ⟨rfl, rfl⟩

theorem create_of_ne (h : ¬ (k' = k ∧ d' = d)) : create m k d bs k' d' = m k' d' := if_neg h

theorem store_of_le {src : ℕ → β} (h : m k d = some bs) (hle : off + n ≤ bs.length) :
    store m k d off n src = some (create m k d (overwrite bs off n src)) := by
  rw [store, h]
  exact if_pos hle

theorem store_eq_none {src : ℕ → β} (h : ∀ bs, m k d = some bs → ¬ off + n ≤ bs.length) :
    store m k d off n src = none := by
  rw [store]
  split
  · next bs hbs => exact if_neg (h bs hbs)
  · rfl

/-- A store that succeeds is the creation of the overwritten segment. -/
theorem store_eq_some {src : ℕ → β} (h : store m k d off n src = some m') :
    ∃ bs, m k d = some bs ∧ off + n ≤ bs.length ∧
      m' = create m k d (overwrite bs off n src) := by
  rw [store] at h
  split at h
  · next bs hbs =>
      simp only [Option.ite_none_right_eq_some, Option.some.injEq] at h
      exact ⟨bs, hbs, h.1, h.2.symm⟩
  · simp at h

/-! ### The value of a cell -/

/-- A store gives each cell that it writes the value written. -/
theorem holds_of_store {src : ℕ → β} (h : store m k d off n src = some m') (hoff : off ≤ i)
    (hn : i < off + n) : Holds m' k d i (src (i - off)) := by
  obtain ⟨bs, hbs, hle, rfl⟩ := store_eq_some h
  refine ⟨_, create_self, ?_⟩
  have hi : i < bs.length := by omega
  rw [overwrite, List.getElem?_mapIdx, List.getElem?_eq_getElem hi, Option.map_some,
    if_pos ⟨hoff, hn⟩]

/-- A store that does not write the cell leaves it as it was. -/
theorem Holds.store_of_notMem (h : Holds m k d i v) {src : ℕ → β}
    (hs : store m k' d' off n src = some m')
    (hne : ¬ (k = k' ∧ d = d' ∧ off ≤ i ∧ i < off + n)) : Holds m' k d i v := by
  obtain ⟨bs, hbs, hv⟩ := h
  obtain ⟨bs', hbs', hle, rfl⟩ := store_eq_some hs
  by_cases hk : k = k' ∧ d = d'
  · obtain ⟨rfl, rfl⟩ := hk
    obtain rfl := Option.some_inj.1 (hbs.symm.trans hbs')
    refine ⟨_, create_self, ?_⟩
    have hout : ¬ (off ≤ i ∧ i < off + n) := fun hin => hne ⟨rfl, rfl, hin⟩
    rw [overwrite, List.getElem?_mapIdx, hv, Option.map_some, if_neg hout]
  · exact ⟨bs, by rw [create_of_ne hk, hbs], hv⟩

/-- The creation of a segment where there was none leaves every cell as it was. -/
theorem Holds.create (h : Holds m k d i v) (hnew : m k' d' = none) :
    Holds (create m k' d' bs) k d i v := by
  obtain ⟨cs, hcs, hv⟩ := h
  refine ⟨cs, ?_, hv⟩
  rw [create_of_ne, hcs]
  rintro ⟨rfl, rfl⟩
  rw [hnew] at hcs
  exact absurd hcs (by simp)

/-! ### Memories without an owner -/

/-- What an owner creates is gone with its segments. -/
theorem destroy_create_self : destroy (create m k d bs) k = destroy m k := by
  funext k' d'
  rcases eq_or_ne k' k with rfl | hne
  · simp
  · rw [destroy_of_ne hne, destroy_of_ne hne, create_of_ne fun h => hne h.1]

/-- What another owner creates stays. -/
theorem destroy_create (hne : k' ≠ k) :
    destroy (create m k' d bs) k = create (destroy m k) k' d bs := by
  funext j e
  rcases eq_or_ne j k with rfl | hj
  · rw [destroy_self, create_of_ne fun h => hne h.1.symm, destroy_self]
  · by_cases hje : j = k' ∧ e = d
    · obtain ⟨rfl, rfl⟩ := hje
      rw [destroy_of_ne hj, create_self, create_self]
    · rw [destroy_of_ne hj, create_of_ne hje, create_of_ne hje, destroy_of_ne hj]

/-- A store of another owner is the same store without the segments of the owner. -/
theorem destroy_store {src : ℕ → β} (hne : k' ≠ k) :
    store (destroy m k) k' d off n src = (store m k' d off n src).map fun m' => destroy m' k := by
  rw [store, store, destroy_of_ne hne]
  split
  · split
    · rw [Option.map_some, destroy_create hne]
    · rfl
  · rfl

end SegMem
