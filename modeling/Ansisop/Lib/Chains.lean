/-
**Chains of cells in a heap.**

A cell holds a datum and the address of the next cell, if there is one.  A chain goes from cell to
cell until there is no next one, so no cell is twice in it.  The edits of a chain are local: a cell
is found by walking, its datum or its next cell changes, and the other cells stay as they are.

Main definitions:

* `Chains.Heap` — cells by address, finitely many of them, and `Chains.Allocator`, which finds a
  free one;
* `Chains.Seg` — **the cells from an address to another**, with their data;
* `Chains.Touches` — what an edit of a chain may touch: its cells and free ones;
* `Chains.Owned` — **all the cells are those of a family of chains**, each of one of them.

Main results:

* `Chains.seg_append` — a walk through two parts passes the address between them;
* `Chains.Seg.nodup` — **a chain that ends has no cell twice**;
* `Chains.Seg.congr` — a chain depends on its own cells only;
* `Chains.Seg.setData`, `Chains.Seg.relink` — the two edits;
* `Chains.Touches.trans` — edits compose;
* `Chains.Owned.update` — **an edit of a chain leaves the others as they are, and loses no cell**.
-/

import Mathlib.Data.List.Basic
import Mathlib.Logic.Function.Basic

set_option relaxedAutoImplicit false
set_option autoImplicit false

namespace Chains

/-- A datum, and the address of the next cell. -/
structure Cell (ι α : Type*) where
  data : α
  next : Option ι

/-- Cells by address.  The addresses in use are some of a list. -/
structure Heap (ι α : Type*) where
  cell : ι → Option (Cell ι α)
  used : List ι
  support : ∀ i, cell i ≠ none → i ∈ used

variable {ι α : Type*}

/-- **An allocator** finds an address where there is no cell. -/
structure Allocator (ι α : Type*) where
  fresh : Heap ι α → ι
  free : ∀ h : Heap ι α, h.cell (fresh h) = none

theorem le_foldr_add {n : ℕ} {ns : List ℕ} (h : n ∈ ns) : n ≤ ns.foldr Nat.add 0 := by
  induction h with
  | head ns => exact Nat.le_add_right _ _
  | tail m _ ih => exact Nat.le_trans ih (Nat.le_add_left _ _)

/-- An allocator of numbered addresses: one after those in use. -/
def Allocator.next : Allocator ℕ α where
  fresh := fun h => Nat.succ (h.used.foldr Nat.add 0)
  free := by
    intro h
    by_contra hcell
    exact absurd (le_foldr_add (h.support _ hcell)) (Nat.not_succ_le_self _)

namespace Heap

/-- No cells. -/
def empty : Heap ι α := ⟨fun _ => none, [], fun _ h => absurd rfl h⟩

variable [DecidableEq ι] {h : Heap ι α} {i j : ι} {c : Cell ι α}

/-- A cell is written. -/
def set (h : Heap ι α) (i : ι) (c : Cell ι α) : Heap ι α where
  cell := Function.update h.cell i (some c)
  used := i :: h.used
  support := by
    intro j hj
    by_cases hji : j = i
    · exact hji ▸ List.mem_cons_self
    · rw [Function.update_of_ne hji] at hj
      exact List.mem_cons_of_mem i (h.support j hj)

/-- A cell is freed. -/
def free (h : Heap ι α) (i : ι) : Heap ι α where
  cell := Function.update h.cell i none
  used := h.used
  support := by
    intro j hj
    by_cases hji : j = i
    · rw [hji, Function.update_self] at hj
      exact absurd rfl hj
    · rw [Function.update_of_ne hji] at hj
      exact h.support j hj

@[simp] theorem cell_set_self : (h.set i c).cell i = some c := Function.update_self ..

theorem cell_set_of_ne (hji : j ≠ i) : (h.set i c).cell j = h.cell j := Function.update_of_ne hji ..

@[simp] theorem cell_free_self : (h.free i).cell i = none := Function.update_self ..

theorem cell_free_of_ne (hji : j ≠ i) : (h.free i).cell j = h.cell j := Function.update_of_ne hji ..

end Heap

/-- **The cells from an address to another**, each with its datum. -/
def Seg (h : Heap ι α) : Option ι → List (ι × α) → Option ι → Prop
  | p, [], q => p = q
  | p, x :: xs, q => p = some x.1 ∧ ∃ next, h.cell x.1 = some ⟨x.2, next⟩ ∧ Seg h next xs q

variable {h h' : Heap ι α} {p q r : Option ι} {x y : ι × α} {xs ys : List (ι × α)}

/-- The addresses of some cells. -/
def addresses (xs : List (ι × α)) : List ι := xs.map Prod.fst

@[simp] theorem addresses_nil : addresses ([] : List (ι × α)) = [] := rfl

@[simp] theorem addresses_cons : addresses (x :: xs) = x.1 :: addresses xs := rfl

@[simp] theorem addresses_append : addresses (xs ++ ys) = addresses xs ++ addresses ys :=
  List.map_append

/-- **A walk through two parts passes the address between them.** -/
theorem seg_append : Seg h p (xs ++ ys) r ↔ ∃ q, Seg h p xs q ∧ Seg h q ys r := by
  induction xs generalizing p with
  | nil => simp [Seg]
  | cons x xs ih =>
      rw [List.cons_append, Seg]
      constructor
      · intro ⟨hp, next, hcell, hseg⟩
        obtain ⟨q, hxs, hys⟩ := ih.1 hseg
        exact ⟨q, ⟨hp, next, hcell, hxs⟩, hys⟩
      · intro ⟨q, ⟨hp, next, hcell, hxs⟩, hys⟩
        exact ⟨hp, next, hcell, ih.2 ⟨q, hxs, hys⟩⟩

/-- **A chain depends on its own cells only.** -/
theorem Seg.congr (hseg : Seg h p xs q) (heq : ∀ i ∈ addresses xs, h'.cell i = h.cell i) :
    Seg h' p xs q := by
  induction xs generalizing p with
  | nil => exact hseg
  | cons x xs ih =>
      obtain ⟨hp, next, hcell, hseg⟩ := hseg
      refine ⟨hp, next, ?_, ih hseg fun i hi => heq i (List.mem_cons_of_mem _ hi)⟩
      rw [heq _ List.mem_cons_self, hcell]

/-- Where a chain starts. -/
theorem Seg.head (hseg : Seg h p (x :: xs) q) : p = some x.1 := hseg.1

/-- The cells of a chain are there. -/
theorem Seg.exists_cell (hseg : Seg h p xs q) (hx : x ∈ xs) :
    ∃ next, h.cell x.1 = some ⟨x.2, next⟩ := by
  induction xs generalizing p with
  | nil => cases hx
  | cons y xs ih =>
      obtain ⟨-, next, hcell, hseg⟩ := hseg
      rcases List.mem_cons.1 hx with rfl | hx
      · exact ⟨next, hcell⟩
      · exact ih hseg hx

theorem Seg.cell_ne_none (hseg : Seg h p xs q) {i : ι} (hi : i ∈ addresses xs) :
    h.cell i ≠ none := by
  obtain ⟨x, hx, rfl⟩ := List.mem_map.1 hi
  obtain ⟨next, hcell⟩ := hseg.exists_cell hx
  rw [hcell]
  exact Option.some_ne_none _

/-- Two chains that end and start at the same address are the same. -/
theorem Seg.eq_of_end (hxs : Seg h p xs none) (hys : Seg h p ys none) : xs = ys := by
  induction xs generalizing p ys with
  | nil =>
      cases ys with
      | nil => rfl
      | cons y ys =>
          obtain rfl : p = none := hxs
          cases hys.1
  | cons x xs ih =>
      obtain ⟨hp, next, hcell, hxs⟩ := hxs
      cases ys with
      | nil =>
          obtain rfl : p = none := hys
          cases hp
      | cons y ys =>
          obtain ⟨hp', next', hcell', hys⟩ := hys
          have hi : x.1 = y.1 := Option.some_inj.1 (hp.symm.trans hp')
          rw [← hi, hcell, Option.some_inj, Cell.mk.injEq] at hcell'
          rw [Prod.ext hi hcell'.1, ih hxs (hcell'.2 ▸ hys)]

/-- **A chain that ends has no cell twice.** -/
theorem Seg.nodup (hseg : Seg h p xs none) : (addresses xs).Nodup := by
  induction xs generalizing p with
  | nil => exact List.nodup_nil
  | cons x xs ih =>
      obtain ⟨hp, next, hcell, hxs⟩ := id hseg
      rw [addresses_cons, List.nodup_cons]
      refine ⟨fun hmem => ?_, ih hxs⟩
      -- from the second time on, the chain would be as long as from the first time on
      obtain ⟨y, hy, hi⟩ := List.mem_map.1 hmem
      obtain ⟨zs, ws, rfl⟩ := List.append_of_mem hy
      obtain ⟨q, -, hrest⟩ := seg_append.1 hxs
      have hstart : p = q := by rw [hp, hrest.1, hi]
      have hlen := congrArg List.length (hseg.eq_of_end (hstart ▸ hrest))
      simp only [List.length_cons, List.length_append] at hlen
      omega

/-- A cell is neither before nor after itself. -/
theorem Seg.notMem (hseg : Seg h p (xs ++ x :: ys) none) : x.1 ∉ addresses xs ∧
    x.1 ∉ addresses ys := by
  have hnodup := hseg.nodup
  rw [addresses_append, addresses_cons, List.nodup_append, List.nodup_cons] at hnodup
  exact ⟨fun hi => hnodup.2.2 x.1 hi x.1 List.mem_cons_self rfl, hnodup.2.1.1⟩

section Edits

variable [DecidableEq ι] {i : ι} {a b : α} {c : Cell ι α}

/-- A write elsewhere. -/
theorem Seg.set_of_notMem (hseg : Seg h p xs q) (hi : i ∉ addresses xs) : Seg (h.set i c) p xs q :=
  hseg.congr fun _ hj => Heap.cell_set_of_ne (ne_of_mem_of_not_mem hj hi)

/-- A cell elsewhere is freed. -/
theorem Seg.free_of_notMem (hseg : Seg h p xs q) (hi : i ∉ addresses xs) : Seg (h.free i) p xs q :=
  hseg.congr fun _ hj => Heap.cell_free_of_ne (ne_of_mem_of_not_mem hj hi)

/-- **A cell gets another datum.** -/
theorem Seg.setData (hseg : Seg h p (xs ++ (i, a) :: ys) none) {next : Option ι}
    (hcell : h.cell i = some ⟨a, next⟩) (b : α) :
    Seg (h.set i ⟨b, next⟩) p (xs ++ (i, b) :: ys) none := by
  obtain ⟨hbefore, hafter⟩ := hseg.notMem
  obtain ⟨q, hxs, hq, next', hcell', hys⟩ := seg_append.1 hseg
  rw [hcell, Option.some_inj, Cell.mk.injEq] at hcell'
  exact seg_append.2 ⟨q, hxs.set_of_notMem hbefore, hq, next, Heap.cell_set_self,
    (hcell'.2 ▸ hys).set_of_notMem hafter⟩

/-- **A cell gets another rest**, in which it is not. -/
theorem Seg.relink (hseg : Seg h p (xs ++ (i, a) :: ys) none) {zs : List (ι × α)}
    (hq : Seg h q zs none) (hi : i ∉ addresses zs) :
    Seg (h.set i ⟨a, q⟩) p (xs ++ (i, a) :: zs) none := by
  obtain ⟨r, hxs, hr, -⟩ := seg_append.1 hseg
  exact seg_append.2 ⟨r, hxs.set_of_notMem hseg.notMem.1, hr, q, Heap.cell_set_self,
    hq.set_of_notMem hi⟩

end Edits

/-! ### Several chains -/

/-- **What an edit of a chain touches**: the cells it had, and those it has now, which were its own
or free.  The cells it has no longer are freed. -/
structure Touches (h : Heap ι α) (xs : List (ι × α)) (h' : Heap ι α) (xs' : List (ι × α)) :
    Prop where
  frame : ∀ i, i ∉ addresses xs → i ∉ addresses xs' → h'.cell i = h.cell i
  fresh : ∀ i ∈ addresses xs', i ∈ addresses xs ∨ h.cell i = none
  freed : ∀ i ∈ addresses xs, i ∉ addresses xs' → h'.cell i = none

variable {h'' : Heap ι α} {xs' xs'' : List (ι × α)}

theorem Touches.refl (h : Heap ι α) (xs : List (ι × α)) : Touches h xs h xs :=
  ⟨fun _ _ _ => rfl, fun _ hi => Or.inl hi, fun _ hi hi' => absurd hi hi'⟩

/-- **Edits compose.** -/
theorem Touches.trans (ht : Touches h xs h' xs') (ht' : Touches h' xs' h'' xs'') :
    Touches h xs h'' xs'' where
  frame := by
    intro i hi hi''
    by_cases hi' : i ∈ addresses xs'
    · rw [ht'.freed i hi' hi'', (ht.fresh i hi').resolve_left hi]
    · rw [ht'.frame i hi' hi'', ht.frame i hi hi']
  fresh := by
    intro i hi''
    rcases ht'.fresh i hi'' with hi' | hfree
    · exact ht.fresh i hi'
    · by_cases hi : i ∈ addresses xs
      · exact Or.inl hi
      · by_cases hi' : i ∈ addresses xs'
        · exact ht.fresh i hi'
        · exact Or.inr (ht.frame i hi hi' ▸ hfree)
  freed := by
    intro i hi hi''
    by_cases hi' : i ∈ addresses xs'
    · exact ht'.freed i hi' hi''
    · rw [ht'.frame i hi' hi'', ht.freed i hi hi']

/-- Only the addresses matter. -/
theorem Touches.congr (ht : Touches h xs h' xs')
    (haddr : ∀ j, j ∈ addresses xs'' ↔ j ∈ addresses xs') : Touches h xs h' xs'' where
  frame := fun j hj hj' => ht.frame j hj (mt (haddr j).2 hj')
  fresh := fun j hj => ht.fresh j ((haddr j).1 hj)
  freed := fun j hj hj' => ht.freed j hj (mt (haddr j).2 hj')

section Edits

variable [DecidableEq ι] {i : ι} {c : Cell ι α}

/-- A cell of the chain is written. -/
theorem Touches.set (ht : Touches h xs h' xs') (hi : i ∈ addresses xs') (c : Cell ι α) :
    Touches h xs (h'.set i c) xs' where
  frame := fun j hj hj' => by
    rw [Heap.cell_set_of_ne (ne_of_mem_of_not_mem hi hj').symm, ht.frame j hj hj']
  fresh := ht.fresh
  freed := fun j hj hj' => by
    rw [Heap.cell_set_of_ne (ne_of_mem_of_not_mem hi hj').symm, ht.freed j hj hj']

/-- A free cell is taken. -/
theorem touches_alloc (hfree : h.cell i = none)
    (haddr : ∀ j, j ∈ addresses xs' ↔ j = i ∨ j ∈ addresses xs) : Touches h xs (h.set i c) xs' where
  frame := by
    intro j _ hj'
    rw [haddr, not_or] at hj'
    exact Heap.cell_set_of_ne hj'.1
  fresh := by
    intro j hj
    rcases (haddr j).1 hj with rfl | hj
    · exact Or.inr hfree
    · exact Or.inl hj
  freed := fun j hj hj' => absurd ((haddr j).2 (Or.inr hj)) hj'

/-- A cell is given back. -/
theorem touches_free (hi : i ∉ addresses xs')
    (haddr : ∀ j, j ∈ addresses xs ↔ j = i ∨ j ∈ addresses xs') : Touches h xs (h.free i) xs' where
  frame := by
    intro j hj _
    rw [haddr, not_or] at hj
    exact Heap.cell_free_of_ne hj.1
  fresh := fun j hj => Or.inl ((haddr j).2 (Or.inr hj))
  freed := by
    intro j hj hj'
    obtain rfl := ((haddr j).1 hj).resolve_right hj'
    exact Heap.cell_free_self

end Edits

/-- **A chain beside the edited one** stays as it is. -/
theorem Touches.seg (ht : Touches h xs h' xs') (hys : Seg h p ys q)
    (hapart : ∀ i ∈ addresses ys, i ∉ addresses xs) : Seg h' p ys q := by
  refine hys.congr fun i hi => ht.frame i (hapart i hi) fun hi' => ?_
  exact hys.cell_ne_none hi ((ht.fresh i hi').resolve_left (hapart i hi))

/-- Its cells are not in the edited one. -/
theorem Touches.apart (ht : Touches h xs h' xs') (hys : Seg h p ys q)
    (hapart : ∀ i ∈ addresses ys, i ∉ addresses xs) : ∀ i ∈ addresses ys, i ∉ addresses xs' := by
  intro i hi hi'
  exact hys.cell_ne_none hi ((ht.fresh i hi').resolve_left (hapart i hi))

/-- **All the cells are those of a family of chains**, each of one of them. -/
structure Owned {κ : Type*} (h : Heap ι α) (heads : κ → Option ι) (chains : κ → List (ι × α)) :
    Prop where
  seg : ∀ k, Seg h (heads k) (chains k) none
  apart : ∀ k k', k ≠ k' → ∀ i ∈ addresses (chains k), i ∉ addresses (chains k')
  all : ∀ i, h.cell i ≠ none → ∃ k, i ∈ addresses (chains k)

variable {κ : Type*} {heads : κ → Option ι} {chains : κ → List (ι × α)} {k : κ}

theorem owned_empty : Owned (Heap.empty : Heap ι α) (fun _ : κ => none) fun _ => [] :=
  ⟨fun _ => rfl, fun _ _ _ _ hi => absurd hi List.not_mem_nil, fun _ hi => absurd rfl hi⟩

/-- **An edit of a chain leaves the others as they are, and loses no cell.** -/
theorem Owned.update [DecidableEq κ] (ho : Owned h heads chains) (hseg : Seg h' p xs' none)
    (ht : Touches h (chains k) h' xs') :
    Owned h' (Function.update heads k p) (Function.update chains k xs') where
  seg := by
    intro l
    by_cases hl : l = k
    · subst hl
      rwa [Function.update_self, Function.update_self]
    · rw [Function.update_of_ne hl, Function.update_of_ne hl]
      exact ht.seg (ho.seg l) (ho.apart l k hl)
  apart := by
    intro l l' hne
    by_cases hl : l = k
    · subst hl
      rw [Function.update_self, Function.update_of_ne hne.symm]
      intro i hi hi'
      exact ht.apart (ho.seg l') (ho.apart l' l hne.symm) i hi' hi
    · rw [Function.update_of_ne hl]
      by_cases hl' : l' = k
      · subst hl'
        rw [Function.update_self]
        exact ht.apart (ho.seg l) (ho.apart l l' hne)
      · rw [Function.update_of_ne hl']
        exact ho.apart l l' hne
  all := by
    intro i hi
    by_cases hnew : i ∈ addresses xs'
    · exact ⟨k, by rwa [Function.update_self]⟩
    · by_cases hold : i ∈ addresses (chains k)
      · exact absurd (ht.freed i hold hnew) hi
      · obtain ⟨l, hl⟩ := ho.all i (ht.frame i hold hnew ▸ hi)
        have hne : l ≠ k := by
          rintro rfl
          exact hold hl
        exact ⟨l, by rwa [Function.update_of_ne hne]⟩

end Chains
