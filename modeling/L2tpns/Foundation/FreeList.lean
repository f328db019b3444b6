import Mathlib.Data.List.Basic
import Mathlib.Data.List.Nodup

/-! # Free lists in a table of successors

The free cells of a table are strung together through a successor that each cell holds,
with 0 at the end. Cell 0 is never free: its successor is the head of the list. A list
may begin with all cells in a row (`Foundation.Chain.row`), and keeps to the free cells when
its head is taken (`Foundation.FreeList.take`), when a cell
is given back (`Foundation.FreeList.give`) and when one is appended
(`Foundation.Chain.append`).
-/

namespace Foundation

/-- The cells that follow `cell`, up to the end. -/
def Chain (next : Nat → Nat) : Nat → List Nat → Prop
  | cell, [] => next cell = 0
  | cell, item :: items => next cell = item ∧ item ≠ 0 ∧ Chain next item items

section Chain

variable {next next' : Nat → Nat} {cell : Nat} {items : List Nat}

theorem Chain.congr {cell' : Nat} (chain : Chain next cell items)
    (first : next' cell' = next cell) (same : ∀ item ∈ items, next' item = next item) :
    Chain next' cell' items := by
  induction items generalizing cell cell' with
  | nil => exact first.trans chain
  | cons item items ih =>
      refine ⟨first.trans chain.1, chain.2.1, ih chain.2.2 (same item List.mem_cons_self) ?_⟩
      exact fun later member => same later (List.mem_cons_of_mem item member)

theorem Chain.nonzero (chain : Chain next cell items) {item : Nat} (member : item ∈ items) :
    item ≠ 0 := by
  induction items generalizing cell with
  | nil => cases member
  | cons first items ih =>
      cases member with
      | head => exact chain.2.1
      | tail _ later => exact ih chain.2.2 later

theorem Chain.last (chain : Chain next cell items) :
    next ((cell :: items).getLast (List.cons_ne_nil _ _)) = 0 := by
  induction items generalizing cell with
  | nil => exact chain
  | cons item items ih =>
      rw [List.getLast_cons (List.cons_ne_nil item items)]
      exact ih chain.2.2

/-- The last cell gets a successor. -/
theorem Chain.append {item : Nat} (chain : Chain next cell items)
    (last : next' ((cell :: items).getLast (List.cons_ne_nil _ _)) = item) (nonzero : item ≠ 0)
    (ends : next' item = 0) (nodup : (cell :: items).Nodup)
    (same : ∀ other ∈ cell :: items, other ≠ (cell :: items).getLast (List.cons_ne_nil _ _) →
      next' other = next other) : Chain next' cell (items ++ [item]) := by
  induction items generalizing cell with
  | nil => exact ⟨last, nonzero, ends⟩
  | cons first items ih =>
      rw [List.getLast_cons (List.cons_ne_nil first items)] at last same
      have later : cell ≠ (first :: items).getLast (List.cons_ne_nil _ _) := by
        intro equal
        exact (List.nodup_cons.mp nodup).1 (equal ▸ List.getLast_mem _)
      refine ⟨(same cell List.mem_cons_self later).trans chain.1, chain.2.1, ?_⟩
      apply ih chain.2.2 last (List.nodup_cons.mp nodup).2
      exact fun other member => same other (List.mem_cons_of_mem cell member)

/-- Cells in a row. -/
theorem Chain.row {first count : Nat} (positive : 0 < first)
    (start : next cell = if count = 0 then 0 else first)
    (rest : ∀ i, i < count → next (first + i) = if i + 1 < count then first + i + 1 else 0) :
    Chain next cell (List.range' first count) := by
  induction count generalizing first cell with
  | zero => exact start
  | succ count ih =>
      refine ⟨start, Nat.ne_of_gt positive, ih (Nat.succ_pos first) ?_ fun i below => ?_⟩
      · have next := rest 0 (Nat.succ_pos count)
        rw [Nat.add_zero] at next
        rw [next]
        by_cases last : count = 0
        · rw [if_neg (by omega), if_pos last]
        · rw [if_pos (by omega), if_neg last]
      · have next := rest (i + 1) (by omega)
        rw [show first + (i + 1) = first + 1 + i by omega] at next
        rw [next]
        by_cases last : i + 1 < count
        · rw [if_pos (by omega), if_pos last]
        · rw [if_neg (by omega), if_neg last]

end Chain

/-- The list that starts in cell 0 visits exactly the free cells, each once. -/
def FreeList (next : Nat → Nat) (free : Nat → Prop) : Prop :=
  ∃ items, Chain next 0 items ∧ items.Nodup ∧ ∀ item, item ∈ items ↔ free item

namespace FreeList

variable {next next' : Nat → Nat} {free free' : Nat → Prop}

theorem congr (list : FreeList next free) (first : next' 0 = next 0)
    (same : ∀ item, free item → next' item = next item) (frees : ∀ item, free' item ↔ free item) :
    FreeList next' free' := by
  obtain ⟨items, chain, nodup, complete⟩ := list
  refine ⟨items, chain.congr first fun item member => same item ((complete item).mp member), nodup,
    fun item => (complete item).trans (frees item).symm⟩

theorem head_free (list : FreeList next free) (nonempty : next 0 ≠ 0) : free (next 0) := by
  obtain ⟨items, chain, _, complete⟩ := list
  cases items with
  | nil => exact absurd chain nonempty
  | cons item items => exact (complete (next 0)).mp (chain.1 ▸ List.mem_cons_self)

theorem free_nonzero (list : FreeList next free) {item : Nat} (isFree : free item) : item ≠ 0 := by
  obtain ⟨items, chain, _, complete⟩ := list
  exact chain.nonzero ((complete item).mpr isFree)

theorem head_zero (list : FreeList next free) : next 0 = 0 ↔ ∀ item, ¬ free item := by
  constructor
  · obtain ⟨items, chain, _, complete⟩ := list
    intro empty item isFree
    cases items with
    | nil => cases (complete item).mpr isFree
    | cons first items => exact chain.2.1 (chain.1.symm.trans empty)
  · intro none
    by_contra nonempty
    exact none _ (list.head_free nonempty)

/-- The head is taken. -/
theorem take (list : FreeList next free) (nonempty : next 0 ≠ 0) (first : next' 0 = next (next 0))
    (same : ∀ item, free item → item ≠ next 0 → next' item = next item)
    (frees : ∀ item, free' item ↔ free item ∧ item ≠ next 0) : FreeList next' free' := by
  obtain ⟨items, chain, nodup, complete⟩ := list
  cases items with
  | nil => exact absurd chain nonempty
  | cons head items =>
      obtain ⟨isHead, _, rest⟩ := chain
      rw [isHead] at first same frees
      have later : ∀ item, item ∈ items ↔ free item ∧ item ≠ head := by
        intro item
        rw [← complete item, List.mem_cons]
        constructor
        · intro member
          refine ⟨Or.inr member, ?_⟩
          rintro rfl
          exact (List.nodup_cons.mp nodup).1 member
        · exact fun both => both.1.resolve_left both.2
      refine ⟨items, rest.congr first fun item member => ?_, (List.nodup_cons.mp nodup).2,
        fun item => (later item).trans (frees item).symm⟩
      exact same item ((later item).mp member).1 ((later item).mp member).2

/-- A cell is given back. -/
theorem give {cell : Nat} (list : FreeList next free) (nonzero : cell ≠ 0) (used : ¬ free cell)
    (first : next' 0 = cell) (link : next' cell = next 0)
    (same : ∀ item, free item → next' item = next item)
    (frees : ∀ item, free' item ↔ free item ∨ item = cell) : FreeList next' free' := by
  obtain ⟨items, chain, nodup, complete⟩ := list
  refine ⟨cell :: items, ⟨first, nonzero, ?_⟩, ?_, fun item => ?_⟩
  · exact chain.congr link fun item member => same item ((complete item).mp member)
  · exact List.nodup_cons.mpr ⟨fun member => used ((complete cell).mp member), nodup⟩
  · rw [List.mem_cons, complete item, frees item, or_comm]

end FreeList

end Foundation
