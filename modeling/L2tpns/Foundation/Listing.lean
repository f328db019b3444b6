import Mathlib.Logic.Function.Basic

/-! # Arrays that list the members of a set

The first `count` slots of an array list the items with a property, each of them
once. Appending a new item and removing one, by moving the last item to its
slot, keep that.
-/

namespace Foundation

open Function

universe u

/-- The first `count` slots hold the items with the property, each of them once. -/
structure Lists {Item : Type u} (slots : Nat → Item) (count : Nat) (property : Item → Prop) :
    Prop where
  distinct : ∀ i j, i < count → j < count → slots i = slots j → i = j
  complete : ∀ item, property item ↔ ∃ i, i < count ∧ slots i = item

namespace Lists

variable {Item : Type u} {slots : Nat → Item} {count : Nat} {property other : Item → Prop}

theorem congr (lists : Lists slots count property) (same : ∀ item, other item ↔ property item) :
    Lists slots count other :=
  ⟨lists.distinct, fun item => (same item).trans (lists.complete item)⟩

theorem holds (lists : Lists slots count property) {i : Nat} (below : i < count) :
    property (slots i) :=
  (lists.complete _).mpr ⟨i, below, rfl⟩

theorem singleton (slots : Nat → Item) (item : Item) :
    Lists (update slots 0 item) 1 (· = item) where
  distinct i j first second _ := by omega
  complete member := by
    constructor
    · rintro rfl
      exact ⟨0, Nat.one_pos, update_self ..⟩
    · rintro ⟨i, below, held⟩
      rw [show i = 0 by omega, update_self] at held
      exact held.symm

theorem append (lists : Lists slots count property) {item : Item} (new : ¬ property item) :
    Lists (update slots count item) (count + 1)
      (fun member => property member ∨ member = item) := by
  have kept : ∀ i, i < count → update slots count item i = slots i :=
    fun i below => update_of_ne (Nat.ne_of_lt below) ..
  have fresh : ∀ i, i < count → slots i ≠ item := by
    intro i below same
    exact new (same ▸ lists.holds below)
  refine ⟨fun i j first second same => ?_, fun member => ?_⟩
  · rcases Nat.lt_succ_iff_lt_or_eq.mp first with before | last <;>
      rcases Nat.lt_succ_iff_lt_or_eq.mp second with before' | last'
    · rw [kept i before, kept j before'] at same
      exact lists.distinct i j before before' same
    · rw [kept i before, last', update_self] at same
      exact absurd same (fresh i before)
    · rw [last, kept j before', update_self] at same
      exact absurd same.symm (fresh j before')
    · rw [last, last']
  · constructor
    · rintro (held | rfl)
      · obtain ⟨i, below, same⟩ := (lists.complete member).mp held
        exact ⟨i, Nat.lt_succ_of_lt below, (kept i below).trans same⟩
      · exact ⟨count, Nat.lt_succ_self count, update_self ..⟩
    · rintro ⟨i, below, same⟩
      rcases Nat.lt_succ_iff_lt_or_eq.mp below with before | last
      · rw [kept i before] at same
        exact .inl (same ▸ lists.holds before)
      · rw [last, update_self] at same
        exact .inr same.symm

/-- The last item is dropped. -/
theorem dropLast (lists : Lists slots (count + 1) property) :
    Lists slots count (fun member => property member ∧ member ≠ slots count) := by
  refine ⟨fun i j first second => lists.distinct i j (Nat.lt_succ_of_lt first)
    (Nat.lt_succ_of_lt second), fun member => ?_⟩
  constructor
  · rintro ⟨held, other⟩
    obtain ⟨i, below, same⟩ := (lists.complete member).mp held
    refine ⟨i, ?_, same⟩
    by_contra last
    rw [show i = count by omega] at same
    exact other same.symm
  · rintro ⟨i, below, same⟩
    rw [← same]
    refine ⟨lists.holds (Nat.lt_succ_of_lt below), fun last => ?_⟩
    have equal := lists.distinct i count (Nat.lt_succ_of_lt below) (Nat.lt_succ_self count) last
    omega

/-- An item is removed, and the last one takes its slot. -/
theorem swapRemove (lists : Lists slots (count + 1) property) {i : Nat} (below : i < count) :
    Lists (update slots i (slots count)) count
      (fun member => property member ∧ member ≠ slots i) := by
  have distinct : ∀ j, j < count → ∀ k, k < count + 1 → slots j = slots k → j = k :=
    fun j first k second => lists.distinct j k (Nat.lt_succ_of_lt first) second
  refine ⟨fun j k first second same => ?_, fun member => ?_⟩
  · by_cases here : j = i <;> by_cases there : k = i
    · rw [here, there]
    · rw [here, update_self, update_of_ne there] at same
      have equal := distinct k second count (Nat.lt_succ_self count) same.symm
      omega
    · rw [there, update_self, update_of_ne here] at same
      have equal := distinct j first count (Nat.lt_succ_self count) same
      omega
    · rw [update_of_ne here, update_of_ne there] at same
      exact distinct j first k (Nat.lt_succ_of_lt second) same
  · constructor
    · rintro ⟨held, other⟩
      obtain ⟨j, within, same⟩ := (lists.complete member).mp held
      by_cases last : j = count
      · refine ⟨i, below, ?_⟩
        rw [update_self, ← same, last]
      · refine ⟨j, by omega, ?_⟩
        rw [update_of_ne, same]
        rintro rfl
        exact other same.symm
    · rintro ⟨j, within, same⟩
      by_cases here : j = i
      · rw [here, update_self] at same
        rw [← same]
        refine ⟨lists.holds (Nat.lt_succ_self count), fun equal => ?_⟩
        have twice := distinct i below count (Nat.lt_succ_self count) equal.symm
        omega
      · rw [update_of_ne here] at same
        rw [← same]
        exact ⟨lists.holds (Nat.lt_succ_of_lt within),
          fun equal => here (distinct j within i (Nat.lt_succ_of_lt below) equal)⟩

end Lists

end Foundation
