import L2tpns.Foundation.PrefixTree

/-! # Maps that are patched

A patch writes one value over the keys that it covers. A map to which patches were
applied one after another holds under a key what the last of them wrote that covers
it (`Foundation.Patch.applyAll_append`). The first cell on the way down a tree that is not
zero is found in `Foundation.PrefixTree.firstCell_eq_iff`.
-/

namespace Foundation

universe u v

/-- A value for the keys that are covered. -/
structure Patch (Key : Type u) (Value : Type v) where
  covers : Key → Bool
  value : Value

namespace Patch

variable {Key : Type u} {Value : Type v}

/-- The value of the last patch that covers a key. -/
def last (patches : List (Patch Key Value)) (key : Key) : Option Value :=
  (patches.reverse.find? fun patch => patch.covers key).map Patch.value

/-- A map after patches were applied in order. -/
def applyAll (patches : List (Patch Key Value)) (base : Key → Value) (key : Key) : Value :=
  (last patches key).getD (base key)

variable {patches first second : List (Patch Key Value)} {base : Key → Value} {key : Key}

theorem last_single (patch : Patch Key Value) :
    last [patch] key = if patch.covers key then some patch.value else none := by
  rw [last, List.reverse_singleton, List.find?_singleton]
  split <;> rfl

theorem applyAll_single (patch : Patch Key Value) :
    applyAll [patch] base key = if patch.covers key then patch.value else base key := by
  rw [applyAll, last_single]
  split <;> rfl

theorem last_append : last (first ++ second) key = (last second key).or (last first key) := by
  rw [last, List.reverse_append, List.find?_append, last, last]
  cases second.reverse.find? fun patch => patch.covers key with
  | none | some patch => rfl

/-- Patches are applied one list after the other. -/
theorem applyAll_append :
    applyAll (first ++ second) base key = applyAll second (applyAll first base) key := by
  rw [applyAll, applyAll, applyAll, last_append]
  cases last second key with
  | none | some value => rfl

theorem applyAll_congr {other : Key → Value} (same : base key = other key) :
    applyAll patches base key = applyAll patches other key := by
  rw [applyAll, applyAll, same]

theorem last_ne_none {patch : Patch Key Value} (member : patch ∈ patches)
    (covered : patch.covers key = true) : last patches key ≠ none := by
  rw [last, Ne, Option.map_eq_none_iff, List.find?_eq_none]
  exact fun uncovered => absurd covered (uncovered patch (List.mem_reverse.mpr member))

theorem exists_of_last {value : Value} (found : last patches key = some value) :
    ∃ patch, patch ∈ patches ∧ patch.covers key = true ∧ patch.value = value := by
  rw [last, Option.map_eq_some_iff] at found
  obtain ⟨patch, first, written⟩ := found
  have covered := List.find?_some first
  exact ⟨patch, List.mem_reverse.mp (List.mem_of_find?_eq_some first), covered, written⟩

theorem applyAll_eq_iff {value : Value} :
    applyAll patches base key = value ↔
      last patches key = some value ∨ last patches key = none ∧ base key = value := by
  rw [applyAll]
  cases last patches key with
  | none => exact ⟨fun same => .inr ⟨rfl, same⟩, fun either => either.elim nofun And.right⟩
  | some held =>
      constructor
      · intro same
        exact .inl (congrArg some same)
      · rintro (same | ⟨none, _⟩)
        · exact Option.some.inj same
        · exact nomatch none

end Patch

namespace PrefixTree

variable {Digit Cell : Type} [DecidableEq Cell] {zero : Cell}

theorem firstCell_eq_iff {cells : List Digit → Cell} {key : List Digit} {cell : Cell}
    (nonzero : cell ≠ zero) :
    firstCell zero cells key = cell ↔
      ∃ count, count ≤ key.length ∧ cells (key.take count) = cell ∧
        ∀ shorter, shorter < count → cells (key.take shorter) = zero := by
  induction key generalizing cells with
  | nil =>
      constructor
      · exact fun found => ⟨0, Nat.le_refl _, found, fun _ none => absurd none (Nat.not_lt_zero _)⟩
      · rintro ⟨count, _, found, _⟩
        rw [List.take_nil] at found
        exact found
  | cons digit key ih =>
      rw [firstCell]
      by_cases none : cells [] = zero
      · rw [if_pos none, ih]
        constructor
        · rintro ⟨count, within, found, before⟩
          refine ⟨count + 1, Nat.succ_le_succ within, found, fun shorter below => ?_⟩
          cases shorter with
          | zero => exact none
          | succ shorter => exact before shorter (Nat.lt_of_succ_lt_succ below)
        · rintro ⟨count, within, found, before⟩
          cases count with
          | zero => exact absurd (found.symm.trans none) nonzero
          | succ count =>
              exact ⟨count, Nat.le_of_succ_le_succ within, found, fun shorter below =>
                before (shorter + 1) (Nat.succ_lt_succ below)⟩
      · rw [if_neg none]
        constructor
        · exact fun found => ⟨0, Nat.zero_le _, found,
            fun _ none => absurd none (Nat.not_lt_zero _)⟩
        · rintro ⟨count, _, found, before⟩
          cases count with
          | zero => exact found
          | succ count => exact absurd (before 0 (Nat.succ_pos count)) none

end PrefixTree

end Foundation
