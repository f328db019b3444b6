import Mathlib.Algebra.BigOperators.Fin
import Mathlib.Algebra.BigOperators.Intervals
import Mathlib.Algebra.Order.BigOperators.Group.Finset

/-! # Counters of references

A counter for each item says how often the item is held, summed over the first holders. When
one holder changes, the counters have to move as much as what it holds
(`Foundation.Tallied.change_iff`).
-/

namespace Foundation

variable {Item : Type}

/-- Each item is counted as often as the holders hold it. -/
def Tallied (bound : Nat) (count : Item → Int) (held : Nat → Item → Int) : Prop :=
  ∀ item, count item = ∑ h ∈ Finset.range bound, held h item

namespace Tallied

variable {bound : Nat} {count count' : Item → Int} {held held' : Nat → Item → Int}

theorem congr (tallied : Tallied bound count held) (counts : count' = count)
    (holds : ∀ h, held' h = held h) : Tallied bound count' held' := by
  rw [counts, funext holds]
  exact tallied

theorem sum_change {h : Nat} (within : h < bound) (others : ∀ h', h' ≠ h → held' h' = held h')
    (item : Item) :
    ∑ h ∈ Finset.range bound, held' h item =
      ∑ h ∈ Finset.range bound, held h item + (held' h item - held h item) := by
  have member : h ∈ Finset.range bound := Finset.mem_range.mpr within
  rw [← Finset.add_sum_erase _ _ member, ← Finset.add_sum_erase _ _ member]
  have rest : ∑ h' ∈ (Finset.range bound).erase h, held' h' item =
      ∑ h' ∈ (Finset.range bound).erase h, held h' item := by
    apply Finset.sum_congr rfl
    intro h' other
    rw [others h' (Finset.ne_of_mem_erase other)]
  rw [rest, add_right_comm, add_sub_cancel]

theorem change_iff (tallied : Tallied bound count held) {h : Nat} (within : h < bound)
    (others : ∀ h', h' ≠ h → held' h' = held h') :
    Tallied bound count' held' ↔
      ∀ item, count' item = count item + (held' h item - held h item) := by
  refine forall_congr' fun item => ?_
  rw [sum_change within others, ← tallied item]

variable (tallied : Tallied bound count held) (positive : ∀ h item, 0 ≤ held h item)
include tallied positive

theorem nonneg (item : Item) : 0 ≤ count item := by
  rw [tallied item]
  exact Finset.sum_nonneg fun h _ => positive h item

theorem unheld {item : Item} (none : count item = 0) {h : Nat} (within : h < bound) :
    held h item = 0 := by
  rw [tallied item, Finset.sum_eq_zero_iff_of_nonneg fun h _ => positive h item] at none
  exact none h (Finset.mem_range.mpr within)

end Tallied

end Foundation
