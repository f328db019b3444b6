import Mathlib.Data.Fintype.Lattice
import Mathlib.Order.Interval.Finset.Nat

/-! # Contests decided by a growing rank

Finitely many contenders carry ranks from a linear order. A contender may
withdraw only when the rank of some other contender is strictly above its own.
Then somebody stays in whatever the order of the withdrawals
(`Foundation.exists_standing`), and over a whole run in which withdrawing is
final, one contender never withdraws (`Foundation.exists_never_withdrawn`).
-/

namespace Foundation

variable {Contender Rank : Type*} [Finite Contender] [Nonempty Contender]

/-- When everybody who withdrew is outranked, the highest rank did not withdraw. -/
theorem exists_standing [LinearOrder Rank] (rank : Contender → Rank)
    (withdrawn : Contender → Prop)
    (outranked : ∀ who, withdrawn who → ∃ other, rank who < rank other) :
    ∃ who, ¬ withdrawn who := by
  obtain ⟨best, highest⟩ := Finite.exists_max rank
  refine ⟨best, fun gone => ?_⟩
  obtain ⟨other, above⟩ := outranked best gone
  exact absurd above (highest other).not_gt

/-- If every moment of a run leaves somebody standing and nobody returns, then
one contender stands throughout. -/
theorem exists_never_withdrawn (withdrawn : Nat → Contender → Prop)
    (final : ∀ moment who, withdrawn moment who → withdrawn (moment + 1) who)
    (standing : ∀ moment, ∃ who, ¬ withdrawn moment who) :
    ∃ who, ∀ moment, ¬ withdrawn moment who := by
  have later : ∀ who, Monotone fun moment => withdrawn moment who :=
    fun who => monotone_nat_of_le_succ fun moment => final moment who
  by_contra everybody
  push Not at everybody
  choose departure gone using everybody
  obtain ⟨last, latest⟩ := Finite.exists_max departure
  obtain ⟨who, present⟩ := standing (departure last)
  exact present (later who (latest who) (gone who))

end Foundation
