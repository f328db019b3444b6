import Mathlib.Data.Int.ModEq
import Mathlib.Tactic.Push

/-! # Serial numbers

A counter that only grows is carried on the wire modulo a period. Two counts
less than a period apart are equal as soon as their serial numbers are
(`Foundation.eq_of_serial_eq`).
-/

namespace Foundation

variable {period first second : Nat}

/-- Serial numbers identify counts that lie less than a period apart. -/
theorem eq_of_serial_eq (same : first % period = second % period)
    (ahead : first < second + period) (behind : second < first + period) : first = second := by
  have congruent : first ≡ second [MOD period] := same
  apply congruent.eq_of_abs_lt
  rw [abs_lt]
  constructor <;> omega

end Foundation
