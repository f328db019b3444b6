import Mathlib.Data.List.Basic

/-! # Items that tile bytes

Items that tell by their first bytes how long they are lie one behind the other, without a gap
and up to the end. Bytes that are such items are cut into them again
(`Foundation.Tiling.cut_flatten`).
-/

namespace Foundation.Tiling

/-- Cut bytes into items; `size` tells the length of the item that bytes begin with. -/
def cut (size : List UInt8 → Nat) (bytes : List UInt8) : Option (List (List UInt8)) :=
  if bytes = [] then some []
  else if size bytes = 0 ∨ bytes.length < size bytes then none
  else (cut size (bytes.drop (size bytes))).map (bytes.take (size bytes) :: ·)
termination_by bytes.length
decreasing_by
  rw [List.length_drop]
  omega

/-- An item tells its own length whatever is behind it. -/
structure Delimited (size : List UInt8 → Nat) (item : List UInt8) : Prop where
  some : item ≠ []
  tells : ∀ rest, size (item ++ rest) = item.length

variable {size : List UInt8 → Nat} {item bytes rest : List UInt8} {items : List (List UInt8)}

@[simp]
theorem cut_nil : cut size [] = some [] := by
  rw [cut, if_pos rfl]

theorem cut_append (delimited : Delimited size item) (rest : List UInt8) :
    cut size (item ++ rest) = (cut size rest).map (item :: ·) := by
  have some : item.length ≠ 0 := fun empty => delimited.some (List.length_eq_zero_iff.mp empty)
  have tells := delimited.tells rest
  have more : item ++ rest ≠ [] := by simp [delimited.some]
  have room : ¬ (size (item ++ rest) = 0 ∨ (item ++ rest).length < size (item ++ rest)) := by
    rw [tells, List.length_append]
    omega
  rw [cut, if_neg more, if_neg room, tells, List.drop_left, List.take_left]

/-- Items that tell their lengths are found again. -/
theorem cut_flatten (delimited : ∀ item ∈ items, Delimited size item) :
    cut size items.flatten = some items := by
  induction items with
  | nil => exact cut_nil
  | cons item items ih =>
      rw [List.flatten_cons, cut_append (delimited item List.mem_cons_self),
        ih fun other member => delimited other (List.mem_cons_of_mem item member)]
      rfl

theorem cut_single (delimited : Delimited size item) : cut size item = some [item] := by
  have alone := cut_append delimited []
  rw [List.append_nil, cut_nil] at alone
  exact alone

/-- An item that may be missing. -/
def maybe (item : List UInt8) : List (List UInt8) := if item = [] then [] else [item]

@[simp]
theorem maybe_flatten (item : List UInt8) : (maybe item).flatten = item := by
  rw [maybe]
  split_ifs with none
  · rw [none, List.flatten_nil]
  · rw [List.flatten_singleton]

theorem mem_maybe {other : List UInt8} : other ∈ maybe item ↔ item ≠ [] ∧ other = item := by
  rw [maybe]
  split_ifs with none
  · simp [none]
  · simp [none]

end Foundation.Tiling
