import Mathlib.Logic.Basic

/-! # Tables with branches allocated on demand

A key is spelled by digits. A table of depth zero has a cell for each first
digit; a deeper one has a branch for it, or none as long as nothing was stored
there. Storing allocates the branches on the way, zeroed. What is read from a
table is a map on the digits read: `Foundation.RadixTable.lookup_insert_same` and
`Foundation.RadixTable.lookup_insert_other`.
-/

namespace Foundation

universe u v

/-- A table that reads `depth + 1` digits. -/
def RadixTable (Digit : Type u) (Cell : Type v) : Nat → Type (max u v)
  | 0 => Digit → Cell
  | depth + 1 => Digit → Option (RadixTable Digit Cell depth)

namespace RadixTable

variable {Digit : Type u} {Cell : Type v} [DecidableEq Digit]

/-- A table in which every cell is `zero`. -/
def empty (zero : Cell) : (depth : Nat) → RadixTable Digit Cell depth
  | 0 => fun _ => zero
  | _ + 1 => fun _ => none

/-- Read the cell of a key; a missing branch reads as `zero`. -/
def lookup (zero : Cell) :
    (depth : Nat) → RadixTable Digit Cell depth → (Nat → Digit) → Cell
  | 0, cells, key => cells (key 0)
  | depth + 1, branches, key =>
      match branches (key 0) with
      | none => zero
      | some table => lookup zero depth table fun k => key (k + 1)

/-- Write the cell of a key. -/
def insert (zero : Cell) :
    (depth : Nat) → RadixTable Digit Cell depth → (Nat → Digit) → Cell →
      RadixTable Digit Cell depth
  | 0, cells, key, cell => fun digit => if digit = key 0 then cell else cells digit
  | depth + 1, branches, key, cell => fun digit =>
      if digit = key 0 then
        some (insert zero depth ((branches (key 0)).getD (empty zero depth))
          (fun k => key (k + 1)) cell)
      else branches digit

variable {zero : Cell}

omit [DecidableEq Digit] in
theorem lookup_empty (depth : Nat) (key : Nat → Digit) :
    lookup zero depth (empty zero depth) key = zero := by
  cases depth with
  | zero | succ depth => rfl

omit [DecidableEq Digit] in
theorem lookup_succ (depth : Nat) (branches : RadixTable Digit Cell (depth + 1))
    (key : Nat → Digit) :
    lookup zero (depth + 1) branches key =
      lookup zero depth ((branches (key 0) : Option (RadixTable Digit Cell depth)).getD
        (empty zero depth)) fun k => key (k + 1) := by
  change (match (branches (key 0) : Option (RadixTable Digit Cell depth)) with
    | none => zero
    | some table => lookup zero depth table fun k => key (k + 1)) = _
  cases (branches (key 0) : Option (RadixTable Digit Cell depth)) with
  | none => exact (lookup_empty depth _).symm
  | some table => rfl

theorem lookup_insert_succ (depth : Nat) (branches : RadixTable Digit Cell (depth + 1))
    (stored key : Nat → Digit) (cell : Cell) :
    lookup zero (depth + 1) (insert zero (depth + 1) branches stored cell) key =
      if key 0 = stored 0 then
        lookup zero depth (insert zero depth
          ((branches (stored 0) : Option (RadixTable Digit Cell depth)).getD (empty zero depth))
          (fun k => stored (k + 1)) cell) fun k => key (k + 1)
      else lookup zero (depth + 1) branches key := by
  by_cases first : key 0 = stored 0
  · rw [if_pos first, lookup_succ, insert.eq_def]
    simp only [first, ↓reduceIte, Option.getD_some]
  · rw [if_neg first, lookup_succ, lookup_succ, insert.eq_def]
    simp only [first, ↓reduceIte]

theorem lookup_insert_same (depth : Nat) (table : RadixTable Digit Cell depth)
    {stored key : Nat → Digit} (same : ∀ k, k ≤ depth → key k = stored k) (cell : Cell) :
    lookup zero depth (insert zero depth table stored cell) key = cell := by
  induction depth generalizing stored key with
  | zero => exact if_pos (same 0 (Nat.le_refl 0))
  | succ depth ih =>
      rw [lookup_insert_succ, if_pos (same 0 (Nat.zero_le _))]
      exact ih _ fun k within => same (k + 1) (Nat.succ_le_succ within)

/-- A key that differs in a digit that is read is left alone. -/
theorem lookup_insert_other (depth : Nat) (table : RadixTable Digit Cell depth)
    {stored key : Nat → Digit} {k : Nat} (within : k ≤ depth) (differ : key k ≠ stored k)
    (cell : Cell) :
    lookup zero depth (insert zero depth table stored cell) key = lookup zero depth table key := by
  induction depth generalizing stored key k with
  | zero =>
      obtain rfl := Nat.le_zero.mp within
      exact if_neg differ
  | succ depth ih =>
      rw [lookup_insert_succ]
      by_cases first : key 0 = stored 0
      · cases k with
        | zero => exact absurd first differ
        | succ k =>
            rw [if_pos first, lookup_succ, first]
            exact ih _ (Nat.le_of_succ_le_succ within) differ
      · rw [if_neg first]

end RadixTable

end Foundation
