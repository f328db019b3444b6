import Mathlib.Logic.Function.Basic

/-! # Trees of prefixes

Each node has a cell and, once something was stored below it, a branch for every digit. A
prefix names a node. What is stored is a map on prefixes
(`Foundation.PrefixTree.cellAt_insert`), and a lookup finds the cell of the shortest
prefix of a key that is not zero (`Foundation.PrefixTree.first_eq`).
-/

namespace Foundation

/-- A node: its cell, and the nodes below it if they are allocated. -/
inductive PrefixTree (Digit Cell : Type) where
  | node (cell : Cell) (branch : Option (Digit → PrefixTree Digit Cell))

namespace PrefixTree

variable {Digit Cell : Type}

/-- A node without branches. -/
def leaf (cell : Cell) : PrefixTree Digit Cell := node cell none

/-- The cell of a prefix; one that is not allocated reads as `zero`. -/
def cellAt (zero : Cell) : PrefixTree Digit Cell → List Digit → Cell
  | node cell _, [] => cell
  | node _ none, _ :: _ => zero
  | node _ (some branch), digit :: path => cellAt zero (branch digit) path

variable [DecidableEq Digit]

/-- Write the cell of a prefix, allocating the nodes on the way. -/
def insert (zero : Cell) : PrefixTree Digit Cell → List Digit → Cell → PrefixTree Digit Cell
  | node _ branch, [], stored => node stored branch
  | node cell none, digit :: path, stored =>
      node cell (some (Function.update (fun _ => leaf zero) digit
        (insert zero (leaf zero) path stored)))
  | node cell (some branch), digit :: path, stored =>
      node cell (some (Function.update branch digit (insert zero (branch digit) path stored)))

/-- The first cell on the way down that is not zero; the way ends where the key or the
branches do. -/
def first [DecidableEq Cell] (zero : Cell) : PrefixTree Digit Cell → List Digit → Cell
  | node cell _, [] => cell
  | node cell none, _ :: _ => cell
  | node cell (some branch), digit :: path =>
      if cell = zero then first zero (branch digit) path else cell

variable {zero : Cell}

omit [DecidableEq Digit] in
theorem cellAt_leaf (path : List Digit) : cellAt zero (leaf zero) path = zero := by
  cases path with
  | nil | cons digit path => rfl

theorem cellAt_update (cell : Cell) (branch : Digit → PrefixTree Digit Cell) (digit : Digit)
    (below : PrefixTree Digit Cell) (other : Digit) (path : List Digit) :
    cellAt zero (node cell (some (Function.update branch digit below))) (other :: path) =
      if other = digit then cellAt zero below path else cellAt zero (branch other) path := by
  rw [cellAt, Function.update_apply]
  split <;> rfl

/-- A write changes the cell of its prefix only. -/
theorem cellAt_insert (tree : PrefixTree Digit Cell) (path other : List Digit) (stored : Cell) :
    cellAt zero (insert zero tree path stored) other =
      if other = path then stored else cellAt zero tree other := by
  induction path generalizing tree other with
  | nil =>
      obtain ⟨cell, branch⟩ := tree
      cases other with
      | nil => exact (if_pos rfl).symm
      | cons digit other =>
          rw [if_neg (List.cons_ne_nil digit other)]
          cases branch <;> rfl
  | cons digit path ih =>
      obtain ⟨cell, branch⟩ := tree
      cases other with
      | nil =>
          rw [if_neg (List.cons_ne_nil digit path).symm]
          cases branch <;> rfl
      | cons digit' other =>
          have below (tree : PrefixTree Digit Cell) (unallocated : Digit → PrefixTree Digit Cell)
              (same : cellAt zero tree other = cellAt zero (unallocated digit) other) :
              (if digit' = digit then cellAt zero (insert zero tree path stored) other
                else cellAt zero (unallocated digit') other) =
                if digit' :: other = digit :: path then stored
                else cellAt zero (unallocated digit') other := by
            by_cases head : digit' = digit
            · rw [if_pos head, ih, same, head]
              by_cases tail : other = path
              · rw [if_pos tail, if_pos (by rw [tail])]
              · rw [if_neg tail, if_neg fun equal => tail (List.cons.inj equal).2]
            · rw [if_neg head, if_neg fun equal => head (List.cons.inj equal).1]
          cases branch with
          | none =>
              rw [insert, cellAt_update, below (leaf zero) (fun _ => leaf zero) rfl, cellAt_leaf]
              rfl
          | some branch =>
              rw [insert, cellAt_update, below (branch digit) branch rfl]
              rfl

variable [DecidableEq Cell]

/-- The first cell of a prefix of the key that is not zero. -/
def firstCell (zero : Cell) : (List Digit → Cell) → List Digit → Cell
  | cells, [] => cells []
  | cells, digit :: key =>
      if cells [] = zero then firstCell zero (fun path => cells (digit :: path)) key
      else cells []

omit [DecidableEq Digit] in
theorem firstCell_zero (key : List Digit) : firstCell zero (fun _ => zero) key = zero := by
  induction key with
  | nil => rfl
  | cons digit key ih =>
      rw [firstCell, if_pos rfl]
      exact ih

omit [DecidableEq Digit] in
/-- A lookup depends on the cells of the prefixes only. -/
theorem first_eq (tree : PrefixTree Digit Cell) (key : List Digit) :
    first zero tree key = firstCell zero (cellAt zero tree) key := by
  induction key generalizing tree with
  | nil =>
      obtain ⟨cell, branch⟩ := tree
      rfl
  | cons digit key ih =>
      obtain ⟨cell, branch⟩ := tree
      have root : cellAt zero (node cell branch) [] = cell := rfl
      rw [firstCell, root]
      cases branch with
      | none =>
          rw [first]
          split
          · rename_i none
            rw [none]
            exact (firstCell_zero key).symm
          · rfl
      | some branch =>
          rw [first, ih]
          rfl

end PrefixTree

end Foundation
