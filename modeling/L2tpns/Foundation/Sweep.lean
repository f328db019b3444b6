import Mathlib.Data.Nat.Count
import Mathlib.Logic.Function.Basic

/-! # Counting and settling the open entries of a table

Entries of a table are open until they are settled. A counter of the open
entries below a bound is kept by counting down when one of them is settled
(`Foundation.openCount_settle`), or found anew by a sweep that settles every
entry above a limit and counts the others (`Foundation.sweep_count`).
-/

namespace Foundation

variable {Entry : Type*} (isOpen : Entry → Bool)

/-- How many entries below `bound` are open. -/
def openCount (table : Nat → Entry) (bound : Nat) : Nat :=
  Nat.count (fun i => isOpen (table i) = true) bound

variable {isOpen} {table other : Nat → Entry} {bound : Nat}

theorem openCount_succ (table : Nat → Entry) (bound : Nat) :
    openCount isOpen table (bound + 1) =
      openCount isOpen table bound + if isOpen (table bound) = true then 1 else 0 :=
  Nat.count_succ ..

theorem openCount_congr (same : ∀ i, i < bound → isOpen (other i) = isOpen (table i)) :
    openCount isOpen other bound = openCount isOpen table bound := by
  induction bound with
  | zero => rfl
  | succ bound ih =>
      rw [openCount_succ, openCount_succ, ih fun i below => same i (Nat.lt_succ_of_lt below),
        same bound (Nat.lt_succ_self bound)]

/-- Settling an open entry takes one off the count. -/
theorem openCount_settle {i : Nat} {entry : Entry} (below : i < bound)
    (wasOpen : isOpen (table i) = true) (settled : isOpen entry = false) :
    openCount isOpen (Function.update table i entry) bound + 1 =
      openCount isOpen table bound := by
  induction bound with
  | zero => exact absurd below (Nat.not_lt_zero i)
  | succ bound ih =>
      rw [openCount_succ, openCount_succ]
      by_cases last : i = bound
      · subst last
        have before : openCount isOpen (Function.update table i entry) i =
            openCount isOpen table i :=
          openCount_congr fun j below => by rw [Function.update_of_ne (Nat.ne_of_lt below)]
        rw [before, Function.update_self, settled, wasOpen]
        rfl
      · rw [Function.update_of_ne (Ne.symm last), ← ih (by omega)]
        omega

theorem settled_of_openCount_eq_zero (none : openCount isOpen table bound = 0) {i : Nat}
    (below : i < bound) : isOpen (table i) = false :=
  (Bool.not_eq_true _).mp (Nat.count_iff_forall_not.mp none i below)

theorem count_selected_le (selected : Nat → Prop) [DecidablePred selected] :
    Nat.count (fun i => isOpen (table i) = true ∧ selected i) bound ≤
      openCount isOpen table bound :=
  Nat.count_mono_left fun _ _ both => both.1

section Sweep

variable (isOpen) (settle : Entry → Entry) (high : Int)

/-- Settle an entry above the limit; count an open one below it. -/
def sweepEntry (swept : (Nat → Entry) × Int) (i : Nat) : (Nat → Entry) × Int :=
  if high < i then
    (if isOpen (swept.1 i) then Function.update swept.1 i (settle (swept.1 i)) else swept.1,
      swept.2)
  else (swept.1, if isOpen (swept.1 i) then swept.2 + 1 else swept.2)

/-- Sweep the entries from 1 to `last`. -/
def sweep (table : Nat → Entry) (last : Nat) : (Nat → Entry) × Int :=
  (List.range' 1 last).foldl (sweepEntry isOpen settle high) (table, 0)

variable {isOpen settle high}

theorem sweepEntry_same (swept : (Nat → Entry) × Int) (i : Nat) :
    (sweepEntry isOpen settle high swept i).1 i =
      if high < i ∧ isOpen (swept.1 i) = true then settle (swept.1 i) else swept.1 i := by
  rw [sweepEntry]
  by_cases above : high < i
  · by_cases opened : isOpen (swept.1 i) = true
    · simp only [above, opened, and_self, ↓reduceIte, Function.update_self]
    · simp only [above, opened, and_false, Bool.false_eq_true, ↓reduceIte]
  · simp only [above, false_and, ↓reduceIte]

theorem sweepEntry_other {i j : Nat} (other : j ≠ i) (swept : (Nat → Entry) × Int) :
    (sweepEntry isOpen settle high swept i).1 j = swept.1 j := by
  rw [sweepEntry]
  by_cases above : high < i
  · rw [if_pos above]
    dsimp only
    split
    · exact Function.update_of_ne other ..
    · rfl
  · rw [if_neg above]

theorem sweepEntry_count (settles : ∀ entry, isOpen (settle entry) = false)
    (swept : (Nat → Entry) × Int) (i : Nat) :
    (sweepEntry isOpen settle high swept i).2 =
      swept.2 + (if isOpen ((sweepEntry isOpen settle high swept i).1 i) = true then 1
        else 0 : Nat) := by
  rw [sweepEntry_same, sweepEntry]
  by_cases above : high < i
  · by_cases opened : isOpen (swept.1 i) = true
    · simp [above, opened, settles]
    · simp [above, opened]
  · by_cases opened : isOpen (swept.1 i) = true
    · simp [above, opened]
    · simp [above, opened]

theorem sweep_succ (table : Nat → Entry) (last : Nat) :
    sweep isOpen settle high table (last + 1) =
      sweepEntry isOpen settle high (sweep isOpen settle high table last) (last + 1) := by
  rw [sweep, List.range'_1_concat, List.foldl_append, Nat.add_comm 1 last]
  rfl

theorem sweep_beyond {last i : Nat} (beyond : i = 0 ∨ last < i) :
    (sweep isOpen settle high table last).1 i = table i := by
  induction last with
  | zero => rfl
  | succ last ih =>
      rw [sweep_succ, sweepEntry_other (by omega)]
      exact ih (by omega)

theorem sweep_within {last i : Nat} (positive : 0 < i) (within : i ≤ last) :
    (sweep isOpen settle high table last).1 i =
      if high < i ∧ isOpen (table i) = true then settle (table i) else table i := by
  induction last with
  | zero => omega
  | succ last ih =>
      rw [sweep_succ]
      by_cases here : i = last + 1
      · subst here
        rw [sweepEntry_same, sweep_beyond (by omega)]
      · rw [sweepEntry_other here]
        exact ih (by omega)

theorem sweep_isOpen (settles : ∀ entry, isOpen (settle entry) = false) {last i : Nat}
    (positive : 0 < i) (within : i ≤ last) :
    isOpen ((sweep isOpen settle high table last).1 i) = true ↔
      isOpen (table i) = true ∧ (i : Int) ≤ high := by
  rw [sweep_within positive within]
  by_cases above : high < i
  · by_cases opened : isOpen (table i) = true
    · simp [above, opened, settles]
    · simp [opened]
  · simp [above, Int.not_lt.mp above]

/-- A sweep counts what it leaves open. -/
theorem sweep_count (settles : ∀ entry, isOpen (settle entry) = false)
    (outside : isOpen (table 0) = false) (last : Nat) :
    (sweep isOpen settle high table last).2 =
      openCount isOpen (sweep isOpen settle high table last).1 (last + 1) := by
  induction last with
  | zero =>
      have nothing : openCount isOpen (sweep isOpen settle high table 0).1 1 = 0 := by
        rw [openCount_succ, sweep_beyond (.inl rfl), outside]
        rfl
      rw [nothing]
      rfl
  | succ last ih =>
      have before : openCount isOpen (sweep isOpen settle high table (last + 1)).1 (last + 1) =
          openCount isOpen (sweep isOpen settle high table last).1 (last + 1) := by
        apply openCount_congr
        intro i below
        rw [sweep_succ, sweepEntry_other (Nat.ne_of_lt below)]
      rw [openCount_succ, before, Int.natCast_add, ← ih, sweep_succ]
      exact sweepEntry_count settles _ _

end Sweep

-- a sweep is only looked at through the lemmas above
attribute [irreducible] sweep

end Foundation
