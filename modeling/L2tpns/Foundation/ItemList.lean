import Mathlib.Data.List.Basic

/-! # Walking a list of items in memory

An item is a byte for its code, a byte for the length of its value, and the value. A loop
over a list of them goes from header to header. It stops at an item that does not fit and
at one that its body refuses. `Foundation.ItemList.walk_accepts` says when it gets to the
end, and `Foundation.ItemList.walk_flag` what it has collected.
-/

namespace Foundation

universe u v

/-- A list of items of `size` bytes. -/
structure ItemList where
  data : Nat → UInt8
  base : Nat
  size : Nat

namespace ItemList

variable (items : ItemList)

/-- The code of the item at offset `i`. -/
def code (i : Nat) : Nat := (items.data (items.base + i)).toNat

/-- The length of the value of the item at offset `i`. -/
def length (i : Nat) : Nat := (items.data (items.base + i + 1)).toNat

/-- The header and the value are inside the list. -/
def Fits (i : Nat) : Prop := 2 ≤ items.size - i ∧ items.length i ≤ items.size - i - 2

instance (i : Nat) : Decidable (items.Fits i) := inferInstanceAs (Decidable (_ ∧ _))

/-- The offsets that a loop from `i` on comes to. -/
def visited (refused : Nat → Bool) (i : Nat) : List Nat :=
  if i < items.size then
    if items.Fits i ∧ refused i = false then i :: visited refused (i + (2 + items.length i))
    else [i]
  else []
termination_by items.size - i

/-- A loop from `i` on: the state at its end, and why it stopped, if not at the end of the
list. -/
def walk {σ : Type u} {ε : Type v} (malformed : ε) (refusal : Nat → Option ε) (update : σ → Nat → σ)
    (state : σ) (i : Nat) : σ × Option ε :=
  if i < items.size then
    if items.Fits i then
      match refusal i with
      | none => walk malformed refusal update (update state i) (i + (2 + items.length i))
      | some refused => (update state i, some refused)
    else (state, some malformed)
  else (state, none)
termination_by items.size - i

/-- Every item that the loop comes to fits and is not refused. -/
def Accepts (refused : Nat → Bool) (i : Nat) : Prop :=
  ∀ k ∈ items.visited refused i, items.Fits k ∧ refused k = false

instance (refused : Nat → Bool) (i : Nat) : Decidable (items.Accepts refused i) :=
  inferInstanceAs (Decidable (∀ _ ∈ _, _))

variable {items} {refused : Nat → Bool} {i : Nat}

theorem visited_end (finished : items.size ≤ i) : items.visited refused i = [] := by
  rw [visited, if_neg (Nat.not_lt.mpr finished)]

theorem visited_stop (inside : i < items.size)
    (stops : ¬ (items.Fits i ∧ refused i = false)) : items.visited refused i = [i] := by
  rw [visited, if_pos inside, if_neg stops]

theorem visited_next (inside : i < items.size) (fits : items.Fits i)
    (accepted : refused i = false) :
    items.visited refused i = i :: items.visited refused (i + (2 + items.length i)) := by
  rw [visited, if_pos inside, if_pos ⟨fits, accepted⟩]

theorem visited_inside {k : Nat} (member : k ∈ items.visited refused i) : k < items.size := by
  induction i using visited.induct items refused with
  | case1 i inside goesOn ih =>
      rw [visited_next inside goesOn.1 goesOn.2] at member
      rcases List.mem_cons.mp member with rfl | later
      · exact inside
      · exact ih later
  | case2 i inside stops =>
      rw [visited_stop inside stops] at member
      rw [List.mem_singleton.mp member]
      exact inside
  | case3 i finished =>
      rw [visited_end (Nat.not_lt.mp finished)] at member
      exact nomatch member

variable {σ : Type u} {ε : Type v} {malformed : ε} {refusal : Nat → Option ε}
  {update : σ → Nat → σ} {state : σ}

def refuses (refusal : Nat → Option ε) (k : Nat) : Bool := (refusal k).isSome

theorem refuses_eq_false {k : Nat} : refuses refusal k = false ↔ refusal k = none := by
  rw [refuses, Option.isSome_eq_false_iff, Option.isNone_iff_eq_none]

theorem walk_end (finished : ¬ i < items.size) :
    items.walk malformed refusal update state i = (state, none) := by
  rw [walk, if_neg finished]

theorem walk_misfit (inside : i < items.size) (misfit : ¬ items.Fits i) :
    items.walk malformed refusal update state i = (state, some malformed) := by
  rw [walk, if_pos inside, if_neg misfit]

theorem walk_next (inside : i < items.size) (fits : items.Fits i) (accepted : refusal i = none) :
    items.walk malformed refusal update state i =
      items.walk malformed refusal update (update state i) (i + (2 + items.length i)) := by
  rw [walk, if_pos inside, if_pos fits, accepted]

theorem walk_refused (inside : i < items.size) (fits : items.Fits i) {reason : ε}
    (refused : refusal i = some reason) :
    items.walk malformed refusal update state i = (update state i, some reason) := by
  rw [walk, if_pos inside, if_pos fits, refused]

/-- **The end of the list** is reached if every item fits and none is refused. -/
theorem walk_accepts : (items.walk malformed refusal update state i).2 = none ↔
    items.Accepts (refuses refusal) i := by
  unfold Accepts
  induction state, i using walk.induct items refusal update with
  | case1 state i inside fits accepted ih =>
      have goesOn := refuses_eq_false.mpr accepted
      rw [walk_next inside fits accepted, visited_next inside fits goesOn, List.forall_mem_cons,
        ← ih]
      exact ⟨fun rest => ⟨⟨fits, goesOn⟩, rest⟩, And.right⟩
  | case2 state i inside fits reason refused =>
      have stops : ¬ (items.Fits i ∧ refuses refusal i = false) := by
        rw [refuses_eq_false, refused]
        exact fun both => nomatch both.2
      rw [walk_refused inside fits refused, visited_stop inside stops, List.forall_mem_singleton]
      exact ⟨nofun, fun both => absurd both stops⟩
  | case3 state i inside unfit =>
      have stops : ¬ (items.Fits i ∧ refuses refusal i = false) := fun both => unfit both.1
      rw [walk_misfit inside unfit, visited_stop inside stops, List.forall_mem_singleton]
      exact ⟨nofun, fun both => absurd both stops⟩
  | case4 state i finished =>
      rw [walk_end finished, visited_end (Nat.not_lt.mp finished)]
      exact ⟨fun _ => nofun, fun _ => rfl⟩

/-- **What was collected.** A flag that single items set is set at the end if it was set
before, or an item that was visited sets it. -/
theorem walk_flag (flag : σ → Prop) {hit : Nat → Prop}
    (sets : ∀ state k, flag (update state k) ↔ flag state ∨ hit k) :
    flag (items.walk malformed refusal update state i).1 ↔
      flag state ∨ ∃ k ∈ items.visited (refuses refusal) i, items.Fits k ∧ hit k := by
  induction state, i using walk.induct items refusal update with
  | case1 state i inside fits accepted ih =>
      rw [walk_next inside fits accepted,
        visited_next inside fits (refuses_eq_false.mpr accepted), List.exists_mem_cons_iff, ih,
        sets, or_assoc, and_iff_right fits]
  | case2 state i inside fits reason refused =>
      have stops : ¬ (items.Fits i ∧ refuses refusal i = false) := by
        rw [refuses_eq_false, refused]
        exact fun both => nomatch both.2
      rw [walk_refused inside fits refused, visited_stop inside stops]
      simp only [sets, List.mem_singleton, exists_eq_left, fits, true_and]
  | case3 state i inside unfit =>
      have stops : ¬ (items.Fits i ∧ refuses refusal i = false) := fun both => unfit both.1
      rw [walk_misfit inside unfit, visited_stop inside stops]
      simp only [List.mem_singleton, exists_eq_left, unfit, false_and, or_false]
  | case4 state i finished =>
      rw [walk_end finished, visited_end (Nat.not_lt.mp finished)]
      simp only [List.not_mem_nil, false_and, exists_false, or_false]

end ItemList

end Foundation
