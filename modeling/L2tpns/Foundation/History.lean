import L2tpns.Foundation.Serial
import Mathlib.Data.List.GetD
import Mathlib.Logic.Function.Basic

/-! # A ring of the most recent values

A sequence that only grows is written into a ring of slots, each value over the
one `size` places before it. `Foundation.Remembers` says that the ring holds the
last `size` values and nothing else but blanks; appending a value and writing
its slot keeps this (`Foundation.Remembers.push`).
-/

namespace Foundation

variable {Value Slot : Type*}

/-- `slots` holds `entry (first + position)` of the last `size` of `sent`, in the
slot that the position has modulo `size`; any other slot is blank. -/
structure Remembers (size first : Nat) (entry : Nat → Value → Slot) (blank : Slot → Prop)
    (sent : List Value) (slots : Nat → Slot) : Prop where
  recent : ∀ position value, sent[position]? = some value → sent.length ≤ position + size →
    slots ((first + position) % size) = entry (first + position) value
  nothingElse : ∀ slot, blank (slots slot) ∨ ∃ position value, sent[position]? = some value ∧
    sent.length ≤ position + size ∧ slot = (first + position) % size ∧
      slots slot = entry (first + position) value

namespace Remembers

variable {size first : Nat} {entry : Nat → Value → Slot} {blank : Slot → Prop}
  {sent : List Value} {slots : Nat → Slot}

theorem empty (blanks : ∀ slot, blank (slots slot)) :
    Remembers size first entry blank [] slots where
  recent position value present := by
    rw [List.getElem?_nil] at present
    cases present
  nothingElse slot := .inl (blanks slot)

theorem push (remembers : Remembers size first entry blank sent slots) (positive : 0 < size)
    (value : Value) :
    Remembers size first entry blank (sent ++ [value])
      (Function.update slots ((first + sent.length) % size)
        (entry (first + sent.length) value)) := by
  constructor
  · intro position old present near
    rw [List.length_append, List.length_singleton] at near
    rcases Nat.lt_trichotomy position sent.length with before | rfl | after
    · have elsewhere : (first + position) % size ≠ (first + sent.length) % size := by
        intro same
        have := eq_of_serial_eq same (by omega) (by omega)
        omega
      rw [List.getElem?_append_left before] at present
      rw [Function.update_of_ne elsewhere]
      exact remembers.recent position old present (by omega)
    · rw [List.getElem?_concat_length] at present
      cases present
      rw [Function.update_self]
    · rw [List.getElem?_eq_none (by
        rw [List.length_append, List.length_singleton]
        omega)] at present
      cases present
  · intro slot
    by_cases written : slot = (first + sent.length) % size
    · subst written
      refine .inr ⟨sent.length, value, List.getElem?_concat_length .., ?_, rfl, ?_⟩
      · rw [List.length_append, List.length_singleton]
        omega
      · rw [Function.update_self]
    · rw [Function.update_of_ne written]
      rcases remembers.nothingElse slot with empty | ⟨position, old, present, near, place, holds⟩
      · exact .inl empty
      · refine .inr ⟨position, old, ?_, ?_, place, holds⟩
        · rw [List.getElem?_append_left (List.getElem?_eq_some_iff.mp present).1]
          exact present
        · have before := (List.getElem?_eq_some_iff.mp present).1
          have older : position + size ≠ sent.length := by
            intro oldest
            apply written
            rw [place, ← oldest, ← Nat.add_assoc, Nat.add_mod_right]
          rw [List.length_append, List.length_singleton]
          omega

end Remembers

end Foundation
