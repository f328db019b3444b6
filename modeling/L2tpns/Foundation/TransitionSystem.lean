import Mathlib.Logic.Basic

/-! # Runs of a transition system under a guard

A transition system is a set of initial states and a labelled step relation. A
state is reachable under a guard when some run leads to it whose every step
meets the guard in the state the step is taken from. A property that holds
initially and that every guarded step preserves holds in every state reached
(`Foundation.TransitionSystem.ReachableUnder.invariant`).
-/

namespace Foundation

universe u v

/-- Initial states and a labelled step relation. -/
structure TransitionSystem (State : Type u) (Label : Type v) where
  initial : State → Prop
  step : State → Label → State → Prop

namespace TransitionSystem

variable {State : Type u} {Label : Type v} (system : TransitionSystem State Label)

/-- States reached from an initial state by steps that all meet `guard`. -/
inductive ReachableUnder (guard : State → Label → Prop) : State → Prop where
  | initial {state : State} : system.initial state → ReachableUnder guard state
  | step {state next : State} (label : Label) :
      ReachableUnder guard state → guard state label → system.step state label next →
        ReachableUnder guard next

/-- States reached from an initial state by any steps. -/
abbrev Reachable : State → Prop := system.ReachableUnder fun _ _ => True

variable {system} {guard : State → Label → Prop} {property : State → Prop}

/-- What holds initially and is preserved by every guarded step holds in every
state reached under the guard. -/
theorem ReachableUnder.invariant
    (base : ∀ state, system.initial state → property state)
    (preserved : ∀ state label next, property state → guard state label →
      system.step state label next → property next)
    {state : State} (reached : system.ReachableUnder guard state) : property state := by
  induction reached with
  | initial start => exact base _ start
  | step label _ meets moves ih => exact preserved _ _ _ ih meets moves

theorem Reachable.invariant
    (base : ∀ state, system.initial state → property state)
    (preserved : ∀ state label next, property state → system.step state label next →
      property next)
    {state : State} (reached : system.Reachable state) : property state :=
  ReachableUnder.invariant base
    (fun state label next holds _ moves => preserved state label next holds moves) reached

theorem ReachableUnder.weaken {weaker : State → Label → Prop}
    (implied : ∀ state label, guard state label → weaker state label) {state : State}
    (reached : system.ReachableUnder guard state) : system.ReachableUnder weaker state := by
  induction reached with
  | initial start => exact .initial start
  | step label _ meets moves ih => exact .step label ih (implied _ _ meets) moves

end TransitionSystem

end Foundation
