import Mathlib.Logic.Function.Basic

/-! # Owners and slots

An owner has at most one slot, a slot at most one owner, and each names the other; 0
stands for none. A pairing is kept when an owner that has no slot takes a free one
(`Foundation.Paired.take`) and when a slot is given up on both sides
(`Foundation.Paired.release`).
-/

namespace Foundation

/-- `slot` says which slot an owner has, and `owner` whose a slot is. -/
def Paired (slot owner : Nat → Nat) : Prop :=
  ∀ o k, o ≠ 0 → k ≠ 0 → (slot o = k ↔ owner k = o)

namespace Paired

variable {slot owner slot' owner' : Nat → Nat} {o k : Nat}

theorem congr (paired : Paired slot owner) (slots : ∀ o, o ≠ 0 → slot' o = slot o)
    (owners : ∀ k, k ≠ 0 → owner' k = owner k) : Paired slot' owner' := by
  intro o k some taken
  rw [slots o some, owners k taken]
  exact paired o k some taken

theorem unshared (paired : Paired slot owner) {o' : Nat} (some : o ≠ 0) (some' : o' ≠ 0)
    (taken : slot o ≠ 0) (same : slot o = slot o') : o = o' :=
  ((paired o _ some taken).mp rfl).symm.trans ((paired o' _ some' taken).mp same.symm)

theorem take (paired : Paired slot owner) (none : slot o = 0) (free : owner k = 0) :
    Paired (Function.update slot o k) (Function.update owner k o) := by
  intro o' k' some taken
  rw [Function.update_apply, Function.update_apply]
  by_cases sameOwner : o' = o
  · rw [if_pos sameOwner]
    by_cases sameSlot : k' = k
    · rw [if_pos sameSlot]
      exact ⟨fun _ => sameOwner.symm, fun _ => sameSlot.symm⟩
    · rw [if_neg sameSlot, ← paired o' k' some taken, sameOwner, none]
      exact ⟨fun same => absurd same.symm sameSlot, fun same => absurd same.symm taken⟩
  · rw [if_neg sameOwner]
    by_cases sameSlot : k' = k
    · rw [if_pos sameSlot, paired o' k' some taken, sameSlot, free]
      exact ⟨fun same => absurd same.symm some, fun same => absurd same.symm sameOwner⟩
    · rw [if_neg sameSlot]
      exact paired o' k' some taken

theorem release (paired : Paired slot owner) (own : o ≠ 0 → slot o = k ∨ slot o = 0)
    (others : k ≠ 0 → ∀ o', o' ≠ 0 → o' ≠ o → slot o' ≠ k) :
    Paired (Function.update slot o 0) (Function.update owner k 0) := by
  intro o' k' some taken
  rw [Function.update_apply, Function.update_apply]
  by_cases sameOwner : o' = o
  · rw [if_pos sameOwner]
    by_cases sameSlot : k' = k
    · rw [if_pos sameSlot]
      exact ⟨fun same => absurd same.symm taken, fun same => absurd same.symm some⟩
    · rw [if_neg sameSlot, ← paired o' k' some taken, sameOwner]
      constructor
      · exact fun same => absurd same.symm taken
      · intro same
        rcases own (sameOwner ▸ some) with own | own
        · exact absurd (same.symm.trans own) sameSlot
        · exact absurd (same.symm.trans own) taken
  · rw [if_neg sameOwner]
    by_cases sameSlot : k' = k
    · rw [if_pos sameSlot, sameSlot]
      have unheld := others (sameSlot ▸ taken) o' some sameOwner
      exact ⟨fun same => absurd same unheld, fun same => absurd same.symm some⟩
    · rw [if_neg sameSlot]
      exact paired o' k' some taken

theorem others (paired : Paired slot owner) (own : slot o = k) (taken : k ≠ 0) {o' : Nat}
    (some : o ≠ 0) (some' : o' ≠ 0) (other : o' ≠ o) : slot o' ≠ k := by
  intro same
  exact other (((paired o' k some' taken).mp same).symm.trans ((paired o k some taken).mp own))

end Paired

end Foundation
