import Mathlib.Algebra.BigOperators.Intervals
import Mathlib.Data.Int.ModEq
import Mathlib.Tactic.Ring

/-! # Internet checksums

The checksum of a message makes the ones' complement sum of its 16-bit words all ones. It is
valid exactly if the sum of the words is a positive multiple of 65535
(`Foundation.foldWords_eq_ones`). A number of 16 bits counts in that sum as it is at an even offset,
and as 256 times itself at an odd one (`Foundation.wordSum_put`).
-/

namespace Foundation

/-- What a byte counts at an offset. -/
def wordWeight (k : Nat) : Nat := if k % 2 = 0 then 2 ^ 8 else 1

/-- The sum of the words of `n` bytes; an odd one is padded with zero. -/
def wordSum (bytes : Nat → UInt8) (n : Nat) : Nat :=
  ∑ k ∈ Finset.range n, wordWeight k * (bytes k).toNat

/-- Add the carries until there are none. -/
def foldWords (sum : Nat) : Nat :=
  if sum < 2 ^ 16 then sum else foldWords (sum % 2 ^ 16 + sum / 2 ^ 16)
termination_by sum
decreasing_by omega

theorem foldWords_lt (sum : Nat) : foldWords sum < 2 ^ 16 := by
  induction sum using foldWords.induct with
  | case1 sum small => rwa [foldWords, if_pos small]
  | case2 sum large ih => rwa [foldWords, if_neg large]

theorem foldWords_mod (sum : Nat) : foldWords sum % 65535 = sum % 65535 := by
  induction sum using foldWords.induct with
  | case1 sum small => rw [foldWords, if_pos small]
  | case2 sum large ih =>
      rw [foldWords, if_neg large, ih]
      omega

theorem foldWords_pos {sum : Nat} (positive : 0 < sum) : 0 < foldWords sum := by
  induction sum using foldWords.induct with
  | case1 sum small => rwa [foldWords, if_pos small]
  | case2 sum large ih =>
      rw [foldWords, if_neg large]
      exact ih (by omega)

/-- Nothing but a positive multiple of 65535 is folded to ones. -/
theorem foldWords_eq_ones {sum : Nat} : foldWords sum = 0xFFFF ↔ 0 < sum ∧ sum % 65535 = 0 := by
  have same := foldWords_mod sum
  constructor
  · intro ones
    refine ⟨Nat.pos_of_ne_zero ?_, by omega⟩
    rintro rfl
    simp [foldWords] at ones
  · rintro ⟨positive, multiple⟩
    have bounded := foldWords_lt sum
    have folded := foldWords_pos positive
    omega

variable {bytes : Nat → UInt8} {n i : Nat}

theorem wordSum_congr {other : Nat → UInt8} (same : ∀ k < n, bytes k = other k) :
    wordSum bytes n = wordSum other n :=
  Finset.sum_congr rfl fun k member => by rw [same k (Finset.mem_range.mp member)]

theorem wordSum_update (inside : i < n) (byte : UInt8) :
    wordSum (Function.update bytes i byte) n + wordWeight i * (bytes i).toNat =
      wordSum bytes n + wordWeight i * byte.toNat := by
  have member : i ∈ Finset.range n := Finset.mem_range.mpr inside
  have others : ∑ k ∈ (Finset.range n).erase i,
      wordWeight k * (Function.update bytes i byte k).toNat =
      ∑ k ∈ (Finset.range n).erase i, wordWeight k * (bytes k).toNat := by
    refine Finset.sum_congr rfl fun k other => ?_
    rw [Function.update_of_ne (Finset.ne_of_mem_erase other)]
  rw [wordSum, wordSum, ← Finset.add_sum_erase _ _ member, ← Finset.add_sum_erase _ _ member,
    others, Function.update_self]
  omega

/-- The number of 16 bits at an offset. -/
def wordAt (bytes : Nat → UInt8) (i : Nat) : Nat :=
  (bytes i).toNat * 2 ^ 8 + (bytes (i + 1)).toNat

/-- What a number of 16 bits at an offset counts. -/
def wordFactor (i : Nat) : Nat := if i % 2 = 0 then 1 else 2 ^ 8

/-- Another number at an offset changes the sum by the difference, times what it counts there. -/
theorem wordSum_put (inside : i + 1 < n) (high low : UInt8) :
    (wordSum (Function.update (Function.update bytes i high) (i + 1) low) n : Int) ≡
      wordSum bytes n +
        wordFactor i * ((high.toNat * 2 ^ 8 + low.toNat : Nat) - wordAt bytes i : Int)
      [ZMOD 65535] := by
  have first := @wordSum_update bytes n i (by omega) high
  have second := @wordSum_update (Function.update bytes i high) n (i + 1) inside low
  rw [Function.update_of_ne (by omega)] at second
  rw [wordAt]
  unfold wordWeight at first second
  unfold wordFactor
  refine (Int.modEq_iff_dvd.mpr ?_).symm
  by_cases even : i % 2 = 0
  · have odd : (i + 1) % 2 ≠ 0 := by omega
    simp only [even, odd, ↓reduceIte] at first second ⊢
    exact ⟨0, by push_cast; omega⟩
  · have next : (i + 1) % 2 = 0 := by omega
    simp only [even, next, ↓reduceIte] at first second ⊢
    refine ⟨(bytes i).toNat - high.toNat, ?_⟩
    push_cast
    omega

theorem foldWords_complement (sum : Nat) :
    foldWords (sum + (2 ^ 16 - 1 - foldWords sum)) = 0xFFFF := by
  have folded := foldWords_mod sum
  have bounded := foldWords_lt sum
  rw [foldWords_eq_ones]
  constructor
  · rcases Nat.eq_zero_or_pos sum with rfl | positive
    · simp [foldWords]
    · omega
  · omega

end Foundation
