import L2tpns.Foundation.OnesComplement

/-! # The checksums of ICMP errors and of IPv6 packets

Both checksums add the words of a string in network order, and treat an odd byte at its end in
their own way. `_checksum` takes it as it is, and so for the low byte of a word
(`L2tpns.Icmp.checksum_eq_iff`). `ipv6_checksum` takes it for the high byte, but its sum has 32
bits only (`L2tpns.Icmp.ipv6Checksum_eq_iff`).
-/

namespace L2tpns.Icmp

open Foundation

universe u

/-- Add words in network order while there is more than a byte; what is left. -/
def addWords {σ : Type u} (add : σ → Nat → σ) (sum : σ) : List UInt8 → σ × List UInt8
  | high :: low :: rest => addWords add (add sum (high.toNat * 2 ^ 8 + low.toNat)) rest
  | rest => (sum, rest)

/-- Add what is left of a string. -/
def addOdd {σ : Type u} (add : σ → UInt8 → σ) (summed : σ × List UInt8) : σ :=
  match summed with
  | (sum, []) => sum
  | (sum, last :: _) => add sum last

/-- `_checksum`. The result is the number whose bytes are stored in network order. A `long` has
room for the sum of any string. -/
def checksum (addr : List UInt8) : Nat :=
  let sum := addOdd (fun sum last => sum + last.toNat) (addWords (· + ·) 0 addr)
  2 ^ 16 - 1 - foldWords sum

/-- `sum += word16` -/
def addWord16 (sum : UInt32) (word16 : Nat) : UInt32 := sum + UInt32.ofNat word16

/-- `ipv6_checksum`, where the low byte of a number comes first: `ntohs` makes an odd byte the
high one. -/
def ipv6Checksum (pshdr buff : List UInt8) : Nat :=
  let sum := (addWords addWord16 0 pshdr).1
  let sum := addOdd (fun sum last => addWord16 sum (last.toNat * 2 ^ 8))
    (addWords addWord16 sum buff)
  2 ^ 16 - 1 - foldWords sum.toNat

variable {σ : Type u} {add : σ → Nat → σ} {sum : σ} {bytes front : List UInt8}

theorem addWords_even (even : bytes.length % 2 = 0) :
    addWords add sum bytes = ((words bytes).foldl add sum, []) := by
  induction bytes using words.induct generalizing sum with
  | case1 => rfl
  | case2 last => simp at even
  | case3 high low rest ih =>
      rw [addWords, words, List.foldl_cons]
      apply ih
      simp only [List.length_cons] at even
      omega

theorem addWords_odd (even : front.length % 2 = 0) (last : UInt8) :
    addWords add sum (front ++ [last]) = ((words front).foldl add sum, [last]) := by
  induction front using words.induct generalizing sum with
  | case1 => rfl
  | case2 only => simp at even
  | case3 high low rest ih =>
      rw [List.cons_append, List.cons_append, addWords, words, List.foldl_cons]
      apply ih
      simp only [List.length_cons] at even
      omega

theorem even_or_odd (bytes : List UInt8) :
    bytes.length % 2 = 0 ∨
      ∃ front last, bytes = front ++ [last] ∧ front.length % 2 = 0 := by
  rcases List.eq_nil_or_concat bytes with rfl | ⟨front, last, rfl⟩
  · exact .inl rfl
  · rw [List.concat_eq_append, List.length_append, List.length_singleton]
    by_cases even : front.length % 2 = 0
    · exact .inr ⟨front, last, rfl, even⟩
    · exact .inl (by omega)

theorem foldl_add (start : Nat) (list : List Nat) :
    list.foldl (· + ·) start = start + list.sum := by
  induction list generalizing start with
  | nil => simp
  | cons first rest ih => rw [List.foldl_cons, ih, List.sum_cons, Nat.add_assoc]

theorem foldl_addWord16 (start : UInt32) (list : List Nat) :
    (list.foldl addWord16 start).toNat = (start.toNat + list.sum) % 2 ^ 32 := by
  induction list generalizing start with
  | nil => simp
  | cons first rest ih =>
      rw [List.foldl_cons, ih, List.sum_cons, addWord16, UInt32.toNat_add, UInt32.toNat_ofNat']
      omega

theorem checksum_even (even : bytes.length % 2 = 0) : checksum bytes = onesChecksum bytes := by
  rw [checksum, addWords_even even, addOdd, foldl_add, Nat.zero_add, onesChecksum, onesSum_words]

theorem checksum_odd (even : front.length % 2 = 0) (last : UInt8) :
    checksum (front ++ [last]) = 2 ^ 16 - 1 - foldWords ((words front).sum + last.toNat) := by
  rw [checksum, addWords_odd even, addOdd, foldl_add, Nat.zero_add]

theorem onesChecksum_odd (even : front.length % 2 = 0) (last : UInt8) :
    onesChecksum (front ++ [last]) =
      2 ^ 16 - 1 - foldWords ((words front).sum + last.toNat * 2 ^ 8) := by
  have padded : words [last] = [last.toNat * 2 ^ 8] := rfl
  rw [onesChecksum, onesSum_words, words_append even, padded, List.sum_append, List.sum_singleton]

/-- **`_checksum`** is right for a string of even length, or with a zero at its end. -/
theorem checksum_eq_iff (bytes : List UInt8) :
    checksum bytes = onesChecksum bytes ↔ bytes.length % 2 = 0 ∨ bytes.getLast? = some 0 := by
  rcases even_or_odd bytes with even | ⟨front, last, rfl, even⟩
  · exact ⟨fun _ => .inl even, fun _ => checksum_even even⟩
  have odd : ¬ (front ++ [last]).length % 2 = 0 := by
    rw [List.length_append, List.length_singleton]
    omega
  rw [checksum_odd even, onesChecksum_odd even, List.getLast?_concat, Option.some_inj]
  simp only [odd, false_or]
  have low := foldWords_lt ((words front).sum + last.toNat)
  have high := foldWords_lt ((words front).sum + last.toNat * 2 ^ 8)
  have byte := last.toNat_lt
  constructor
  · intro same
    have folded := (foldWords_eq_iff.mp (by omega : foldWords ((words front).sum + last.toNat) =
      foldWords ((words front).sum + last.toNat * 2 ^ 8))).1
    apply UInt8.toNat_inj.mp
    change last.toNat = 0
    omega
  · rintro rfl
    rfl

variable {pseudo : List UInt8}

theorem ipv6Checksum_eq (size : pseudo.length = 40) :
    ipv6Checksum pseudo bytes =
      2 ^ 16 - 1 - foldWords ((words (pseudo ++ bytes)).sum % 2 ^ 32) := by
  have whole : pseudo.length % 2 = 0 := by omega
  have zero : (0 : UInt32).toNat = 0 := rfl
  rw [words_append whole, List.sum_append]
  rcases even_or_odd bytes with even | ⟨front, last, rfl, even⟩
  · rw [ipv6Checksum, addWords_even whole, addWords_even even]
    simp only [addOdd, foldl_addWord16, zero, Nat.zero_add, Nat.mod_add_mod]
  · have padded : words [last] = [last.toNat * 2 ^ 8] := rfl
    rw [ipv6Checksum, addWords_even whole, addWords_odd even, words_append even, padded]
    simp only [addOdd, addWord16, UInt32.toNat_add, UInt32.toNat_ofNat', foldl_addWord16, zero,
      Nat.zero_add, Nat.mod_add_mod, Nat.add_mod_mod, List.sum_append, List.sum_singleton,
      Nat.add_assoc]

/-- **`ipv6_checksum`** is right while its sum fits into 32 bits. -/
theorem ipv6Checksum_eq_iff (size : pseudo.length = 40) (int : bytes.length < 2 ^ 31) :
    ipv6Checksum pseudo bytes = onesChecksum (pseudo ++ bytes) ↔
      (words (pseudo ++ bytes)).sum < 2 ^ 32 := by
  have bound := @words_sum_le (pseudo ++ bytes)
  rw [List.length_append, size] at bound
  rw [ipv6Checksum_eq size, onesChecksum, onesSum_words]
  generalize (words (pseudo ++ bytes)).sum = sum at bound ⊢
  have low := foldWords_lt sum
  have high := foldWords_lt (sum % 2 ^ 32)
  constructor
  · intro same
    have folded := (foldWords_eq_iff.mp (by omega : foldWords (sum % 2 ^ 32) = foldWords sum)).1
    omega
  · intro small
    rw [Nat.mod_eq_of_lt small]

end L2tpns.Icmp
