import L2tpns.Foundation.InternetChecksum

/-! # Ones' complement sums

The ones' complement sum of words of 16 bits adds the carry of each addition at its low end. It is
the same to add all words first and fold the sum (`Foundation.onesSum_eq`). The words of a string
are in network order, and an odd byte at its end is padded on the right. A receiver accepts a
string with its checksum if the sum is all ones, and so it does if the checksum, put in the place
of zeros, is the complement of the sum (`Foundation.accepts_complement`).
-/

namespace Foundation

/-- Add numbers of 16 bits; the carry is added at the low end. -/
def onesAdd (a b : Nat) : Nat := if a + b < 2 ^ 16 then a + b else a + b - (2 ^ 16 - 1)

def onesSum (words : List Nat) : Nat := words.foldl onesAdd 0

/-- The words of a string in network order. An odd byte is padded on the right with zero. -/
def words : List UInt8 → List Nat
  | [] => []
  | [last] => [last.toNat * 2 ^ 8]
  | high :: low :: rest => (high.toNat * 2 ^ 8 + low.toNat) :: words rest

/-- The checksum of a string: the ones' complement of the ones' complement sum of its words. -/
def onesChecksum (bytes : List UInt8) : Nat := 2 ^ 16 - 1 - onesSum (words bytes)

/-- A receiver accepts a string that has its checksum in it. -/
def Accepts (bytes : List UInt8) : Prop := onesSum (words bytes) = 2 ^ 16 - 1

variable {a b sum : Nat} {bytes front back : List UInt8}

theorem foldWords_small (small : a < 2 ^ 16) : foldWords a = a := by
  rw [foldWords, if_pos small]

theorem foldWords_eq_zero : foldWords sum = 0 ↔ sum = 0 := by
  constructor
  · intro none
    by_contra some
    have positive := foldWords_pos (Nat.pos_of_ne_zero some)
    omega
  · rintro rfl
    exact foldWords_small (by decide)

/-- Sums are folded to the same number if they are equal up to multiples of 65535, and both zero
or not. -/
theorem foldWords_eq_iff : foldWords a = foldWords b ↔ a % 65535 = b % 65535 ∧ (a = 0 ↔ b = 0) := by
  have first := foldWords_mod a
  have second := foldWords_mod b
  have zeroFirst := @foldWords_eq_zero a
  have zeroSecond := @foldWords_eq_zero b
  have high := foldWords_lt a
  have low := foldWords_lt b
  constructor
  · intro same
    rw [same] at zeroFirst first
    exact ⟨first.symm.trans second, zeroFirst.symm.trans zeroSecond⟩
  · rintro ⟨same, empty⟩
    rw [← zeroFirst, ← zeroSecond] at empty
    omega

theorem onesAdd_mod (a b : Nat) : onesAdd a b % 65535 = (a + b) % 65535 := by
  by_cases small : a + b < 2 ^ 16
  · rw [onesAdd, if_pos small]
  · rw [onesAdd, if_neg small]
    exact (Nat.mod_eq_sub_mod (by omega)).symm

theorem onesAdd_lt (first : a < 2 ^ 16) (second : b < 2 ^ 16) : onesAdd a b < 2 ^ 16 := by
  rw [onesAdd]
  split_ifs with carries
  · exact carries
  · omega

theorem onesAdd_eq_zero : onesAdd a b = 0 ↔ a = 0 ∧ b = 0 := by
  rw [onesAdd]
  split_ifs with carries
  · omega
  · omega

theorem onesAdd_foldWords (sum : Nat) (small : b < 2 ^ 16) :
    onesAdd (foldWords sum) b = foldWords (sum + b) := by
  rw [← foldWords_small (onesAdd_lt (foldWords_lt sum) small), foldWords_eq_iff, onesAdd_mod,
    onesAdd_eq_zero, foldWords_eq_zero, Nat.add_eq_zero_iff]
  exact ⟨Nat.ModEq.add_right b (foldWords_mod sum), Iff.rfl⟩

/-- **The sum with carries** is the sum of all words, folded. -/
theorem onesSum_eq {words : List Nat} (small : ∀ word ∈ words, word < 2 ^ 16) :
    onesSum words = foldWords words.sum := by
  have run (start : Nat) : words.foldl onesAdd (foldWords start) =
      foldWords (start + words.sum) := by
    induction words generalizing start with
    | nil => simp
    | cons word words ih =>
        rw [List.foldl_cons, onesAdd_foldWords start (small word List.mem_cons_self),
          ih fun other member => small other (List.mem_cons_of_mem word member), List.sum_cons,
          Nat.add_assoc]
  have start := run 0
  rw [foldWords_small (by decide), Nat.zero_add] at start
  exact start

theorem words_lt : ∀ word ∈ words bytes, word < 2 ^ 16 := by
  induction bytes using words.induct with
  | case1 => simp [words]
  | case2 last =>
      have byte := last.toNat_lt
      simp only [words, List.mem_singleton, forall_eq]
      omega
  | case3 high low rest ih =>
      have upper := high.toNat_lt
      have lower := low.toNat_lt
      rw [words]
      intro word member
      rcases List.mem_cons.mp member with rfl | behind
      · omega
      · exact ih word behind

theorem words_append (even : front.length % 2 = 0) :
    words (front ++ back) = words front ++ words back := by
  induction front using words.induct with
  | case1 => rfl
  | case2 last => simp at even
  | case3 high low rest ih =>
      rw [List.cons_append, List.cons_append, words, words, List.cons_append, ih]
      simp only [List.length_cons] at even
      omega

theorem words_word {value : Nat} (small : value < 2 ^ 16) :
    words [UInt8.ofNat (value / 2 ^ 8), UInt8.ofNat value] = [value] := by
  have high : (UInt8.ofNat (value / 2 ^ 8)).toNat = value / 2 ^ 8 := by
    rw [UInt8.toNat_ofNat']
    omega
  have low : (UInt8.ofNat value).toNat = value % 2 ^ 8 := UInt8.toNat_ofNat'
  simp only [words, high, low]
  congr 1
  omega

theorem words_sum_le : 2 * (words bytes).sum ≤ 65535 * (bytes.length + 1) := by
  induction bytes using words.induct with
  | case1 => simp [words]
  | case2 last =>
      have byte := last.toNat_lt
      simp only [words, List.sum_singleton, List.length_singleton]
      omega
  | case3 high low rest ih =>
      have upper := high.toNat_lt
      have lower := low.toNat_lt
      simp only [words, List.sum_cons, List.length_cons]
      omega

theorem onesSum_words : onesSum (words bytes) = foldWords (words bytes).sum := onesSum_eq words_lt

theorem accepts_word_iff (even : front.length % 2 = 0) {check : Nat} (small : check < 2 ^ 16) :
    Accepts (front ++ [UInt8.ofNat (check / 2 ^ 8), UInt8.ofNat check] ++ back) ↔
      foldWords ((words front).sum + (words back).sum + check) = 2 ^ 16 - 1 := by
  have two : [UInt8.ofNat (check / 2 ^ 8), UInt8.ofNat check].length % 2 = 0 := Nat.mod_self 2
  rw [Accepts, onesSum_words, List.append_assoc, words_append even, words_append two,
    words_word small, List.sum_append, List.sum_append, List.sum_singleton,
    Nat.add_comm check, Nat.add_assoc]

theorem onesChecksum_zeros (even : front.length % 2 = 0) :
    onesChecksum (front ++ [0, 0] ++ back) =
      2 ^ 16 - 1 - foldWords ((words front).sum + (words back).sum) := by
  have zeros : words ([0, 0] ++ back) = 0 :: words back := rfl
  rw [onesChecksum, onesSum_words, List.append_assoc, words_append even, zeros, List.sum_append,
    List.sum_cons, Nat.zero_add]

/-- **The complement** of the sum of a string, put in the place of zeros, makes it accepted. -/
theorem accepts_complement (even : front.length % 2 = 0) :
    let check := onesChecksum (front ++ [0, 0] ++ back)
    Accepts (front ++ [UInt8.ofNat (check / 2 ^ 8), UInt8.ofNat check] ++ back) := by
  intro check
  have small : check < 2 ^ 16 := by
    have bound : check ≤ 2 ^ 16 - 1 := Nat.sub_le _ _
    omega
  rw [accepts_word_iff even small, show check = _ from onesChecksum_zeros even]
  exact foldWords_complement _

end Foundation
