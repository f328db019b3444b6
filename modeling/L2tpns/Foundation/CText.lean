import Mathlib.Data.List.Basic
import Mathlib.Data.List.TakeWhile
import Mathlib.Tactic.IntervalCases

/-! # Numbers and addresses in the text of C programs

The readers `atol`, `atoi` and `inet_aton` and the writers `%u` and `inet_ntoa` on texts
without a NUL. What the writers print the readers read back (`Foundation.CText.atoi_decimal`,
`Foundation.CText.inetAton_inetNtoa`).
-/

namespace Foundation.CText

/-- `isspace` in the C locale. -/
def isSpace (c : Char) : Bool :=
  c = ' ' ∨ c = '\t' ∨ c = '\n' ∨ c = '\x0b' ∨ c = '\x0c' ∨ c = '\r'

/-- The words of a text between blanks. -/
def splitBlanks (text : List Char) : List (List Char) :=
  (text.splitOnP isSpace).filter (· ≠ [])

/-- `%u`. -/
def decimal (n : Nat) : List Char := Nat.toDigits 10 n

/-- `%d`. -/
def decimalInt (i : Int) : List Char := if i < 0 then '-' :: decimal i.natAbs else decimal i.natAbs

/-- The number that the digits at the front of the text say. -/
def leadingNumber (text : List Char) : Nat := Nat.ofDigitChars 10 (text.takeWhile Char.isDigit) 0

/-- `atol`, that is `strtol` in base 10 into 64 bits, where numbers out of range are clamped. -/
def atol (text : List Char) : Int :=
  match text.dropWhile isSpace with
  | '-' :: digits => max (-(leadingNumber digits)) (-2 ^ 63)
  | '+' :: digits => min (leadingNumber digits) (2 ^ 63 - 1)
  | digits => min (leadingNumber digits) (2 ^ 63 - 1)

/-- `atoi`, the low 32 bits of `atol`. -/
def atoi (text : List Char) : Int := (atol text).bmod (2 ^ 32)

/-- Where `strtol` in base 10 stops: behind the digits, or at the front if there are none. -/
def strtolEnd (text : List Char) : List Char :=
  let digits :=
    match text.dropWhile isSpace with
    | '-' :: digits => digits
    | '+' :: digits => digits
    | digits => digits
  if digits.head?.any Char.isDigit then digits.dropWhile Char.isDigit else text

def isOctalDigit (c : Char) : Bool := '0' ≤ c ∧ c ≤ '7'

/-- The value of a hexadecimal digit. -/
def hexDigit? (c : Char) : Option Nat :=
  if c.isDigit then some (c.toNat - '0'.toNat)
  else if 'a' ≤ c ∧ c ≤ 'f' then some (c.toNat - 'a'.toNat + 10)
  else if 'A' ≤ c ∧ c ≤ 'F' then some (c.toNat - 'A'.toNat + 10)
  else none

def hexNumber (digits : List Char) : Nat :=
  digits.foldl (fun value c => 16 * value + (hexDigit? c).getD 0) 0

/-- `strtoul` in base 0 at a text that starts with a digit: the number and what follows it. -/
def strtoul0 : List Char → Nat × List Char
  | '0' :: x :: rest =>
      if x = 'x' ∨ x = 'X' then
        if (rest.takeWhile fun c => (hexDigit? c).isSome) = [] then (0, x :: rest)
        else
          (hexNumber (rest.takeWhile fun c => (hexDigit? c).isSome),
            rest.dropWhile fun c => (hexDigit? c).isSome)
      else
        (Nat.ofDigitChars 8 ((x :: rest).takeWhile isOctalDigit) 0,
          (x :: rest).dropWhile isOctalDigit)
  | text => (leadingNumber text, text.dropWhile Char.isDigit)

/-- `inet_aton` where `dots` further dots may stand and the parts before add up to `word`. The
last part fills what is left of the 32 bits. -/
def atonParts : Nat → Nat → List Char → Option Nat
  | dots, word, text =>
      if ¬ (text.head?.any Char.isDigit) then none
      else
        let (val, rest) := strtoul0 text
        match dots, rest with
        | 0, '.' :: _ => none
        | dots + 1, '.' :: rest =>
            if 0xff < val then none else atonParts dots (word + val * 256 ^ (dots + 1)) rest
        | dots, rest =>
            if rest.head?.all isSpace ∧ val < 256 ^ (dots + 1) then some (word + val) else none

/-- `inet_aton`, the address in host order. -/
def inetAton (text : List Char) : Option UInt32 := (atonParts 3 0 text).map UInt32.ofNat

/-- `inet_ntoa` of an address in host order. -/
def inetNtoa (addr : UInt32) : List Char :=
  decimal (addr.toNat / 256 ^ 3 % 256) ++ '.' :: decimal (addr.toNat / 256 ^ 2 % 256) ++
    '.' :: decimal (addr.toNat / 256 % 256) ++ '.' :: decimal (addr.toNat % 256)

theorem decimal_isDigit {n : Nat} {c : Char} (mem : c ∈ decimal n) : c.isDigit :=
  Nat.isDigit_of_mem_toDigits (by simp) (by simp) mem

variable {rest : List Char} {words : List (List Char)} (n : Nat) (addr : UInt32)

theorem decimal_ne_nil : decimal n ≠ [] := Nat.toDigits_ne_nil

/-- A text that goes on with something else than a digit. -/
def StopsDigits (rest : List Char) : Prop := ∀ c ∈ rest.head?, ¬ c.isDigit

theorem takeWhile_decimal (stops : StopsDigits rest) :
    (decimal n ++ rest).takeWhile Char.isDigit = decimal n := by
  rw [List.takeWhile_append_of_pos fun c mem => decimal_isDigit mem]
  cases rest with
  | nil => simp
  | cons c rest => simp [stops c (by simp)]

theorem dropWhile_decimal (stops : StopsDigits rest) :
    (decimal n ++ rest).dropWhile Char.isDigit = rest := by
  rw [List.dropWhile_append_of_pos fun c mem => decimal_isDigit mem]
  cases rest with
  | nil => simp
  | cons c rest => simp [stops c (by simp)]

theorem leadingNumber_decimal (n : Nat) {rest : List Char} (stops : StopsDigits rest) :
    leadingNumber (decimal n ++ rest) = n := by
  rw [leadingNumber, takeWhile_decimal n stops]
  exact Nat.ofDigitChars_ten_toDigits

theorem isSpace_digit {c : Char} (digit : c.isDigit) : isSpace c = false := by
  simp only [isSpace, decide_eq_false_iff_not]
  rintro (rfl | rfl | rfl | rfl | rfl | rfl) <;> exact absurd digit (by decide)

theorem decimal_cons : ∃ c digits, decimal n = c :: digits ∧ c.isDigit := by
  obtain ⟨c, digits, eq⟩ := List.exists_cons_of_ne_nil (decimal_ne_nil n)
  exact ⟨c, digits, eq, decimal_isDigit (n := n) (by simp [eq])⟩

theorem leadingNumber_all : leadingNumber (decimal n) = n := by
  simpa using @leadingNumber_decimal n [] (by simp [StopsDigits])

/-- Numbers beyond 63 bits are clamped. -/
theorem atol_clamp : atol (decimal n) = min (n : Int) (2 ^ 63 - 1) := by
  obtain ⟨c, digits, eq, digit⟩ := decimal_cons n
  have spaces : (decimal n).dropWhile isSpace = decimal n := by
    simp [eq, isSpace_digit digit]
  have noSign : c ≠ '-' ∧ c ≠ '+' := by
    constructor <;> rintro rfl <;> exact absurd digit (by decide)
  have read : atol (decimal n) = min (leadingNumber (decimal n) : Int) (2 ^ 63 - 1) := by
    rw [atol, spaces, eq]
    split
    · exact absurd ‹_› (by simp [noSign.1])
    · exact absurd ‹_› (by simp [noSign.2])
    · rfl
  rw [read, leadingNumber_all]

theorem atol_decimal {n : Nat} (small : n < 2 ^ 63) : atol (decimal n) = n := by
  rw [atol_clamp]
  omega

/-- A text that is a number: blanks, a sign or none, and digits. -/
def IsNumeral (text : List Char) (n : Int) : Prop :=
  ∃ blanks digits, (∀ c ∈ blanks, isSpace c) ∧ digits ≠ [] ∧ (∀ c ∈ digits, c.isDigit) ∧
    (n = Nat.ofDigitChars 10 digits 0 ∧
        (text = blanks ++ digits ∨ text = blanks ++ '+' :: digits) ∨
      n = -(Nat.ofDigitChars 10 digits 0 : Nat) ∧ text = blanks ++ '-' :: digits)

theorem dropWhile_blanks {blanks rest : List Char} {c : Char} (all : ∀ c ∈ blanks, isSpace c)
    (stops : isSpace c = false) : (blanks ++ c :: rest).dropWhile isSpace = c :: rest := by
  rw [List.dropWhile_append_of_pos all, List.dropWhile_cons_of_neg (by simp [stops])]

/-- **A number is read** as it is, as far as 64 bits can tell, and read to its end. -/
theorem IsNumeral.read {text : List Char} {n : Int} (numeral : IsNumeral text n) :
    atol text = max (min n (2 ^ 63 - 1)) (-2 ^ 63) ∧ strtolEnd text = [] := by
  obtain ⟨blanks, digits, spaces, some, all, value⟩ := numeral
  obtain ⟨c, digits, rfl⟩ := List.exists_cons_of_ne_nil some
  have digit := all c (by simp)
  have number : leadingNumber (c :: digits) = Nat.ofDigitChars 10 (c :: digits) 0 := by
    rw [leadingNumber, List.takeWhile_eq_self_iff.mpr all]
  have stops : (c :: digits).dropWhile Char.isDigit = [] := List.dropWhile_eq_nil_iff.mpr all
  have unsigned : c ≠ '-' ∧ c ≠ '+' := by
    constructor <;> rintro rfl <;> exact absurd digit (by decide)
  rcases value with ⟨rfl, rfl | rfl⟩ | ⟨rfl, rfl⟩
  · have starts := @dropWhile_blanks blanks digits c spaces (isSpace_digit digit)
    constructor
    · rw [atol, starts]
      split
      · exact absurd ‹_› (by simp [unsigned.1])
      · exact absurd ‹_› (by simp [unsigned.2])
      · rw [number]
        omega
    · simp only [strtolEnd, starts]
      split
      · exact absurd ‹_› (by simp [unsigned.1])
      · exact absurd ‹_› (by simp [unsigned.2])
      · simpa [digit] using stops
  · have starts := @dropWhile_blanks blanks (c :: digits) '+' spaces (by decide)
    constructor
    · rw [atol, starts]
      change min (leadingNumber (c :: digits) : Int) (2 ^ 63 - 1) = _
      rw [number]
      omega
    · simp only [strtolEnd, starts]
      simpa [digit] using stops
  · have starts := @dropWhile_blanks blanks (c :: digits) '-' spaces (by decide)
    constructor
    · rw [atol, starts]
      change max (-(leadingNumber (c :: digits) : Int)) (-2 ^ 63) = _
      rw [number]
      omega
    · simp only [strtolEnd, starts]
      simpa [digit] using stops

theorem isNumeral_decimal : IsNumeral (decimal n) n :=
  ⟨[], decimal n, nofun, decimal_ne_nil n, fun _ => decimal_isDigit,
    .inl ⟨by rw [decimal, Nat.ofDigitChars_ten_toDigits], .inl rfl⟩⟩

theorem atol_neg {n : Nat} (small : n ≤ 2 ^ 63) : atol ('-' :: decimal n) = -n := by
  have read : atol ('-' :: decimal n) = max (-(leadingNumber (decimal n) : Int)) (-2 ^ 63) := rfl
  rw [read, leadingNumber_all]
  omega

theorem atol_decimalInt {i : Int} (low : -2 ^ 63 ≤ i) (high : i < 2 ^ 63) :
    atol (decimalInt i) = i := by
  unfold decimalInt
  split
  · rw [atol_neg (by omega)]
    omega
  · rw [atol_decimal (by omega)]
    omega

theorem atoi_decimalInt {i : Int} (low : -2 ^ 31 ≤ i) (high : i < 2 ^ 31) :
    atoi (decimalInt i) = i := by
  rw [atoi, atol_decimalInt (by omega) (by omega), Int.bmod_eq_of_le] <;> omega

theorem atoi_decimal {n : Nat} (small : n < 2 ^ 31) : atoi (decimal n) = n := by
  rw [atoi, atol_decimal (by omega), Int.bmod_eq_of_le] <;> omega

/-- A positive number does not start with a zero. -/
theorem decimal_head {n : Nat} (positive : 0 < n) : (decimal n).head? ≠ some '0' := by
  induction n using Nat.strongRecOn with
  | ind n ih =>
      by_cases small : n < 10
      · rw [decimal, Nat.toDigits_of_lt_base small]
        interval_cases n <;> decide
      · rw [decimal, Nat.toDigits_of_base_le (by simp) (by omega)]
        have shorter := ih (n / 10) (by omega) (by omega)
        rw [List.head?_append]
        obtain ⟨c, digits, eq, -⟩ := decimal_cons (n / 10)
        rw [decimal] at eq
        rw [decimal, eq] at shorter
        simpa [eq] using shorter

/-- A word that stands between blanks as it is. -/
def IsWord (word : List Char) : Prop := word ≠ [] ∧ ∀ c ∈ word, isSpace c = false

-- Characters are a finite type, and the bounded quantifier must not run over all of them.
instance (word : List Char) : Decidable (IsWord word) :=
  @instDecidableAnd _ _ inferInstance (List.decidableBAll _ word)

theorem splitOnP_words {words : List (List Char)} (are : ∀ word ∈ words, IsWord word)
    {first : List Char} (noSpace : ∀ c ∈ first, isSpace c = false) :
    (first ++ words.flatMap (' ' :: ·)).splitOnP isSpace = first :: words := by
  induction words generalizing first with
  | nil => simpa using List.splitOnP_eq_singleton noSpace
  | cons word words ih =>
      rw [List.flatMap_cons, List.cons_append,
        List.splitOnP_append_cons_of_forall_mem noSpace ' ' (by decide),
        ih (fun w mem => are w (by simp [mem])) (are word (by simp)).2]

theorem filter_words (are : ∀ word ∈ words, IsWord word) : words.filter (· ≠ []) = words :=
  List.filter_eq_self.mpr fun word mem => by simpa using (are word mem).1

theorem splitBlanks_words (are : ∀ word ∈ words, IsWord word) :
    splitBlanks (words.flatMap (' ' :: ·)) = words := by
  have split := @splitOnP_words words are [] (by simp)
  rw [List.nil_append] at split
  rw [splitBlanks, split, List.filter_cons_of_neg (by simp), filter_words are]

theorem splitBlanks_line {first : List Char} (one : IsWord first)
    (are : ∀ word ∈ words, IsWord word) :
    splitBlanks (first ++ words.flatMap (' ' :: ·)) = first :: words := by
  rw [splitBlanks, splitOnP_words are one.2, List.filter_cons_of_pos (by simpa using one.1),
    filter_words are]

theorem isWord_decimal : IsWord (decimal n) :=
  ⟨decimal_ne_nil n, fun _ mem => isSpace_digit (decimal_isDigit mem)⟩

theorem isWord_decimalInt (i : Int) : IsWord (decimalInt i) := by
  have ⟨_, letters⟩ := isWord_decimal i.natAbs
  unfold decimalInt
  split
  · refine ⟨by simp, fun c mem => ?_⟩
    rcases List.mem_cons.mp mem with rfl | digit
    · decide
    · exact letters c digit
  · exact isWord_decimal i.natAbs

theorem isWord_inetNtoa : IsWord (inetNtoa addr) := by
  refine ⟨by simp [inetNtoa], fun c mem => ?_⟩
  simp only [inetNtoa, List.append_assoc, List.cons_append, List.mem_append, List.mem_cons] at mem
  rcases mem with digit | rfl | digit | rfl | digit | rfl | digit
  all_goals first | exact isSpace_digit (decimal_isDigit digit) | decide

/-- A text that goes on with a dot or not at all. -/
def StopsPart (rest : List Char) : Prop := rest = [] ∨ rest.head? = some '.'

theorem StopsPart.digits (stops : StopsPart rest) : StopsDigits rest := by
  rintro c mem digit
  rcases stops with rfl | dot
  · simp at mem
  · rw [dot] at mem
    simp only [Option.mem_def, Option.some.injEq] at mem
    subst mem
    exact absurd digit (by decide)

theorem strtoul0_decimal (n : Nat) {rest : List Char} (stops : StopsPart rest) :
    strtoul0 (decimal n ++ rest) = (n, rest) := by
  have plain : (leadingNumber (decimal n ++ rest), (decimal n ++ rest).dropWhile Char.isDigit) =
      (n, rest) := by
    rw [leadingNumber_decimal n stops.digits, dropWhile_decimal n stops.digits]
  rcases Nat.eq_zero_or_pos n with rfl | positive
  · rcases stops with rfl | dot
    · decide
    · obtain ⟨rest, rfl⟩ : ∃ more, rest = '.' :: more := by
        cases rest with
        | nil => simp at dot
        | cons c more => exact ⟨more, by simpa using dot⟩
      have zero : decimal 0 = ['0'] := by decide
      simp [zero, strtoul0, isOctalDigit]
  · rw [strtoul0]
    · exact plain
    · intro x more eq
      obtain ⟨c, digits, cons, -⟩ := decimal_cons n
      have head := decimal_head positive
      rw [cons] at eq head
      simp only [List.cons_append, List.cons.injEq] at eq
      exact head (by simp [eq.1])

theorem head_decimal (rest : List Char) : (decimal n ++ rest).head?.any Char.isDigit := by
  obtain ⟨c, digits, eq, digit⟩ := decimal_cons n
  simp [eq, digit]

theorem atonParts_dot (dots word : Nat) {octet : Nat} (small : octet < 256) (rest : List Char) :
    atonParts (dots + 1) word (decimal octet ++ '.' :: rest) =
      atonParts dots (word + octet * 256 ^ (dots + 1)) rest := by
  rw [atonParts, if_neg (not_not.mpr (head_decimal octet _)),
    strtoul0_decimal octet (.inr (by simp))]
  simp only
  rw [if_neg (by omega)]

theorem atonParts_last (word : Nat) {octet : Nat} (small : octet < 256) :
    atonParts 0 word (decimal octet) = some (word + octet) := by
  have read := @strtoul0_decimal octet [] (.inl rfl)
  have head := head_decimal octet []
  rw [List.append_nil] at read head
  rw [atonParts, if_neg (not_not.mpr head), read]
  simp [small]

/-- **What `inet_ntoa` prints, `inet_aton` reads.** -/
theorem inetAton_inetNtoa : inetAton (inetNtoa addr) = some addr := by
  have bound := addr.toNat_lt
  have digits : 0 + addr.toNat / 256 ^ 3 % 256 * 256 ^ (2 + 1) +
      addr.toNat / 256 ^ 2 % 256 * 256 ^ (1 + 1) + addr.toNat / 256 % 256 * 256 ^ (0 + 1) +
      addr.toNat % 256 = addr.toNat := by
    omega
  rw [inetAton, inetNtoa]
  simp only [List.append_assoc, List.cons_append]
  rw [atonParts_dot 2 0 (by omega), atonParts_dot 1 _ (by omega), atonParts_dot 0 _ (by omega),
    atonParts_last _ (by omega), digits]
  simp

end Foundation.CText
