import Mathlib.Data.List.Induction
import Mathlib.Algebra.Order.Group.Nat
import Mathlib.Tactic.Ring

/-! # Numbers and records on the wire

A number is spelled by bytes, the most significant first. Records stand in a row, and each is
read from the front of the bytes that are left. What is written is read back
(`Foundation.RecordFormat.readAll_encode`), and what is read has the properties that a single
record has (`Foundation.RecordFormat.readAll_all`).
-/

namespace Foundation

universe u

/-- The last `count` bytes of a number. -/
def bigEndian : Nat → Nat → List UInt8
  | 0, _ => []
  | count + 1, value => bigEndian count (value / 256) ++ [UInt8.ofNat (value % 256)]

/-- The number that bytes spell. -/
def bigEndianValue (bytes : List UInt8) : Nat :=
  bytes.foldl (fun value byte => value * 256 + byte.toNat) 0

@[simp]
theorem bigEndian_length (count value : Nat) : (bigEndian count value).length = count := by
  induction count generalizing value with
  | zero => rfl
  | succ count ih => rw [bigEndian, List.length_append, ih, List.length_singleton]

theorem bigEndianValue_append (bytes : List UInt8) (byte : UInt8) :
    bigEndianValue (bytes ++ [byte]) = bigEndianValue bytes * 256 + byte.toNat := by
  rw [bigEndianValue, List.foldl_append]
  rfl

theorem bigEndianValue_lt (bytes : List UInt8) : bigEndianValue bytes < 256 ^ bytes.length := by
  induction bytes using List.reverseRecOn with
  | nil => exact Nat.one_pos
  | append_singleton bytes byte ih =>
      have bound := byte.toNat_lt
      rw [bigEndianValue_append, List.length_append, List.length_singleton, pow_succ]
      omega

theorem bigEndianValue_bigEndian (count value : Nat) :
    bigEndianValue (bigEndian count value) = value % 256 ^ count := by
  induction count generalizing value with
  | zero => rw [pow_zero, Nat.mod_one]; rfl
  | succ count ih =>
      have byte : (UInt8.ofNat (value % 256)).toNat = value % 256 := by
        rw [UInt8.toNat_ofNat']
        exact Nat.mod_mod_of_dvd value dvd_rfl
      rw [bigEndian, bigEndianValue_append, ih, byte, pow_succ', Nat.mod_mul]
      omega

theorem bigEndianValue_of_lt {count value : Nat} (small : value < 256 ^ count) :
    bigEndianValue (bigEndian count value) = value := by
  rw [bigEndianValue_bigEndian, Nat.mod_eq_of_lt small]

theorem bigEndian_take {count more value : Nat} :
    (bigEndian (count + more) value).take count = bigEndian count (value / 256 ^ more) := by
  induction more generalizing value with
  | zero => rw [Nat.add_zero, pow_zero, Nat.div_one, List.take_of_length_le (by simp)]
  | succ more ih =>
      rw [← Nat.add_assoc, bigEndian, List.take_append_of_le_length (by simp), ih,
        Nat.div_div_eq_div_mul, pow_succ']

/-- How a record is read from the front of bytes. -/
structure RecordFormat (Item : Type u) where
  read : List UInt8 → Option (Item × List UInt8)
  shrinks : ∀ bytes item rest, read bytes = some (item, rest) → rest.length < bytes.length

namespace RecordFormat

variable {Item : Type u} (format : RecordFormat Item)

/-- Read records up to the end of the bytes. -/
def readAll (bytes : List UInt8) : Option (List Item) :=
  if bytes = [] then some []
  else
    match _found : format.read bytes with
    | some (item, rest) => (readAll rest).map (item :: ·)
    | none => none
termination_by bytes.length
decreasing_by exact format.shrinks bytes item rest ‹_›

variable {format} {bytes rest : List UInt8} {item : Item}

@[simp]
theorem readAll_nil : format.readAll [] = some [] := by
  rw [readAll, if_pos rfl]

theorem readAll_next (found : format.read bytes = some (item, rest)) :
    format.readAll bytes = (format.readAll rest).map (item :: ·) := by
  have some : bytes ≠ [] := by
    rintro rfl
    exact nomatch format.shrinks [] item rest found
  rw [readAll, if_neg some]
  split
  · next item' rest' same =>
      rw [found] at same
      cases same
      rfl
  · next none =>
      rw [found] at none
      exact nomatch none

theorem readAll_stuck (some : bytes ≠ []) (none : format.read bytes = none) :
    format.readAll bytes = .none := by
  rw [readAll, if_neg some]
  split
  · next item rest found =>
      rw [none] at found
      exact nomatch found
  · rfl

theorem readAll_encode_append {encode : Item → List UInt8} {items : List Item}
    (reads : ∀ item ∈ items, ∀ rest, format.read (encode item ++ rest) = some (item, rest))
    (bytes : List UInt8) :
    format.readAll (items.flatMap encode ++ bytes) =
      (format.readAll bytes).map (items ++ ·) := by
  induction items with
  | nil => exact Option.map_id'.symm
  | cons item items ih =>
      rw [List.flatMap_cons, List.append_assoc,
        readAll_next (reads item List.mem_cons_self _),
        ih fun other member => reads other (List.mem_cons_of_mem item member), Option.map_map]
      rfl

theorem readAll_encode {encode : Item → List UInt8} {items : List Item}
    (reads : ∀ item ∈ items, ∀ rest, format.read (encode item ++ rest) = some (item, rest)) :
    format.readAll (items.flatMap encode) = some items := by
  have row := readAll_encode_append reads []
  rwa [List.append_nil, readAll_nil, Option.map_some, List.append_nil] at row

/-- What holds of each record that is read holds of all. -/
theorem readAll_all {property : Item → Prop} {items : List Item}
    (each : ∀ bytes item rest, format.read bytes = some (item, rest) → property item)
    (read : format.readAll bytes = some items) : ∀ item ∈ items, property item := by
  induction bytes using readAll.induct format generalizing items with
  | case1 =>
      rw [readAll_nil] at read
      rw [← Option.some.inj read]
      exact nofun
  | case2 bytes _ item rest found ih =>
      rw [readAll_next found] at read
      obtain ⟨others, behind, rfl⟩ := Option.map_eq_some_iff.mp read
      intro other member
      rcases List.mem_cons.mp member with rfl | later
      · exact each _ _ _ found
      · exact ih behind other later
  | case3 bytes some none =>
      rw [readAll_stuck some none] at read
      exact nomatch read

end RecordFormat

end Foundation
