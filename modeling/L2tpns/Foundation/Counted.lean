import Mathlib.Algebra.GroupWithZero.Nat
import Mathlib.Data.List.Basic

/-! # Items behind a byte that counts them

An item is sent as the number of its bytes and the bytes. The items in front of an empty one are
read back as they were sent (`Foundation.Counted.decode_encode`).
-/

namespace Foundation.Counted

/-- The items, each behind its length. -/
def encode (items : List (List UInt8)) : List UInt8 :=
  items.flatMap fun item => UInt8.ofNat item.length :: item

/-- The first item, and the bytes behind it. -/
def item? : List UInt8 → Option (List UInt8 × List UInt8)
  | [] => none
  | n :: rest =>
      if rest.length < n.toNat then none else some (rest.take n.toNat, rest.drop n.toNat)

variable {item bytes rest : List UInt8} {items : List (List UInt8)}

@[simp]
theorem encode_nil : encode [] = [] := rfl

@[simp]
theorem encode_cons (item : List UInt8) (items : List (List UInt8)) :
    encode (item :: items) = UInt8.ofNat item.length :: (item ++ encode items) := by
  simp [encode]

theorem encode_length (items : List (List UInt8)) :
    (encode items).length = (items.map fun item => item.length + 1).sum := by
  induction items with
  | nil => rfl
  | cons item items ih =>
      rw [encode_cons, List.length_cons, List.length_append, ih, List.map_cons, List.sum_cons]
      omega

theorem length_byte (fits : item.length ≤ 255) :
    (UInt8.ofNat item.length).toNat = item.length := by
  rw [UInt8.toNat_ofNat']
  omega

/-- **What is read is what was sent.** -/
theorem item?_iff :
    item? bytes = some (item, rest) ↔
      item.length ≤ 255 ∧ bytes = UInt8.ofNat item.length :: (item ++ rest) := by
  constructor
  · intro reads
    cases bytes with
    | nil => cases reads
    | cons n bytes =>
        rw [item?] at reads
        split_ifs at reads with short
        obtain ⟨rfl, rfl⟩ := Prod.mk.inj (Option.some.inj reads)
        have length : (bytes.take n.toNat).length = n.toNat :=
          List.length_take_of_le (Nat.le_of_not_lt short)
        rw [length, List.take_append_drop, UInt8.ofNat_toNat]
        exact ⟨Nat.le_of_lt_succ n.toNat_lt, rfl⟩
  · rintro ⟨fits, rfl⟩
    rw [item?, length_byte fits, if_neg (by simp), List.take_left, List.drop_left]

theorem item?_shorter (reads : item? bytes = some (item, rest)) : rest.length < bytes.length := by
  obtain ⟨-, rfl⟩ := item?_iff.mp reads
  simp only [List.length_cons, List.length_append]
  omega

/-- The items in front of an empty one, and the bytes behind that. -/
def decode (bytes : List UInt8) : Option (List (List UInt8) × List UInt8) :=
  match _reads : item? bytes with
  | none => none
  | some ([], rest) => some ([], rest)
  | some (item, rest) => (decode rest).map fun (items, rest) => (item :: items, rest)
termination_by bytes.length
decreasing_by exact item?_shorter ‹_›

theorem decode_item (reads : item? bytes = some (item, rest)) :
    decode bytes = if item = [] then some ([], rest)
      else (decode rest).map fun (items, rest) => (item :: items, rest) := by
  rw [decode]
  split
  · rename_i none
    simp [none] at reads
  · rename_i empty
    obtain ⟨rfl, rfl⟩ := Prod.mk.inj (Option.some.inj (empty.symm.trans reads))
    rfl
  · rename_i nonempty first
    obtain ⟨rfl, rfl⟩ := Prod.mk.inj (Option.some.inj (first.symm.trans reads))
    exact (if_neg nonempty).symm

/-- **The items are read back.** -/
theorem decode_encode (fits : ∀ item ∈ items, item ≠ [] ∧ item.length ≤ 255) :
    decode (encode items ++ 0 :: rest) = some (items, rest) := by
  induction items with
  | nil =>
      have reads : item? (encode [] ++ 0 :: rest) = some ([], rest) := item?_iff.mpr (by simp)
      rw [decode_item reads, if_pos rfl]
  | cons item items ih =>
      obtain ⟨here, behind⟩ := List.forall_mem_cons.mp fits
      have reads : item? (encode (item :: items) ++ 0 :: rest) =
          some (item, encode items ++ 0 :: rest) := item?_iff.mpr ⟨here.2, by simp⟩
      rw [decode_item reads, if_neg here.1, ih behind]
      rfl

end Foundation.Counted
