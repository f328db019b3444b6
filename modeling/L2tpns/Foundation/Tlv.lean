import Mathlib.Data.List.Basic

/-! # Attributes with a type and a length

An attribute is a byte for its type, a byte for its length with these two, and its value. A
list of attributes is read from bytes that it covers without a gap
(`Foundation.Tlv.parse_iff`).
-/

namespace Foundation

/-- An attribute. -/
@[ext]
structure Tlv where
  type : UInt8
  value : List UInt8
deriving DecidableEq, Repr

namespace Tlv

/-- The length byte can tell the length. -/
def Fits (item : Tlv) : Prop := item.value.length ≤ 253

instance (item : Tlv) : Decidable item.Fits := inferInstanceAs (Decidable (_ ≤ _))

def encode (item : Tlv) : List UInt8 :=
  item.type :: UInt8.ofNat (item.value.length + 2) :: item.value

def encodeAll (items : List Tlv) : List UInt8 := items.flatMap encode

/-- Read attributes up to the end of the bytes. -/
def parse : List UInt8 → Option (List Tlv)
  | [] => some []
  | [_] => none
  | type :: length :: rest =>
      if length.toNat < 2 ∨ rest.length + 2 < length.toNat then none
      else
        (parse (rest.drop (length.toNat - 2))).map
          (⟨type, rest.take (length.toNat - 2)⟩ :: ·)
termination_by bytes => bytes.length
decreasing_by
  simp only [List.length_drop, List.length_cons]
  omega

@[simp]
theorem encode_length (item : Tlv) : item.encode.length = item.value.length + 2 := rfl

@[simp]
theorem encodeAll_nil : encodeAll [] = [] := rfl

@[simp]
theorem encodeAll_cons (item : Tlv) (items : List Tlv) :
    encodeAll (item :: items) = item.encode ++ encodeAll items := by
  simp [encodeAll]

@[simp]
theorem encodeAll_append (items more : List Tlv) :
    encodeAll (items ++ more) = encodeAll items ++ encodeAll more := by
  simp [encodeAll]

theorem Fits.length_byte {item : Tlv} (fits : item.Fits) :
    (UInt8.ofNat (item.value.length + 2)).toNat = item.value.length + 2 := by
  rw [UInt8.toNat_ofNat']
  rw [Fits] at fits
  omega

theorem parse_encode_append {item : Tlv} (fits : item.Fits) (bytes : List UInt8) :
    parse (item.encode ++ bytes) = (parse bytes).map (item :: ·) := by
  rw [encode, List.cons_append, List.cons_append, parse, fits.length_byte]
  rw [if_neg (by simp), Nat.add_sub_cancel, List.drop_left, List.take_left]

theorem parse_encodeAll {items : List Tlv} (fits : ∀ item ∈ items, item.Fits) :
    parse (encodeAll items) = some items := by
  induction items with
  | nil => rw [encodeAll_nil, parse]
  | cons item items ih =>
      rw [encodeAll_cons, parse_encode_append (fits item List.mem_cons_self),
        ih fun other member => fits other (List.mem_cons_of_mem item member)]
      rfl

/-- What is read covers the bytes, and each of its lengths is a byte. -/
theorem encodeAll_of_parse {bytes : List UInt8} {items : List Tlv}
    (read : parse bytes = some items) :
    encodeAll items = bytes ∧ ∀ item ∈ items, item.Fits := by
  induction bytes using parse.induct generalizing items with
  | case1 =>
      rw [parse] at read
      obtain rfl := Option.some.inj read
      exact ⟨rfl, nofun⟩
  | case2 byte =>
      rw [parse] at read
      exact nomatch read
  | case3 type length rest bad =>
      rw [parse, if_pos bad] at read
      exact nomatch read
  | case4 type length rest good ih =>
      rw [parse, if_neg good] at read
      obtain ⟨others, behind, rfl⟩ := Option.map_eq_some_iff.mp read
      obtain ⟨covers, fits⟩ := ih behind
      have size : (rest.take (length.toNat - 2)).length = length.toNat - 2 := by
        rw [List.length_take]
        omega
      have byte := length.toNat_lt
      refine ⟨?_, fun item member => ?_⟩
      · rw [encodeAll_cons, covers, encode, size,
          show length.toNat - 2 + 2 = length.toNat by omega, UInt8.ofNat_toNat]
        simp
      · rcases List.mem_cons.mp member with rfl | other
        · rw [Fits, size]
          omega
        · exact fits item other

end Tlv

end Foundation
