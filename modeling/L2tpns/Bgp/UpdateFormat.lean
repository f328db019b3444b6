import L2tpns.Bgp.Peer
import L2tpns.Foundation.Wire

/-! # What an UPDATE says

An UPDATE has prefixes that are withdrawn, path attributes, and prefixes that are announced.
IPv6 prefixes stand in two attributes of their own. A reader accepts a message if all its
lengths agree and all its prefixes are valid, and finds what was written
(`L2tpns.Bgp.readUpdate_written`, `L2tpns.Bgp.readPrefixes_written`).
-/

namespace L2tpns.Bgp

open Foundation

/-- The families of addresses that are advertised. -/
inductive AddressFamily where
  | ipv4
  | ipv6
deriving DecidableEq, Repr

/-- How many bits an address has. -/
def AddressFamily.width : AddressFamily → Nat
  | .ipv4 => 32
  | .ipv6 => 128

def AddressFamily.bytes : AddressFamily → Nat
  | .ipv4 => 4
  | .ipv6 => 16

theorem AddressFamily.width_eq (family : AddressFamily) : family.width = 8 * family.bytes := by
  cases family <;> rfl

/-- A prefix of addresses: the length is one that they have, and no bits are set behind it. -/
structure IpPrefix.Valid (family : AddressFamily) (dest : IpPrefix) : Prop where
  len : dest.len ≤ family.width
  small : dest.address < 2 ^ family.width
  host : 2 ^ (family.width - dest.len) ∣ dest.address

instance (family : AddressFamily) (dest : IpPrefix) : Decidable (dest.Valid family) :=
  decidable_of_iff (dest.len ≤ family.width ∧ dest.address < 2 ^ family.width ∧
    2 ^ (family.width - dest.len) ∣ dest.address)
    ⟨fun ⟨len, small, host⟩ => ⟨len, small, host⟩, fun valid => ⟨valid.1, valid.2, valid.3⟩⟩

/-- A prefix is a byte for its length, and as many bytes as have bits of it. The bits behind
it do not count. -/
def readPrefix (family : AddressFamily) : List UInt8 → Option (IpPrefix × List UInt8)
  | [] => none
  | len :: rest =>
      let count := (len.toNat + 7) / 8
      let host := 2 ^ (family.width - len.toNat)
      if len.toNat ≤ family.width ∧ count ≤ rest.length then
        let address := bigEndianValue (rest.take count) * 256 ^ (family.bytes - count)
        some (⟨len.toNat, address / host * host⟩, rest.drop count)
      else none

def prefixFormat (family : AddressFamily) : RecordFormat IpPrefix where
  read := readPrefix family
  shrinks bytes dest rest read := by
    cases bytes with
    | nil => exact nomatch read
    | cons len behind =>
        simp only [readPrefix, Option.ite_none_right_eq_some, Option.some.injEq,
          Prod.mk.injEq] at read
        obtain ⟨-, -, rfl⟩ := read
        rw [List.length_cons, List.length_drop]
        omega

def writtenPrefix (family : AddressFamily) (dest : IpPrefix) : List UInt8 :=
  UInt8.ofNat dest.len ::
    bigEndian ((dest.len + 7) / 8) (dest.address / 256 ^ (family.bytes - (dest.len + 7) / 8))

variable {family : AddressFamily} {dest : IpPrefix}

theorem count_le {len : Nat} (short : len ≤ family.width) : (len + 7) / 8 ≤ family.bytes := by
  have width := family.width_eq
  omega

theorem pow_bytes (count : Nat) : 256 ^ count = 2 ^ (8 * count) :=
  (pow_mul 2 8 count).symm

theorem readPrefix_valid {bytes rest : List UInt8}
    (read : readPrefix family bytes = some (dest, rest)) : dest.Valid family := by
  cases bytes with
  | nil => exact nomatch read
  | cons len behind =>
      simp only [readPrefix, Option.ite_none_right_eq_some, Option.some.injEq,
        Prod.mk.injEq] at read
      obtain ⟨⟨short, received⟩, rfl, -⟩ := read
      refine ⟨short, (Nat.div_mul_le_self _ _).trans_lt ?_, Nat.dvd_mul_left ..⟩
      have value := bigEndianValue_lt (behind.take ((len.toNat + 7) / 8))
      rw [List.length_take, Nat.min_eq_left received] at value
      calc _ < 256 ^ ((len.toNat + 7) / 8) * 256 ^ (family.bytes - (len.toNat + 7) / 8) :=
            Nat.mul_lt_mul_of_pos_right value (Nat.pos_of_ne_zero (by simp))
        _ = 2 ^ family.width := by
            rw [← pow_add, Nat.add_sub_cancel' (count_le short), pow_bytes, family.width_eq]

theorem IpPrefix.Valid.unwritten (valid : dest.Valid family) :
    256 ^ (family.bytes - (dest.len + 7) / 8) ∣ dest.address := by
  have width := family.width_eq
  refine dvd_trans ?_ valid.host
  rw [pow_bytes]
  exact pow_dvd_pow 2 (by omega)

theorem readPrefix_written (valid : dest.Valid family) (rest : List UInt8) :
    readPrefix family (writtenPrefix family dest ++ rest) = some (dest, rest) := by
  have width := family.width_eq
  have most : family.bytes ≤ 16 := by cases family <;> decide
  have len : (UInt8.ofNat dest.len).toNat = dest.len := by
    rw [UInt8.toNat_ofNat']
    exact Nat.mod_eq_of_lt (by have := valid.len; omega)
  have small : dest.address / 256 ^ (family.bytes - (dest.len + 7) / 8) <
      256 ^ ((dest.len + 7) / 8) := by
    refine Nat.div_lt_of_lt_mul ?_
    rw [← pow_add, Nat.sub_add_cancel (count_le valid.len), pow_bytes, ← width]
    exact valid.small
  simp only [writtenPrefix, List.cons_append, readPrefix, len]
  rw [if_pos ⟨valid.len, by simp⟩, List.take_left' (bigEndian_length ..),
    List.drop_left' (bigEndian_length ..), bigEndianValue_of_lt small,
    Nat.div_mul_cancel valid.unwritten, Nat.div_mul_cancel valid.host]

variable {dests : List IpPrefix} {attributes : List Attribute}

/-- Valid prefixes that are written are read back. -/
theorem readPrefixes_written (valid : ∀ dest ∈ dests, dest.Valid family) :
    (prefixFormat family).readAll (dests.flatMap (writtenPrefix family)) = some dests :=
  RecordFormat.readAll_encode fun dest member => readPrefix_written (valid dest member)

theorem readPrefixes_valid {bytes : List UInt8}
    (read : (prefixFormat family).readAll bytes = some dests) :
    ∀ dest ∈ dests, dest.Valid family :=
  RecordFormat.readAll_all (fun _ _ _ => readPrefix_valid) read

structure Attribute where
  flags : UInt8
  code : UInt8
  value : List UInt8
deriving DecidableEq, Repr

/-- The length field has two bytes. -/
def extendedLength (flags : UInt8) : Bool := flags.toNat / 16 % 2 = 1

/-- How many bytes the length field has. -/
def lengthSize (flags : UInt8) : Nat := if extendedLength flags then 2 else 1

/-- An attribute that is not optional is one that every speaker knows: ORIGIN, AS_PATH,
NEXT_HOP, LOCAL_PREF or ATOMIC_AGGREGATE. -/
def recognized (flags code : UInt8) : Bool :=
  128 ≤ flags.toNat || [1, 2, 3, 5, 6].contains code

def readAttribute : List UInt8 → Option (Attribute × List UInt8)
  | flags :: code :: rest =>
      let len := bigEndianValue (rest.take (lengthSize flags))
      if recognized flags code ∧ lengthSize flags + len ≤ rest.length then
        some (⟨flags, code, (rest.drop (lengthSize flags)).take len⟩,
          rest.drop (lengthSize flags + len))
      else none
  | _ => none

def attributeFormat : RecordFormat Attribute where
  read := readAttribute
  shrinks bytes attr rest read := by
    match bytes with
    | [] => exact nomatch read
    | [_] => exact nomatch read
    | flags :: code :: behind =>
        simp only [readAttribute, Option.ite_none_right_eq_some, Option.some.injEq,
          Prod.mk.injEq] at read
        obtain ⟨-, -, rfl⟩ := read
        simp only [List.length_cons, List.length_drop]
        omega

namespace Attribute

variable (attr : Attribute)

def bytes : List UInt8 :=
  attr.flags :: attr.code ::
    (bigEndian (lengthSize attr.flags) attr.value.length ++ attr.value)

theorem bytes_length :
    attr.bytes.length = 2 + lengthSize attr.flags + attr.value.length := by
  simp only [bytes, List.length_cons, List.length_append, bigEndian_length]
  omega

/-- The length fits into its field, and the attribute is known. -/
structure Fits : Prop where
  length : attr.value.length < 256 ^ lengthSize attr.flags
  known : recognized attr.flags attr.code = true

end Attribute

theorem readAttribute_written {attr : Attribute} (fits : attr.Fits)
    (rest : List UInt8) : readAttribute (attr.bytes ++ rest) = some (attr, rest) := by
  obtain ⟨flags, code, value⟩ := attr
  have value_read := bigEndianValue_of_lt fits.length
  simp only at value_read
  simp only [Attribute.bytes, List.cons_append, List.append_assoc, readAttribute]
  rw [List.take_left' (bigEndian_length ..), value_read, if_pos ⟨fits.known, by simp⟩,
    List.drop_left' (bigEndian_length ..), List.take_left' rfl, ← List.append_assoc,
    List.drop_left' (by simp)]

theorem readAttributes_written (fits : ∀ attr ∈ attributes, attr.Fits) :
    attributeFormat.readAll (attributes.flatMap Attribute.bytes) = some attributes :=
  RecordFormat.readAll_encode fun attr member => readAttribute_written (fits attr member)

/-- The parts of an UPDATE: the routes that are withdrawn, the path attributes, and the
network layer reachability information. -/
@[ext]
structure Update where
  withdrawn : List UInt8
  attributes : List UInt8
  nlri : List UInt8
deriving DecidableEq, Repr

namespace Update

variable (update : Update)

def length : Nat :=
  bgpHeaderSize + 2 + update.withdrawn.length + 2 + update.attributes.length + update.nlri.length

/-- The header, and the parts behind the lengths of the first two. -/
def bytes : List UInt8 :=
  List.replicate 16 0xff ++ (bigEndian 2 update.length ++ (2 ::
    (bigEndian 2 update.withdrawn.length ++ (update.withdrawn ++
      (bigEndian 2 update.attributes.length ++ (update.attributes ++ update.nlri))))))

end Update

/-- Read an UPDATE. The marker and the type must be right, and all lengths agree. -/
def readUpdate (message : List UInt8) : Option Update :=
  let body := message.drop bgpHeaderSize
  let withdrawnLen := bigEndianValue (body.take 2)
  let behind := body.drop (2 + withdrawnLen)
  let attrLen := bigEndianValue (behind.take 2)
  if message.take 16 = List.replicate 16 0xff ∧
      bigEndianValue ((message.drop 16).take 2) = message.length ∧
      (message.drop 18).head? = some 2 ∧ message.length ≤ bgpMaxPacketSize ∧
      2 + withdrawnLen + 2 ≤ body.length ∧ 2 + attrLen ≤ behind.length then
    some ⟨(body.drop 2).take withdrawnLen, (behind.drop 2).take attrLen,
      behind.drop (2 + attrLen)⟩
  else none

theorem Update.bytes_length (update : Update) : update.bytes.length = update.length := by
  have size : bgpHeaderSize = 19 := rfl
  simp only [Update.bytes, Update.length, List.length_append, List.length_replicate,
    bigEndian_length, List.length_cons]
  omega

/-- A message that is not too long is read back. -/
theorem readUpdate_written {update : Update} (fits : update.length ≤ bgpMaxPacketSize) :
    readUpdate update.bytes = some update := by
  have size : bgpHeaderSize = 19 := rfl
  have most : bgpMaxPacketSize = 4096 := rfl
  have total := update.bytes_length
  obtain ⟨withdrawn, attributes, nlri⟩ := update
  have sum : Update.length ⟨withdrawn, attributes, nlri⟩ =
      bgpHeaderSize + 2 + withdrawn.length + 2 + attributes.length + nlri.length := rfl
  have lengthField :=
    @bigEndianValue_of_lt 2 (Update.length ⟨withdrawn, attributes, nlri⟩) (by omega)
  have withdrawnField := @bigEndianValue_of_lt 2 withdrawn.length (by omega)
  have attrField := @bigEndianValue_of_lt 2 attributes.length (by omega)
  have marker : (Update.bytes ⟨withdrawn, attributes, nlri⟩).take 16 = List.replicate 16 0xff :=
    List.take_left' List.length_replicate
  have header : (Update.bytes ⟨withdrawn, attributes, nlri⟩).drop 16 =
      bigEndian 2 (Update.length ⟨withdrawn, attributes, nlri⟩) ++ (2 ::
        (bigEndian 2 withdrawn.length ++ (withdrawn ++
          (bigEndian 2 attributes.length ++ (attributes ++ nlri))))) :=
    List.drop_left' List.length_replicate
  have type : (Update.bytes ⟨withdrawn, attributes, nlri⟩).drop 18 =
      2 :: (bigEndian 2 withdrawn.length ++ (withdrawn ++
          (bigEndian 2 attributes.length ++ (attributes ++ nlri)))) := by
    rw [show 18 = 16 + 2 from rfl, ← List.drop_drop, header, List.drop_left' (by simp)]
  have body : (Update.bytes ⟨withdrawn, attributes, nlri⟩).drop bgpHeaderSize =
      bigEndian 2 withdrawn.length ++ (withdrawn ++
        (bigEndian 2 attributes.length ++ (attributes ++ nlri))) := by
    rw [size, show 19 = 18 + 1 from rfl, ← List.drop_drop, type]
    rfl
  have behind : (bigEndian 2 withdrawn.length ++ (withdrawn ++
      (bigEndian 2 attributes.length ++ (attributes ++ nlri)))).drop (2 + withdrawn.length) =
        bigEndian 2 attributes.length ++ (attributes ++ nlri) := by
    rw [← List.append_assoc, List.drop_left' (by simp)]
  unfold readUpdate
  simp only [body, header, type, marker]
  rw [List.take_left' (bigEndian_length ..), List.take_left' (bigEndian_length ..), withdrawnField,
    lengthField, behind, List.take_left' (bigEndian_length ..), attrField, total]
  rw [if_pos ⟨trivial, rfl, rfl, fits, by simp; omega, by simp⟩]
  congr 2
  · rw [List.drop_left' (by simp), List.take_left' rfl]
  · rw [List.drop_left' (by simp), List.take_left' rfl]
  · rw [← List.append_assoc, List.drop_left' (by simp)]

theorem readUpdate_eq {update read : Update} (same : readUpdate update.bytes = some read) :
    read = update := by
  by_cases fits : update.length ≤ bgpMaxPacketSize
  · rw [readUpdate_written fits] at same
    exact (Option.some.inj same).symm
  · rw [readUpdate] at same
    rw [if_neg fun agrees => fits (update.bytes_length ▸ agrees.2.2.2.1)] at same
    exact nomatch same

/-- The routes in the attribute for IPv6 routes that are withdrawn. -/
def unreachable (attributes : List Attribute) : Option (List IpPrefix) :=
  match attributes.filter (·.code = 15) with
  | [] => some []
  | [attr] =>
      match attr.value with
      | 0 :: 2 :: 1 :: routes => (prefixFormat .ipv6).readAll routes
      | _ => none
  | _ => none

/-- The routes in the attribute for IPv6 routes that are announced, behind their next hop and
a reserved byte. -/
def reachable (attributes : List Attribute) : Option (List IpPrefix) :=
  match attributes.filter (·.code = 14) with
  | [] => some []
  | [attr] =>
      match attr.value with
      | 0 :: 2 :: 1 :: hop :: routes =>
          if hop.toNat < routes.length then
            (prefixFormat .ipv6).readAll (routes.drop (hop.toNat + 1))
          else none
      | _ => none
  | _ => none

/-- The routes of a family that an UPDATE withdraws, and those that it announces. -/
def Update.routes (update : Update) (attributes : List Attribute) :
    AddressFamily → Option (List IpPrefix × List IpPrefix)
  | .ipv4 =>
      match (prefixFormat .ipv4).readAll update.withdrawn,
        (prefixFormat .ipv4).readAll update.nlri with
      | some withdrawn, some announced => some (withdrawn, announced)
      | _, _ => none
  | .ipv6 =>
      if update.withdrawn = [] ∧ update.nlri = [] then
        match unreachable attributes, reachable attributes with
        | some withdrawn, some announced => some (withdrawn, announced)
        | _, _ => none
      else none

/-- The routes of a family that a message withdraws, and those that it announces; `none` if
the message is malformed. -/
def readRoutes (family : AddressFamily) (message : List UInt8) :
    Option (List IpPrefix × List IpPrefix) :=
  match readUpdate message with
  | none => none
  | some update =>
      match attributeFormat.readAll update.attributes with
      | none => none
      | some attributes => update.routes attributes family

theorem unreachable_valid
    (read : unreachable attributes = some dests) : ∀ dest ∈ dests, dest.Valid .ipv6 := by
  rw [unreachable] at read
  split at read
  · rw [← Option.some.inj read]
    exact nofun
  · split at read
    · exact readPrefixes_valid read
    · exact nomatch read
  · exact nomatch read

theorem reachable_valid
    (read : reachable attributes = some dests) : ∀ dest ∈ dests, dest.Valid .ipv6 := by
  rw [reachable] at read
  split at read
  · rw [← Option.some.inj read]
    exact nofun
  · split at read
    · split at read
      · exact readPrefixes_valid read
      · exact nomatch read
    · exact nomatch read
  · exact nomatch read

theorem readRoutes_valid {message : List UInt8} {withdrawn announced : List IpPrefix}
    (read : readRoutes family message = some (withdrawn, announced)) :
    (∀ dest ∈ withdrawn, dest.Valid family) ∧ ∀ dest ∈ announced, dest.Valid family := by
  rw [readRoutes] at read
  split at read
  · exact nomatch read
  split at read
  · exact nomatch read
  cases family with
  | ipv4 =>
      simp only [Update.routes] at read
      split at read
      · next first second =>
          cases read
          exact ⟨readPrefixes_valid first, readPrefixes_valid second⟩
      · exact nomatch read
  | ipv6 =>
      simp only [Update.routes] at read
      split at read
      · split at read
        · next first second =>
            cases read
            exact ⟨unreachable_valid first, reachable_valid second⟩
        · exact nomatch read
      · exact nomatch read

end L2tpns.Bgp
