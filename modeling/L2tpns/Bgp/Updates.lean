import L2tpns.Bgp.Process
import L2tpns.Bgp.UpdateFormat

/-! # The bytes of an UPDATE

An UPDATE is put into the output buffer piece by piece. A prefix is copied from a list element
with as many bytes as its length asks for. Whatever the lengths are, the pieces are the parts of
a message (`L2tpns.Bgp.updateBytes_eq`), and if the prefixes are valid, a reader finds them
(`L2tpns.Bgp.readRoutes_updateBytes`).
-/

namespace L2tpns.Bgp

open Foundation

def bgpPathAttrFlagOptional : UInt8 := 0x80
def bgpPathAttrFlagTrans : UInt8 := 0x40
def bgpPathAttrFlagExtlen : UInt8 := 0x10

/-- What the attributes of a peer are made of. There is a next hop for IPv6 routes if the server
had an IPv6 prefix when the peer was started. -/
structure PathAttrs where
  ourAs : Nat
  ibgp : Bool
  nextHop : Nat
  nextHop6 : Option Nat

namespace PathAttrs

variable (attrs : PathAttrs)

/-- ORIGIN, AS_PATH, MULTI_EXIT_DISC, LOCAL_PREF and COMMUNITIES. -/
def common : List Attribute :=
  [⟨bgpPathAttrFlagTrans, 1, [0]⟩,
    ⟨bgpPathAttrFlagTrans, 2, if attrs.ibgp then [] else 2 :: 1 :: bigEndian 2 attrs.ourAs⟩,
    ⟨bgpPathAttrFlagOptional, 4, bigEndian 4 1⟩] ++
  (if attrs.ibgp then [⟨bgpPathAttrFlagTrans, 5, bigEndian 4 100⟩] else []) ++
  [⟨bgpPathAttrFlagOptional ||| bgpPathAttrFlagTrans, 8, bigEndian 4 0xffffff01⟩]

/-- All attributes of an UPDATE for IPv4. -/
def withNextHop : List Attribute :=
  attrs.common ++ [⟨bgpPathAttrFlagTrans, 3, bigEndian 4 attrs.nextHop⟩]

/-- `path_attrs` -/
def pathAttrs : List UInt8 := attrs.withNextHop.flatMap Attribute.bytes

/-- `path_attr_len_without_nexthop` -/
def lenWithoutNexthop : Nat := (attrs.common.flatMap Attribute.bytes).length

/-- `mp_reach_nlri_partial` is cleared until it is initialized. -/
def mpReachNlriPartial : List UInt8 :=
  match attrs.nextHop6 with
  | some nextHop => [bgpPathAttrFlagOptional, 14, 0, 0, 2, 1, 16] ++ bigEndian 16 nextHop ++ [0]
  | none => List.replicate mpReachSize 0

/-- `mp_unreach_nlri_partial` is cleared until it is initialized. -/
def mpUnreachNlriPartial : List UInt8 :=
  match attrs.nextHop6 with
  | some _ => [bgpPathAttrFlagOptional ||| bgpPathAttrFlagExtlen, 15, 0, 0, 0, 2, 1]
  | none => List.replicate mpUnreachSize 0

/-- The attributes were prepared for the peer. -/
structure Prepared (peer : Peer) : Prop where
  len : peer.pathAttrLen = attrs.pathAttrs.length
  lenWithoutNexthop : peer.pathAttrLenWithoutNexthop = attrs.lenWithoutNexthop

end PathAttrs

variable {family : AddressFamily} {attrs : PathAttrs} {behind : Nat → UInt8} {dest : IpPrefix}

theorem PathAttrs.lenWithoutNexthop_eq (attrs : PathAttrs) :
    attrs.lenWithoutNexthop = if attrs.ibgp then 28 else 25 := by
  obtain ⟨ourAs, ibgp, nextHop, nextHop6⟩ := attrs
  have trans : lengthSize bgpPathAttrFlagTrans = 1 := by decide
  have optional : lengthSize bgpPathAttrFlagOptional = 1 := by decide
  have both : lengthSize (bgpPathAttrFlagOptional ||| bgpPathAttrFlagTrans) = 1 := by decide
  cases ibgp <;>
    simp [lenWithoutNexthop, common, Attribute.bytes_length, trans, optional, both]

theorem PathAttrs.pathAttrs_length (attrs : PathAttrs) :
    attrs.pathAttrs.length = attrs.lenWithoutNexthop + 7 := by
  have trans : lengthSize bgpPathAttrFlagTrans = 1 := by decide
  simp [pathAttrs, withNextHop, lenWithoutNexthop, Attribute.bytes_length, trans]

theorem preparePeer_prepared (server : Server) (peer : Peer) (neighbour : Neighbour)
    (enable : Bool) (nextHop : Nat) (nextHop6 : Option Nat) :
    PathAttrs.Prepared
      ⟨server.ourAs, (if 0 < neighbour.as then neighbour.as else server.ourAs) = server.ourAs,
        nextHop, nextHop6⟩
      (preparePeer server peer neighbour enable) := by
  constructor
  · rw [PathAttrs.pathAttrs_length, PathAttrs.lenWithoutNexthop_eq]
    simp only [preparePeer, decide_eq_true_eq]
  · rw [PathAttrs.lenWithoutNexthop_eq]
    simp only [preparePeer, decide_eq_true_eq]

theorem PathAttrs.common_fits (attrs : PathAttrs) : ∀ attr ∈ attrs.common, attr.Fits := by
  obtain ⟨ourAs, ibgp, nextHop, nextHop6⟩ := attrs
  have each : ∀ attr ∈ PathAttrs.common ⟨ourAs, ibgp, nextHop, nextHop6⟩,
      attr.value.length < 256 ∧ recognized attr.flags attr.code = true ∧
        lengthSize attr.flags = 1 := by
    cases ibgp <;> simp [common, recognized] <;> decide
  intro attr member
  obtain ⟨short, known, size⟩ := each attr member
  exact ⟨by rwa [size, pow_one], known⟩

/-- `BGP_IP_PREFIX_SIZE` bytes are copied from a list element; behind the address there is what
memory holds. -/
def copiedPrefix (family : AddressFamily) (behind : Nat → UInt8) (dest : IpPrefix) : List UInt8 :=
  (List.range dest.size).map fun k =>
    (UInt8.ofNat dest.len :: bigEndian family.bytes dest.address).getD k (behind k)

def prefixesSize (dests : List IpPrefix) : Nat := (dests.map IpPrefix.size).sum

/-- The attribute with IPv6 routes that are withdrawn; its length has two bytes. -/
def unreachBytes (attrs : PathAttrs) (behind : Nat → UInt8) (withdrawn : List IpPrefix) :
    List UInt8 :=
  if prefixesSize withdrawn = 0 then []
  else
    attrs.mpUnreachNlriPartial.take 2 ++ bigEndian 2 (prefixesSize withdrawn + 3) ++
      attrs.mpUnreachNlriPartial.drop 4 ++ withdrawn.flatMap (copiedPrefix .ipv6 behind)

/-- The attribute with an IPv6 route that is added; its length has one byte. -/
def reachBytes (attrs : PathAttrs) (behind : Nat → UInt8) : Option IpPrefix → List UInt8
  | none => []
  | some add =>
      attrs.mpReachNlriPartial.take 2 ++ bigEndian 1 (21 + add.size) ++
        attrs.mpReachNlriPartial.drop 3 ++ copiedPrefix .ipv6 behind add

/-- The data of an UPDATE behind the header. -/
def updateData (attrs : PathAttrs) (behind : Nat → UInt8) (withdrawn : List IpPrefix)
    (add : Option IpPrefix) : AddressFamily → List UInt8
  | .ipv4 =>
      bigEndian 2 (prefixesSize withdrawn) ++ withdrawn.flatMap (copiedPrefix .ipv4 behind) ++
        match add with
        | none => bigEndian 2 0
        | some add =>
            bigEndian 2 attrs.pathAttrs.length ++ attrs.pathAttrs ++ copiedPrefix .ipv4 behind add
  | .ipv6 =>
      let unreach := unreachBytes attrs behind withdrawn
      let reach := reachBytes attrs behind add
      bigEndian 2 0 ++ bigEndian 2 (attrs.lenWithoutNexthop + unreach.length + reach.length) ++
        attrs.common.flatMap Attribute.bytes ++ unreach ++ reach

/-- The bytes of an UPDATE with `len` in its header. -/
def updateBytes (family : AddressFamily) (attrs : PathAttrs) (behind : Nat → UInt8) (len : Nat)
    (withdrawn : List IpPrefix) (add : Option IpPrefix) : List UInt8 :=
  List.replicate 16 0xff ++ bigEndian 2 len ++ [2] ++ updateData attrs behind withdrawn add family

/-- The length that the header gets. -/
def updateLen (family : AddressFamily) (attrs : PathAttrs) (withdrawn : List IpPrefix)
    (add : Option IpPrefix) : Nat :=
  match family with
  | .ipv4 =>
      bgpHeaderSize + 2 + prefixesSize withdrawn + 2 +
        match add with
        | none => 0
        | some add => attrs.pathAttrs.length + add.size
  | .ipv6 =>
      bgpHeaderSize + 4 + attrs.lenWithoutNexthop +
        (if prefixesSize withdrawn = 0 then 0 else mpUnreachSize + prefixesSize withdrawn) +
        match add with
        | none => 0
        | some add => mpReachSize + add.size

/-- The parts of the message. -/
def updateParts (family : AddressFamily) (attrs : PathAttrs) (behind : Nat → UInt8)
    (withdrawn : List IpPrefix) (add : Option IpPrefix) : Update :=
  match family with
  | .ipv4 =>
      ⟨withdrawn.flatMap (copiedPrefix .ipv4 behind),
        match add with
        | none => []
        | some _ => attrs.pathAttrs,
        add.toList.flatMap (copiedPrefix .ipv4 behind)⟩
  | .ipv6 =>
      ⟨[], attrs.common.flatMap Attribute.bytes ++ unreachBytes attrs behind withdrawn ++
        reachBytes attrs behind add, []⟩

variable {withdrawn : List IpPrefix} {add : Option IpPrefix}

@[simp]
theorem copiedPrefix_length : (copiedPrefix family behind dest).length = dest.size := by
  rw [copiedPrefix, List.length_map, List.length_range]

@[simp]
theorem copiedPrefixes_length :
    (withdrawn.flatMap (copiedPrefix family behind)).length = prefixesSize withdrawn := by
  rw [List.length_flatMap, prefixesSize]
  exact congrArg List.sum (List.map_congr_left fun dest _ => copiedPrefix_length)

theorem unreachBytes_length : (unreachBytes attrs behind withdrawn).length =
    if prefixesSize withdrawn = 0 then 0 else mpUnreachSize + prefixesSize withdrawn := by
  have size : attrs.mpUnreachNlriPartial.length = 7 := by
    rw [PathAttrs.mpUnreachNlriPartial]
    split <;> rfl
  rw [unreachBytes]
  split
  · rfl
  · simp only [List.length_append, List.length_take, List.length_drop, size, bigEndian_length,
      copiedPrefixes_length, mpUnreachSize]
    omega

theorem reachBytes_length : (reachBytes attrs behind add).length =
    match add with
    | none => 0
    | some add => mpReachSize + add.size := by
  have size : attrs.mpReachNlriPartial.length = 24 := by
    rw [PathAttrs.mpReachNlriPartial]
    split
    · simp
    · rfl
  cases add with
  | none => rfl
  | some add =>
      simp only [reachBytes, List.length_append, List.length_take, List.length_drop, size,
        bigEndian_length, copiedPrefix_length, mpReachSize]
      omega

theorem updateParts_length : (updateParts family attrs behind withdrawn add).length =
    updateLen family attrs withdrawn add := by
  cases family with
  | ipv4 =>
      cases add with
      | none => simp only [updateParts, updateLen, Update.length, copiedPrefixes_length]; rfl
      | some add =>
          simp only [updateParts, updateLen, Update.length, copiedPrefixes_length,
            Option.toList_some, List.flatMap_singleton, copiedPrefix_length]
          omega
  | ipv6 =>
      simp only [updateParts, updateLen, Update.length, List.length_append, unreachBytes_length,
        reachBytes_length, PathAttrs.lenWithoutNexthop, List.length_nil]
      omega

/-- Whatever is written, it is a message of these parts. -/
theorem updateBytes_eq : updateBytes family attrs behind (updateLen family attrs withdrawn add)
    withdrawn add = (updateParts family attrs behind withdrawn add).bytes := by
  rw [← @updateParts_length family attrs behind]
  cases family with
  | ipv4 =>
      cases add <;>
        simp [updateBytes, updateData, updateParts, Update.bytes, -List.length_flatMap]
  | ipv6 =>
      simp [updateBytes, updateData, updateParts, Update.bytes, PathAttrs.lenWithoutNexthop,
        Nat.add_assoc]

theorem size_eq (dest : IpPrefix) : dest.size = 1 + (dest.len + 7) / 8 := by
  rw [IpPrefix.size]
  split <;> omega

theorem range_getD {bytes : List UInt8} {behind : Nat → UInt8} {n : Nat}
    (inside : n ≤ bytes.length) :
    (List.range n).map (fun k => bytes.getD k (behind k)) = bytes.take n := by
  refine List.ext_getElem (by simpa using inside) fun k below _ => ?_
  have bound : k < bytes.length := by
    have := below
    rw [List.length_map, List.length_range] at this
    omega
  simp [bound]

theorem copiedPrefix_valid (valid : dest.Valid family) :
    copiedPrefix family behind dest = writtenPrefix family dest := by
  have count := count_le valid.len
  rw [copiedPrefix, range_getD (by simp [size_eq]; omega), size_eq, Nat.add_comm,
    List.take_succ_cons, writtenPrefix]
  have split : family.bytes = (dest.len + 7) / 8 + (family.bytes - (dest.len + 7) / 8) := by omega
  conv_lhs => rw [split]
  rw [bigEndian_take]

theorem copiedPrefixes_valid (valid : ∀ dest ∈ withdrawn, dest.Valid family) :
    withdrawn.flatMap (copiedPrefix family behind) = withdrawn.flatMap (writtenPrefix family) :=
  List.flatMap_congr fun dest member => copiedPrefix_valid (valid dest member)

theorem readPrefixes_copied (valid : ∀ dest ∈ withdrawn, dest.Valid family) :
    (prefixFormat family).readAll (withdrawn.flatMap (copiedPrefix family behind)) =
      some withdrawn := by
  rw [copiedPrefixes_valid valid, readPrefixes_written valid]

theorem prefixesSize_eq_zero : prefixesSize withdrawn = 0 ↔ withdrawn = [] := by
  cases withdrawn with
  | nil => exact ⟨fun _ => rfl, fun _ => rfl⟩
  | cons dest withdrawn =>
      simp only [prefixesSize, List.map_cons, List.sum_cons, size_eq]
      exact ⟨fun zero => by omega, nofun⟩

/-- The attribute with IPv6 routes that are withdrawn. -/
def unreachAttribute (behind : Nat → UInt8) (withdrawn : List IpPrefix) : List Attribute :=
  if withdrawn = [] then []
  else
    [⟨bgpPathAttrFlagOptional ||| bgpPathAttrFlagExtlen, 15,
      [0, 2, 1] ++ withdrawn.flatMap (copiedPrefix .ipv6 behind)⟩]

/-- The attribute with an IPv6 route that is added. -/
def reachAttribute (nextHop : Nat) (behind : Nat → UInt8) (add : Option IpPrefix) :
    List Attribute :=
  add.toList.map fun add =>
    ⟨bgpPathAttrFlagOptional, 14,
      [0, 2, 1, 16] ++ bigEndian 16 nextHop ++ [0] ++ copiedPrefix .ipv6 behind add⟩

theorem unreachBytes_eq {nextHop : Nat} (started : attrs.nextHop6 = some nextHop) :
    unreachBytes attrs behind withdrawn =
      (unreachAttribute behind withdrawn).flatMap Attribute.bytes := by
  have extended : lengthSize (bgpPathAttrFlagOptional ||| bgpPathAttrFlagExtlen) = 2 := by decide
  rw [unreachBytes, unreachAttribute]
  simp only [prefixesSize_eq_zero]
  split
  · rfl
  · simp [PathAttrs.mpUnreachNlriPartial, started, Attribute.bytes, extended,
      -List.length_flatMap]

theorem reachBytes_eq {nextHop : Nat} (started : attrs.nextHop6 = some nextHop) :
    reachBytes attrs behind add =
      (reachAttribute nextHop behind add).flatMap Attribute.bytes := by
  have short : lengthSize bgpPathAttrFlagOptional = 1 := by decide
  cases add with
  | none => rfl
  | some add =>
      simp [reachBytes, reachAttribute, PathAttrs.mpReachNlriPartial, started, Attribute.bytes,
        short]
      exact congrArg (bigEndian 1) (by omega)

theorem pathAttrs_read :
    attributeFormat.readAll attrs.pathAttrs = some attrs.withNextHop := by
  refine readAttributes_written fun attr member => ?_
  rcases List.mem_append.mp member with common | nextHop
  · exact attrs.common_fits attr common
  · rw [List.mem_singleton.mp nextHop]
    have one : lengthSize bgpPathAttrFlagTrans = 1 := by decide
    refine ⟨?_, rfl⟩
    simp only [bigEndian_length, one]
    omega

theorem PathAttrs.common_codes (attrs : PathAttrs) :
    ∀ attr ∈ attrs.common, attr.code ≠ 14 ∧ attr.code ≠ 15 := by
  obtain ⟨ourAs, ibgp, nextHop, nextHop6⟩ := attrs
  cases ibgp <;> simp [common]

theorem unreachable_eq {nextHop : Nat} (valid : ∀ dest ∈ withdrawn, dest.Valid .ipv6) :
    unreachable (attrs.common ++ unreachAttribute behind withdrawn ++
      reachAttribute nextHop behind add) = some withdrawn := by
  have common : attrs.common.filter (·.code = 15) = [] :=
    List.filter_eq_nil_iff.mpr fun attr member => by
      simpa using (attrs.common_codes attr member).2
  have reach : (reachAttribute nextHop behind add).filter (·.code = 15) = [] := by
    cases add <;> simp [reachAttribute]
  rw [unreachable, List.filter_append, List.filter_append, common, reach]
  by_cases none : withdrawn = []
  · simp [unreachAttribute, none]
  · simpa [unreachAttribute, none] using readPrefixes_copied valid

theorem reachable_eq {nextHop : Nat} (valid : ∀ dest ∈ add, dest.Valid .ipv6) :
    reachable (attrs.common ++ unreachAttribute behind withdrawn ++
      reachAttribute nextHop behind add) = some add.toList := by
  have common : attrs.common.filter (·.code = 14) = [] :=
    List.filter_eq_nil_iff.mpr fun attr member => by
      simpa using (attrs.common_codes attr member).1
  have unreach : (unreachAttribute behind withdrawn).filter (·.code = 14) = [] := by
    rw [unreachAttribute]
    split <;> simp
  rw [reachable, List.filter_append, List.filter_append, common, unreach]
  cases add with
  | none => simp [reachAttribute]
  | some add =>
      have read := @readPrefixes_copied .ipv6 behind [add] (by simpa using valid)
      have hop : (bigEndian 16 nextHop ++ 0 :: copiedPrefix .ipv6 behind add).drop 17 =
          copiedPrefix .ipv6 behind add := by
        rw [List.append_cons, List.drop_left' (by simp)]
      rw [List.flatMap_singleton] at read
      simp [reachAttribute, hop, read]

theorem attributes6_fit {nextHop : Nat} (valid : ∀ dest ∈ add, dest.Valid .ipv6)
    (short : prefixesSize withdrawn + 3 < 2 ^ 16) :
    ∀ attr ∈ attrs.common ++ unreachAttribute behind withdrawn ++
      reachAttribute nextHop behind add, attr.Fits := by
  intro attr member
  rcases List.mem_append.mp member with before | reach
  · rcases List.mem_append.mp before with common | unreach
    · exact attrs.common_fits attr common
    · rw [unreachAttribute] at unreach
      split at unreach
      · exact nomatch unreach
      · rw [List.mem_singleton.mp unreach]
        have two : lengthSize (bgpPathAttrFlagOptional ||| bgpPathAttrFlagExtlen) = 2 := by decide
        refine ⟨?_, rfl⟩
        simp only [List.length_append, copiedPrefixes_length, two, List.length_cons,
          List.length_nil]
        omega
  · obtain ⟨dest, only, rfl⟩ := List.mem_map.mp reach
    have size := (valid dest (by simpa using only)).len
    refine ⟨?_, rfl⟩
    have one : lengthSize bgpPathAttrFlagOptional = 1 := by decide
    simp only [List.length_append, bigEndian_length, copiedPrefix_length, size_eq, one,
      List.length_cons, List.length_nil]
    simp only [AddressFamily.width] at size
    omega

/-- **What is written is read.** A message that is not too long, in which all prefixes are
valid, says what is withdrawn and what is added. -/
theorem readRoutes_updateBytes
    (fits : updateLen family attrs withdrawn add ≤ bgpMaxPacketSize)
    (started : family = .ipv6 → attrs.nextHop6.isSome)
    (removed : ∀ dest ∈ withdrawn, dest.Valid family) (added : ∀ dest ∈ add, dest.Valid family) :
    readRoutes family (updateBytes family attrs behind (updateLen family attrs withdrawn add)
      withdrawn add) = some (withdrawn, add.toList) := by
  have most : bgpMaxPacketSize = 4096 := rfl
  rw [updateBytes_eq, readRoutes, readUpdate_written (by rwa [updateParts_length])]
  cases family with
  | ipv4 =>
      have attributes : ∃ attributes, attributeFormat.readAll
          (updateParts .ipv4 attrs behind withdrawn add).attributes = some attributes := by
        cases add with
        | none => exact ⟨[], RecordFormat.readAll_nil⟩
        | some add => exact ⟨_, pathAttrs_read⟩
      obtain ⟨attributes, read⟩ := attributes
      have first : (prefixFormat .ipv4).readAll
          (updateParts .ipv4 attrs behind withdrawn add).withdrawn = some withdrawn :=
        readPrefixes_copied removed
      have second : (prefixFormat .ipv4).readAll
          (updateParts .ipv4 attrs behind withdrawn add).nlri = some add.toList :=
        readPrefixes_copied (by simpa using added)
      simp only [read, Update.routes, first, second]
  | ipv6 =>
      obtain ⟨nextHop, started⟩ := Option.isSome_iff_exists.mp (started rfl)
      have short : prefixesSize withdrawn + 3 < 2 ^ 16 := by
        simp only [updateLen, mpUnreachSize] at fits
        split at fits <;> omega
      simp only [updateParts]
      rw [unreachBytes_eq started, reachBytes_eq started, ← List.flatMap_append,
        ← List.flatMap_append, readAttributes_written (attributes6_fit added short)]
      simp only [Update.routes, unreachable_eq removed, reachable_eq added, and_self, ↓reduceIte]

theorem unstarted_bytes (unstarted : attrs.nextHop6 = none)
    (sends : withdrawn ≠ [] ∨ add ≠ none) :
    ∃ bytes, unreachBytes attrs behind withdrawn ++ reachBytes attrs behind add =
      0 :: 0 :: bytes := by
  by_cases removes : withdrawn = []
  · obtain ⟨dest, rfl⟩ := Option.ne_none_iff_exists'.mp (sends.resolve_left (not_not.mpr removes))
    rw [unreachBytes, if_pos (prefixesSize_eq_zero.mpr removes), reachBytes,
      PathAttrs.mpReachNlriPartial, unstarted]
    exact ⟨_, rfl⟩
  · rw [unreachBytes, if_neg (mt prefixesSize_eq_zero.mp removes),
      PathAttrs.mpUnreachNlriPartial, unstarted]
    exact ⟨_, rfl⟩

/-- A peer that was started without an IPv6 prefix is sent malformed messages. -/
theorem readRoutes_unstarted {len : Nat} (unstarted : attrs.nextHop6 = none)
    (sends : withdrawn ≠ [] ∨ add ≠ none) (lengths : len = updateLen .ipv6 attrs withdrawn add) :
    readRoutes .ipv6 (updateBytes .ipv6 attrs behind len withdrawn add) = none := by
  subst lengths
  rw [updateBytes_eq, readRoutes]
  cases read : readUpdate (updateParts .ipv6 attrs behind withdrawn add).bytes with
  | none => rfl
  | some update =>
      obtain ⟨bytes, start⟩ := @unstarted_bytes attrs behind withdrawn add unstarted sends
      have unread : attributeFormat.readAll (0 :: 0 :: bytes) = none :=
        RecordFormat.readAll_stuck (by simp) rfl
      have stuck : attributeFormat.readAll
          (attrs.common.flatMap Attribute.bytes ++ (0 :: 0 :: bytes)) = none := by
        rw [RecordFormat.readAll_encode_append
          (fun attr member => readAttribute_written (attrs.common_fits attr member)), unread]
        rfl
      rw [readUpdate_eq read]
      simp only [updateParts]
      rw [List.append_assoc, start, stuck]

end L2tpns.Bgp
